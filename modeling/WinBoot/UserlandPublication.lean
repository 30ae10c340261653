import Mathlib.Logic.Function.Basic
import WinBoot.UserlandBuild

/-! Publishing a userland bundle: whatever fails, its destination holds what it held or the whole
verified bundle, and what is written to the cache has been verified. -/

namespace WinBoot.UserlandBuild
open Interaction PosixPath Userland

/-- The files by their paths; `unreported` and `stuck` say that the last two calls of the builder,
which come after its work is done, have failed. -/
structure State where
  files : Text → Option Bytes
  unreported : Bool
  stuck : Bool

def State.initial (files : Text → Option Bytes) : State := ⟨files, false, false⟩

namespace State

def put (s : State) (path : Text) (content : Option Bytes) : State :=
  { s with files := Function.update s.files path content }

/-- What a write leaves that may have failed after some bytes. -/
def write (s : State) (path : Text) (content : Bytes) : Except Failure Unit → State
  | .ok _ => s.put path (some content)
  | .error failure => failure.written.elim s fun n => s.put path (some (content.take n))

def append (s : State) (path : Text) (content : Bytes) : Except Failure Unit → State
  | .ok _ => s.put path ((s.files path).map (· ++ content))
  | .error failure => s.put path ((s.files path).map (· ++ content.take (failure.written.getD 0)))

end State

def Locked (lib : Library) (job : Job) (expected : Expected) (path : Text)
    (content : Bytes) : Prop :=
  ∃ package ∈ expected.packages, path = job.cached package ∧ lib.hexdigest content = package.sha256

/-- The file system answers as its files are; what is owed is that only verified content is written
to the cache. -/
def fileSystem (lib : Library) (job : Job) (expected : Expected) : Monitor Call Reply State where
  admits s
    | ⟨.exists path, there⟩ => (s.files path).isSome → there = true
    | ⟨.read path, reply⟩ => ∀ content, reply = .ok content → s.files path = some content
    | ⟨.replace, reply⟩ => reply = .ok () → (s.files job.temporary).isSome
    | _ => True
  allows _
    | ⟨.write path content, _⟩ => Locked lib job expected path content
    | _ => True
  next s
    | ⟨.openTemporary, reply⟩ => s.write job.temporary [] reply
    | ⟨.write path content, reply⟩ => s.write path content reply
    | ⟨.append content, reply⟩ => s.append job.temporary content reply
    | ⟨.finish, reply⟩ =>
      s.append job.temporary (lib.ending ((s.files job.temporary).getD []).length) reply
    | ⟨.replace, .ok _⟩ => (s.put job.destination (s.files job.temporary)).put job.temporary none
    | ⟨.print _, .error _⟩ => { s with unreported := true }
    | ⟨.unlink, .ok _⟩ => s.put job.temporary none
    | ⟨.unlink, .error _⟩ => { s with stuck := true }
    | _ => s

/-- What packages are read and what they have made of the bundle: each has its locked hash. -/
inductive Packed (lib : Library) : List LockedPackage → Bytes → List Member → Prop
  | nil : Packed lib [] [] []
  | snoc {packages : List LockedPackage} {package : LockedPackage} {content raw data : Bytes}
      {bundle next : List Member} {entries : List Entry} (packed : Packed lib packages content bundle)
      (verified : lib.hexdigest raw = package.sha256) (unpacked : apkData lib raw = .ok data)
      (read : lib.readTar data = (entries, none))
      (added : (entries.map Entry.member).foldlM addMember bundle = .ok next) :
      Packed lib (packages ++ [package])
        (content ++ (entries.filter (selected ·.member)).flatMap lib.encode) next

/-- The whole verified bundle. -/
def Verified (lib : Library) (expected : Expected) (content : Bytes) : Prop :=
  lib.hexdigest content = expected.bundleSha256 ∧ ∃ packed bundle,
    Packed lib expected.packages packed bundle ∧ content = packed ++ lib.ending packed.length

def Published (lib : Library) (job : Job) (expected : Expected) (s : State) : Prop :=
  ∃ content, s.files job.destination = some content ∧ Verified lib expected content

/-! ### The places -/

theorem last_of_suffix {path ending : Text} {c : Char} (ends : ending <:+ path)
    (last : ending.getLast? = some c) :
    path.getLast? = some c := by
  obtain ⟨front, rfl⟩ := ends
  rw [List.getLast?_append, last, Option.some_or]

theorem destination_last (job : Job) : job.destination.getLast? = some 'r' :=
  last_of_suffix (List.suffix_append _ "-runtime.tar".toList) (by simp)

theorem temporary_last (job : Job) : job.temporary.getLast? = some 'p' :=
  last_of_suffix (List.suffix_append _ "-runtime.tar.tmp".toList) (by simp)

theorem destination_ne_temporary (job : Job) : job.destination ≠ job.temporary := by
  intro same
  have last := destination_last job
  rw [same, temporary_last] at last
  exact absurd last (by decide)

theorem cached_last {job : Job} {package : LockedPackage}
    (named : isPackageName package.file = true) :
    (job.cached package).getLast? = some 'k' := by
  simp only [isPackageName, Bool.and_eq_true, List.isSuffixOf_iff_suffix] at named
  refine last_of_suffix (named.1.1.trans ?_) (by simp)
  exact (List.suffix_cons '/' package.file).trans (List.suffix_append job.cache _)

theorem cached_ne_destination {job : Job} {package : LockedPackage}
    (named : isPackageName package.file = true) : job.cached package ≠ job.destination := by
  intro same
  have last : job.destination.getLast? = some 'k' := same ▸ cached_last named
  rw [destination_last] at last
  exact absurd last (by decide)

theorem cached_ne_temporary {job : Job} {package : LockedPackage}
    (named : isPackageName package.file = true) : job.cached package ≠ job.temporary := by
  intro same
  have last : job.temporary.getLast? = some 'k' := same ▸ cached_last named
  rw [temporary_last] at last
  exact absurd last (by decide)

/-! ### Before the bundle is moved -/

/-- The destination holds what it held, and nothing after the work has failed. -/
structure Untouched (job : Job) (kept : Option Bytes) (s : State) : Prop where
  destination : s.files job.destination = kept
  reported : s.unreported = false
  free : s.stuck = false

structure Writing (job : Job) (kept : Option Bytes) (content : Bytes) (s : State) : Prop
    extends Untouched job kept s where
  temporary : s.files job.temporary = some content

section

variable {lib : Library} {job : Job} {expected : Expected} {kept : Option Bytes} {content : Bytes}
  {s : State}

theorem Untouched.put (untouched : Untouched job kept s) {path : Text}
    (other : path ≠ job.destination)
    (value : Option Bytes) : Untouched job kept (s.put path value) where
  destination := (Function.update_of_ne other.symm _ _).trans untouched.destination
  reported := untouched.reported
  free := untouched.free

theorem Writing.put (writing : Writing job kept content s) {path : Text}
    (other : path ≠ job.destination)
    (apart : path ≠ job.temporary) (value : Option Bytes) :
    Writing job kept content (s.put path value) where
  toUntouched := writing.toUntouched.put other value
  temporary := (Function.update_of_ne apart.symm _ _).trans writing.temporary

theorem Untouched.write (untouched : Untouched job kept s) {path : Text}
    (other : path ≠ job.destination)
    (value : Bytes) (reply : Except Failure Unit) :
    Untouched job kept (s.write path value reply) := by
  cases reply with
  | ok => exact untouched.put other _
  | error failure =>
    obtain ⟨message, _ | n⟩ := failure
    · exact untouched
    · exact untouched.put other _

theorem Writing.write (writing : Writing job kept content s) {path : Text}
    (other : path ≠ job.destination)
    (apart : path ≠ job.temporary) (value : Bytes) (reply : Except Failure Unit) :
    Writing job kept content (s.write path value reply) := by
  cases reply with
  | ok => exact writing.put other apart _
  | error failure =>
    obtain ⟨message, _ | n⟩ := failure
    · exact writing
    · exact writing.put other apart _

theorem Untouched.append (untouched : Untouched job kept s) (more : Bytes)
    (reply : Except Failure Unit) :
    Untouched job kept (s.append job.temporary more reply) := by
  cases reply with
  | ok => exact untouched.put (destination_ne_temporary job).symm _
  | error failure => exact untouched.put (destination_ne_temporary job).symm _

theorem Writing.append (writing : Writing job kept content s) (more : Bytes) :
    Writing job kept (content ++ more) (s.append job.temporary more (.ok ())) where
  toUntouched := writing.toUntouched.append more (.ok ())
  temporary := by
    refine (Function.update_self _ _ _).trans ?_
    rw [writing.temporary, Option.map_some]

theorem computed_concludes {α : Type} (x : Except String α) (throws : State → Failure → Prop)
    {post : State → α → Prop} (returned : ∀ a, x = .ok a → post s a) (thrown : ∀ e, throws s e) :
    (computed x).Concludes (fileSystem lib job expected) throws post s := by
  refine (Script.concludes_lift _ _ _ _).mpr ?_
  cases x with
  | ok a => exact Script.concluded_ok.mpr (returned a rfl)
  | error message => exact Script.concluded_error.mpr (thrown _)

theorem append_concludes (writing : Writing job kept content s) (more : Bytes) :
    (Script.attempt (.append more) rfl).Concludes (fileSystem lib job expected)
      (fun s (_ : Failure) => Untouched job kept s)
      (fun s (_ : Unit) => Writing job kept (content ++ more) s) s := by
  intro reply _
  refine ⟨trivial, ?_, fun e _ => writing.toUntouched.append more reply⟩
  rintro ⟨⟩ rfl
  exact writing.append more

/-- The members of a bundle after some entries, and the bytes of the entries that were taken. -/
def taken (lib : Library) (entries : List Entry) : Bytes :=
  (entries.filter (selected ·.member)).flatMap lib.encode

theorem addEntry_concludes (bundle : List Member) (entry : Entry)
    (writing : Writing job kept content s) :
    (addEntry lib bundle entry).Concludes (fileSystem lib job expected)
      (fun s (_ : Failure) => Untouched job kept s)
      (fun s next => addMember bundle entry.member = .ok next ∧
        Writing job kept (content ++ taken lib [entry]) s) s := by
  refine Script.Concludes.through _ (fun after next => after = s ∧ addMember bundle entry.member = .ok next)
    ?_ ?_
  · exact computed_concludes _ _ (fun next added => ⟨rfl, added⟩) fun _ => writing.toUntouched
  rintro _ next ⟨rfl, added⟩
  cases chosen : selected entry.member with
  | true =>
    have bytes : taken lib [entry] = lib.encode entry := by simp [taken, chosen]
    rw [if_pos rfl, bytes]
    refine Script.Concludes.bind _ (append_concludes writing _) fun after _ written => ?_
    exact (Script.concludes_pure _ _ _ _).mpr ⟨added, written⟩
  | false =>
    have bytes : taken lib [entry] = [] := by simp [taken, chosen]
    rw [if_neg Bool.false_ne_true, bytes, List.append_nil]
    exact (Script.concludes_pure _ _ _ _).mpr ⟨added, writing⟩

theorem addEntries_concludes (bundle : List Member) (entries : List Entry)
    (writing : Writing job kept content s) :
    (entries.foldlM (addEntry lib) bundle).Concludes (fileSystem lib job expected)
      (fun s (_ : Failure) => Untouched job kept s)
      (fun s next => (entries.map Entry.member).foldlM addMember bundle = .ok next ∧
        Writing job kept (content ++ taken lib entries) s) s := by
  refine Script.Concludes.foldlM _ (fun front s next =>
    (front.map Entry.member).foldlM addMember bundle = .ok next ∧
      Writing job kept (content ++ taken lib front) s) ?_ ⟨rfl, by simpa [taken] using writing⟩
  rintro front entry - s members ⟨added, writing⟩
  refine (addEntry_concludes members entry writing).mono _ ?_ fun _ _ untouched => untouched
  rintro s next ⟨here, written⟩
  constructor
  · rw [List.map_append, List.foldlM_append, added]
    exact Checks.bind_ok.mpr ⟨members, rfl, Checks.bind_ok.mpr ⟨next, here, rfl⟩⟩
  · rw [List.append_assoc] at written
    simpa [taken] using written

theorem require_concludes {β : Type} {condition : Bool} {message : String} {f : Unit → Build β}
    {throws : State → Failure → Prop} {post : State → β → Prop} (thrown : ∀ e, throws s e)
    (rest : condition = true → (f ()).Concludes (fileSystem lib job expected) throws post s) :
    (require condition message >>= f).Concludes (fileSystem lib job expected) throws post s := by
  refine Script.Concludes.check _ (fun _ => thrown _) fun holds => rest ?_
  simpa using holds

theorem fetch_concludes {package : LockedPackage} (listed : package ∈ expected.packages)
    (named : isPackageName package.file = true) (writing : Writing job kept content s) :
    (fetch lib job package).Concludes (fileSystem lib job expected)
      (fun s (_ : Failure) => Untouched job kept s)
      (fun s (_ : Unit) => Writing job kept content s) s := by
  refine Script.Concludes.through _ (fun after _ => after = s) ?_ ?_
  · exact (Script.concludes_ask _ _ _ _).mpr fun _ _ => ⟨trivial, rfl⟩
  rintro here there rfl
  cases there with
  | true => exact (Script.concludes_pure _ _ _ _).mpr writing
  | false =>
    refine require_concludes (fun _ => writing.toUntouched) fun _ => ?_
    refine Script.Concludes.through _ (fun after _ => after = here) ?_ ?_
    · exact fun reply _ => ⟨trivial, fun _ _ => rfl, fun _ _ => writing.toUntouched⟩
    rintro _ raw rfl
    refine require_concludes (fun _ => writing.toUntouched) fun verified => ?_
    intro reply _
    have kept := writing.write (cached_ne_destination named) (cached_ne_temporary named) raw reply
    exact ⟨⟨package, listed, rfl, of_decide_eq_true verified⟩, fun _ _ => kept,
      fun _ _ => kept.toUntouched⟩

theorem addPackage_concludes {front : List LockedPackage} {package : LockedPackage}
    {bundle : List Member}
    (listed : package ∈ expected.packages) (packed : Packed lib front content bundle)
    (writing : Writing job kept content s) :
    (addPackage lib job bundle package).Concludes (fileSystem lib job expected)
      (fun s (_ : Failure) => Untouched job kept s)
      (fun s next => ∃ content, Packed lib (front ++ [package]) content next ∧ Writing job kept content s)
      s := by
  refine require_concludes (fun _ => writing.toUntouched) fun named => ?_
  refine Script.Concludes.bind _ (fetch_concludes listed named writing) fun s _ writing => ?_
  refine Script.Concludes.through _ (fun after _ => after = s) ?_ ?_
  · exact fun reply _ => ⟨trivial, fun _ _ => rfl, fun _ _ => writing.toUntouched⟩
  rintro s raw rfl
  refine require_concludes (fun _ => writing.toUntouched) fun verified => ?_
  refine Script.Concludes.through _ (fun after data => after = s ∧ apkData lib raw = .ok data) ?_ ?_
  · exact computed_concludes _ _ (fun data unpacked => ⟨rfl, unpacked⟩) fun _ => writing.toUntouched
  rintro s data ⟨rfl, unpacked⟩
  cases read : lib.readTar data with
  | mk entries stopped =>
    refine Script.Concludes.bind _ (addEntries_concludes bundle entries writing) ?_
    rintro s next ⟨added, writing⟩
    cases stopped with
    | none =>
      refine (Script.concludes_pure _ _ _ _).mpr ⟨_, ?_, writing⟩
      exact packed.snoc (of_decide_eq_true verified) unpacked read added
    | some message => exact (Script.concludes_throw _ _ _ _).mpr writing.toUntouched

/-- The temporary file is the whole bundle, or nothing has come of it. -/
theorem pack_concludes (untouched : Untouched job kept s) :
    (pack lib job expected).Concludes (fileSystem lib job expected)
      (fun s (_ : Failure) => Untouched job kept s)
      (fun s (_ : Unit) => ∃ packed bundle, Packed lib expected.packages packed bundle ∧
        Writing job kept (packed ++ lib.ending packed.length) s) s := by
  have apart := (destination_ne_temporary job).symm
  refine Script.Concludes.through _ (fun after _ => Writing job kept [] after) ?_ ?_
  · intro reply _
    refine ⟨trivial, ?_, fun _ _ => untouched.write apart [] reply⟩
    rintro ⟨⟩ rfl
    exact { toUntouched := untouched.put apart _, temporary := Function.update_self _ _ _ }
  rintro s ⟨⟩ writing
  have packages : (expected.packages.foldlM (addPackage lib job) []).Concludes (fileSystem lib job expected)
      (fun s (_ : Failure) => Untouched job kept s)
      (fun s bundle => ∃ content, Packed lib expected.packages content bundle ∧ Writing job kept content s)
      s := by
    refine Script.Concludes.foldlM _ (fun front s bundle =>
      ∃ content, Packed lib front content bundle ∧ Writing job kept content s) ?_ ⟨[], .nil, writing⟩
    rintro front package begins s bundle ⟨content, packed, writing⟩
    have listed : package ∈ expected.packages := begins.subset (by simp)
    exact addPackage_concludes listed packed writing
  refine Script.Concludes.through _ (fun s bundle => ∃ packed, Packed lib expected.packages packed bundle ∧
    Writing job kept (packed ++ lib.ending packed.length) s) ?_ ?_
  · refine Script.Concludes.onExit _ packages ?_ ?_
    · rintro s bundle ⟨packed, whole, writing⟩ reply -
      have ending : ((s.files job.temporary).getD []).length = packed.length := by
        rw [writing.temporary, Option.getD_some]
      refine ⟨trivial, ?_, fun _ _ => writing.toUntouched.append _ reply⟩
      rintro ⟨⟩ rfl
      refine ⟨packed, whole, ?_⟩
      rw [← ending]
      exact writing.append _
    · exact fun s e untouched reply _ => ⟨trivial, fun _ _ => untouched, fun _ _ => untouched⟩
  · rintro s bundle ⟨packed, whole, writing⟩
    exact (Script.concludes_pure _ _ _ _).mpr ⟨packed, bundle, whole, writing⟩

/-! ### The whole builder -/

theorem publish_concludes (untouched : Untouched job kept s) :
    (publish lib job expected).Concludes (fileSystem lib job expected)
      (fun s (_ : Failure) => Untouched job kept s ∨ Published lib job expected s ∧ s.unreported = true)
      (fun s (_ : Unit) => Published lib job expected s) s := by
  refine Script.Concludes.bind _ ((pack_concludes untouched).mono _ (fun _ _ here => here)
    fun _ _ => .inl) ?_
  rintro s ⟨⟩ ⟨packed, bundle, whole, writing⟩
  refine Script.Concludes.through _ (fun after content => after = s ∧ s.files job.temporary = some content)
    ?_ ?_
  · intro reply answered
    exact ⟨trivial, fun content ok => ⟨rfl, answered content ok⟩, fun _ _ => .inl writing.toUntouched⟩
  rintro s content ⟨rfl, read⟩
  obtain rfl := Option.some.inj (writing.temporary.symm.trans read)
  refine require_concludes (fun _ => .inl writing.toUntouched) fun verified => ?_
  refine Script.Concludes.through _ (fun s _ => Published lib job expected s) ?_ ?_
  · intro reply _
    refine ⟨trivial, ?_, ?_⟩
    · rintro ⟨⟩ rfl
      refine ⟨_, ?_, of_decide_eq_true verified, packed, bundle, whole, rfl⟩
      refine (Function.update_of_ne (destination_ne_temporary job) _ _).trans ?_
      exact (Function.update_self _ _ _).trans writing.temporary
    · rintro e rfl
      exact .inl writing.toUntouched
  · rintro s ⟨⟩ published reply _
    refine ⟨trivial, ?_, ?_⟩
    · rintro ⟨⟩ rfl
      exact published
    · rintro e rfl
      exact .inr ⟨published, rfl⟩

theorem Published.unlinked (published : Published lib job expected s) :
    Published lib job expected (s.put job.temporary none) := by
  obtain ⟨content, held, verified⟩ := published
  exact ⟨content, (Function.update_of_ne (destination_ne_temporary job) _ _).trans held, verified⟩

/-- What a builder that fails after it has made its directories leaves. -/
structure Left (lib : Library) (job : Job) (expected : Expected) (kept : Option Bytes) (s : State) :
    Prop where
  temporary : s.files job.temporary = none ∨ s.stuck = true
  destination : s.files job.destination = kept ∨
    Published lib job expected s ∧ (s.unreported = true ∨ s.stuck = true)

theorem build_concludes (found : job.lock.bundles job.kind = some expected)
    (files : Text → Option Bytes) :
    (build lib job).Concludes (fileSystem lib job expected)
      (fun s (_ : Failure) => s.files = files ∨ Left lib job expected (files job.destination) s)
      (fun s (_ : Unit) => Published lib job expected s ∧ s.files job.temporary = none)
      (State.initial files) := by
  refine Script.Concludes.through _ (fun s known => s = State.initial files ∧ known = expected) ?_ ?_
  · refine computed_concludes _ _ (fun known same => ⟨rfl, ?_⟩) fun _ => .inl rfl
    rw [found, Option.elim_some] at same
    exact (Except.ok.inj same).symm
  rintro _ known ⟨rfl, rfl⟩
  refine Script.Concludes.through _ (fun s _ => s = State.initial files) ?_ ?_
  · exact fun reply _ => ⟨trivial, fun _ _ => rfl, fun _ _ => .inl rfl⟩
  rintro _ ⟨⟩ rfl
  refine Script.Concludes.through _ (fun s _ => s = State.initial files) ?_ ?_
  · exact fun reply _ => ⟨trivial, fun _ _ => rfl, fun _ _ => .inl rfl⟩
  rintro _ ⟨⟩ rfl
  have untouched : Untouched job (files job.destination) (State.initial files) := ⟨rfl, rfl, rfl⟩
  refine Script.Concludes.onExit _ (publish_concludes untouched) ?_ ?_
  · rintro s ⟨⟩ published reply _
    refine ⟨trivial, ?_, ?_⟩
    · rintro ⟨⟩ rfl
      exact ⟨published.unlinked, Function.update_self _ _ _⟩
    · rintro e rfl
      exact .inr ⟨.inr rfl, .inr ⟨published, .inr rfl⟩⟩
  · rintro s e caught reply _
    refine ⟨trivial, ?_, ?_⟩
    · rintro ⟨⟩ rfl
      refine .inr ⟨.inl (Function.update_self _ _ _), ?_⟩
      obtain untouched | ⟨published, unreported⟩ := caught
      · exact .inl (untouched.put (destination_ne_temporary job).symm none).destination
      · exact .inr ⟨published.unlinked, .inl unreported⟩
    · rintro e rfl
      refine .inr ⟨.inr rfl, ?_⟩
      obtain untouched | ⟨published, -⟩ := caught
      · exact .inl untouched.destination
      · exact .inr ⟨published, .inr rfl⟩

end

/-! ### Whole runs -/

theorem write_flags (s : State) (path : Text) (content : Bytes) (reply : Except Failure Unit) :
    (s.write path content reply).unreported = s.unreported ∧ (s.write path content reply).stuck = s.stuck := by
  cases reply with
  | ok => exact ⟨rfl, rfl⟩
  | error failure =>
    obtain ⟨message, _ | n⟩ := failure
    · exact ⟨rfl, rfl⟩
    · exact ⟨rfl, rfl⟩

theorem append_flags (s : State) (path : Text) (content : Bytes) (reply : Except Failure Unit) :
    (s.append path content reply).unreported = s.unreported ∧ (s.append path content reply).stuck = s.stuck := by
  cases reply <;> exact ⟨rfl, rfl⟩

section

variable (lib : Library) (job : Job) (expected : Expected) (s : State)

theorem next_unreported {event : Event Call Reply}
    (printed : ∀ line e, event ≠ ⟨.print line, .error e⟩) :
    ((fileSystem lib job expected).next s event).unreported = s.unreported := by
  obtain ⟨call, reply⟩ := event
  cases call with
  | openTemporary => exact (write_flags s _ [] reply).1
  | write path content => exact (write_flags s path content reply).1
  | append content => exact (append_flags s _ content reply).1
  | finish => exact (append_flags s _ _ reply).1
  | replace => cases reply <;> rfl
  | print line =>
    cases reply with
    | ok => rfl
    | error e => exact absurd rfl (printed line e)
  | unlink => cases reply <;> rfl
  | _ => rfl

theorem next_stuck {event : Event Call Reply} (unlinked : ∀ e, event ≠ ⟨.unlink, .error e⟩) :
    ((fileSystem lib job expected).next s event).stuck = s.stuck := by
  obtain ⟨call, reply⟩ := event
  cases call with
  | openTemporary => exact (write_flags s _ [] reply).2
  | write path content => exact (write_flags s path content reply).2
  | append content => exact (append_flags s _ content reply).2
  | finish => exact (append_flags s _ _ reply).2
  | replace => cases reply <;> rfl
  | print line => cases reply <;> rfl
  | unlink =>
    cases reply with
    | ok => rfl
    | error e => exact absurd rfl (unlinked e)
  | _ => rfl

variable {t : List (Event Call Reply)}

theorem after_unreported (printed : ∀ line e, ⟨.print line, .error e⟩ ∉ t) :
    ((fileSystem lib job expected).after s t).unreported = s.unreported := by
  induction t generalizing s with
  | nil => rfl
  | cons event t ih =>
    rw [Monitor.after_cons, ih _ fun line e member => printed line e (List.mem_cons_of_mem _ member)]
    exact next_unreported lib job expected s fun line e same =>
      printed line e (same ▸ List.mem_cons_self)

theorem after_stuck (unlinked : ∀ e, ⟨.unlink, .error e⟩ ∉ t) :
    ((fileSystem lib job expected).after s t).stuck = s.stuck := by
  induction t generalizing s with
  | nil => rfl
  | cons event t ih =>
    rw [Monitor.after_cons, ih _ fun e member => unlinked e (List.mem_cons_of_mem _ member)]
    exact next_stuck lib job expected s fun e same => unlinked e (same ▸ List.mem_cons_self)

end

/-- What a run of the builder has done to the files. Only its last two calls, the report and the
removal of the temporary file, can fail it after the destination has changed. -/
structure AllOrNothing (lib : Library) (job : Job) (expected : Expected)
    (before after : Text → Option Bytes)
    (t : List (Event Call Reply)) (result : Except Failure Unit) : Prop where
  succeeded : result = .ok () →
    (∃ content, after job.destination = some content ∧ Verified lib expected content) ∧
      after job.temporary = none
  failed : ∀ e, result = .error e → (∀ line e, ⟨.print line, .error e⟩ ∉ t) →
    (∀ e, ⟨.unlink, .error e⟩ ∉ t) → after job.destination = before job.destination
  late : after job.destination = before job.destination ∨
    ∃ content, after job.destination = some content ∧ Verified lib expected content
  temporary : after job.temporary = none ∨ (∃ e, ⟨.unlink, .error e⟩ ∈ t) ∨ after = before
  cached : ∀ path content reply, ⟨.write path content, reply⟩ ∈ t → Locked lib job expected path content

def emptyTar : Bytes := List.replicate 10240 0

def emptyDigest : String := "84ff92691f909a05b224e1c56abb4864f01b4f8e3c854e4bb4c7baf1d3f6d652"

/-- The text "corrupted", as a package of a test has it. -/
def corrupted : Bytes := [99, 111, 114, 114, 117, 112, 116, 101, 100]

/-- Enough of the libraries for these two contents, told apart by their first byte. -/
def smallLibrary : Library where
  hexdigest content :=
    if content.head? = some 99 then "3dbb3963d11aa418de8b61f846c3dbd5af43b40d252842adb823f90936fe6920"
    else emptyDigest
  decompress _ := .error "Error -3 while decompressing data: incorrect header check"
  readTar _ := ([], some "empty file")
  encode entry := entry.content
  ending _ := emptyTar
  shorter := by simp

def emptyExpected : Expected := ⟨[], emptyDigest⟩

def emptyJob : Job where
  lock := ⟨"https://dl-cdn.alpinelinux.org/alpine/v3.23/main/aarch64/".toList, fun _ => some emptyExpected⟩
  kind := "wpa".toList
  cache := "cache".toList
  output := "output".toList
  offline := true

def unreportedTrace : List (Event Call Reply) :=
  [⟨.makeOutput, .ok ()⟩, ⟨.makeCache, .ok ()⟩, ⟨.openTemporary, .ok ()⟩, ⟨.finish, .ok ()⟩,
    ⟨.read emptyJob.temporary, .ok emptyTar⟩, ⟨.replace, .ok ()⟩,
    ⟨.print ("wpa: " ++ emptyDigest), .error ⟨"OSError", none⟩⟩, ⟨.unlink, .ok ()⟩]

def corruptedExpected : Expected := ⟨[⟨"test-1.apk".toList, "0000"⟩], emptyDigest⟩

def corruptedJob : Job where
  lock := ⟨[], fun _ => some corruptedExpected⟩
  kind := "wpa".toList
  cache := "cache".toList
  output := "output".toList
  offline := true

def olderFiles (path : Text) : Option Bytes :=
  if path = corruptedJob.destination then some [112] else
  if path = "cache/test-1.apk".toList then some corrupted else none

def corruptedTrace : List (Event Call Reply) :=
  [⟨.makeOutput, .ok ()⟩, ⟨.makeCache, .ok ()⟩, ⟨.openTemporary, .ok ()⟩,
    ⟨.exists "cache/test-1.apk".toList, true⟩, ⟨.read "cache/test-1.apk".toList, .ok corrupted⟩,
    ⟨.close, .ok ()⟩, ⟨.unlink, .ok ()⟩]

end WinBoot.UserlandBuild
