import Mathlib.Data.List.Nodup
import WinBoot.DomainLedger

/-! What the power domains owe is paid on every run: each stage of the setup and the release loop
keep the ledgers in step with the code's own flags, whichever calls fail. -/

namespace WinBoot.DomainLedger
open Interaction KernelCalls PowerDomains

theorem books_free (s : Books) (event : KernelEvent) : books.admits s event := trivial

section Calls

variable {base : Nat → Ledger} {index : Nat} {ledger : Ledger} {failed : Bool} {α : Type}
  {post : Books → α → Prop}

/-- The books with one ledger in view. -/
def Books.view (base : Nat → Ledger) (index : Nat) (ledger : Ledger) (failed : Bool) : Books :=
  ⟨Function.update base index ledger, failed⟩

theorem Books.eq_view (s : Books) (index : Nat) :
    s = .view s.ledger index (s.ledger index) s.failed := by
  simp [view]

@[simp] theorem Books.view_ledger : (view base index ledger failed).ledger index = ledger := by
  simp [view]

theorem Books.next_own {event : KernelEvent} (own : concerns event.1 = some index) :
    (view base index ledger failed).next event =
      view base index (ledger.next event) (failed || failing event) := by
  simp [Books.next, view, own]

theorem Books.next_aside {s : Books} {event : KernelEvent} (aside : concerns event.1 = none) :
    s.next event = ⟨s.ledger, s.failed || failing event⟩ := by
  simp [Books.next, aside]

theorem safe_own {c : Call} {f : Answer c → Kernel α} (own : concerns c = some index)
    (permits : ledger.permits c)
    (rest : ∀ r, (f r).Safe books post
      (.view base index (ledger.next ⟨c, r⟩) (failed || failing ⟨c, r⟩))) :
    (query c >>= f).Safe books post (.view base index ledger failed) := by
  apply (Prog.safe_call_bind books c f post _).mpr
  intro r _
  constructor
  · intro other same
    obtain rfl := Option.some.inj (own.symm.trans same)
    simpa using permits
  · change (f r).Safe books post (Books.next _ _)
    rw [Books.next_own own]
    exact rest r

theorem safe_aside {s : Books} {c : Call} {f : Answer c → Kernel α} (aside : concerns c = none)
    (rest : ∀ r, (f r).Safe books post ⟨s.ledger, s.failed || failing ⟨c, r⟩⟩) :
    (query c >>= f).Safe books post s := by
  apply (Prog.safe_call_bind books c f post s).mpr
  intro r _
  constructor
  · intro index same
    simp [aside] at same
  · change (f r).Safe books post (Books.next _ _)
    rw [Books.next_aside aside]
    exact rest r

end Calls

/-- The ledger says what the code's flags say, and the stages were taken in their order. -/
structure Tracks (domain : DomainProbe) (ledger : Ledger) : Prop where
  registered : ledger.registered = domain.consumer
  attached : ledger.attached = domain.attached
  resumed : ledger.resumed = domain.resumed
  auto : ledger.auto = if domain.forced then .suppressed domain.savedAuto else .found
  unstuck : ledger.stuck = false
  attachedIn : domain.attached = true → domain.consumer = true
  resumedIn : domain.resumed = true → domain.attached = true
  forcedIn : domain.forced = true → domain.resumed = true

def InTable (domain : DomainProbe) : Prop := domainAt domain.offset = some domain.index

/-- A stage took `domain` to the flags it returned, and left the other domains alone. -/
structure Moved (base : Nat → Ledger) (domain : DomainProbe) (done : DomainProbe → Ledger → Prop)
    (ledger : Ledger) (after : Books) (result : Int × DomainProbe) : Prop where
  others : after.ledger = Function.update base domain.index ledger
  index : result.2.index = domain.index
  offset : result.2.offset = domain.offset
  tracks : Tracks result.2 ledger
  told : after.failed = true → result.1 ≠ 0
  done : result.1 = 0 → done result.2 ledger

/-- A stage works on one domain at a time, from `ready` to `done`. -/
def Stage (step : DomainProbe → Kernel (Int × DomainProbe)) (ready done : DomainProbe → Prop)
    (known : Ledger → Prop) : Prop :=
  ∀ base domain ledger, InTable domain → Tracks domain ledger → ready domain →
    (step domain).Safe books
      (fun after result => ∃ ledger', Moved base domain
        (fun domain' ledger' => done domain' ∧ known ledger') ledger' after result)
      (.view base domain.index ledger false)

def Unregistered (domain : DomainProbe) : Prop := domain.consumer = false
def Attached (domain : DomainProbe) : Prop := domain.attached = true ∧ domain.resumed = false
def Resumed (domain : DomainProbe) : Prop := domain.resumed = true ∧ domain.forced = false
def Held (domain : DomainProbe) : Prop := domain.resumed = true

theorem Tracks.attached_of {domain : DomainProbe} {ledger : Ledger} (tracks : Tracks domain ledger)
    (none : Unregistered domain) :
    domain.attached = false ∧ domain.resumed = false ∧ domain.forced = false := by
  obtain ⟨-, -, -, -, -, attachedIn, resumedIn, forcedIn⟩ := tracks
  unfold Unregistered at none
  simp_all

theorem Moved.stop {base : Nat → Ledger} {domain domain' : DomainProbe} {ledger : Ledger}
    {done : DomainProbe → Ledger → Prop} {failed : Bool} {ret : Int}
    (index : domain'.index = domain.index)
    (offset : domain'.offset = domain.offset) (tracks : Tracks domain' ledger) (nonzero : ret ≠ 0) :
    ∃ ledger', Moved base domain done ledger' (.view base domain.index ledger failed) (ret, domain') :=
  ⟨ledger, rfl, index, offset, tracks, fun _ => nonzero, fun zero => absurd zero nonzero⟩

theorem attachDomain_stage : Stage attachDomain Unregistered Attached fun _ => True := by
  intro base domain ledger table tracks none
  obtain ⟨detached, idle, free⟩ := tracks.attached_of none
  have unregistered : ledger.registered = false := tracks.registered.trans none
  refine safe_aside rfl fun found => ?_
  cases found with
  | false => exact Moved.stop rfl rfl tracks (by decide)
  | true =>
  refine safe_aside rfl fun compatible => ?_
  cases compatible with
  | false => exact Moved.stop rfl rfl tracks (by decide)
  | true =>
  refine safe_own rfl unregistered fun ret =>
    Prog.Safe.ite books (fun failed => ?_) fun success => ?_
  · have same : ledger.next ⟨.platformDeviceRegisterSimple domain.index, ret⟩ = ledger := by
      simp [Ledger.next, failed, ← unregistered]
    rw [same]
    exact Moved.stop rfl rfl tracks failed
  obtain rfl : ret = 0 := not_not.mp success
  let registered : DomainProbe := { domain with consumer := true }
  have tracks : Tracks registered { ledger with registered := true } :=
    { tracks with registered := rfl, attachedIn := fun _ => rfl }
  have unattached : ledger.attached = false := tracks.attached.trans detached
  refine safe_own rfl ⟨rfl, unattached⟩ fun ret =>
    Prog.Safe.ite books (fun failed => ?_) fun success => ?_
  · have same : Ledger.next { ledger with registered := true }
      ⟨.ofGenpdAddDevice domain.index, ret⟩ =
        { ledger with registered := true } := by
      simp [Ledger.next, failed, ← unattached]
    rw [show Ledger.next _ ⟨.platformDeviceRegisterSimple domain.index, (0 : Int)⟩ =
      { ledger with registered := true } from rfl, same]
    exact Moved.stop rfl rfl tracks failed
  obtain rfl : ret = 0 := not_not.mp success
  refine safe_own rfl rfl fun _ => ?_
  exact ⟨{ ledger with registered := true, attached := true }, rfl, rfl, rfl,
    { tracks with attached := rfl, attachedIn := fun _ => rfl, resumedIn := fun _ => rfl },
    fun failed => absurd failed Bool.false_ne_true, fun _ => ⟨⟨rfl, idle⟩, trivial⟩⟩

theorem resumeDomain_stage : Stage resumeDomain Attached Resumed fun _ => True := by
  rintro base domain ledger table tracks ⟨attached, idle⟩
  have free : domain.forced = false := by
    have forcedIn := tracks.forcedIn
    simp_all
  have unresumed : ledger.resumed = false := tracks.resumed.trans idle
  refine safe_own rfl ⟨tracks.attached.trans attached, unresumed⟩ fun ret => ?_
  refine Prog.Safe.ite books (fun failed => ?_) fun success => ?_
  · have same : ledger.next ⟨.pmRuntimeResumeAndGet domain.index, ret⟩ =
        { ledger with off := false } := by
      simp [Ledger.next, unresumed, Int.not_le.mpr failed]
    rw [same]
    exact Moved.stop rfl rfl { tracks with } (Int.ne_of_lt failed)
  have resumes : ledger.next ⟨.pmRuntimeResumeAndGet domain.index, ret⟩ =
      { ledger with resumed := true, off := false } := by
    simp [Ledger.next, Int.not_lt.mp success]
  have quiet : failing ⟨.pmRuntimeResumeAndGet domain.index, ret⟩ = false := decide_eq_false success
  rw [resumes, quiet]
  let resumed : DomainProbe := { domain with resumed := true }
  have tracks : Tracks resumed { ledger with resumed := true, off := false } :=
    { tracks with resumed := rfl, resumedIn := fun _ => attached, forcedIn := fun _ => rfl }
  refine safe_own table trivial ?_
  rintro ⟨ret, value⟩
  refine Prog.Safe.ite books (fun failed => ?_) fun success => ?_
  · simp only [Ledger.next, failed, if_false]
    exact Moved.stop rfl rfl { tracks with } failed
  obtain rfl : ret = 0 := not_not.mp success
  refine Prog.Safe.ite books (fun wrong => Moved.stop rfl rfl { tracks with } (by decide)) fun _ => ?_
  exact ⟨_, rfl, rfl, rfl, { tracks with }, fun failed => absurd failed Bool.false_ne_true,
    fun _ => ⟨⟨rfl, free⟩, trivial⟩⟩

theorem forceDomain_stage : Stage forceDomain Resumed Held fun ledger => ledger.active = true := by
  rintro base domain ledger table tracks ⟨resumed, free⟩
  refine safe_own table trivial ?_
  rintro ⟨ret, reg⟩
  refine Prog.Safe.ite books (fun failed => ?_) fun success => ?_
  · simp only [Ledger.next, failed, if_false]
    exact Moved.stop rfl rfl { tracks with } failed
  obtain rfl : ret = 0 := not_not.mp success
  have found : ledger.auto = .found := by simpa [free] using tracks.auto
  have awake : ledger.resumed = true := tracks.resumed.trans resumed
  let forced : DomainProbe := { domain with savedAuto := reg &&& autoBit, forced := true }
  let read : Ledger := { ledger with value := reg, off := reg &&& offMask = 0 }
  let suppressed : Ledger := { read with auto := .suppressed (reg &&& autoBit), off := false }
  have tracks : Tracks forced suppressed :=
    { tracks with auto := rfl, forcedIn := fun _ => resumed }
  have permitted : read.permits (.regmapUpdateBits .pmgr domain.offset autoMask 0) :=
    ⟨rfl, by simp [read, found, Auto.permits, awake]⟩
  refine safe_own table permitted fun ret => ?_
  have suppresses : read.next ⟨.regmapUpdateBits .pmgr domain.offset autoMask 0, ret⟩ = suppressed := by
    simp [Ledger.next, read, suppressed, found, Auto.update]
  change Prog.Safe _ _ _ (Books.view base domain.index
    (read.next ⟨.regmapUpdateBits .pmgr domain.offset autoMask 0, ret⟩) _)
  rw [suppresses]
  refine Prog.Safe.ite books (fun failed => Moved.stop rfl rfl tracks failed) fun success => ?_
  obtain rfl : ret = 0 := not_not.mp success
  refine safe_own table trivial ?_
  rintro ⟨ret, polled⟩
  refine ⟨{ suppressed with active := decide (ret = 0) }, rfl, rfl, rfl, { tracks with }, ?_, ?_⟩
  · rintro failed (zero : ret = 0)
    subst zero
    exact absurd failed Bool.false_ne_true
  · rintro (zero : ret = 0)
    exact ⟨resumed, by simpa using zero⟩

/-- The ledgers of all listed domains, and of no others, as the code has them. -/
def TracksAll (domains : List DomainProbe) (ledgers : Nat → Ledger) : Prop :=
  ∀ domain ∈ domains, InTable domain ∧ Tracks domain (ledgers domain.index)

/-- A stage over all the domains, as far as it came. -/
structure Across (base : Nat → Ledger) (domains : List DomainProbe) (done : DomainProbe → Prop)
    (known : Ledger → Prop) (after : Books) (result : Int × List DomainProbe) : Prop where
  indices : result.2.map (·.index) = domains.map (·.index)
  tracked : TracksAll result.2 after.ledger
  others : ∀ index ∉ domains.map (·.index), after.ledger index = base index
  told : after.failed = true → result.1 ≠ 0
  done : result.1 = 0 → ∀ domain ∈ result.2, done domain ∧ known (after.ledger domain.index)

theorem forDomains_across {step : DomainProbe → Kernel (Int × DomainProbe)}
    {ready done : DomainProbe → Prop} {known : Ledger → Prop} (stage : Stage step ready done known)
    {domains : List DomainProbe} (distinct : (domains.map (·.index)).Nodup) {s : Books}
    (calm : s.failed = false) (tracked : TracksAll domains s.ledger)
    (all : ∀ domain ∈ domains, ready domain) :
    (forDomains step domains).Safe books (Across s.ledger domains done known) s := by
  induction domains generalizing s with
  | nil =>
    exact ⟨rfl, tracked, fun _ _ => rfl, fun failed => absurd (calm ▸ failed) Bool.false_ne_true,
      fun _ => by simp⟩
  | cons domain domains ih =>
    have apart : ∀ other ∈ domains, other.index ≠ domain.index := by
      intro other member same
      have free := (List.nodup_cons.mp distinct).1
      exact free (List.mem_map.mpr ⟨other, member, same⟩)
    have first := stage s.ledger domain (s.ledger domain.index) (tracked _ (.head _)).1
      (tracked _ (.head _)).2 (all _ (.head _))
    rw [← calm, ← s.eq_view] at first
    refine Prog.Safe.bind books first ?_
    rintro after ⟨ret, moved⟩ ⟨ledger, others, index, offset, tracks, told, reached⟩
    simp only at index offset tracks told reached
    have table : InTable moved := by
      unfold InTable
      rw [index, offset]
      exact (tracked _ (.head _)).1
    have here : after.ledger moved.index = ledger := by simp [others, index]
    have frame : ∀ other, other ≠ domain.index → after.ledger other = s.ledger other := by
      intro other differs
      simp [others, differs]
    refine Prog.Safe.ite books (fun failed => ?_) fun success => ?_
    · refine ⟨by simp [index], ?_, ?_, told, fun zero => absurd zero failed⟩
      · rintro other (_ | ⟨_, member⟩)
        · exact ⟨table, here ▸ tracks⟩
        · rw [frame _ (apart _ member)]
          exact tracked _ (.tail _ member)
      · intro other outside
        exact frame other fun same => outside (by simp [same])
    obtain rfl : ret = 0 := not_not.mp success
    have calm : after.failed = false := by
      cases failed : after.failed with
      | false => rfl
      | true => exact absurd rfl (told failed)
    have tracked : TracksAll domains after.ledger := by
      intro other member
      rw [frame _ (apart _ member)]
      exact tracked _ (.tail _ member)
    have rest := ih (List.nodup_cons.mp distinct).2 calm tracked fun other member =>
      all _ (.tail _ member)
    refine Prog.Safe.bind books rest ?_
    rintro final ⟨ret, moves⟩ ⟨indices, ends, untouched, told, finished⟩
    have away : domain.index ∉ domains.map (·.index) := (List.nodup_cons.mp distinct).1
    have kept : final.ledger moved.index = ledger := by rw [index, untouched _ away, ← index, here]
    refine ⟨by simpa [index] using indices, ?_, ?_, told, ?_⟩
    · rintro other (_ | ⟨_, member⟩)
      · exact ⟨table, kept ▸ tracks⟩
      · exact ends _ member
    · intro other outside
      have outside := not_or.mp fun either => outside (List.mem_cons.mpr either)
      rw [untouched other outside.2, frame other outside.1]
    · rintro zero other (_ | ⟨_, member⟩)
      · exact ⟨(reached rfl).1, kept ▸ (reached rfl).2⟩
      · exact finished zero _ member

theorem Across.trans {base : Nat → Ledger} {domains : List DomainProbe}
    {done done' : DomainProbe → Prop}
    {known known' : Ledger → Prop} {mid after : Books} {first result : Int × List DomainProbe}
    (before : Across base domains done known mid first)
    (next : Across mid.ledger first.2 done' known' after result) :
    Across base domains done' known' after result := by
  refine ⟨next.indices.trans before.indices, next.tracked, ?_, next.told, next.done⟩
  intro index outside
  rw [next.others index (by rwa [before.indices]), before.others index outside]

/-- A stage that failed leaves no claim on what the later stages reach. -/
theorem Across.stop {base : Nat → Ledger} {domains : List DomainProbe}
    {done done' : DomainProbe → Prop}
    {known known' : Ledger → Prop} {after : Books} {result : Int × List DomainProbe}
    (across : Across base domains done known after result) (failed : result.1 ≠ 0) :
    Across base domains done' known' after result :=
  { across with done := fun zero => absurd zero failed }

theorem Across.calm {base : Nat → Ledger} {domains : List DomainProbe} {done : DomainProbe → Prop}
    {known : Ledger → Prop} {after : Books} {result : Int × List DomainProbe}
    (across : Across base domains done known after result) (zero : result.1 = 0) :
    after.failed = false := by
  cases failed : after.failed with
  | false => rfl
  | true => exact absurd zero (across.told failed)

theorem setUpDomains_across (forceActive : Bool) {domains : List DomainProbe}
    (distinct : (domains.map (·.index)).Nodup) {s : Books} (calm : s.failed = false)
    (tracked : TracksAll domains s.ledger) (none : ∀ domain ∈ domains, Unregistered domain) :
    (setUpDomains forceActive domains).Safe books
      (Across s.ledger domains Held fun ledger => forceActive = true → ledger.active = true) s := by
  refine Prog.Safe.bind books (forDomains_across attachDomain_stage distinct calm tracked none) ?_
  rintro attached ⟨ret, domains₁⟩ attaches
  refine Prog.Safe.ite books (fun failed => attaches.stop failed) fun success => ?_
  have zero : ret = 0 := not_not.mp success
  have distinct₁ : (domains₁.map (·.index)).Nodup := attaches.indices ▸ distinct
  refine Prog.Safe.bind books (forDomains_across resumeDomain_stage distinct₁ (attaches.calm zero)
    attaches.tracked fun domain member => (attaches.done zero domain member).1) ?_
  rintro resumed ⟨ret, domains₂⟩ resumes
  have reached := attaches.trans resumes
  refine Prog.Safe.ite books (fun failed => reached.stop failed) fun success => ?_
  obtain rfl : ret = 0 := not_not.mp success
  cases forceActive with
  | false =>
    exact { reached with done := fun zero domain member =>
      ⟨(reached.done zero domain member).1.1, by simp⟩ }
  | true =>
    have distinct₂ : (domains₂.map (·.index)).Nodup := reached.indices ▸ distinct
    refine (forDomains_across forceDomain_stage distinct₂ (reached.calm rfl) reached.tracked
      fun domain member => (reached.done rfl domain member).1).mono books ?_
    intro after result forces
    have held := reached.trans forces
    exact { held with done := fun zero domain member =>
      ⟨(held.done zero domain member).1, fun _ => (held.done zero domain member).2⟩ }

section Release

variable {base : Nat → Ledger} {domain : DomainProbe} {ledger : Ledger} {failed : Bool} {ret : Int}

/-- Where the release of a domain stands: what its consumer still holds, and a result that tells of
every failure so far. -/
structure Releasing (registered attached resumed : Bool) (ledger : Ledger) : Prop where
  registered : ledger.registered = registered
  attached : ledger.attached = attached
  resumed : ledger.resumed = resumed
  restored : ledger.auto.isSuppressed = false
  unstuck : ledger.stuck = false

theorem safe_call {c : Call} {post : Books → Answer c → Prop} (own : concerns c = some domain.index)
    (permits : ledger.permits c)
    (rest : ∀ r, post (.view base domain.index (ledger.next ⟨c, r⟩) (failed || failing ⟨c, r⟩)) r) :
    (query c).Safe books post (.view base domain.index ledger failed) :=
  safe_own (f := pure) own permits rest

theorem writeBack_safe (table : InTable domain) (tracks : Tracks domain ledger) :
    (onlyIf domain.forced 0
      (query (.regmapUpdateBits .pmgr domain.offset autoMask domain.savedAuto))).Safe books
      (fun after cleanup => ∃ ledger', after = .view base domain.index ledger'
          (failed || decide ((cleanup : Int) ≠ 0)) ∧
        Releasing domain.consumer domain.attached domain.resumed ledger')
      (.view base domain.index ledger failed) := by
  have auto := tracks.auto
  obtain ⟨registered, attached, resumed, -, unstuck, -⟩ := tracks
  cases forced : domain.forced with
  | false =>
    refine ⟨ledger, by simp, registered, attached, resumed, ?_, unstuck⟩
    simp [auto, forced, Auto.isSuppressed]
  | true =>
    rw [forced, if_pos rfl] at auto
    have permitted : ledger.permits (.regmapUpdateBits .pmgr domain.offset autoMask domain.savedAuto) :=
      ⟨rfl, by simp [auto, Auto.permits]⟩
    refine safe_call table permitted fun cleanup =>
      ⟨_, rfl, registered, attached, resumed, ?_, unstuck⟩
    simp [Ledger.next, auto, Auto.update, Auto.isSuppressed]

theorem suspend_safe {registered attached resumed : Bool}
    (releasing : Releasing registered attached resumed ledger) :
    (onlyIf resumed 0 (query (.pmRuntimePutSyncSuspend domain.index))).Safe books
      (fun after cleanup => ∃ ledger', after = .view base domain.index ledger'
          (failed || decide ((cleanup : Int) < 0)) ∧ Releasing registered attached false ledger')
      (.view base domain.index ledger failed) := by
  cases resumed with
  | false => exact ⟨ledger, by simp, releasing⟩
  | true =>
    have permitted : ledger.permits (.pmRuntimePutSyncSuspend domain.index) :=
      ⟨releasing.resumed, releasing.restored⟩
    exact safe_call rfl permitted fun cleanup => ⟨_, rfl, { releasing with resumed := rfl }⟩

/-- A domain that is attached is detached; its consumer is held on to where that fails. -/
theorem detach_safe {registered attached : Bool}
    (releasing : Releasing registered attached false ledger) :
    (onlyIf attached 0 do
        query (.pmRuntimeDisable domain.index)
        query (.pmGenpdRemoveDevice domain.index)).Safe books
      (fun after cleanup => ∃ ledger', after = .view base domain.index ledger'
          (failed || decide ((cleanup : Int) ≠ 0)) ∧ ledger'.registered = registered ∧
        ledger'.attached = false ∧ ledger'.resumed = false ∧ ledger'.auto.isSuppressed = false ∧
        ledger'.stuck = decide ((cleanup : Int) ≠ 0))
      (.view base domain.index ledger failed) := by
  obtain ⟨enlisted, bound, idle, restored, unstuck⟩ := releasing
  cases attached with
  | false => exact ⟨ledger, by simp, enlisted, bound, idle, restored, by simp [unstuck]⟩
  | true =>
    refine safe_own rfl ⟨bound, idle⟩ fun disabled => safe_call rfl ⟨bound, idle⟩ fun cleanup => ?_
    have quiet : (failed || failing ⟨.pmRuntimeDisable domain.index, disabled⟩) = failed :=
      Bool.or_false failed
    rw [quiet]
    exact ⟨_, rfl, enlisted, rfl, idle, restored, rfl⟩

theorem told_cleanup (cleanup : Int) (told : failed = true → ret ≠ 0) :
    (failed || decide (cleanup ≠ 0)) = true → (if cleanup ≠ 0 then cleanup else ret) ≠ 0 := by
  intro either
  split_ifs with now
  · exact now
  · exact told (by simpa [now] using either)

theorem told_suspend (cleanup : Int) (told : failed = true → ret ≠ 0) :
    (failed || decide (cleanup < 0)) = true → (if cleanup < 0 then cleanup else ret) ≠ 0 := by
  intro either
  split_ifs with now
  · exact Int.ne_of_lt now
  · exact told (by simpa [now] using either)

/-- One turn of the release loop. -/
structure Freed (base : Nat → Ledger) (domain : DomainProbe) (ret : Int) (after : Books)
    (ret' : Int) :
    Prop where
  others : ∀ index ≠ domain.index, after.ledger index = base index
  released : Released (after.ledger domain.index)
  told : after.failed = true → ret' ≠ 0
  carries : ret ≠ 0 → ret' ≠ 0

theorem releaseDomain_freed (table : InTable domain) (tracks : Tracks domain ledger)
    (told : failed = true → ret ≠ 0) :
    (releaseDomain domain ret).Safe books (Freed base domain ret)
      (.view base domain.index ledger failed) := by
  have away (ledger' : Ledger) (failed' : Bool) : ∀ index ≠ domain.index,
      (Books.view base domain.index ledger' failed').ledger index = base index :=
    fun index differs => by simp [Books.view, differs]
  refine Prog.Safe.ite books (fun none => ?_) fun some => ?_
  · have none : domain.consumer = false := by simpa using none
    obtain ⟨detached, idle, free⟩ := tracks.attached_of none
    obtain ⟨registered, attached, resumed, auto, unstuck, -⟩ := tracks
    refine ⟨away _ _, ?_, told, id⟩
    rw [Books.view_ledger]
    refine ⟨resumed.trans idle, attached.trans detached, ?_, by simp [auto, free, Auto.isSuppressed]⟩
    rw [registered, none, unstuck]
  have consumer : domain.consumer = true := by simpa using some
  refine Prog.Safe.bind books (writeBack_safe table tracks) ?_
  rintro _ cleanup ⟨ledger₁, rfl, releasing⟩
  refine Prog.Safe.bind books (suspend_safe releasing) ?_
  rintro _ suspended ⟨ledger₂, rfl, releasing⟩
  refine Prog.Safe.bind books (detach_safe releasing) ?_
  rintro _ detached ⟨ledger₃, rfl, registered, attached, resumed, restored, stuck⟩
  have told := told_cleanup detached (told_suspend suspended (told_cleanup cleanup told))
  refine Prog.Safe.ite books (fun failed => ?_) fun success => ?_
  · refine ⟨away _ _, ?_, fun _ => failed, fun _ => failed⟩
    rw [Books.view_ledger]
    exact ⟨resumed, attached, by rw [registered, stuck, consumer, decide_eq_true failed], restored⟩
  obtain rfl : detached = 0 := not_not.mp success
  have unstuck : ledger₃.stuck = false := stuck
  refine safe_own rfl ⟨registered.trans consumer, attached, unstuck⟩ fun _ => ?_
  refine ⟨away _ _, ?_, fun either => told (by simpa [Books.view, failing] using either), ?_⟩
  · rw [Books.view_ledger]
    exact ⟨resumed, attached, unstuck.symm, restored⟩
  · exact fun before => suspend_carries (cleanup_carries before)

end Release

theorem releaseDomains_freed {domains : List DomainProbe} (distinct : (domains.map (·.index)).Nodup)
    {s : Books} {ret : Int} (tracked : TracksAll domains s.ledger)
    (told : s.failed = true → ret ≠ 0) :
    (releaseDomains domains ret).Safe books
      (fun after ret' => (∀ index ∉ domains.map (·.index), after.ledger index = s.ledger index) ∧
        (∀ domain ∈ domains, Released (after.ledger domain.index)) ∧
        (after.failed = true → ret' ≠ 0) ∧ (ret ≠ 0 → ret' ≠ 0)) s := by
  induction domains generalizing s ret with
  | nil => exact ⟨fun _ _ => rfl, by simp, told, id⟩
  | cons domain domains ih =>
    have away : domain.index ∉ domains.map (·.index) := (List.nodup_cons.mp distinct).1
    obtain ⟨table, tracks⟩ := tracked domain (.head _)
    have first : (releaseDomain domain ret).Safe books (Freed s.ledger domain ret)
        (.view s.ledger domain.index (s.ledger domain.index) s.failed) :=
      releaseDomain_freed table tracks told
    rw [← s.eq_view] at first
    refine Prog.Safe.bind books first ?_
    intro mid ret₁ freed
    have apart : ∀ other ∈ domains, other.index ≠ domain.index := fun other member same =>
      away (List.mem_map.mpr ⟨other, member, same⟩)
    have tracked : TracksAll domains mid.ledger := by
      intro other member
      rw [freed.others _ (apart other member)]
      exact tracked other (.tail _ member)
    refine (ih (List.nodup_cons.mp distinct).2 tracked freed.told).mono books ?_
    rintro after ret' ⟨others, released, told, carries⟩
    refine ⟨?_, ?_, told, fun before => carries (freed.carries before)⟩
    · intro index outside
      have outside := not_or.mp fun either => outside (List.mem_cons.mpr either)
      rw [others index outside.2, freed.others index outside.1]
    · rintro other (_ | ⟨_, member⟩)
      · rw [others _ away]
        exact freed.released
      · exact released other member

theorem Released.read {ledger : Ledger} (released : Released ledger) (map : RegMap) (reg : Nat)
    (answer : Int × U32) : Released (ledger.next ⟨.regmapRead map reg, answer⟩) := by
  obtain ⟨ret, value⟩ := answer
  by_cases zero : ret = 0 <;> simp only [Ledger.next, zero, if_true, if_false]
  · exact { released with }
  · exact { released with }

theorem readVerdict_zero {cleanup ret : Int} {reg : U32} :
    (if cleanup ≠ 0 then cleanup else if reg &&& offMask ≠ 0 then eio else ret) = 0 ↔
      cleanup = 0 ∧ reg &&& offMask = 0 ∧ ret = 0 := by
  have nonzero : eio ≠ 0 := by decide
  by_cases failed : cleanup = 0
  · by_cases dirty : reg &&& offMask = 0
    · rw [if_neg (not_not.mpr failed), if_neg (not_not.mpr dirty)]
      exact ⟨fun zero => ⟨failed, dirty, zero⟩, fun all => all.2.2⟩
    · rw [if_neg (not_not.mpr failed), if_pos dirty]
      exact ⟨fun zero => absurd zero nonzero, fun all => absurd all.2.1 dirty⟩
  · rw [if_pos failed]
    exact ⟨fun zero => absurd zero failed, fun all => absurd all.1 failed⟩

/-- The last read of every register is one without any of the bits, or the result tells of it. -/
theorem readReleased_off {domains : List DomainProbe} (table : ∀ domain ∈ domains, InTable domain)
    (distinct : (domains.map (·.index)).Nodup) {s : Books} {ret : Int}
    (released : ∀ index, Released (s.ledger index)) (told : s.failed = true → ret ≠ 0) :
    (readReleased domains ret).Safe books
      (fun after ret' => (∀ index, Released (after.ledger index)) ∧
        (∀ index ∉ domains.map (·.index), after.ledger index = s.ledger index) ∧
        (after.failed = true → ret' ≠ 0) ∧ (ret ≠ 0 → ret' ≠ 0) ∧
        (ret' = 0 → ∀ domain ∈ domains, (after.ledger domain.index).off = true)) s := by
  induction domains generalizing s ret with
  | nil => exact ⟨released, fun _ _ => rfl, told, id, by simp⟩
  | cons domain domains ih =>
    have away : domain.index ∉ domains.map (·.index) := (List.nodup_cons.mp distinct).1
    rw [s.eq_view domain.index]
    refine safe_own (table _ (.head _)) trivial ?_
    rintro ⟨cleanup, reg⟩
    have others : ∀ index, Released ((Books.view s.ledger domain.index
        ((s.ledger domain.index).next ⟨.regmapRead .pmgr domain.offset, cleanup, reg⟩)
        (s.failed || failing ⟨.regmapRead .pmgr domain.offset, cleanup, reg⟩)).ledger index) := by
      intro index
      by_cases same : index = domain.index
      · subst same
        rw [Books.view_ledger]
        exact (released _).read ..
      · simpa [Books.view, same] using released index
    have told : ((s.failed || failing ⟨.regmapRead .pmgr domain.offset, cleanup, reg⟩) = true) →
        (if cleanup ≠ 0 then cleanup else if reg &&& offMask ≠ 0 then eio else ret) ≠ 0 := by
      intro either zero
      obtain ⟨rfl, -, zero⟩ := readVerdict_zero.mp zero
      exact told (by simpa [failing] using either) zero
    refine (ih (fun other member => table other (.tail _ member)) (List.nodup_cons.mp distinct).2 others
      told).mono books ?_
    rintro after ret' ⟨released, kept, told, carries, off⟩
    refine ⟨released, ?_, told, fun before => carries fun zero => before (readVerdict_zero.mp zero).2.2,
      ?_⟩
    · intro index outside
      have outside := not_or.mp fun either => outside (List.mem_cons.mpr either)
      rw [kept index outside.2]
      simp [Books.view, outside.1]
    · rintro zero other (_ | ⟨_, member⟩)
      · have verdict := not_not.mp fun nonzero => carries nonzero zero
        obtain ⟨rfl, clean, -⟩ := readVerdict_zero.mp verdict
        rw [kept _ away, Books.view_ledger]
        simp [Ledger.next, clean]
      · exact off zero other member

/-- Nothing was acquired yet; the register may have been read. -/
def Idle (ledger : Ledger) : Prop :=
  ∃ value off, ledger = { Ledger.fresh with value := value, off := off }

theorem Idle.released {ledger : Ledger} (idle : Idle ledger) : Released ledger := by
  obtain ⟨value, off, rfl⟩ := idle
  exact ⟨rfl, rfl, rfl, rfl⟩

theorem Idle.read {ledger : Ledger} (idle : Idle ledger) (map : RegMap) (reg : Nat)
    (answer : Int × U32) : Idle (ledger.next ⟨.regmapRead map reg, answer⟩) := by
  obtain ⟨value, off, rfl⟩ := idle
  obtain ⟨ret, read⟩ := answer
  by_cases zero : ret = 0
  · exact ⟨read, decide (read &&& offMask = 0), by simp [Ledger.next, zero]⟩
  · exact ⟨value, false, by simp [Ledger.next, zero]⟩

/-- Before the first consumer is registered. -/
structure Begun (s : Books) (ret : Int) : Prop where
  idle : ∀ index, Idle (s.ledger index)
  told : s.failed = true → ret ≠ 0

theorem Begun.weaken {s : Books} (begun : Begun s 0) (ret : Int) : Begun s ret :=
  ⟨begun.idle, fun failed => absurd rfl (begun.told failed)⟩

theorem readBaseline_begun (cycle : Bool) {domains : List DomainProbe}
    (table : ∀ domain ∈ domains, InTable domain) {s : Books} (begun : Begun s 0) :
    (readBaseline cycle domains).Safe books Begun s := by
  induction domains generalizing s with
  | nil => exact begun
  | cons domain domains ih =>
    rw [s.eq_view domain.index]
    refine safe_own (table _ (.head _)) trivial ?_
    rintro ⟨ret, reg⟩
    have idle : ∀ index, Idle ((Books.view s.ledger domain.index
        ((s.ledger domain.index).next ⟨.regmapRead .pmgr domain.offset, ret, reg⟩)
        (s.failed || failing ⟨.regmapRead .pmgr domain.offset, ret, reg⟩)).ledger index) := by
      intro index
      by_cases same : index = domain.index
      · subst same
        rw [Books.view_ledger]
        exact (begun.idle _).read ..
      · simpa [Books.view, same] using begun.idle index
    refine Prog.Safe.ite books (fun failed => ⟨idle, fun _ => failed⟩) fun success => ?_
    obtain rfl : ret = 0 := not_not.mp success
    have told : (s.failed || failing ⟨.regmapRead .pmgr domain.offset, (0 : Int), reg⟩) = true →
        (0 : Int) ≠ 0 := by simpa [failing] using begun.told
    have begun : Begun (Books.view s.ledger domain.index _ _) 0 := ⟨idle, told⟩
    refine Prog.Safe.ite books (fun _ => begun.weaken _) fun _ => ?_
    exact ih (fun other member => table other (.tail _ member)) begun

theorem inTable : ∀ domain ∈ domainTable, InTable domain := by
  unfold InTable
  decide

theorem distinct : (domainTable.map (·.index)).Nodup := by decide

theorem blank : ∀ domain ∈ domainTable, domain.consumer = false ∧ domain.attached = false ∧
    domain.resumed = false ∧ domain.forced = false := by decide

theorem tracks_idle {ledgers : Nat → Ledger} (idle : ∀ index, Idle (ledgers index)) :
    TracksAll domainTable ledgers := by
  intro domain member
  obtain ⟨value, off, known⟩ := idle domain.index
  refine ⟨inTable domain member, ?_⟩
  rw [known]
  constructor <;> simp [blank domain member, Ledger.fresh]

/-- Where a run ends: everything is undone, the result tells of every failure, of the observer's as
well, and after a cycle without one all three registers were read without any of the bits. -/
structure Settled (cycle : Bool) (called : Option Int) (after : Books) (ret : Int) : Prop where
  released : ∀ index, Released (after.ledger index)
  told : after.failed = true → ret ≠ 0
  observed : ∀ observed ∈ called, observed ≠ 0 → ret ≠ 0
  off : ret = 0 → cycle = true → ∀ domain ∈ domainTable, (after.ledger domain.index).off = true

theorem releaseAll_settled {domains : List DomainProbe} {s : Books} {ret : Int}
    (called : Option Int)
    (indices : domains.map (·.index) = domainTable.map (·.index))
    (tracked : TracksAll domains s.ledger)
    (others : ∀ index ∉ domains.map (·.index), Released (s.ledger index))
    (told : s.failed = true → ret ≠ 0) (observed : ∀ observed ∈ called, observed ≠ 0 → ret ≠ 0) :
    (do query (.teardown .power)
        let ret ← releaseDomains domains.reverse ret
        let ret ← readReleased domains ret
        query (.release .power)
        return ret : Kernel Int).Safe books (Settled true called) s := by
  have unique : (domains.map (·.index)).Nodup := indices ▸ distinct
  have reversed : (domains.reverse.map (·.index)).Nodup := by
    rw [List.map_reverse]
    exact List.nodup_reverse.mpr unique
  refine safe_aside rfl fun _ => ?_
  refine Prog.Safe.bind books (releaseDomains_freed reversed
    (fun domain member => tracked domain (List.mem_reverse.mp member)) ?_) ?_
  · simpa [failing] using told
  rintro mid ret₁ ⟨kept, freed, told, carries⟩
  have released : ∀ index, Released (mid.ledger index) := by
    intro index
    by_cases listed : index ∈ domains.map (·.index)
    · obtain ⟨domain, member, rfl⟩ := List.mem_map.mp listed
      exact freed domain (List.mem_reverse.mpr member)
    · rw [kept index (by simpa [List.map_reverse] using listed)]
      exact others index listed
  refine Prog.Safe.bind books (readReleased_off (fun domain member => (tracked domain member).1) unique
    released told) ?_
  rintro after ret₂ ⟨released, -, told, later, off⟩
  refine safe_aside rfl fun _ => ⟨released, ?_, ?_, ?_⟩
  · simpa [failing] using told
  · exact fun r member nonzero => later (carries (observed r member nonzero))
  · intro zero _ domain member
    have listed : domain.index ∈ domains.map (·.index) := by
      rw [indices]
      exact List.mem_map.mpr ⟨domain, member, rfl⟩
    obtain ⟨other, inside, same⟩ := List.mem_map.mp listed
    exact same ▸ off zero other inside

theorem holdDomains_around (forceActive : Bool) (operate : Option (Kernel Int)) {s : Books}
    (begun : Begun s 0) : (holdDomains forceActive operate).Around books (operate.getD (pure 0))
      (Powered forceActive) (Settled true) s := by
  have calm : s.failed = false := by
    cases failed : s.failed with
    | false => rfl
    | true => exact absurd rfl (begun.told failed)
  refine Prog.Around.call books_free fun _ => ⟨by simp [books, concerns], ?_⟩
  refine Prog.Around.bind books_free (setUpDomains_across forceActive distinct ?_ ?_ ?_) ?_
  · simpa [books, Books.next, concerns, failing] using calm
  · exact tracks_idle begun.idle
  · exact fun domain member => (blank domain member).1
  rintro mid ⟨ret, domains⟩ ⟨indices, tracked, others, told, held⟩
  have released : ∀ index ∉ domains.map (·.index), Released (mid.ledger index) := by
    intro index outside
    rw [others index (by rwa [← indices])]
    exact (begun.idle index).released
  unfold andThen
  dsimp only
  by_cases zero : ret = 0
  · rw [if_pos zero]
    refine Prog.Around.enter books_free ?_ fun observed => ?_
    · intro domain member
      have listed : domain.index ∈ domains.map (·.index) := by
        rw [indices]
        exact List.mem_map.mpr ⟨domain, member, rfl⟩
      obtain ⟨other, inside, same⟩ := List.mem_map.mp listed
      obtain ⟨resumed, active⟩ := held zero other inside
      rw [← same]
      exact ⟨(tracked other inside).2.resumed.trans resumed, active⟩
    · refine releaseAll_settled (some observed) indices tracked released ?_ ?_
      · exact fun failed => absurd zero (told failed)
      · rintro _ ⟨⟩ nonzero
        exact nonzero
  · rw [if_neg zero]
    refine Prog.Around.safe books_free ?_
    exact releaseAll_settled none indices tracked released told (by simp)

theorem Begun.stopped {s : Books} {ret : Int} (begun : Begun s ret) (nonzero : ret ≠ 0)
    (cycle : Bool) :
    Settled cycle none s ret :=
  ⟨fun index => (begun.idle index).released, begun.told, by simp, fun zero => absurd zero nonzero⟩

/-- A question that stops the function where its answer is no. -/
theorem begun_asked {s : Books} (c : Call) (holds : Answer c → Bool) (aside : concerns c = none)
    (begun : Begun s 0) (fails : ∀ r, failing ⟨c, r⟩ = true → holds r = false) :
    (query c).Safe books (fun after r => ∀ ret, (holds r = false → ret ≠ 0) → Begun after ret) s := by
  refine safe_aside (f := pure) aside fun r ret nonzero => ⟨begun.idle, fun either => ?_⟩
  obtain before | now := Bool.or_eq_true_iff.mp either
  · exact absurd rfl (begun.told before)
  · exact nonzero (fails r now)

theorem isJ42dT7000_begun {s : Books} (begun : Begun s 0) :
    isJ42dT7000.Safe books (fun after found => ∀ ret, (found = false → ret ≠ 0) → Begun after ret)
      s := by
  refine Prog.Safe.bind books (begun_asked _ id rfl begun (by simp [failing])) ?_
  intro mid found reached
  cases found with
  | false => exact reached
  | true =>
    exact begun_asked (.ofDeviceIsCompatible "/" "apple,t7000") id rfl (reached 0 (by simp))
      (by simp [failing])

theorem withPcieDomains_around (cycle forceActive : Bool) (operate : Option (Kernel Int)) :
    (withPcieDomains cycle forceActive operate).Around books (operate.getD (pure 0))
      (Powered forceActive) (Settled cycle) .start := by
  have start : Begun .start 0 := ⟨fun _ => ⟨0, false, rfl⟩, by simp [Books.start]⟩
  have stop {s : Books} {ret : Int} (begun : Begun s ret) (nonzero : ret ≠ 0) :
      (pure ret : Kernel Int).Around books (operate.getD (pure 0)) (Powered forceActive)
        (Settled cycle) s := Prog.Around.safe books_free (begun.stopped nonzero cycle)
  have nodev : enodev ≠ 0 := by decide
  refine Prog.Around.ite (fun _ => stop (start.weaken _) (by decide)) fun _ => ?_
  refine Prog.Around.bind books_free (isJ42dT7000_begun start) fun s found begun => ?_
  refine Prog.Around.ite (fun _ => stop (begun _ fun _ => nodev) nodev) fun known => ?_
  have begun := begun 0 (by simpa using known)
  refine Prog.Around.bind books_free
    (begun_asked _ id rfl begun (by simp [failing])) fun s found begun => ?_
  refine Prog.Around.ite (fun _ => stop (begun _ fun _ => nodev) nodev) fun known => ?_
  have begun := begun 0 (by simpa using known)
  refine Prog.Around.bind books_free
    (begun_asked _ id rfl begun (by simp [failing])) fun s found begun => ?_
  refine Prog.Around.ite (fun _ => stop (begun _ fun _ => nodev) nodev) fun known => ?_
  have begun := begun 0 (by simpa using known)
  refine Prog.Around.bind books_free (begun_asked (.sysconNodeToRegmap _)
    (fun map : Int => decide (0 ≤ map)) rfl begun (by simp [failing])) fun s map begun => ?_
  refine Prog.Around.ite (fun bad => ?_) fun good => ?_
  · exact stop (begun _ fun _ => Int.ne_of_lt bad) (Int.ne_of_lt bad)
  have begun := begun 0 (by simpa using Int.not_lt.mp good)
  refine Prog.Around.bind books_free (readBaseline_begun cycle inTable begun) fun s ret begun => ?_
  refine Prog.Around.ite (fun nonzero => stop begun nonzero) fun success => ?_
  obtain rfl : ret = 0 := not_not.mp success
  refine Prog.Around.ite (fun once => ?_) fun cycles => ?_
  · refine Prog.Around.safe books_free ⟨fun index => (begun.idle index).released, begun.told, ?_, ?_⟩
    · simp
    · rintro - rfl
      exact absurd once Bool.false_ne_true
  · cases cycle with
    | true => exact holdDomains_around forceActive operate begun
    | false => exact absurd rfl cycles

section Once

variable (index : Nat)

def registers (index : Nat) : KernelEvent → Bool
  | ⟨.platformDeviceRegisterSimple i, ret⟩ => i = index && decide ((ret : Int) = 0)
  | _ => false

def unregisters (index : Nat) : KernelEvent → Bool
  | ⟨.platformDeviceUnregister i, _⟩ => i = index
  | _ => false

def attaches (index : Nat) : KernelEvent → Bool
  | ⟨.ofGenpdAddDevice i, ret⟩ => i = index && decide ((ret : Int) = 0)
  | _ => false

def detaches (index : Nat) : KernelEvent → Bool
  | ⟨.pmGenpdRemoveDevice i, _⟩ => i = index
  | _ => false

def resumes (index : Nat) : KernelEvent → Bool
  | ⟨.pmRuntimeResumeAndGet i, ret⟩ => i = index && decide (0 ≤ (ret : Int))
  | _ => false

def suspends (index : Nat) : KernelEvent → Bool
  | ⟨.pmRuntimePutSyncSuspend i, _⟩ => i = index
  | _ => false

/-- A flag of the ledger that one kind of call sets and another clears counts those calls. -/
theorem ledger_balance (held : Ledger → Bool) (gains loses : KernelEvent → Bool)
    (own : ∀ e, gains e = true ∨ loses e = true → concerns e.1 = some index)
    (step : ∀ (ledger : Ledger) e, ledger.permits e.1 → concerns e.1 = some index →
      (held (ledger.next e)).toNat + (loses e).toNat = (held ledger).toNat + (gains e).toNat)
    {s : Books} {t : List KernelEvent} (allowed : books.Allows s t) :
    (held ((books.after s t).ledger index)).toNat + t.countP loses =
      (held (s.ledger index)).toNat + t.countP gains := by
  refine books.balance (fun s => held (s.ledger index)) gains loses ?_ allowed
  intro s e permitted
  by_cases here : concerns e.1 = some index
  · rw [s.eq_view index]
    change (held ((Books.next _ e).ledger index)).toNat + _ = _
    rw [Books.next_own here, Books.view_ledger, Books.view_ledger]
    exact step _ e (permitted index here) here
  · have still : gains e = false ∧ loses e = false := by
      simpa using fun either => here (own e either)
    have same : ((books.next s e).ledger index) = s.ledger index := by
      change (s.next e).ledger index = s.ledger index
      unfold Books.next
      cases concern : concerns e.1 with
      | none => rfl
      | some other =>
        have differs : index ≠ other := fun same => here (same ▸ concern)
        simp [differs]
    simp [still, same]

theorem resumed_balance {s : Books} {t : List KernelEvent} (allowed : books.Allows s t) :
    ((books.after s t).ledger index).resumed.toNat + t.countP (suspends index) =
      (s.ledger index).resumed.toNat + t.countP (resumes index) := by
  refine ledger_balance index (·.resumed) _ _ ?_ ?_ allowed
  · intro e either
    unfold resumes suspends at either
    split at either <;> split at either <;> simp_all [concerns]
  · rintro ledger ⟨c, r⟩ permits own
    cases c with
    | pmRuntimeResumeAndGet i =>
      obtain rfl := Option.some.inj own
      have idle : ledger.resumed = false := permits.2
      simp [Ledger.next, resumes, suspends, idle]
    | pmRuntimePutSyncSuspend i =>
      obtain rfl := Option.some.inj own
      have awake : ledger.resumed = true := permits.1
      simp [Ledger.next, resumes, suspends, awake]
    | regmapRead map reg =>
      obtain ⟨ret, value⟩ := r
      simp only [Ledger.next]
      split <;> rfl
    | _ => rfl

theorem attached_balance {s : Books} {t : List KernelEvent} (allowed : books.Allows s t) :
    ((books.after s t).ledger index).attached.toNat + t.countP (detaches index) =
      (s.ledger index).attached.toNat + t.countP (attaches index) := by
  refine ledger_balance index (·.attached) _ _ ?_ ?_ allowed
  · intro e either
    unfold attaches detaches at either
    split at either <;> split at either <;> simp_all [concerns]
  · rintro ledger ⟨c, r⟩ permits own
    cases c with
    | ofGenpdAddDevice i =>
      obtain rfl := Option.some.inj own
      have free : ledger.attached = false := permits.2
      simp [Ledger.next, attaches, detaches, free]
    | pmGenpdRemoveDevice i =>
      obtain rfl := Option.some.inj own
      have bound : ledger.attached = true := permits.1
      simp [Ledger.next, attaches, detaches, bound]
    | regmapRead map reg =>
      obtain ⟨ret, value⟩ := r
      simp only [Ledger.next]
      split <;> rfl
    | _ => rfl

theorem registered_balance {s : Books} {t : List KernelEvent} (allowed : books.Allows s t) :
    ((books.after s t).ledger index).registered.toNat + t.countP (unregisters index) =
      (s.ledger index).registered.toNat + t.countP (registers index) := by
  refine ledger_balance index (·.registered) _ _ ?_ ?_ allowed
  · intro e either
    unfold registers unregisters at either
    split at either <;> split at either <;> simp_all [concerns]
  · rintro ledger ⟨c, r⟩ permits own
    cases c with
    | platformDeviceRegisterSimple i =>
      obtain rfl := Option.some.inj own
      have fresh : ledger.registered = false := permits
      simp [Ledger.next, registers, unregisters, fresh]
    | platformDeviceUnregister i =>
      obtain rfl := Option.some.inj own
      have listed : ledger.registered = true := permits.1
      simp [Ledger.next, registers, unregisters, listed]
    | regmapRead map reg =>
      obtain ⟨ret, value⟩ := r
      simp only [Ledger.next]
      split <;> rfl
    | _ => rfl

end Once

/-- A run cut at its callback: the observer's calls are `during`, the function's own the others. -/
structure Lifetime (cycle forceActive : Bool) (observe : Kernel Int)
    (before during after : List KernelEvent) (called : Option Int) (ret : Int) : Prop where
  calls : observe.Called called during
  powered : called.isSome → Powered forceActive (books.after .start before)
  permitted : books.Allows .start (before ++ after)
  settled : Settled cycle called (books.after .start (before ++ after)) ret
  suspendedOnce : ∀ index,
    (before ++ after).countP (suspends index) = (before ++ after).countP (resumes index)
  detachedOnce : ∀ index,
    (before ++ after).countP (detaches index) = (before ++ after).countP (attaches index)
  unregisteredOnce : ∀ index,
    ((books.after .start (before ++ after)).ledger index).stuck.toNat +
      (before ++ after).countP (unregisters index) = (before ++ after).countP (registers index)

/-- Whatever calls fail, every run of the power-domain lifetime is a `Lifetime`. -/
theorem domain_lifetimes {cycle forceActive : Bool} {operate : Option (Kernel Int)}
    {t : List KernelEvent} {ret : Int}
    (run : (withPcieDomains cycle forceActive operate).Runs t ret) :
    ∃ before during after called, t = before ++ during ++ after ∧
      Lifetime cycle forceActive (operate.getD (pure 0)) before during after called ret := by
  obtain ⟨before, during, after, called, rfl, calls, powered, permitted, settled⟩ :=
    withPcieDomains_around cycle forceActive operate t ret run
  refine ⟨before, during, after, called, rfl, calls, powered, permitted, settled, ?_, ?_, ?_⟩
  · intro index
    have balance := resumed_balance index permitted
    rw [(settled.released index).suspended] at balance
    change 0 + _ = 0 + _ at balance
    omega
  · intro index
    have balance := attached_balance index permitted
    rw [(settled.released index).detached] at balance
    change 0 + _ = 0 + _ at balance
    omega
  · intro index
    have balance := registered_balance index permitted
    rw [(settled.released index).unregistered] at balance
    change _ + _ = 0 + _ at balance
    omega

/-- Everything is found and works, but the second consumer cannot be attached. -/
def secondUnattached : (c : Call) → Answer c
  | .ofDeviceIsCompatible _ _ => true
  | .ofFindNodeByPath _ => true
  | .ofGenpdAddDevice index => if index = 1 then ebusy else 0
  | _ => default

theorem domain_lifetimes_unattached :
    let run := Prog.exec (fun _ => secondUnattached) [] (withPcieDomains true true none)
    ∃ before during after called, run.1 = before ++ during ++ after ∧
      Lifetime true true (pure 0) before during after called run.2 :=
  domain_lifetimes (Prog.exec_runs (fun _ => secondUnattached) (withPcieDomains true true none))

end WinBoot.DomainLedger
