import WinBoot.HomeOverlay
import WinBoot.ShellTransaction

/-! A restore that fails or is terminated leaves the old pair of directories or the new one,
where no signal falls between a rename and the variable that records it. The state between two
commands is one that the rollback can repair; the rollback is followed command by command. -/

namespace WinBoot.RestoreState
open Interaction ShellProcess RamScripts FileTree

/-- The snapshot's work tree and the overlaid home are in place. -/
def New (d : Device) (old : Option Node) (s : State) : Prop :=
  ∃ work, d.snapshot.seek ["run", "work"] = some work ∧ s.work = some work ∧
    s.home = some (newHome d.snapshot old)

/-- What a restore promises on exit. -/
structure Atomic (d : Device) (work home : Option Node) (s : State) (status : Nat) : Prop where
  pair : s.work = work ∧ s.home = home ∨ New d home s
  success : status = 0 → New d home s
  unlocked : s.lock = false

/-- A rename has moved a new tree in, and its variable is not set yet. -/
def Torn (s : State) : Prop :=
  s.last = some ⟨.move .nextWork .work, true⟩ ∨ s.last = some ⟨.move .nextHome .home, true⟩

/-- What has been set aside is no directory, and the rollback would not bring it back. -/
def Stranded (s : State) : Prop := s.committed = false ∧ s.oldWork.any (!·.isDirectory) = true

instance (s : State) : Decidable (Stranded s) := instDecidableAnd

/-- Signals that arrive once they are trapped, before the rollback begins and not between a
rename and its variable; no rollback while a file is set aside in place of the work tree. -/
def timely : Interruptions Command State where
  exits s := ¬Stranded s
  signals s process := process.caught = true ∧ process.atExit ≠ none ∧ ¬Torn s

instance : DecidablePred timely.exits := fun s => inferInstanceAs (Decidable ¬Stranded s)

/-- A tree that the rollback brings back, once a new one in its place is removed. -/
def Kept (tree current old : Option Node) : Prop :=
  old = none ∧ current = tree ∨ old = tree ∧ current = none

def Restorable (tree current old : Option Node) (new : Bool) : Prop :=
  if new then old = tree else Kept tree current old

/-- The rollback leads to one of the two pairs from here. -/
structure Recoverable (d : Device) (work home : Option Node) (s : State) : Prop where
  handling : s.handling = false
  side : s.committed = false ∧ Restorable work s.work s.oldWork s.worknew ∧
      Restorable home s.home s.oldHome s.homenew ∧ (∀ n, s.oldHome = some n → n.isDirectory) ∨
    s.committed = true ∧ New d home s

def Final (d : Device) (work home : Option Node) (s : State) (status : Nat) : Prop :=
  Recoverable d work home s ∧ (status = 0 → s.committed = true)

/-- Nothing of the pair has been touched. -/
structure Base (work home : Option Node) (s : State) : Prop where
  work : s.work = work
  home : s.home = home
  oldWork : s.oldWork = none
  oldHome : s.oldHome = none
  flags : s.committed = false ∧ s.worknew = false ∧ s.homenew = false
  handling : s.handling = false

variable {d : Device} {work home : Option Node} {s : State}

theorem Base.recoverable (base : Base work home s) : Recoverable d work home s := by
  obtain ⟨work, home, oldWork, oldHome, ⟨committed, worknew, homenew⟩, handling⟩ := base
  refine ⟨handling, .inl ⟨committed, ?_, ?_, by simp [oldHome]⟩⟩
  · simp [Restorable, Kept, worknew, oldWork, work]
  · simp [Restorable, Kept, homenew, oldHome, home]

/-- Places in the lock directory that the rollback does not look at. -/
def inner : List Place := [.stage, .next, .nextHome, .archive]

/-- The commands that keep to these. -/
def keepsPair : Command → Bool
  | .makeDirectories places | .remove places => places.all (· ∈ inner)
  | .move source target => source = .stageWork && target = .nextWork
  | .trapExit .snapshot | .trapClear | .assign _ => false
  | _ => true

theorem Base.put (base : Base work home s) (n : Option Node) {place : Place}
    (inside : place ∈ inner) : Base work home (s.put n place) := by
  obtain ⟨work, home, oldWork, oldHome, flags, handling⟩ := base
  simp only [inner, List.mem_cons, List.not_mem_nil, or_false] at inside
  obtain rfl | rfl | rfl | rfl := inside <;> exact ⟨work, home, oldWork, oldHome, flags, handling⟩

theorem Base.puts (base : Base work home s) (n : Place → Option Node) {places : List Place}
    (inside : places.all (· ∈ inner)) :
    Base work home (places.foldl (fun s place => s.put (n place) place) s) := by
  simp only [List.all_eq_true, decide_eq_true_eq] at inside
  induction places generalizing s with
  | nil => exact base
  | cons place places ih =>
    exact ih (base.put (n place) (inside place (by simp))) fun other member =>
      inside other (List.mem_cons_of_mem _ member)

theorem Base.recorded (base : Base work home s) (last : Option RamEvent) :
    Base work home { s with last := last } := by
  obtain ⟨work, home, oldWork, oldHome, flags, handling⟩ := base
  exact ⟨work, home, oldWork, oldHome, flags, handling⟩

theorem Base.run (base : Base work home s) {c : Command} (keeps : keepsPair c) :
    Base work home (s.run d c) := by
  have kept := base
  obtain ⟨work, home, oldWork, oldHome, flags, handling⟩ := base
  cases c with
  | makeDirectories places => exact kept.puts (fun _ => _) keeps
  | remove places => exact kept.puts (fun _ => none) keeps
  | move source target =>
    simp only [keepsPair, Bool.and_eq_true, decide_eq_true_eq] at keeps
    obtain ⟨rfl, rfl⟩ := keeps
    simp only [State.run, State.move]
    cases s.look .stageWork <;> exact ⟨work, home, oldWork, oldHome, flags, handling⟩
  | protect place => cases place <;> exact ⟨work, home, oldWork, oldHome, flags, handling⟩
  | trapExit operation => exact ⟨work, home, oldWork, oldHome, flags, handling⟩
  | trapClear => cases keeps
  | assign => cases keeps
  | makeLock => exact ⟨work, home, rfl, rfl, flags, handling⟩
  | removeLock => exact ⟨work, home, rfl, rfl, flags, handling⟩
  | _ => exact ⟨work, home, oldWork, oldHome, flags, handling⟩

theorem Base.fail (base : Base work home s) {c : Command} (keeps : keepsPair c) :
    Base work home (s.fail d c) := by
  have kept := base
  obtain ⟨work, home, oldWork, oldHome, flags, handling⟩ := base
  cases c with
  | makeDirectories places => exact kept.puts _ keeps
  | remove places => exact kept.puts _ keeps
  | _ => exact ⟨work, home, oldWork, oldHome, flags, handling⟩

theorem Base.next (base : Base work home s) {c : Command} (keeps : keepsPair c) (ok : Bool) :
    Base work home ((semantics d).next s ⟨c, ok⟩) := by
  cases ok with
  | false => exact (base.fail keeps).recorded _
  | true => exact (base.run keeps).recorded _

/-- What is asked between two commands: a state that can be repaired, unless it is torn. -/
def Calm (d : Device) (work home : Option Node) (s : State) : Prop :=
  ¬Torn s → Recoverable d work home s

abbrev watched (d : Device) (work home : Option Node) : Monitor Command (fun _ => Bool) State :=
  guarding (semantics d) (Between trapOf rollback (fun s => s.armed = true) (Calm d work home))

theorem traps_of_keeps {c : Command} (keeps : keepsPair c) (trap : Trap Command)
    (does : trapOf c = some trap) : trap = .signals ∨ trap = .atExit rollback := by
  cases c with
  | trapExit operation =>
    cases operation with
    | snapshot => cases keeps
    | restore => exact .inr (Option.some.inj does).symm
  | trapSignals => exact .inl (Option.some.inj does).symm
  | trapClear => cases keeps
  | _ => cases does

section Steps

/-! Until the renames any early exit is a failure with the pair as it was. -/

variable {ends : State → Nat → Prop}
  (early : ∀ s status, Base work home s → status ≠ 0 → ends s status)

section

variable {post : State → Unit → Prop} {c : Command}

include early in
/-- A command that keeps to the inside of the lock directory. -/
theorem run_base (base : Base work home s) (keeps : keepsPair c)
    (works : s.can c = true → Base work home ((semantics d).next s ⟨c, true⟩) →
      post ((semantics d).next s ⟨c, true⟩) ()) :
    (run c).Finishes (watched d work home) ends post s := by
  refine (finishes_run _ c post s).mpr fun ok admitted => ?_
  refine ⟨⟨fun _ _ => base.recoverable, traps_of_keeps keeps⟩, ?_⟩
  cases ok with
  | false => exact early _ 1 (base.next keeps false) Nat.one_ne_zero
  | true => exact works (admitted.1 rfl) (base.next keeps true)

theorem holds_base {post : State → Bool → Prop} (base : Base work home s)
    (keeps : keepsPair c)
    (works : ∀ ok, (semantics d).admits s ⟨c, ok⟩ →
      Base work home ((semantics d).next s ⟨c, ok⟩) → post ((semantics d).next s ⟨c, ok⟩) ok) :
    Shell.Finishes (watched d work home) ends (holds c) post s :=
  (finishes_holds _ c post s).mpr fun ok admitted =>
    ⟨⟨fun _ _ => base.recoverable, traps_of_keeps keeps⟩,
      works ok admitted (base.next keeps ok)⟩

end

/-- What lies in the lock directory, while the pair is untouched. -/
structure Held (work home stage nextWork nextHome : Option Node) (s : State) : Prop
    extends Base work home s where
  stage : s.stage = stage
  nextWork : s.nextWork = nextWork
  nextHome : s.nextHome = nextHome

/-- Commands that change none of it. -/
def quiet : Command → Bool
  | .guard _ | .test _ | .testNot _ | .findSpecial _ | .trapExit .restore | .trapSignals => true
  | .measureHome | .measureFree | .testSpace | .receiveArchive | .testSize | .testHash => true
  | .createArchive | .echoDone => true
  | .remove places => places = [.archive]
  | _ => false

variable {stage nextWork nextHome : Option Node}

theorem keeps_of_quiet {c : Command} (still : quiet c) : keepsPair c := by
  cases c with
  | trapExit operation => cases operation <;> first | rfl | cases still
  | remove places =>
    obtain rfl := of_decide_eq_true still
    rfl
  | _ => first | rfl | cases still

theorem Held.next (held : Held work home stage nextWork nextHome s) {c : Command}
    (still : quiet c) (ok : Bool) :
    Held work home stage nextWork nextHome ((semantics d).next s ⟨c, ok⟩) := by
  have base := held.toBase.next (d := d) (keeps_of_quiet still) ok
  obtain ⟨-, stage, nextWork, nextHome⟩ := held
  cases c with
  | trapExit operation => cases ok <;> exact ⟨base, stage, nextWork, nextHome⟩
  | remove places =>
    obtain rfl := of_decide_eq_true still
    cases ok <;> exact ⟨base, stage, nextWork, nextHome⟩
  | _ => first | (cases ok <;> exact ⟨base, stage, nextWork, nextHome⟩) | cases still

include early in
theorem run_held (held : Held work home stage nextWork nextHome s) {c : Command}
    (still : quiet c) :
    (run c).Finishes (watched d work home) ends
      (fun after _ => Held work home stage nextWork nextHome after) s :=
  run_base early held.toBase (keeps_of_quiet still) fun _ _ => held.next still true

theorem holds_held (held : Held work home stage nextWork nextHome s) {c : Command}
    (still : quiet c) :
    Shell.Finishes (watched d work home) ends (holds c)
      (fun after ok => Held work home stage nextWork nextHome after ∧
        (semantics d).admits s ⟨c, ok⟩) s :=
  holds_base held.toBase (keeps_of_quiet still) fun ok admitted _ =>
    ⟨held.next still ok, admitted⟩

/-! The script, part by part, up to the renames. -/

abbrev Reaches (d : Device) (work home : Option Node) (ends : State → Nat → Prop)
    (p : RamShell Unit) (post : State → Prop) (s : State) : Prop :=
  p.Finishes (watched d work home) ends (fun after _ => post after) s

include early in
theorem refuse_held (held : Held work home stage nextWork nextHome s) (place : Place) {status : Nat}
    (loud : status ≠ 0) :
    Reaches d work home ends (refuseSpecial place status) (Held work home stage nextWork nextHome) s := by
  refine Shell.Finishes.bind _ (holds_held held rfl) ?_
  rintro after found ⟨held, -⟩
  refine (finishes_throwIf _ _ _ _ _).mpr ⟨fun _ => ?_, fun _ => held⟩
  exact early _ _ held.toBase loud

include early in
theorem ramGuard_held (held : Held work home stage nextWork nextHome s) :
    Reaches d work home ends ramGuard (Held work home stage nextWork nextHome) s := by
  refine Shell.Finishes.bind _ (finishes_forM _ (fun after _ => Held work home stage nextWork nextHome
    after) held fun s line rest held => run_held early held rfl) ?_
  intro s _ held
  refine Shell.Finishes.bind _ (run_held early held rfl) fun s _ held => ?_
  exact Shell.Finishes.bind _ (run_held early held rfl) fun s _ held => run_held early held rfl

include early in
theorem reserveSpace_held (held : Held work home stage nextWork nextHome s) :
    Reaches d work home ends reserveSpace (Held work home stage nextWork nextHome) s := by
  refine Shell.Finishes.bind _ (holds_held held rfl) ?_
  rintro s present ⟨held, -⟩
  refine Shell.Finishes.bind _ (finishes_whenever _ (fun _ => run_held early held rfl) fun _ => held) ?_
  intro s _ held
  exact Shell.Finishes.bind _ (run_held early held rfl) fun s _ held => run_held early held rfl

include early in
theorem unpackArchive_held (held : Held work home none none none s) :
    Reaches d work home ends unpackArchive (Held work home (some d.snapshot) none none) s := by
  refine Shell.Finishes.through _ (fun after _ => ∃ stage, Held work home stage none none after)
    (run_base early held.toBase rfl fun _ base => ⟨_, base, rfl, held.nextWork, held.nextHome⟩) ?_
  rintro s _ ⟨stage, held⟩
  refine Shell.Finishes.bind _ (run_held early held rfl) fun s _ held => ?_
  refine Shell.Finishes.bind _ (run_held early held rfl) fun s _ held => ?_
  refine Shell.Finishes.bind _ (run_held early held rfl) fun s _ held => ?_
  refine Shell.Finishes.through _ (fun after _ => Held work home (some d.snapshot) none none after)
    (run_base early held.toBase rfl fun _ base => ⟨base, rfl, held.nextWork, held.nextHome⟩) ?_
  intro s _ held
  refine Shell.Finishes.bind _ (run_held early held rfl) fun s _ held => ?_
  refine Shell.Finishes.bind _ (run_held early held rfl) fun s _ held => ?_
  exact refuse_held early held .stage (by decide)

/-- The stage once the work tree has been moved out of it. -/
def stripped (d : Device) : Node := d.snapshot.modify ["run"] (·.remove "work")

theorem seek_stripped (d : Device) (file : HomeFile) :
    (stripped d).seek ("run" :: "codex-home" :: HomeFile.path file) =
      d.snapshot.seek ("run" :: "codex-home" :: HomeFile.path file) :=
  Node.seek_modify_remove (by decide) "run" _ d.snapshot

theorem look_stageFile (held : Held work home (some (stripped d)) nextWork nextHome s)
    (file : HomeFile) :
    s.look (.stageFile file) = d.snapshot.seek ("run" :: "codex-home" :: HomeFile.path file) := by
  rw [← seek_stripped, State.look, held.stage]
  rfl

include early in
theorem overlayFile_held {tree : Node}
    (held : Held work home (some (stripped d)) nextWork (some tree) s) (file : HomeFile) :
    Reaches d work home ends (overlayFile file)
      (fun after => Landed d.snapshot tree file ∧
        Held work home (some (stripped d)) nextWork (some (overlay d.snapshot tree file)) after) s := by
  have found := look_stageFile held file
  refine Shell.Finishes.bind _ (holds_held held rfl) ?_
  rintro s present ⟨held, works, reliable⟩
  refine finishes_whenever _ (fun yes => ?_) fun no => ?_
  · have there := works yes
    simp only [State.can, State.may, found] at there
    obtain ⟨n, here⟩ := Option.isSome_iff_exists.mp there
    refine Shell.Finishes.bind _ (run_held early held rfl) fun s _ held => ?_
    refine Shell.Finishes.through _ (fun after _ => Held work home (some (stripped d)) nextWork
      (some (HomeFile.makeParent file tree)) after)
      (run_base early held.toBase rfl fun _ base => ⟨base, held.stage, held.nextWork, ?_⟩) ?_
    · simp [semantics, State.run, held.nextHome]
    intro s _ held
    refine Shell.Finishes.through _ (fun after _ => Held work home (some (stripped d)) nextWork
      (some (HomeFile.copyTo file n (HomeFile.makeParent file tree))) after)
      (run_base early held.toBase rfl fun _ base => ⟨base, held.stage, held.nextWork, ?_⟩) ?_
    · simp [semantics, State.run, look_stageFile held file, here, held.nextHome]
    intro s _ held
    refine run_base early held.toBase rfl fun can base => ⟨?_, base, held.stage, held.nextWork, ?_⟩
    · intro other found
      obtain rfl : n = other := Option.some.inj (here.symm.trans found)
      simpa [State.can, State.look, held.nextHome] using can
    · simp [semantics, State.run, held.nextHome, overlay, here]
  · have missing : d.snapshot.seek ("run" :: "codex-home" :: HomeFile.path file) = none := by
      by_contra there
      have yes := reliable (.inr rfl) (by
        simp only [State.can, State.may, found]
        exact Option.isSome_iff_ne_none.mpr there)
      exact Bool.false_ne_true (no.symm.trans yes)
    refine ⟨fun n found => ?_, by simpa [overlay, missing] using held⟩
    cases missing.symm.trans found

include early in
theorem overlays_held {tree : Node}
    (held : Held work home (some (stripped d)) nextWork (some tree) s)
    (files : List HomeFile) : Reaches d work home ends (files.forM overlayFile)
      (fun after => LandedAll d.snapshot files tree ∧ Held work home (some (stripped d)) nextWork
        (some (files.foldl (overlay d.snapshot) tree)) after) s := by
  induction files generalizing tree s with
  | nil => exact ⟨trivial, held⟩
  | cons file files ih =>
    refine Shell.Finishes.bind _ (overlayFile_held early held file) ?_
    rintro s _ ⟨landed, held⟩
    exact Shell.Finishes.mono _ (ih held) fun after _ rest => ⟨⟨landed, rest.1⟩, rest.2⟩

/-- Both new trees are ready, and what is to be replaced is a directory or nothing. -/
structure Ready (d : Device) (tree old : Option Node) (s : State) : Prop
    extends Base tree old s where
  snapshot : ∃ new, d.snapshot.seek ["run", "work"] = some new ∧ s.nextWork = some new
  overlaid : s.nextHome = some (newHome d.snapshot old)
  directory : ∀ n, old = some n → n.isDirectory

include early in
theorem moveWork_held (held : Held work home (some d.snapshot) none none s) :
    Reaches d work home ends (run (.move .stageWork .nextWork))
      (fun after => ∃ tree, d.snapshot.seek ["run", "work"] = some tree ∧
        Held work home (some (stripped d)) (some tree) none after) s := by
  refine run_base early held.toBase rfl fun can base => ?_
  have look : s.look .stageWork = d.snapshot.seek ["run", "work"] := by
    rw [State.look, held.stage]
    rfl
  have free : s.look .nextWork = none := held.nextWork
  simp only [State.can, look] at can
  cases there : d.snapshot.seek ["run", "work"] with
  | none => simp [there] at can
  | some tree =>
    refine ⟨tree, rfl, base, ?_, ?_, ?_⟩
    · simp [semantics, State.run, State.move, look, there, State.take, State.put, held.stage, stripped]
    · simp [semantics, State.run, State.move, look, free, there, State.take, State.put, Node.placed]
    · simp [semantics, State.run, State.move, look, there, State.take, State.put, held.nextHome]

include early in
/-- The old home directory is copied where there is one. -/
theorem copyHome_held (held : Held work home stage nextWork (some (.directory 0o700 [])) s) :
    Reaches d work home ends (unlessNot (.exists .home) .copyHome)
      (fun after => Held work home stage nextWork (some (home.getD (.directory 0o700 []))) after ∧
        ∀ n, home = some n → n.isDirectory) s := by
  refine Shell.Finishes.bind _ (holds_held held rfl) ?_
  rintro after absent ⟨later, missing, -⟩
  refine finishes_whenever _ (fun _ => ?_) fun skipped => ?_
  · refine run_base early later.toBase rfl fun can base => ?_
    simp only [State.can, later.home] at can
    cases home with
    | none => cases can
    | some n =>
      refine ⟨⟨base, later.stage, later.nextWork, ?_⟩, ?_⟩
      · simp [semantics, State.run, later.home]
      · rintro _ ⟨⟩
        exact can
  · have none_ : home = none := by
      have absent := missing (by simpa using skipped)
      simpa [State.can, State.mayNot, State.look, held.home] using absent
    subst none_
    exact ⟨later, by simp⟩

include early in
/-- With the mode of `.ssh`, the new home directory is ready. -/
theorem protectSsh_ready {tree : Node} (there : d.snapshot.seek ["run", "work"] = some tree)
    (directory : ∀ n, home = some n → n.isDirectory)
    (held : Held work home stage (some tree)
      (some ((restoreFiles.foldl (overlay d.snapshot) (home.getD (.directory 0o700 []))).chmod 0o700)) s) :
    Reaches d work home ends (unlessNot (.directory .nextSsh) (.protect .nextSsh)) (Ready d work home) s := by
  set mixed := (restoreFiles.foldl (overlay d.snapshot) (home.getD (.directory 0o700 []))).chmod 0o700
    with combined
  have look : s.look .nextSsh = mixed.seek [".ssh"] := by rw [State.look, held.nextHome]; rfl
  refine Shell.Finishes.bind _ (holds_held held rfl) ?_
  rintro after absent ⟨later, missing, reliable⟩
  refine finishes_whenever _ (fun ran => ?_) fun skipped => ?_
  · refine run_base early later.toBase rfl fun _ base =>
      ⟨base, ⟨tree, there, later.nextWork⟩, ?_, directory⟩
    have present : (mixed.seek [".ssh"]).any Node.isDirectory := by
      by_contra out
      have yes := reliable (.inr rfl) (by simpa [State.can, State.mayNot, look] using out)
      exact Bool.false_ne_true ((by simpa using ran : absent = false).symm.trans yes)
    simp [semantics, State.run, later.nextHome, newHome, ← combined, present]
  · have out : (mixed.seek [".ssh"]).any Node.isDirectory = false := by
      simpa [State.can, State.mayNot, look] using missing (by simpa using skipped)
    refine ⟨later.toBase, ⟨tree, there, later.nextWork⟩, ?_, directory⟩
    rw [later.nextHome, newHome, ← combined]
    simp [out]

include early in
theorem prepareTrees_ready (held : Held work home (some d.snapshot) none none s) :
    Reaches d work home ends prepareTrees (fun after => Ready d work home after ∧
      LandedAll d.snapshot restoreFiles (home.getD (.directory 0o700 []))) s := by
  refine Shell.Finishes.bind _ (run_held early held rfl) fun s _ held => ?_
  refine Shell.Finishes.bind _ (run_held early held rfl) fun s _ held => ?_
  refine Shell.Finishes.bind _ (run_held early held rfl) fun s _ held => ?_
  refine Shell.Finishes.bind _ (moveWork_held early held) ?_
  rintro s _ ⟨tree, there, held⟩
  refine Shell.Finishes.through _ (fun after _ => Held work home (some (stripped d)) (some tree)
    (some (.directory 0o700 [])) after)
    (run_base early held.toBase rfl fun _ base => ⟨base, held.stage, held.nextWork, rfl⟩) ?_
  intro s _ held
  refine Shell.Finishes.bind _ (copyHome_held early held) ?_
  rintro s _ ⟨held, directory⟩
  refine Shell.Finishes.bind _ (refuse_held early held .nextHome (by decide)) fun s _ held => ?_
  refine Shell.Finishes.bind _ (overlays_held early held restoreFiles) ?_
  rintro s _ ⟨landed, held⟩
  refine Shell.Finishes.through _ (fun after _ => Held work home (some (stripped d)) (some tree)
    (some ((restoreFiles.foldl (overlay d.snapshot) (home.getD (.directory 0o700 []))).chmod 0o700))
    after) (run_base early held.toBase rfl fun _ base => ⟨base, held.stage, held.nextWork, ?_⟩) ?_
  · simp [semantics, State.run, held.nextHome]
  intro s _ held
  exact Shell.Finishes.mono _ (protectSsh_ready early there directory held) fun _ _ ready =>
    ⟨ready, landed⟩

end Steps

/-! The renames. -/

abbrev Leads (d : Device) (work home : Option Node) (p : RamShell Unit) (post : State → Prop)
    (s : State) : Prop :=
  p.Finishes (watched d work home) (Final d work home) (fun after _ => post after) s

/-- What the renames and the rollback work on. -/
structure Core where
  work : Option Node
  oldWork : Option Node
  home : Option Node
  oldHome : Option Node
  nextWork : Option Node
  nextHome : Option Node
  committed : Bool
  worknew : Bool
  homenew : Bool
  handling : Bool

def State.core (s : State) : Core :=
  ⟨s.work, s.oldWork, s.home, s.oldHome, s.nextWork, s.nextHome, s.committed, s.worknew, s.homenew,
    s.handling⟩

variable {new before after : Core}

theorem recoverable_of_core (here : s.core = before) (handling : before.handling = false)
    (side : before.committed = false ∧ Restorable work before.work before.oldWork before.worknew ∧
      Restorable home before.home before.oldHome before.homenew ∧
      ∀ n, before.oldHome = some n → n.isDirectory) :
    Recoverable d work home s := by
  subst here
  exact ⟨handling, .inl side⟩

/-- A step of the exchange: a command that fails changes nothing the rollback works on. -/
theorem run_exchange {c : Command} (here : s.core = before)
    (traps : trapOf c = none)
    (recoverable : ∀ s : State, s.core = before → Recoverable d work home s)
    (fails : ((semantics d).next s ⟨c, false⟩).core = before)
    (works : s.can c = true → ((semantics d).next s ⟨c, true⟩).core = after) :
    (run c).Finishes (watched d work home) (Final d work home)
      (fun s' _ => s'.core = after ∧ s'.last = some ⟨c, true⟩) s := by
  refine (finishes_run _ c _ s).mpr fun ok admitted => ?_
  refine ⟨⟨fun _ _ => recoverable s here, by simp [traps]⟩, ?_⟩
  cases ok with
  | false => exact ⟨recoverable _ fails, by simp⟩
  | true => exact ⟨works (admitted.1 rfl), rfl⟩

/-- A variable is set, also between a rename and what follows it. -/
theorem run_assign {flag : Flag} (calm : Calm d work home s)
    (works : ((semantics d).next s ⟨.assign flag, true⟩).core = after) :
    (run (Command.assign flag)).Finishes (watched d work home) (Final d work home)
      (fun s' _ => s'.core = after) s := by
  refine (finishes_run _ _ _ s).mpr fun ok admitted => ?_
  obtain rfl : ok = true := admitted.2 (.inr rfl) rfl
  exact ⟨⟨fun _ => calm, by simp [trapOf]⟩, works⟩

theorem move_free {source target : Place} (free : s.look target = none)
    (can : s.can (.move source target) = true) :
    ∃ n, s.look source = some n ∧ s.move source target = (s.take source).put (some n) target := by
  simp only [State.can] at can
  cases there : s.look source with
  | none => simp [there] at can
  | some n => exact ⟨n, rfl, by simp [State.move, there, free, Node.placed]⟩

/-- What is in a place is set aside, or there is nothing. -/
theorem setAside {source target : Place} {tree : Option Node} (here : s.core = before)
    (there : ∀ s : State, s.core = before → s.look source = tree)
    (free : ∀ s : State, s.core = before → s.look target = none)
    (recoverable : ∀ s : State, s.core = before → Recoverable d work home s)
    (moved : ∀ (s : State) (n : Node), s.core = before → tree = some n →
      ((s.take source).put (some n) target).core = after)
    (nothing : tree = none → before = after) :
    Leads d work home (unlessNot (.exists source) (.move source target))
      (fun s' => s'.core = after) s := by
  refine Shell.Finishes.through _ (fun s' ok => s'.core = before ∧ (ok = true → tree = none)) ?_ ?_
  · refine (finishes_holds _ _ _ s).mpr fun ok admitted => ?_
    refine ⟨⟨fun _ _ => recoverable s here, by simp [trapOf]⟩, ?_, fun yes => ?_⟩
    · cases ok <;> exact here
    · have empty := admitted.1 yes
      simpa [State.can, State.mayNot, there s here] using empty
  rintro s ok ⟨here, absent⟩
  refine finishes_whenever _ (fun _ => ?_) fun skipped => ?_
  · refine Shell.Finishes.mono _ (run_exchange here rfl recoverable here fun can => ?_)
      fun _ _ both => both.1
    obtain ⟨n, found, does⟩ := move_free (free s here) can
    refine Eq.trans ?_ (moved s n here ((there s here).symm.trans found))
    simp only [semantics, if_true, State.run, does]
    rfl
  · rw [← nothing (absent (by simpa using skipped))]
    exact here

theorem kept_aside (tree : Option Node) : Kept tree none tree := .inr ⟨rfl, rfl⟩

theorem kept_here (tree : Option Node) : Kept tree tree none := .inl ⟨rfl, rfl⟩

theorem restorable_new (tree current : Option Node) : Restorable tree current tree true := by
  simp [Restorable]

/-- The new pair is committed. -/
structure Done (d : Device) (old : Option Node) (s : State) : Prop where
  handling : s.handling = false
  committed : s.committed = true
  new : New d old s

theorem Done.final {tree old : Option Node} (done : Done d old s) (status : Nat) :
    Final d tree old s status :=
  ⟨⟨done.handling, .inr ⟨done.committed, done.new⟩⟩, fun _ => done.committed⟩

theorem run_done {tree old : Option Node} {c : Command} (done : Done d old s)
    (traps : trapOf c = none) (keeps : ∀ ok, Done d old ((semantics d).next s ⟨c, ok⟩)) :
    Leads d tree old (run c) (Done d old) s := by
  refine (finishes_run _ c _ s).mpr fun ok _ => ?_
  refine ⟨⟨fun _ _ => (done.final 0).1, by simp [traps]⟩, ?_⟩
  cases ok with
  | false => exact (keeps false).final 1
  | true => exact keeps true

/-- While nothing is committed, each tree can be brought back by itself. -/
theorem mend {tree old work oldWork home oldHome nextWork nextHome : Option Node}
    {worknew homenew : Bool} (directory : ∀ n, old = some n → n.isDirectory)
    (bringWork : Restorable tree work oldWork worknew)
    (bringHome : Restorable old home oldHome homenew) (aside : oldHome = none ∨ oldHome = old)
    (s : State) (here : s.core = ⟨work, oldWork, home, oldHome, nextWork, nextHome, false, worknew,
      homenew, false⟩) : Recoverable d tree old s := by
  refine recoverable_of_core here rfl ⟨rfl, bringWork, bringHome, ?_⟩
  obtain rfl | rfl := aside
  · simp
  · exact directory

theorem exchangeTrees_final {tree old : Option Node} (ready : Ready d tree old s) :
    exchangeTrees.Finishes (watched d tree old) (Final d tree old)
      (fun s' _ => Final d tree old s' 0) s := by
  obtain ⟨⟨work, home, oldWork, oldHome, ⟨committed, worknew, homenew⟩, handling⟩,
    ⟨new, snapshot, nextWork⟩, overlaid, directory⟩ := ready
  have start : s.core = ⟨tree, none, old, none, some new, some (newHome d.snapshot old), false, false,
      false, false⟩ := by
    simp [State.core, work, home, oldWork, oldHome, committed, worknew, homenew, handling, nextWork,
      overlaid]
  refine Shell.Finishes.through _ (fun s' _ => s'.core = ⟨none, tree, old, none, some new,
    some (newHome d.snapshot old), false, false, false, false⟩) (setAside start
    (fun s here => congrArg Core.work here) (fun s here => congrArg Core.oldWork here)
    (mend directory (kept_here tree) (kept_here old) (.inl rfl)) ?_ ?_) ?_
  · intro s n here same
    simp only [State.core, Core.mk.injEq] at here
    simpa [State.core, State.take, State.put, here] using same.symm
  · rintro rfl
    rfl
  intro s _ here
  refine Shell.Finishes.through _ (fun s' _ => s'.core = ⟨none, tree, none, old, some new,
    some (newHome d.snapshot old), false, false, false, false⟩) (setAside here
    (fun s here => congrArg Core.home here) (fun s here => congrArg Core.oldHome here)
    (mend directory (kept_aside tree) (kept_here old) (.inl rfl)) ?_ ?_) ?_
  · intro s n here same
    simp only [State.core, Core.mk.injEq] at here
    simpa [State.core, State.take, State.put, here] using same.symm
  · rintro rfl
    rfl
  intro s _ here
  refine Shell.Finishes.through _ (fun s' _ => s'.core = ⟨some new, tree, none, old, none,
    some (newHome d.snapshot old), false, false, false, false⟩ ∧
      s'.last = some ⟨.move .nextWork .work, true⟩) (run_exchange here rfl
    (mend directory (kept_aside tree) (kept_aside old) (.inr rfl)) here fun can => ?_) ?_
  · have free : s.look .work = none := congrArg Core.work here
    obtain ⟨n, found, does⟩ := move_free free can
    simp only [State.core, Core.mk.injEq] at here
    obtain rfl : n = new := Option.some.inj (found.symm.trans here.2.2.2.2.1)
    simp [semantics, State.run, does, State.core, State.take, State.put, here]
  rintro s _ ⟨here, torn⟩
  refine Shell.Finishes.through _ (fun s' _ => s'.core = ⟨some new, tree, none, old, none,
    some (newHome d.snapshot old), false, true, false, false⟩)
    (run_assign (fun whole => absurd (.inl torn) whole) ?_) ?_
  · simp only [State.core, Core.mk.injEq] at here
    simp [semantics, State.run, State.set, State.core, here]
  intro s _ here
  refine Shell.Finishes.through _ (fun s' _ => s'.core = ⟨some new, tree,
    some (newHome d.snapshot old), old, none, none, false, true, false, false⟩ ∧
      s'.last = some ⟨.move .nextHome .home, true⟩) (run_exchange here rfl
    (mend directory (restorable_new tree _) (kept_aside old) (.inr rfl)) here fun can => ?_) ?_
  · have free : s.look .home = none := congrArg Core.home here
    obtain ⟨n, found, does⟩ := move_free free can
    simp only [State.core, Core.mk.injEq] at here
    obtain rfl : n = newHome d.snapshot old :=
      Option.some.inj (found.symm.trans here.2.2.2.2.2.1)
    simp [semantics, State.run, does, State.core, State.take, State.put, here]
  rintro s _ ⟨here, torn⟩
  refine Shell.Finishes.through _ (fun s' _ => s'.core = ⟨some new, tree,
    some (newHome d.snapshot old), old, none, none, false, true, true, false⟩)
    (run_assign (fun whole => absurd (.inr torn) whole) ?_) ?_
  · simp only [State.core, Core.mk.injEq] at here
    simp [semantics, State.run, State.set, State.core, here]
  intro s _ here
  refine Shell.Finishes.through _ (fun s' _ => s'.core = ⟨some new, tree,
    some (newHome d.snapshot old), old, none, none, true, true, true, false⟩)
    (run_assign (fun _ => mend directory (restorable_new tree _) (restorable_new old _) (.inr rfl) s
      here) ?_) ?_
  · simp only [State.core, Core.mk.injEq] at here
    simp [semantics, State.run, State.set, State.core, here]
  intro s _ here
  have done : Done d old s :=
    ⟨congrArg Core.handling here, congrArg Core.committed here, new, snapshot,
      congrArg Core.work here, congrArg Core.home here⟩
  refine Shell.Finishes.bind _ (run_done done rfl fun ok => ?_) fun s _ done => ?_
  · cases ok <;> exact ⟨done.handling, done.committed, done.new⟩
  refine Shell.Finishes.mono _ (run_done done rfl fun ok => ?_) fun s _ done => done.final 0
  cases ok <;> exact ⟨done.handling, done.committed, done.new⟩

/-! The rollback. -/

abbrev unarmed (d : Device) : Monitor Command (fun _ => Bool) State :=
  guarding (semantics d) fun _ c => ∀ handler, trapOf c ≠ some (.atExit handler)

section Sure

variable {c : Command} {ends : State → Nat → Prop}

/-- In the rollback a command that can succeed does. -/
theorem run_sure {post : State → Unit → Prop} (handling : s.handling = true) (can : s.can c = true)
    (traps : ∀ handler, trapOf c ≠ some (.atExit handler))
    (works : post ((semantics d).next s ⟨c, true⟩) ()) :
    (run c).Finishes (unarmed d) ends post s := by
  refine (finishes_run _ c post s).mpr fun ok admitted => ?_
  obtain rfl : ok = true := admitted.2 (.inl handling) can
  exact ⟨traps, works⟩

theorem holds_sure {post : State → Bool → Prop} (handling : s.handling = true)
    (traps : ∀ handler, trapOf c ≠ some (.atExit handler))
    (works : post ((semantics d).next s ⟨c, s.can c⟩) (s.can c)) :
    Shell.Finishes (unarmed d) ends (holds c) post s := by
  refine (finishes_holds _ c post s).mpr fun ok admitted => ?_
  obtain rfl : ok = s.can c := by
    cases can : s.can c with
    | false => exact Bool.eq_false_iff.mpr fun yes => by simp [admitted.1 yes] at can
    | true => exact admitted.2 (.inl handling) can
  exact ⟨traps, works⟩

theorem ifTest_sure {condition : Condition} {body : RamShell Unit} {post : State → Unit → Prop}
    (handling : s.handling = true)
    (yes : s.may condition = true →
      body.Finishes (unarmed d) ends post ((semantics d).next s ⟨.test condition, true⟩))
    (no : s.may condition = false → post ((semantics d).next s ⟨.test condition, false⟩) ()) :
    (ifTest condition body).Finishes (unarmed d) ends post s := by
  refine Shell.Finishes.through _ (fun after ok => ok = s.may condition ∧
    after = (semantics d).next s ⟨.test condition, s.may condition⟩)
    (holds_sure handling (by simp [trapOf]) ⟨rfl, rfl⟩) ?_
  rintro _ _ ⟨rfl, rfl⟩
  cases found : s.may condition with
  | false => exact finishes_whenever _ (by simp) fun _ => no found
  | true => exact finishes_whenever _ (fun _ => yes found) (by simp)

end Sure

inductive Side
  | work | home
deriving DecidableEq

def Side.place : Side → Place
  | .work => .work
  | .home => .home

def Side.old : Side → Place
  | .work => .oldWork
  | .home => .oldHome

def Side.flag : Side → Flag
  | .work => .worknew
  | .home => .homenew

/-- In the rollback: how each tree and what was set aside for it stand to each other. -/
structure Rolling (stands : Side → Option Node → Option Node → Prop) (new : Side → Bool)
    (s : State) : Prop where
  handling : s.handling = true
  new : ∀ side : Side, s.flag side.flag = new side
  stands : ∀ side : Side, stands side (s.look side.place) (s.look side.old)
  directory : ∀ (side : Side) (n : Node), s.look side.old = some n → n.isDirectory

variable {stands : Side → Option Node → Option Node → Prop} {isNew : Side → Bool}
  {ends : State → Nat → Prop}

theorem Rolling.tested (rolling : Rolling stands isNew s) (condition : Condition) (ok : Bool) :
    Rolling stands isNew ((semantics d).next s ⟨.test condition, ok⟩) := by
  refine ⟨?_, fun side => ?_, fun side => ?_, fun side => ?_⟩
  · cases ok <;> exact rolling.handling
  · have := rolling.new side
    cases ok <;> cases side <;> exact this
  · have := rolling.stands side
    cases ok <;> cases side <;> exact this
  · have := rolling.directory side
    cases ok <;> cases side <;> exact this

theorem Rolling.settle (rolling : Rolling stands isNew s) {side : Side}
    {now : Option Node → Option Node → Prop} (holds : now (s.look side.place) (s.look side.old)) :
    Rolling (Function.update stands side now) isNew s := by
  refine ⟨rolling.handling, rolling.new, fun other => ?_, rolling.directory⟩
  by_cases same : other = side
  · subst same
    simpa using holds
  · rw [Function.update_of_ne same]
    exact rolling.stands other

/-- A change of the one tree leaves the other where it stands. -/
theorem Rolling.change (rolling : Rolling stands isNew s) {side : Side} {after : State}
    {now : Option Node → Option Node → Prop} (handling : after.handling = s.handling)
    (new : ∀ side : Side, after.flag side.flag = s.flag side.flag)
    (apart : ∀ other, other ≠ side →
      after.look other.place = s.look other.place ∧ after.look other.old = s.look other.old)
    (directory : ∀ n, after.look side.old = some n → n.isDirectory)
    (holds : now (after.look side.place) (after.look side.old)) :
    Rolling (Function.update stands side now) isNew after := by
  refine ⟨handling.trans rolling.handling, fun other => (new other).trans (rolling.new other),
    fun other => ?_, fun other n found => ?_⟩
  · by_cases same : other = side
    · subst same
      simpa using holds
    · rw [Function.update_of_ne same, (apart other same).1, (apart other same).2]
      exact rolling.stands other
  · by_cases same : other = side
    · subst same
      exact directory n found
    · rw [(apart other same).2] at found
      exact rolling.directory other n found

/-- A new tree is removed, so that what it replaced can be put back. -/
theorem remove_rolls (side : Side) {tree : Option Node} (rolling : Rolling stands isNew s)
    (here : stands side = fun current old => Restorable tree current old (isNew side)) :
    (ifTest (.set side.flag) (ShellProcess.run (.remove [side.place]))).Finishes (unarmed d) ends
      (fun after _ => Rolling (Function.update stands side (Kept tree)) isNew after) s := by
  refine ifTest_sure rolling.handling (fun new => ?_) fun old => ?_
  · have new : isNew side = true := (rolling.new side).symm.trans new
    have rolling := rolling.tested (d := d) (.set side.flag) true
    have stood := rolling.stands side
    rw [here, new] at stood
    have aside : ((semantics d).next s ⟨.test (.set side.flag), true⟩).look side.old = tree := by
      simpa [Restorable] using stood
    refine run_sure rolling.handling rfl (by simp [trapOf]) (rolling.change ?_ ?_ ?_ ?_ ?_)
    · cases side <;> rfl
    · intro other
      cases side <;> cases other <;> rfl
    · intro other apart
      cases side <;> cases other <;> first | exact absurd rfl apart | exact ⟨rfl, rfl⟩
    · have := rolling.directory side
      cases side <;> exact this
    · cases side <;> exact .inr ⟨aside, rfl⟩
  · have old : isNew side = false := (rolling.new side).symm.trans old
    have rolling := rolling.tested (d := d) (.set side.flag) false
    have stood := rolling.stands side
    rw [here, old] at stood
    exact rolling.settle (by simpa [Restorable] using stood)

/-- What was set aside is put back where it was. -/
theorem moveBack_rolls (side : Side) {tree : Option Node} (status : Nat)
    (rolling : Rolling stands isNew s) (here : stands side = Kept tree) :
    (ifTest (.directory side.old) (moveBack side.old side.place status)).Finishes (unarmed d) ends
      (fun after _ => Rolling (Function.update stands side fun current _ => current = tree) isNew
        after) s := by
  refine ifTest_sure rolling.handling (fun there => ?_) fun absent => ?_
  · have rolling := rolling.tested (d := d) (.directory side.old) true
    have stood := rolling.stands side
    rw [here] at stood
    have present : ((semantics d).next s ⟨.test (.directory side.old), true⟩).look side.old ≠ none := by
      intro missing
      have empty : s.look side.old = none := by cases side <;> exact missing
      simp [State.may, empty] at there
    generalize (semantics d).next s ⟨.test (.directory side.old), true⟩ = tested at *
    obtain ⟨missing, -⟩ | ⟨aside, free⟩ := stood
    · exact absurd missing present
    · obtain ⟨n, found⟩ := Option.ne_none_iff_exists'.mp present
      have can : tested.can (.move side.old side.place) = true := by
        simp [State.can, found, free, Node.fits]
      refine Shell.Finishes.through _ (fun after ok => ok = true ∧
        Rolling (Function.update stands side fun current _ => current = tree) isNew after)
        (holds_sure rolling.handling (by simp [trapOf]) ?_) ?_
      · refine ⟨can, ?_⟩
        obtain ⟨n, found, does⟩ := move_free free can
        have step : (semantics d).next tested ⟨.move side.old side.place, true⟩ =
            { (tested.take side.old).put (some n) side.place with
              last := some ⟨.move side.old side.place, true⟩ } := by
          simp [semantics, State.run, does]
        rw [can, step]
        refine rolling.change ?_ ?_ ?_ ?_ ?_
        · cases side <;> rfl
        · intro other
          cases side <;> cases other <;> rfl
        · intro other apart
          cases side <;> cases other <;> first | exact absurd rfl apart | exact ⟨rfl, rfl⟩
        · cases side <;> simp [Side.old, Side.place, State.look, State.put, State.take]
        · have moved := found.symm.trans aside
          cases side <;> exact moved
      · rintro after _ ⟨rfl, done⟩
        exact (finishes_throwIf _ _ _ _ _).mpr ⟨by simp, fun _ => done⟩
  · have rolling := rolling.tested (d := d) (.directory side.old) false
    have stood := rolling.stands side
    rw [here] at stood
    have empty : ((semantics d).next s ⟨.test (.directory side.old), false⟩).look side.old = none := by
      by_contra present
      obtain ⟨n, found⟩ := Option.ne_none_iff_exists'.mp present
      have directory := rolling.directory side n found
      have found : s.look side.old = some n := by cases side <;> exact found
      simp [State.may, found, directory] at absent
    refine rolling.settle ?_
    obtain ⟨-, current⟩ | ⟨aside, free⟩ := stood
    · exact current
    · exact free.trans (empty.symm.trans aside)

/-- The trees of the pair. -/
def Side.of (work home : Option Node) : Side → Option Node
  | .work => work
  | .home => home

theorem restoreOld_rolls {tree old : Option Node} {ends : State → Nat → Prop}
    (rolling : Rolling (fun side current set => Restorable (side.of tree old) current set (isNew side))
      isNew s) :
    restoreOld.Finishes (unarmed d) ends (fun after _ => after.handling = true ∧
      after.work = tree ∧ after.home = old) s := by
  refine Shell.Finishes.bind _ (remove_rolls .work rolling rfl) fun s _ rolling => ?_
  refine Shell.Finishes.bind _ (remove_rolls .home rolling rfl) fun s _ rolling => ?_
  refine Shell.Finishes.bind _ (moveBack_rolls .work 71 rolling rfl) fun s _ rolling => ?_
  refine Shell.Finishes.mono _ (moveBack_rolls .home 72 rolling rfl) fun s _ rolling => ?_
  exact ⟨rolling.handling, rolling.stands .work, rolling.stands .home⟩

/-- From a state between two commands the rollback leads to the old pair or the new one. -/
theorem rollback_safe {tree old : Option Node} {status : Nat} (final : Final d tree old s status)
    (permitted : ¬Stranded s) : (rollback status).Safe (unarmed d) (Atomic d tree old) s := by
  obtain ⟨⟨-, side⟩, success⟩ := final
  refine Shell.Finishes.program _ (Shell.Finishes.through _ (fun after _ =>
    after = (semantics d).next s ⟨.trapClear, true⟩) ?_ ?_)
  · refine (finishes_run _ _ _ s).mpr fun ok admitted => ?_
    obtain rfl : ok = true := admitted.2 (.inr rfl) rfl
    exact ⟨fun _ => by simp [trapOf], rfl⟩
  rintro _ _ rfl
  refine Shell.Finishes.through _ (fun after ok => ok = !s.committed ∧
    after = (semantics d).next ((semantics d).next s ⟨.trapClear, true⟩)
      ⟨.testNot (.set .committed), !s.committed⟩) (holds_sure rfl (by simp [trapOf]) ⟨rfl, rfl⟩) ?_
  rintro _ _ ⟨rfl, rfl⟩
  obtain ⟨open_, bringWork, bringHome, directory⟩ | ⟨committed, new⟩ := side
  · refine Shell.Finishes.through _ (fun after _ => after.handling = true ∧ after.work = tree ∧
      after.home = old) ?_ ?_
    · have rolling : Rolling
          (fun side current set => Restorable (side.of tree old) current set (s.flag side.flag))
          (fun side => s.flag side.flag) ((semantics d).next
            ((semantics d).next s ⟨.trapClear, true⟩) ⟨.testNot (.set .committed), true⟩) := by
        refine ⟨rfl, fun side => ?_, fun side => ?_, fun side n found => ?_⟩
        · cases side <;> rfl
        · cases side
          · exact bringWork
          · exact bringHome
        · cases side with
          | work =>
            have found : s.oldWork = some n := found
            by_contra file
            exact permitted ⟨open_, by simpa [found] using file⟩
          | home => exact directory n found
      rw [open_]
      exact finishes_whenever _ (fun _ => restoreOld_rolls rolling) (by simp)
    · rintro s' _ ⟨handling, work, home⟩
      refine Shell.Finishes.through _ (fun after _ => after.work = tree ∧ after.home = old ∧
        after.lock = false) (run_sure handling rfl (by simp [trapOf]) ⟨work, home, rfl⟩) ?_
      rintro after _ ⟨work, home, unlocked⟩
      refine ⟨.inl ⟨work, home⟩, fun zero => ?_, unlocked⟩
      rw [open_] at success
      cases success zero
  · refine Shell.Finishes.through _ (fun after _ => after.handling = true ∧ New d old after) ?_ ?_
    · rw [committed]
      exact finishes_whenever _ (by simp) fun _ => ⟨rfl, new⟩
    · rintro s' _ ⟨handling, new⟩
      refine Shell.Finishes.through _ (fun after _ => New d old after ∧ after.lock = false)
        (run_sure handling rfl (by simp [trapOf]) ⟨new, rfl⟩) ?_
      rintro after _ ⟨new, unlocked⟩
      exact ⟨.inr new, fun _ => new, unlocked⟩

/-! A rollback that succeeds has had nothing to undo. -/

abbrev calmed (d : Device) : Monitor Command (fun _ => Bool) State :=
  guarding (semantics d) (Traps trapOf rollback)

section Loud

variable {good : State → Prop} {c : Command}

theorem run_loud {post : State → Unit → Prop} (traps : Traps trapOf rollback s c)
    (works : s.can c = true → post ((semantics d).next s ⟨c, true⟩) ()) :
    (run c).Finishes (calmed d) (fun after status => status = 0 → good after) post s := by
  refine (finishes_run _ c post s).mpr fun ok admitted => ⟨traps, ?_⟩
  cases ok with
  | false => exact fun zero => absurd zero Nat.one_ne_zero
  | true => exact works (admitted.1 rfl)

theorem holds_loud {post : State → Bool → Prop} (traps : Traps trapOf rollback s c)
    (works : ∀ ok, (ok = true → s.can c = true) → post ((semantics d).next s ⟨c, ok⟩) ok) :
    Shell.Finishes (calmed d) (fun after status => status = 0 → good after) (holds c) post s :=
  (finishes_holds _ c post s).mpr fun ok admitted => ⟨traps, works ok admitted.1⟩

theorem traps_none (none : trapOf c = none) : Traps trapOf rollback s c := by
  intro trap does
  rw [none] at does
  cases does

theorem moveBack_loud (source target : Place) {status : Nat} (loud : status ≠ 0) :
    (moveBack source target status).Finishes (calmed d)
    (fun after status => status = 0 → good after)
      (fun _ _ => True) s := by
  refine Shell.Finishes.through _ (fun _ _ => True)
    (holds_loud (traps_none rfl) fun _ _ => trivial) ?_
  intro s moved _
  exact (finishes_throwIf _ _ _ _ _).mpr ⟨fun _ zero => absurd zero loud, fun _ => trivial⟩

theorem ifTest_loud (condition : Condition) {body : RamShell Unit}
    (loud : ∀ s, body.Finishes (calmed d) (fun after status => status = 0 → good after)
      (fun _ _ => True) s) :
    (ifTest condition body).Finishes (calmed d) (fun after status => status = 0 → good after)
      (fun _ _ => True) s := by
  refine Shell.Finishes.through _ (fun _ _ => True)
    (holds_loud (traps_none rfl) fun _ _ => trivial) ?_
  exact fun s yes _ => finishes_whenever _ (fun _ => loud s) fun _ => trivial

theorem restoreOld_loud : restoreOld.Finishes (calmed d)
    (fun after status => status = 0 → good after)
    (fun _ _ => True) s := by
  refine Shell.Finishes.bind _ (ifTest_loud _ fun s => run_loud (traps_none rfl) fun _ => trivial) ?_
  intro s _ _
  refine Shell.Finishes.bind _ (ifTest_loud _ fun s => run_loud (traps_none rfl) fun _ => trivial) ?_
  intro s _ _
  refine Shell.Finishes.bind _ (ifTest_loud _ fun s => moveBack_loud _ _ (by decide)) ?_
  exact fun s _ _ => ifTest_loud _ fun s => moveBack_loud _ _ (by decide)

end Loud

/-- What is there when a restore succeeds. -/
def Succeeded (d : Device) (old : Option Node) (s : State) : Prop :=
  s.committed = true ∧ New d old s

theorem rollback_success {old : Option Node} {status : Nat} {X : Prop}
    (good : status = 0 → Succeeded d old s ∧ X) : (rollback status).Safe (calmed d)
      (fun after status => status = 0 → Succeeded d old after ∧ X) s := by
  refine Shell.Finishes.program _ (Shell.Finishes.through _ (fun after _ =>
    status = 0 → Succeeded d old after ∧ X) (run_loud ?_ fun _ => good) ?_)
  · rintro _ ⟨⟩
    exact .inr (.inl rfl)
  intro s _ good
  refine Shell.Finishes.through _ (fun after uncommitted => (status = 0 → Succeeded d old after ∧ X) ∧
    (uncommitted = true → status ≠ 0)) (holds_loud (traps_none rfl) fun ok can => ⟨?_, ?_⟩) ?_
  · cases ok <;> exact good
  · intro yes zero
    have set := (good zero).1.1
    have unset := can yes
    simp [State.can, State.mayNot, State.flag, set] at unset
  rintro s uncommitted ⟨good, fails⟩
  refine Shell.Finishes.through _ (fun after _ => status = 0 → Succeeded d old after ∧ X) ?_ ?_
  · refine finishes_whenever _ (fun yes => ?_) fun _ => good
    exact Shell.Finishes.mono _ restoreOld_loud fun _ _ _ zero => absurd zero (fails yes)
  intro s _ good
  exact Shell.Finishes.through _ (fun after _ => status = 0 → Succeeded d old after ∧ X)
    (run_loud (traps_none rfl) fun _ => good) fun s _ good => good

/-! Whole runs. -/

/-- What a success says of the trees that were there. -/
def Accommodated (d : Device) (home : Option Node) : Prop :=
  (∀ n ∈ home, n.isDirectory) ∧
    LandedAll d.snapshot restoreFiles (home.getD (.directory 0o700 []))

theorem restoreCommand_final (held : Held work home none none none s) :
    restoreCommand.Finishes (watched d work home)
      (fun after status => Final d work home after status ∧ (status = 0 → Accommodated d home))
      (fun after _ => Final d work home after 0 ∧ Accommodated d home) s := by
  have early : ∀ s status, Base work home s → status ≠ 0 →
      Final d work home s status ∧ (status = 0 → Accommodated d home) :=
    fun s status base loud => ⟨⟨base.recoverable, fun zero => absurd zero loud⟩,
      fun zero => absurd zero loud⟩
  refine Shell.Finishes.bind _ (ramGuard_held early held) fun s _ held => ?_
  refine Shell.Finishes.through _ (fun after _ => Held work home none none none after)
    (run_base early held.toBase rfl fun _ base => ⟨base, rfl, rfl, rfl⟩) fun s _ held => ?_
  refine Shell.Finishes.bind _ (run_held early held rfl) fun s _ held => ?_
  refine Shell.Finishes.bind _ (run_held early held rfl) fun s _ held => ?_
  refine Shell.Finishes.bind _ (reserveSpace_held early held) fun s _ held => ?_
  refine Shell.Finishes.bind _ (unpackArchive_held early held) fun s _ held => ?_
  refine Shell.Finishes.bind _ (prepareTrees_ready early held) ?_
  rintro s _ ⟨ready, landed⟩
  have accommodated : Accommodated d home := ⟨ready.directory, landed⟩
  refine Prog.Safe.mono _ (exchangeTrees_final ready) ?_
  rintro after (status | ⟨⟩) final
  · exact ⟨final, fun _ => accommodated⟩
  · exact ⟨final, accommodated⟩


theorem restoreProgram_final (held : Held work home none none none s) :
    restoreCommand.program.Safe (watched d work home) (fun after status =>
      Final d work home after status ∧ (status = 0 → Accommodated d home)) s :=
  Shell.Finishes.program _ (Shell.Finishes.mono _ (restoreCommand_final held)
    fun _ _ both => ⟨both.1, fun _ => both.2⟩)

theorem armed_puts (n : Place → Option Node) (places : List Place) (s : State) :
    (places.foldl (fun s place => s.put (n place) place) s).armed = s.armed := by
  induction places generalizing s with
  | nil => rfl
  | cons place places ih =>
    refine (ih _).trans ?_
    cases place <;> rfl

theorem armed_move (s : State) (source target : Place) :
    (s.move source target).armed = s.armed := by
  unfold State.move
  split
  · rfl
  · cases source <;> cases target <;> rfl

/-- Only the trap's own command sets it. -/
theorem armed_next {c : Command} {ok : Bool} (admitted : (semantics d).admits s ⟨c, ok⟩) :
    ((semantics d).next s ⟨c, ok⟩).armed = true ↔
      s.armed = true ∨ ∃ handler, trapOf c = some (.atExit handler) := by
  cases c with
  | trapExit operation =>
    obtain rfl : ok = true := admitted.2 (.inr rfl) rfl
    simp only [semantics, if_true, State.run, true_iff]
    cases operation <;> exact .inr ⟨_, rfl⟩
  | makeDirectories places =>
    refine armed_kept ?_ fun handler => by rintro ⟨⟩
    cases ok <;> exact armed_puts ..
  | remove places =>
    refine armed_kept ?_ fun handler => by rintro ⟨⟩
    cases ok <;> exact armed_puts ..
  | move source target =>
    refine armed_kept ?_ fun handler => by rintro ⟨⟩
    cases ok with
    | false => rfl
    | true => exact armed_move ..
  | protect place =>
    refine armed_kept ?_ fun handler => by rintro ⟨⟩
    cases ok <;> cases place <;> rfl
  | assign flag =>
    refine armed_kept ?_ fun handler => by rintro ⟨⟩
    cases ok <;> cases flag <;> rfl
  | _ =>
    refine armed_kept ?_ fun handler => by rintro ⟨⟩
    cases ok <;> rfl

/-- A restore whose trap is set leaves the old pair or the new one, the latter if it succeeds, and
no lock. -/
theorem restore_atomic (d : Device) (work home : Option Node) (lock : Bool)
    {process : Process Command} {s : State} {status : Nat}
    (run : Alone trapOf (semantics d) timely (Process.start restoreCommand)
      (.initial work home lock) process s)
    (armed : s.armed = true) (ended : process.result = some status) :
    Atomic d work home s status := by
  have held : Held work home none none none (.initial work home lock) :=
    ⟨⟨rfl, rfl, rfl, rfl, ⟨rfl, rfl, rfl⟩, rfl⟩, rfl, rfl, rfl⟩
  have safe : restoreCommand.program.Safe (watched d work home)
      (fun s status => s.armed = true → Calm d work home s ∧ Final d work home s status)
      (.initial work home lock) :=
    Prog.Safe.mono _ (restoreProgram_final held) fun s status final _ =>
      ⟨fun _ => final.1.1, final.1⟩
  refine Course.of_result (run.course (fun s c ok => armed_next) (fun s c => ?_) ?_ ?_
    (.script safe (by simp [State.initial]) fun _ => rfl)) armed ended
  · exact ⟨s.can c, fun can => can, fun _ can => can⟩
  · rintro s process ⟨caught, inside, whole⟩
    exact ⟨caught, inside, fun calm => ⟨calm whole, by simp⟩⟩
  · exact fun s status _ final permitted => rollback_safe final permitted

/-- A restore that exits with zero has put the new pair in place, whatever signals there were. -/
theorem restore_success {d : Device} {work home : Option Node} {lock : Bool}
    {may : Interruptions Command State} {process : Process Command} {s : State}
    (run : Alone trapOf (semantics d) may (Process.start restoreCommand)
      (.initial work home lock) process s)
    (ended : process.result = some 0) : New d home s ∧ Accommodated d home := by
  have held : Held work home none none none (.initial work home lock) :=
    ⟨⟨rfl, rfl, rfl, rfl, ⟨rfl, rfl, rfl⟩, rfl⟩, rfl, rfl, rfl⟩
  have begun : Succeeding trapOf (semantics d) rollback
      (fun after => Succeeded d home after ∧ Accommodated d home)
      (Process.start restoreCommand) (.initial work home lock) := by
    refine ⟨guarding_mono (fun s c between trap does => ?_) (Prog.Safe.mono _
      (restoreProgram_final held) fun s status both zero => ?_), .inl rfl⟩
    · exact (between.2 trap does).imp_right .inr
    · have committed := both.1.2 zero
      obtain ⟨open_, -⟩ | ⟨-, new⟩ := both.1.1.side
      · rw [committed] at open_
        cases open_
      · exact ⟨⟨committed, new⟩, both.2 zero⟩
  obtain ⟨⟨-, new⟩, fits⟩ := Succeeding.ended
    (run.succeeding (fun s status good => rollback_success good) begun) ended
  exact ⟨new, fits⟩

/-! A snapshot with one file in its work tree, restored over a work tree with another. -/

def oldTree : Node := .directory 0o755 [("old", .file 0o600 [])]

def device : Device where
  snapshot := .directory 0o700 [("run", .directory 0o700
    [("work", .directory 0o700 [("new", .file 0o600 [])]),
      ("codex-home", .directory 0o700 [("auth.json", .file 0o600 [1])])])]
  leaves _ _ := none

theorem can_admitted (s : State) (c : Command) : (semantics d).admits s ⟨c, s.can c⟩ :=
  ⟨fun can => can, fun _ can => can⟩

/-- The restore goes through. -/
def wholeRun : Process Command × State :=
  advance trapOf (semantics device) timely State.can 80
    (Process.start restoreCommand, .initial (some oldTree) none false)

theorem wholeRun_atomic : Atomic device (some oldTree) none wholeRun.2 0 :=
  restore_atomic device (some oldTree) none false (.advance 80 can_admitted .start)
    (by decide +kernel) (by decide +kernel)

def anytime : Interruptions Command State := ⟨fun _ => True, fun _ _ => True⟩

instance : DecidablePred anytime.exits := fun _ => inferInstanceAs (Decidable True)

/-- Up to the rename of the new work tree. -/
def renamed : Process Command × State :=
  advance trapOf (semantics device) anytime State.can 47
    (Process.start restoreCommand, .initial (some oldTree) none false)

/-- A signal there, and the rollback. -/
def rolledBack : Process Command × State :=
  advance trapOf (semantics device) anytime State.can 40 (⟨.done 130, renamed.1.atExit, true⟩, renamed.2)

theorem nested_by_rollback :
    Alone trapOf (semantics device) anytime (Process.start restoreCommand)
      (.initial (some oldTree) none false) rolledBack.1 rolledBack.2 ∧
    renamed.2.last = some ⟨.move .nextWork .work, true⟩ ∧ rolledBack.2.armed = true ∧
    rolledBack.1.result = some 130 ∧ ¬Atomic device (some oldTree) none rolledBack.2 130 := by
  refine ⟨?_, by decide +kernel, by decide +kernel, by decide +kernel, fun atomic => ?_⟩
  · have first : Alone trapOf (semantics device) anytime (Process.start restoreCommand)
        (.initial (some oldTree) none false) renamed.1 renamed.2 := .advance 47 can_admitted .start
    exact .advance 40 can_admitted (.caught first trivial (by decide +kernel))
  · have nested : (rolledBack.2.work.bind (·.entry "old-work")).isSome = true := by decide +kernel
    obtain ⟨work, -⟩ | ⟨new, there, work, -⟩ := atomic.pair
    · rw [work] at nested
      exact absurd nested (by decide +kernel)
    · rw [work, ← there] at nested
      exact absurd nested (by decide +kernel)

end WinBoot.RestoreState
