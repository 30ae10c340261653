import Mathlib.Logic.Function.Basic
import WinBoot.Transitions

/-! Firmware setup of the PCIe driver against the removal of the device. Setup runs on a workqueue
of its own; any number of threads release the driver under the device lock. -/

namespace WinBoot.FirmwareFence
open Transitions

/-- Where a patch stands on the completion: without it, with setup signalling last of all, and with
setup signalling before it releases the driver. -/
inductive Fence
  | none | signalLast | signalFirst
deriving DecidableEq

/-- `device_release_driver`, with `brcmf_pcie_remove` inside. -/
inductive Release
  | deviceLock | unbind | waitForCompletion | consoleRead | fwconTimer | freeInfo | deviceUnlock | done
deriving DecidableEq

/-- `brcmf_pcie_setup` -/
inductive Setup
  | working | fwconTimer | completeAll | consoleRead | fwCrashed | completeFailed
  | releasing (release : Release) | returned
deriving DecidableEq

/-- A thread: setup, or one of those that unbind the device. -/
abbrev Thread (ι : Type) : Type := Option ι

structure State (ι : Type) where
  setup : Setup
  unbinding : ι → Release
  deviceLock : Option (Thread ι)
  bound : Bool
  setupDone : Bool
  freed : Nat
  /-- `devinfo` was used after it was freed. -/
  faulted : Bool

inductive Move (ι : Type)
  | thread (t : Thread ι)
  /-- Setup uses the state once more. -/
  | work
  | outcome (failed : Bool)

variable {ι : Type} [DecidableEq ι]

def State.start : State ι := ⟨.working, fun _ => .deviceLock, none, true, false, 0, false⟩

namespace State

def use (s : State ι) : State ι := { s with faulted := s.faulted || s.freed ≠ 0 }

/-- Where a thread is in the release of the driver, if it is there. -/
def release? (s : State ι) : Thread ι → Option Release
  | some i => some (s.unbinding i)
  | .none => match s.setup with
    | .releasing r => some r
    | _ => none

def setRelease (s : State ι) (t : Thread ι) (r : Release) : State ι :=
  match t with
  | some i => { s with unbinding := Function.update s.unbinding i r }
  | .none => { s with setup := .releasing r }

/-- One step of `device_release_driver`, which removes the driver while it is bound. -/
def releaseStep (fence : Fence) (s : State ι) (t : Thread ι) : Release → Option (State ι)
  | .deviceLock => match s.deviceLock with
    | .none => some ({ s with deviceLock := some t }.setRelease t .unbind)
    | some _ => none
  | .unbind =>
    if !s.bound then some (s.setRelease t .deviceUnlock)
    else if fence = .none then some ({ s with bound := false }.setRelease t .consoleRead)
    else some ({ s with bound := false }.setRelease t .waitForCompletion)
  | .waitForCompletion => if s.setupDone then some (s.use.setRelease t .consoleRead) else none
  | .consoleRead => some (s.use.setRelease t .fwconTimer)
  | .fwconTimer => some (s.use.setRelease t .freeInfo)
  | .freeInfo => some ({ s with freed := s.freed + 1 }.setRelease t .deviceUnlock)
  | .deviceUnlock => some ({ s with deviceLock := none }.setRelease t .done)
  | .done => none

def complete (s : State ι)
    (after : Setup) : State ι := { s.use with setupDone := true, setup := after }

/-- One step of setup once its outcome is known. -/
def setupStep (fence : Fence) (s : State ι) : Setup → Option (State ι)
  | .working | .returned => none
  | .fwconTimer => some { s.use with setup := if fence = .none then .returned else .completeAll }
  | .completeAll => some (s.complete .returned)
  | .consoleRead => some { s.use with setup := .fwCrashed }
  | .fwCrashed =>
    some { s.use with
      setup := if fence = .signalFirst then .completeFailed else .releasing .deviceLock }
  | .completeFailed =>
      some (s.complete (if fence = .signalFirst then .releasing .deviceLock else .returned))
  | .releasing .done =>
      some { s with setup := if fence = .signalLast then .completeFailed else .returned }
  | .releasing r => s.releaseStep fence .none r

def move (fence : Fence) (s : State ι) : Move ι → Option (State ι)
  | .thread (some i) => s.releaseStep fence (some i) (s.unbinding i)
  | .thread .none => s.setupStep fence s.setup
  | .work => if s.setup = .working then some s.use else none
  | .outcome failed =>
    if s.setup = .working then some { s with setup := if failed then .consoleRead else .fwconTimer }
    else none

def finished (s : State ι) : Thread ι → Prop
  | some i => s.unbinding i = .done
  | .none => s.setup = .returned

end State

/-! ### Places -/

/-- Under the device lock. -/
def Release.inside : Release → Bool
  | .deviceLock | .done => false
  | _ => true

/-- In `brcmf_pcie_remove`, up to the end of the state. -/
def Release.removing : Release → Bool
  | .waitForCompletion | .consoleRead | .fwconTimer | .freeInfo => true
  | _ => false

def Release.waited : Release → Bool
  | .consoleRead | .fwconTimer | .freeInfo => true
  | _ => false

/-- The driver has been removed, by this thread or another. -/
def Release.past : Release → Bool
  | .deviceUnlock | .done => true
  | _ => false

def Setup.signalled : Setup → Bool
  | .returned | .releasing _ => true
  | _ => false

namespace State

variable {s s' : State ι} {t t' : Thread ι} {r r' : Release}

@[simp] theorem setRelease_deviceLock : (s.setRelease t r).deviceLock = s.deviceLock := by cases t <;> rfl
@[simp] theorem setRelease_bound : (s.setRelease t r).bound = s.bound := by cases t <;> rfl
@[simp] theorem setRelease_setupDone : (s.setRelease t r).setupDone = s.setupDone := by cases t <;> rfl
@[simp] theorem setRelease_freed : (s.setRelease t r).freed = s.freed := by cases t <;> rfl
@[simp] theorem setRelease_faulted : (s.setRelease t r).faulted = s.faulted := by cases t <;> rfl

theorem release?_setRelease :
    (s.setRelease t r).release? t' = if t' = t then some r else s.release? t' := by
  cases t with
  | none => cases t' <;> rfl
  | some i =>
    cases t' with
    | none => rfl
    | some j => by_cases same : j = i <;> simp [release?, setRelease, same]

omit [DecidableEq ι] in
theorem release?_none (here : s.release? none = some r) : s.setup = .releasing r := by
  cases setup : s.setup <;> simp_all [release?]

theorem setRelease_signalled (here : s.release? t = some r) :
    (s.setRelease t r').setup.signalled = s.setup.signalled := by
  cases t with
  | none => rw [release?_none here]; rfl
  | some i => rfl

/-- What a place in the release of the driver says of the state. -/
structure Place (s : State ι) (t : Thread ι) (r : Release) : Prop where
  inside : r.inside = true ↔ s.deviceLock = some t
  removing : r.removing = true → s.bound = false ∧ s.freed = 0
  waited : r.waited = true → s.setupDone = true
  past : r.past = true → s.bound = false

structure Fenced (s : State ι) : Prop where
  placed : ∀ t r, s.release? t = some r → s.Place t r
  locked : ∀ t, s.deviceLock = some t → ∃ r, s.release? t = some r
  signalled : s.setupDone = s.setup.signalled
  freed : s.freed ≤ 1
  gone : s.freed ≠ 0 → s.bound = false ∧ s.setupDone = true
  owed : s.bound = false → s.freed = 1 ∨ ∃ t r, s.release? t = some r ∧ r.removing = true
  unfaulted : s.faulted = false

omit [DecidableEq ι] in
theorem fenced_start : Fenced (start : State ι) := by
  refine ⟨?_, nofun, rfl, Nat.zero_le _, nofun, nofun, rfl⟩
  rintro (_ | i) r here
  · cases here
  · obtain rfl := Option.some.inj here
    exact ⟨⟨nofun, nofun⟩, nofun, nofun, nofun⟩

omit [DecidableEq ι] in
theorem Place.outside (out : r.inside = false) (unlocked : s.deviceLock ≠ some t)
    (past : r.past = true → s.bound = false) : s.Place t r := by
  refine ⟨⟨fun inside => absurd inside (by simp [out]), fun lock => absurd lock unlocked⟩, ?_, ?_, past⟩
  · intro removing
    cases r <;> simp_all [Release.inside, Release.removing]
  · intro waited
    cases r <;> simp_all [Release.inside, Release.waited]

omit [DecidableEq ι] in
theorem Fenced.use (inv : Fenced s) (live : s.freed = 0) : s.use = s := by
  obtain ⟨-, -, -, -, -, -, unfaulted⟩ := inv
  cases s
  simp_all [State.use]

omit [DecidableEq ι] in
/-- One thread at a time is under the device lock. -/
theorem Fenced.alone (inv : Fenced s) (here : s.release? t = some r) (inside : r.inside = true)
    (there : s.release? t' = some r') (other : t' ≠ t) : r'.inside = false := by
  by_contra also
  have mine := (inv.placed t r here).inside.mp inside
  have theirs := (inv.placed t' r' there).inside.mp (by simpa using also)
  exact other (Option.some.inj (theirs.symm.trans mine))

theorem Place.turn {other : Release} (place : s.Place t' other) :
    (s.setRelease t r).Place t' other := by
  obtain ⟨inside, removing, waited, past⟩ := place
  exact ⟨by simpa using inside, by simpa using removing, by simpa using waited, by simpa using past⟩

/-- A thread goes on in its release, with the shared state as it is after its step. -/
theorem Fenced.turn {m : State ι} (inv : Fenced s) (here : s.release? t = some r)
    (setup : m.setup = s.setup) (unbinding : m.unbinding = s.unbinding)
    (setupDone : m.setupDone = s.setupDone) (own : m.Place t r')
    (others : ∀ t' r', t' ≠ t → s.release? t' = some r' → m.Place t' r')
    (locked : ∀ t', m.deviceLock = some t' → t' = t ∨ s.deviceLock = some t')
    (freed : m.freed ≤ 1) (gone : m.freed ≠ 0 → m.bound = false ∧ s.setupDone = true)
    (owed : m.bound = false → m.freed = 1 ∨ r'.removing = true ∨
      ∃ t' r', t' ≠ t ∧ s.release? t' = some r' ∧ r'.removing = true)
    (unfaulted : m.faulted = false) : Fenced (m.setRelease t r') := by
  have same : m.release? = s.release? := by
    funext t'
    cases t' <;> simp [release?, setup, unbinding]
  refine ⟨fun t' other there => ?_, fun t' lock => ?_, ?_, by simpa using freed, ?_, fun unbound => ?_,
    by simpa using unfaulted⟩
  · rw [release?_setRelease, same] at there
    split at there
    · next mine =>
      obtain rfl := Option.some.inj there
      rw [mine]
      exact own.turn
    · next other => exact (others t' _ other there).turn
  · rw [release?_setRelease, same]
    split
    · exact ⟨r', rfl⟩
    · next other =>
      exact inv.locked t' ((locked t' (by simpa using lock)).resolve_left other)
  · rw [setRelease_setupDone, setRelease_signalled (same ▸ here), setup, setupDone]
    exact inv.signalled
  · simpa [setupDone] using gone
  · rw [setRelease_freed]
    refine (owed (by simpa using unbound)).imp_right fun removing => ?_
    obtain mine | ⟨t', other, away, there, removing⟩ := removing
    · exact ⟨t, r', by simp [release?_setRelease], mine⟩
    · exact ⟨t', other, by simp [release?_setRelease, away, same, there], removing⟩

/-- A step under the device lock. -/
theorem Fenced.stepInside {m : State ι} (inv : Fenced s) (here : s.release? t = some r)
    (inside : r.inside = true) (inside' : r'.inside = true) (setup : m.setup = s.setup)
    (unbinding : m.unbinding = s.unbinding) (setupDone : m.setupDone = s.setupDone)
    (lock : m.deviceLock = s.deviceLock) (unfaulted : m.faulted = s.faulted)
    (removing : r'.removing = true → m.bound = false ∧ m.freed = 0)
    (waited : r'.waited = true → s.setupDone = true) (unbound : s.bound = false → m.bound = false)
    (past : r'.past = true → m.bound = false) (once : m.freed ≤ 1)
    (gone : m.freed ≠ 0 → m.bound = false ∧ s.setupDone = true)
    (owed : m.bound = false → m.freed = 1 ∨ r'.removing = true) : Fenced (m.setRelease t r') := by
  have held : s.deviceLock = some t := (inv.placed t r here).inside.mp inside
  refine inv.turn here setup unbinding setupDone ?_ (fun t' other away there => ?_)
    (fun t' also => ?_)
    once gone (fun free => (owed free).imp_right .inl) (unfaulted.trans inv.unfaulted)
  · exact ⟨by simp [inside', lock, held], removing, by simpa [setupDone] using waited, past⟩
  · have out := inv.alone here inside there away
    refine Place.outside out (fun mine => away ?_) fun gone =>
      unbound ((inv.placed t' other there).past gone)
    exact Option.some.inj (mine.symm.trans (lock.trans held))
  · exact Or.inr (lock ▸ also)

omit [DecidableEq ι] in
/-- Under the lock of an unbound device nobody else removes the driver. -/
theorem Fenced.owed_here (inv : Fenced s) (here : s.release? t = some r) (inside : r.inside = true)
    (unbound : s.bound = false) : s.freed = 1 ∨ r.removing = true := by
  refine (inv.owed unbound).imp_right fun ⟨t', other, there, removing⟩ => ?_
  by_cases same : t' = t
  · obtain rfl := Option.some.inj ((same ▸ there).symm.trans here)
    exact removing
  · have out := inv.alone here inside there same
    cases other <;> simp_all [Release.inside, Release.removing]

theorem Fenced.releaseStep (inv : Fenced s) (here : s.release? t = some r)
    (step : s.releaseStep .signalFirst t r = some s') : Fenced s' := by
  obtain ⟨inside, removing, waited, past⟩ := inv.placed t r here
  cases r with
  | deviceLock =>
    rw [State.releaseStep] at step
    split at step
    · next free =>
      obtain rfl := Option.some.inj step
      refine inv.turn here rfl rfl rfl ⟨by simp [Release.inside], nofun, nofun, nofun⟩
        (fun t' other away there => ?_) (fun t' lock => ?_) inv.freed inv.gone
        (fun unbound => ?_) inv.unfaulted
      · have out : other.inside = false := by
          by_contra also
          have lock := (inv.placed t' other there).inside.mp (by simpa using also)
          exact absurd (free.symm.trans lock) nofun
        exact Place.outside out (fun lock => away (Option.some.inj lock).symm)
          (inv.placed t' other there).past
      · exact .inl (Option.some.inj lock).symm
      · refine (inv.owed unbound).imp_right fun ⟨t', other, there, removing⟩ => .inr ?_
        refine ⟨t', other, fun same => ?_, there, removing⟩
        obtain rfl := Option.some.inj ((same ▸ there).symm.trans here)
        cases removing
    · cases step
  | unbind =>
    rw [State.releaseStep] at step
    cases bound : s.bound with
    | false =>
      obtain rfl := Option.some.inj ((if_pos (by simp [bound])).symm.trans step)
      exact inv.stepInside here rfl rfl rfl rfl rfl rfl rfl nofun nofun id (fun _ => bound) inv.freed
        inv.gone fun _ => .inl ((inv.owed_here here rfl bound).resolve_right nofun)
    | true =>
      have live : s.freed = 0 := by
        by_contra gone
        exact absurd (bound.symm.trans (inv.gone gone).1) nofun
      obtain rfl : { s with bound := false }.setRelease t .waitForCompletion = s' := by
        simpa [bound] using step
      exact inv.stepInside here rfl rfl rfl rfl rfl rfl rfl (fun _ => ⟨rfl, live⟩) nofun (fun _ => rfl)
        nofun inv.freed (fun gone => absurd live gone) fun _ => .inr rfl
  | waitForCompletion =>
    obtain ⟨unbound, live⟩ := removing rfl
    rw [State.releaseStep, inv.use live, Option.ite_none_right_eq_some] at step
    obtain ⟨done, step⟩ := step
    obtain rfl := Option.some.inj step
    exact inv.stepInside here rfl rfl rfl rfl rfl rfl rfl (fun _ => ⟨unbound, live⟩)
      (fun _ => done) id nofun
      inv.freed inv.gone fun _ => .inr rfl
  | consoleRead | fwconTimer =>
    obtain ⟨unbound, live⟩ := removing rfl
    rw [State.releaseStep, inv.use live] at step
    obtain rfl := Option.some.inj step
    exact inv.stepInside here rfl rfl rfl rfl rfl rfl rfl (fun _ => ⟨unbound, live⟩)
      (fun _ => waited rfl) id
      nofun inv.freed inv.gone fun _ => .inr rfl
  | freeInfo =>
    obtain ⟨unbound, live⟩ := removing rfl
    obtain rfl := Option.some.inj step
    exact inv.stepInside here rfl rfl rfl rfl rfl rfl rfl nofun nofun id (fun _ => unbound)
      (by simp [live]) (fun _ => ⟨unbound, waited rfl⟩) fun _ => .inl (by simp [live])
  | deviceUnlock =>
    obtain rfl := Option.some.inj step
    have unbound := past rfl
    refine inv.turn here rfl rfl rfl ⟨by simp [Release.inside], nofun, nofun, fun _ => unbound⟩
      (fun t' other away there => ?_) nofun inv.freed inv.gone
      (fun _ => .inl ((inv.owed_here here rfl unbound).resolve_right nofun)) inv.unfaulted
    exact Place.outside (inv.alone here rfl there away) nofun (inv.placed t' other there).past
  | done => cases step

omit [DecidableEq ι] in
theorem release?_working (working : s.setup.signalled = false) : s.release? none = none := by
  cases setup : s.setup <;> simp_all [release?, Setup.signalled]

omit [DecidableEq ι] in
theorem Fenced.live (inv : Fenced s) (working : s.setup.signalled = false) : s.freed = 0 := by
  by_contra gone
  have done := (inv.gone gone).2
  rw [inv.signalled, working] at done
  cases done

omit [DecidableEq ι] in
/-- A step of setup before it signals. -/
theorem Fenced.setupOn (inv : Fenced s) (working : s.setup.signalled = false) {setup : Setup}
    (still : setup.signalled = false) : Fenced { s.use with setup := setup } := by
  rw [inv.use (inv.live working)]
  have same : ({ s with setup := setup } : State ι).release? = s.release? := by
    funext t
    cases t with
    | none => rw [release?_working working, release?_working still]
    | some i => rfl
  obtain ⟨placed, locked, signalled, freed, gone, owed, unfaulted⟩ := inv
  refine ⟨fun t r here => ?_, same ▸ locked, ?_, freed, gone, same ▸ owed, unfaulted⟩
  · obtain ⟨inside, removing, waited, past⟩ := placed t r (same ▸ here)
    exact ⟨inside, removing, waited, past⟩
  · exact (signalled.trans working).trans still.symm

omit [DecidableEq ι] in
theorem Fenced.complete (inv : Fenced s) (working : s.setup.signalled = false) {setup : Setup}
    (fresh : setup = .returned ∨ setup = .releasing .deviceLock) : Fenced (s.complete setup) := by
  have live := inv.live working
  rw [State.complete, inv.use live]
  obtain ⟨placed, locked, signalled, freed, gone, owed, unfaulted⟩ := inv
  have unlocked : s.deviceLock ≠ some none := by
    intro lock
    obtain ⟨r, here⟩ := locked none lock
    rw [release?_working working] at here
    cases here
  refine ⟨?_, ?_, ?_, freed, fun gone => absurd live gone, fun unbound => .inr ?_, unfaulted⟩
  · rintro (_ | i) r here
    · obtain rfl | rfl := fresh
      · cases here
      · obtain rfl := Option.some.inj here
        exact Place.outside rfl unlocked nofun
    · obtain ⟨inside, removing, waited, past⟩ := placed (some i) r here
      exact ⟨inside, removing, fun _ => rfl, past⟩
  · rintro (_ | i) lock
    · exact absurd lock unlocked
    · exact ⟨s.unbinding i, rfl⟩
  · obtain rfl | rfl := fresh <;> rfl
  · obtain ⟨_ | i, r, here, removing⟩ := (owed unbound).resolve_left (by simp [live])
    · rw [release?_working working] at here
      cases here
    · exact ⟨some i, r, here, removing⟩

omit [DecidableEq ι] in
theorem Fenced.returned (inv : Fenced s) (here : s.setup = .releasing .done) :
    Fenced { s with setup := .returned } := by
  have place : s.release? none = some .done := by simp [release?, here]
  have unlocked : s.deviceLock ≠ some none := fun lock =>
    absurd ((inv.placed _ _ place).inside.mpr lock) nofun
  obtain ⟨placed, locked, signalled, freed, gone, owed, unfaulted⟩ := inv
  refine ⟨?_, ?_, signalled.trans (by rw [here]; rfl), freed, gone, fun unbound => ?_, unfaulted⟩
  · rintro (_ | i) r there
    · cases there
    · obtain ⟨inside, removing, waited, past⟩ := placed (some i) r there
      exact ⟨inside, removing, waited, past⟩
  · rintro (_ | i) lock
    · exact absurd lock unlocked
    · exact ⟨s.unbinding i, rfl⟩
  · refine (owed unbound).imp_right fun ⟨t, r, there, removing⟩ => ?_
    cases t with
    | none =>
      obtain rfl := Option.some.inj (place.symm.trans there)
      cases removing
    | some i => exact ⟨some i, r, there, removing⟩

theorem Fenced.setupStep (inv : Fenced s) (step : s.setupStep .signalFirst s.setup = some s') :
    Fenced s' := by
  cases setup : s.setup with
  | working | returned =>
    rw [setup] at step
    cases step
  | fwconTimer | consoleRead | fwCrashed =>
    rw [setup] at step
    obtain rfl := Option.some.inj step
    exact inv.setupOn (by rw [setup]; rfl) rfl
  | completeAll =>
    rw [setup] at step
    obtain rfl := Option.some.inj step
    exact inv.complete (by rw [setup]; rfl) (.inl rfl)
  | completeFailed =>
    rw [setup] at step
    obtain rfl := Option.some.inj step
    exact inv.complete (by rw [setup]; rfl) (.inr rfl)
  | releasing r =>
    rw [setup] at step
    by_cases last : r = .done
    · subst last
      obtain rfl := Option.some.inj step
      exact inv.returned setup
    · refine inv.releaseStep (t := none) (r := r) (by simp [release?, setup]) ?_
      cases r <;> first | exact step | exact absurd rfl last

theorem Fenced.move {l : Move ι} (inv : Fenced s) (step : s.move .signalFirst l = some s') :
    Fenced s' := by
  cases l with
  | thread t =>
    cases t with
    | none => exact inv.setupStep step
    | some i => exact inv.releaseStep (t := some i) rfl step
  | work =>
    rw [State.move, Option.ite_none_right_eq_some] at step
    obtain ⟨working, step⟩ := step
    obtain rfl := Option.some.inj step
    rw [inv.use (inv.live (by rw [working]; rfl))]
    exact inv
  | outcome failed =>
    rw [State.move, Option.ite_none_right_eq_some] at step
    obtain ⟨working, step⟩ := step
    obtain rfl := Option.some.inj step
    have signalled : s.setup.signalled = false := by rw [working]; rfl
    have on : Fenced { s.use with setup := if failed then .consoleRead else .fwconTimer } :=
      inv.setupOn signalled (by cases failed <;> rfl)
    rwa [inv.use (inv.live signalled)] at on

end State

/-! ### Progress -/

/-- The states that the driver and those that unbind it lead to. -/
abbrev Reached (fence : Fence) : State ι → Prop :=
  Reach (State.move fence) (fun _ _ => True) State.start

theorem Reached.fenced {s : State ι} (reach : Reached .signalFirst s) : s.Fenced :=
  Reach.invariant State.fenced_start (fun _ _ _ inv _ step => inv.move step) reach

section Progress

variable {s : State ι} {t : Thread ι}

/-- Moves that end in a state of `post`. -/
def Leads (s : State ι) (post : State ι → Prop) : Prop :=
  ∃ s', Reach (State.move .signalFirst) (fun _ _ => True) s s' ∧ post s'

theorem Leads.here {post : State ι → Prop} (now : post s) : Leads s post := ⟨s, .start, now⟩

theorem Leads.step {s' : State ι} {post : State ι → Prop} {l : Move ι}
    (step : s.move .signalFirst l = some s') (rest : Leads s' post) : Leads s post := by
  obtain ⟨last, reach, final⟩ := rest
  exact ⟨last, (Reach.start.move trivial step).trans reach, final⟩

theorem Leads.bind {mid post : State ι → Prop} (first : Leads s mid)
    (rest : ∀ s', mid s' → Leads s' post) : Leads s post := by
  obtain ⟨s', reach, known⟩ := first
  obtain ⟨last, onward, final⟩ := rest s' known
  exact ⟨last, reach.trans onward, final⟩

/-- How many steps setup has ahead of it until it signals. -/
def Setup.ahead : Setup → Nat
  | .working => 4
  | .consoleRead => 3
  | .fwCrashed | .fwconTimer => 2
  | .completeAll | .completeFailed => 1
  | .releasing _ | .returned => 0

theorem setup_step (working : s.setup.signalled = false) :
    ∃ l s', s.move .signalFirst l = some s' ∧ s'.setup.ahead < s.setup.ahead := by
  cases setup : s.setup with
  | working =>
    exact ⟨.outcome false, { s with setup := .fwconTimer }, by simp [State.move, setup], by simp [Setup.ahead]⟩
  | fwconTimer | completeAll | consoleRead | fwCrashed | completeFailed =>
    refine ⟨.thread none, _, by rw [State.move, setup, State.setupStep], ?_⟩
    simp [Setup.ahead, State.complete]
  | releasing r | returned => simp [setup, Setup.signalled] at working

theorem leads_signal (inv : s.Fenced) : Leads s fun s' => s'.Fenced ∧ s'.setupDone = true := by
  generalize bound : s.setup.ahead = n
  induction n using Nat.strongRecOn generalizing s with
  | _ n ih =>
    by_cases done : s.setupDone = true
    · exact .here ⟨inv, done⟩
    · obtain ⟨l, s', step, less⟩ := setup_step (s := s) (by rw [← inv.signalled]; simpa using done)
      exact .step step (ih _ (bound ▸ less) (inv.move step) rfl)

/-- How many steps a thread has ahead of it in the release of the driver. -/
def Release.ahead : Release → Nat
  | .deviceLock => 7
  | .unbind => 6
  | .waitForCompletion => 5
  | .consoleRead => 4
  | .fwconTimer => 3
  | .freeInfo => 2
  | .deviceUnlock => 1
  | .done => 0

/-- Setup has signalled, and no other thread has the device lock. -/
structure Free (s : State ι) (t : Thread ι) : Prop where
  fenced : s.Fenced
  done : s.setupDone = true
  lock : s.deviceLock = none ∨ s.deviceLock = some t

theorem move_thread {fence : Fence} {r : Release} (here : s.release? t = some r)
    (ahead : r ≠ .done) :
    s.move fence (.thread t) = s.releaseStep fence t r := by
  cases t with
  | some i =>
    obtain rfl := Option.some.inj here
    rfl
  | none =>
    rw [State.move, State.release?_none here]
    cases r <;> first | rfl | exact absurd rfl ahead

theorem release_step {r : Release} (free : Free s t) (here : s.release? t = some r)
    (ahead : r ≠ .done) :
    ∃ s' r', s.move .signalFirst (.thread t) = some s' ∧ s'.release? t = some r' ∧
      r'.ahead < r.ahead ∧ (s'.deviceLock = none ∨ s'.deviceLock = some t) ∧ s'.setupDone = true := by
  obtain ⟨inv, done, lock⟩ := free
  rw [move_thread here ahead]
  have turned (m : State ι) (r' : Release) : (m.setRelease t r').release? t = some r' := by
    simp [State.release?_setRelease]
  cases r with
  | deviceLock =>
    have unlocked : s.deviceLock = none := by
      refine lock.resolve_right fun mine => ?_
      exact absurd ((inv.placed t _ here).inside.mpr mine) nofun
    exact ⟨_, .unbind, by rw [State.releaseStep, unlocked], turned _ _, by simp [Release.ahead], by simp,
      by simpa using done⟩
  | unbind =>
    cases bound : s.bound with
    | false =>
      exact ⟨s.setRelease t .deviceUnlock, .deviceUnlock, by simp [State.releaseStep, bound], turned _ _,
        by simp [Release.ahead], by simpa using lock, by simpa using done⟩
    | true =>
      exact ⟨{ s with bound := false }.setRelease t .waitForCompletion, .waitForCompletion,
        by simp [State.releaseStep, bound], turned _ _, by simp [Release.ahead], by simpa using lock,
        by simpa using done⟩
  | waitForCompletion =>
    exact ⟨_, .consoleRead, by rw [State.releaseStep, if_pos done], turned _ _, by simp [Release.ahead],
      by simpa [State.use] using lock, by simpa [State.use] using done⟩
  | consoleRead =>
    exact ⟨_, .fwconTimer, rfl, turned _ _, by simp [Release.ahead], by simpa [State.use] using lock,
      by simpa [State.use] using done⟩
  | fwconTimer =>
    exact ⟨_, .freeInfo, rfl, turned _ _, by simp [Release.ahead], by simpa [State.use] using lock,
      by simpa [State.use] using done⟩
  | freeInfo =>
    exact ⟨_, .deviceUnlock, rfl, turned _ _, by simp [Release.ahead], by simpa using lock, by simpa using done⟩
  | deviceUnlock =>
    exact ⟨_, .done, rfl, turned _ _, by simp [Release.ahead], by simp, by simpa using done⟩
  | done => exact absurd rfl ahead

theorem leads_done {r : Release} (free : Free s t) (here : s.release? t = some r) :
    Leads s fun s' => Free s' t ∧ s'.release? t = some .done := by
  generalize bound : r.ahead = n
  induction n using Nat.strongRecOn generalizing s r with
  | _ n ih =>
    by_cases last : r = .done
    · exact .here ⟨free, last ▸ here⟩
    · obtain ⟨s', r', step, there, less, lock, done⟩ := release_step free here last
      exact .step step (ih _ (bound ▸ less) ⟨free.fenced.move step, done, lock⟩ there rfl)

/-- Whoever has the device lock gives it back. -/
theorem leads_unlocked (inv : s.Fenced) :
    Leads s fun s' => s'.Fenced ∧ s'.setupDone = true ∧ s'.deviceLock = none := by
  refine (leads_signal inv).bind fun s ⟨inv, done⟩ => ?_
  cases lock : s.deviceLock with
  | none => exact .here ⟨inv, done, lock⟩
  | some t =>
    obtain ⟨r, here⟩ := inv.locked t lock
    refine (leads_done ⟨inv, done, .inr lock⟩ here).bind fun s' ⟨free, there⟩ => .here ?_
    refine ⟨free.fenced, free.done, free.lock.resolve_right fun mine => ?_⟩
    exact absurd ((free.fenced.placed t _ there).inside.mpr mine) nofun

/-- From any state, every thread can be brought to its end. -/
theorem leads_finished (inv : s.Fenced) (t : Thread ι) : Leads s fun s' => s'.finished t := by
  refine (leads_unlocked inv).bind fun s ⟨inv, done, unlocked⟩ => ?_
  cases t with
  | some i =>
    exact (leads_done ⟨inv, done, .inl unlocked⟩ (t := some i) rfl).bind fun s' ⟨_, there⟩ =>
      .here (Option.some.inj there)
  | none =>
    have signalled : s.setup.signalled = true := inv.signalled.symm.trans done
    cases setup : s.setup with
    | returned => exact .here setup
    | releasing r =>
      have here : s.release? none = some r := by simp [State.release?, setup]
      refine (leads_done ⟨inv, done, .inl unlocked⟩ here).bind fun s' ⟨_, there⟩ => ?_
      have last := State.release?_none there
      have step : s'.move .signalFirst (.thread none) = some { s' with setup := .returned } := by
        rw [State.move, last]
        rfl
      exact .step step (.here rfl)
    | _ => simp [setup, Setup.signalled] at signalled

end Progress

/-- However setup and the threads that unbind the device are interleaved: nobody uses the state once
it is freed, it is freed once by the time a thread has released the driver, and every thread can
still come to its end. -/
theorem firmware_fenced {s : State ι} (reach : Reached .signalFirst s) :
    s.faulted = false ∧ s.freed ≤ 1 ∧
      (∀ i, s.unbinding i = .done → s.deviceLock = none → s.freed = 1) ∧
      ∀ t, ∃ s', Reach (State.move .signalFirst) (fun _ _ => True) s s' ∧ s'.finished t := by
  have inv := reach.fenced
  refine ⟨inv.unfaulted, inv.freed, fun i done unlocked => ?_, leads_finished inv⟩
  refine (inv.owed ((inv.placed (some i) _ (congrArg some done)).past rfl)).resolve_right ?_
  rintro ⟨t, r, here, removing⟩
  have inside : r.inside = true := by
    cases r <;> simp_all [Release.removing, Release.inside]
  exact absurd (unlocked.symm.trans ((inv.placed t r here).inside.mp inside)) nofun

/-- A thread removes the driver while setup fails and then releases the driver itself. -/
def failingSetup : List (Move Unit) :=
  [.work, .thread (some ()), .thread (some ()), .work, .outcome true, .thread none, .thread none,
    .thread none, .thread (some ()), .thread (some ()), .thread (some ()), .thread (some ()),
    .thread (some ()), .thread none, .thread none, .thread none]

theorem firmware_fenced_failing :
    ∃ s, play (State.move .signalFirst) (fun _ _ => True) failingSetup (State.start : State Unit) = some s ∧
      s.setup = .releasing .done ∧ s.unbinding () = .done ∧ s.faulted = false ∧ s.freed ≤ 1 ∧
      (∀ i, s.unbinding i = .done → s.deviceLock = none → s.freed = 1) ∧
      ∀ t, ∃ s', Reach (State.move .signalFirst) (fun _ _ => True) s s' ∧ s'.finished t :=
  have played : play (State.move .signalFirst) (fun _ _ => True) failingSetup State.start = some _ := rfl
  ⟨_, rfl, rfl, rfl, firmware_fenced (Reach.start.play played)⟩

/-- Without the completion the state is freed under the hands of setup. -/
example : (play (State.move .none) (fun _ _ => True)
    [.thread (some ()), .thread (some ()), .thread (some ()), .thread (some ()), .thread (some ()), .work]
    (State.start : State Unit)).map (·.faulted) = some true := rfl

/-- Signalled last of all, the completion leaves setup and the thread that waits for it to each other. -/
example : ((play (State.move .signalLast) (fun _ _ => True)
    [.thread (some ()), .thread (some ()), .outcome true, .thread none, .thread none]
    (State.start : State Unit)).map fun s =>
      [Move.thread none, .thread (some ()), .work, .outcome true, .outcome false].all
        fun l => (s.move .signalLast l).isNone) = some true := rfl

end WinBoot.FirmwareFence
