import Mathlib.Logic.Function.Basic
import WinBoot.Transitions

/-! The script that holds a Wi-Fi session, run any number of times at once. A trap runs between two
commands and ends the shell; a signal without a trap, and a kill, end it where it is. -/

namespace WinBoot.HoldSession
open Transitions

inductive Pc
  | makeState | takeLock | readTimeout | trapExit | setTimeout | startRunner | writePid | trapTerm
  | trapInt | waitRunner
  /-- The trap of TERM or INT; `exiting` if it has broken into the trap of EXIT. -/
  | killRunner (exiting : Bool)
  | awaitRunner (exiting : Bool)
  | killNetwork | killWpa | restoreTimeout | removePid | unlock
  | ended
deriving DecidableEq

inductive Runner
  | absent | alive | gone
deriving DecidableEq

structure Session where
  pc : Pc
  previousTimeout : Nat
  termTrap : Bool
  intTrap : Bool
  /-- The lock directory is its own. -/
  inside : Bool
  /-- The PID of its runner could not be written. -/
  unrecorded : Bool

def Session.start : Session := ⟨.makeState, 0, false, false, false, false⟩

structure State (ι : Type) where
  session : ι → Session
  runner : ι → Runner
  lock : Bool
  timeout : Nat
  pidFile : Option ι

def State.start (ι : Type) (timeout : Nat) : State ι :=
  ⟨fun _ => .start, fun _ => .absent, false, timeout, none⟩

inductive Signal
  | term | int
deriving DecidableEq

inductive Move (ι : Type)
  /-- The next command of a session, and whether it succeeds. -/
  | command (i : ι) (ok : Bool)
  | signal (i : ι) (kind : Signal)
  | kill (i : ι)
  | runnerEnds (i : ι)

namespace State

variable {ι : Type} [DecidableEq ι]

def put (s : State ι) (i : ι) (session : Session) : State ι :=
  { s with session := Function.update s.session i session }

def go (s : State ι) (i : ι) (pc : Pc) : State ι := s.put i { s.session i with pc := pc }

/-- The next command of a session; `set -e` ends the shell where one fails, through the trap of EXIT
once it is set. -/
def command (s : State ι) (i : ι) (ok : Bool) : Option (State ι) :=
  let session := s.session i
  match session.pc with
  | .makeState => some (s.go i (if ok then .takeLock else .ended))
  | .takeLock =>
    if ok ∧ s.lock = false then
      some ({ s with lock := true }.put i { session with pc := .readTimeout, inside := true })
    else some (s.go i .ended)
  | .readTimeout =>
    if ok then some (s.put i { session with pc := .trapExit, previousTimeout := s.timeout })
    else some (s.go i .ended)
  | .trapExit => some (s.go i .setTimeout)
  | .setTimeout =>
    if ok then some ({ s with timeout := 1 }.go i .startRunner) else some (s.go i .killNetwork)
  | .startRunner =>
    if ok then some ({ s with runner := Function.update s.runner i .alive }.go i .writePid)
    else some (s.go i .killNetwork)
  | .writePid =>
    if ok then some ({ s with pidFile := some i }.go i .trapTerm)
    else some (s.put i { session with pc := .killNetwork, unrecorded := true })
  | .trapTerm => some (s.put i { session with pc := .trapInt, termTrap := true })
  | .trapInt => some (s.put i { session with pc := .waitRunner, intTrap := true })
  | .waitRunner => if s.runner i = .alive then none else some (s.go i .killNetwork)
  | .killRunner exiting => some (s.go i (.awaitRunner exiting))
  | .awaitRunner exiting =>
    if s.runner i = .alive then none else some (s.go i (if exiting then .ended else .killNetwork))
  | .killNetwork => some (s.go i .killWpa)
  | .killWpa => some (s.go i .restoreTimeout)
  | .restoreTimeout =>
    if ok then some ({ s with timeout := session.previousTimeout }.go i .removePid)
    else some (s.go i .ended)
  | .removePid =>
    if ok then some ({ s with pidFile := none }.go i .unlock) else some (s.go i .ended)
  | .unlock =>
    if ok then some ({ s with lock := false }.put i { session with pc := .ended, inside := false })
    else some (s.go i .ended)
  | .ended => none

end State

def Session.traps (session : Session) : Signal → Bool
  | .term => session.termTrap
  | .int => session.intTrap

/-- The trap of EXIT has begun. -/
def Pc.cleaning : Pc → Bool
  | .killNetwork | .killWpa | .restoreTimeout | .removePid | .unlock => true
  | .killRunner exiting | .awaitRunner exiting => exiting
  | _ => false

namespace State

variable {ι : Type} [DecidableEq ι]

def move (s : State ι) : Move ι → Option (State ι)
  | .command i ok => s.command i ok
  | .signal i kind =>
    let session := s.session i
    if session.pc = .ended then none
    else if session.traps kind then some (s.go i (.killRunner session.pc.cleaning))
    else some (s.go i .ended)
  | .kill i => some (s.go i .ended)
  | .runnerEnds i =>
    if s.runner i = .alive then some { s with runner := Function.update s.runner i .gone } else none

end State

/-! ### What holds of a session -/

/-- The script is past its lock and has not ended. -/
def Pc.region : Pc → Bool
  | .makeState | .takeLock | .ended => false
  | _ => true

/-- Nothing has been started in the background. -/
def Pc.early : Pc → Bool
  | .makeState | .takeLock | .readTimeout | .trapExit | .setTimeout | .startRunner => true
  | _ => false

/-- No trap has been set. -/
def Pc.bare : Pc → Bool
  | .makeState | .takeLock | .readTimeout => true
  | _ => false

/-- The timeout is as it was found. -/
def Pc.restored : Pc → Bool
  | .readTimeout | .removePid | .unlock => true
  | _ => false

namespace State

variable {ι : Type} {timeout : Nat} {s : State ι} {i j : ι}

structure Sound (timeout : Nat) (s : State ι) (i : ι) : Prop where
  region : (s.session i).pc.region = true → (s.session i).inside = true
  saved : (s.session i).pc.region = true → (s.session i).pc ≠ .readTimeout →
    (s.session i).previousTimeout = timeout
  restored : (s.session i).pc.restored = true → s.timeout = timeout
  cleared : (s.session i).pc = .unlock → s.pidFile = none
  early : (s.session i).pc.early = true → s.runner i = .absent
  alive : s.runner i = .alive → (s.session i).unrecorded = true ∨
    (s.session i).inside = true ∧ (s.session i).pc.cleaning = false
  bare : (s.session i).pc.bare = true → ∀ kind, (s.session i).traps kind = false

/-- The lock directory belongs to one session, and what the sessions change is as it was found while
there is no lock. -/
structure Guarded (timeout : Nat) (s : State ι) : Prop where
  sound : ∀ i, s.Sound timeout i
  locked : ∀ i, (s.session i).inside = true → s.lock = true
  owned : s.lock = true → ∃ i, (s.session i).inside = true
  one : ∀ i j, (s.session i).inside = true → (s.session j).inside = true → i = j
  free : s.lock = false → s.timeout = timeout ∧ s.pidFile = none

theorem restored_region {pc : Pc} (restored : pc.restored = true) : pc.region = true := by
  cases pc <;> simp_all [Pc.restored, Pc.region]

variable [DecidableEq ι]

/-- A session sees of another's step only what changes under the lock. -/
theorem Sound.frame (sound : s.Sound timeout j) {m : State ι} {session : Session} (other : j ≠ i)
    (sessions : m.session = s.session) (runner : m.runner j = s.runner j)
    (shared : (s.session j).inside = true → m.timeout = s.timeout ∧ m.pidFile = s.pidFile) :
    (m.put i session).Sound timeout j := by
  obtain ⟨region, saved, restored, cleared, early, alive, bare⟩ := sound
  have same : (m.put i session).session j = s.session j := by simp [put, other, sessions]
  refine ⟨?_, ?_, ?_, ?_, ?_, ?_, ?_⟩ <;> rw [same]
  · exact region
  · exact saved
  · intro back
    exact (shared (region (restored_region back))).1.trans (restored back)
  · intro last
    exact (shared (region (by rw [last]; rfl))).2.trans (cleared last)
  · exact fun begun => runner.trans (early begun)
  · exact fun lives => alive (runner.symm.trans lives)
  · exact bare

theorem put_session {m : State ι} {session : Session} :
    (m.put i session).session j = if j = i then session else m.session j := by
  by_cases same : j = i <;> simp [put, same]

/-- A step that neither takes nor gives back the lock. -/
theorem Guarded.on (inv : s.Guarded timeout) {m : State ι} {session : Session}
    (sessions : m.session = s.session) (runners : ∀ j, j ≠ i → m.runner j = s.runner j)
    (lock : m.lock = s.lock) (inside : session.inside = (s.session i).inside)
    (shared : m.timeout = s.timeout ∧ m.pidFile = s.pidFile ∨ (s.session i).inside = true)
    (own : (m.put i session).Sound timeout i) : (m.put i session).Guarded timeout := by
  obtain ⟨sound, locked, owned, one, free⟩ := inv
  have insides (j : ι) : ((m.put i session).session j).inside = (s.session j).inside := by
    rw [put_session, sessions]
    split
    · next same => rw [same, inside]
    · rfl
  refine ⟨fun j => ?_, fun j => ?_, fun held => ?_, fun j k => ?_, fun open_ => ?_⟩
  · by_cases other : j = i
    · exact other ▸ own
    · refine (sound j).frame other sessions (runners j other) fun here => ?_
      exact shared.resolve_right fun mine => other (one j i here mine)
  · rw [insides]
    exact fun here => lock.trans (locked j here)
  · obtain ⟨j, here⟩ := owned (lock.symm.trans held)
    exact ⟨j, (insides j).trans here⟩
  · rw [insides, insides]
    exact one j k
  · have open_ : s.lock = false := lock.symm.trans open_
    obtain ⟨timeouts, pids⟩ := shared.resolve_right fun mine =>
      absurd (open_.symm.trans (locked i mine)) nofun
    exact ⟨timeouts.trans (free open_).1, pids.trans (free open_).2⟩

theorem Guarded.acquire (inv : s.Guarded timeout) {session : Session} (open_ : s.lock = false)
    (inside : session.inside = true)
    (own : ({ s with lock := true }.put i session).Sound timeout i) :
    ({ s with lock := true }.put i session).Guarded timeout := by
  obtain ⟨sound, locked, owned, one, free⟩ := inv
  have outside (j : ι) : (s.session j).inside = false := by
    by_contra here
    exact absurd (open_.symm.trans (locked j (by simpa using here))) nofun
  refine ⟨fun j => ?_, fun _ _ => rfl, fun _ => ⟨i, by simp [put, inside]⟩, fun j k => ?_, nofun⟩
  · by_cases other : j = i
    · exact other ▸ own
    · exact (sound j).frame other rfl rfl fun _ => ⟨rfl, rfl⟩
  · rw [put_session, put_session]
    split
    · next mine =>
      split
      · next yours => exact fun _ _ => mine.trans yours.symm
      · exact fun _ here => absurd here (by simp [outside])
    · exact fun here => absurd here (by simp [outside])

theorem Guarded.release (inv : s.Guarded timeout) {session : Session}
    (inside : (s.session i).inside = true) (outside : session.inside = false)
    (back : s.timeout = timeout) (cleared : s.pidFile = none)
    (own : ({ s with lock := false }.put i session).Sound timeout i) :
    ({ s with lock := false }.put i session).Guarded timeout := by
  obtain ⟨sound, locked, owned, one, free⟩ := inv
  have alone (j : ι) : (({ s with lock := false }.put i session).session j).inside = false := by
    rw [put_session]
    split
    · exact outside
    · next other =>
      by_contra here
      exact other (one j i (by simpa using here) inside)
  refine ⟨fun j => ?_, fun j here => ?_, nofun, fun j k here => ?_, fun _ => ⟨back, cleared⟩⟩
  · by_cases other : j = i
    · exact other ▸ own
    · exact (sound j).frame other rfl rfl fun _ => ⟨rfl, rfl⟩
  · exact absurd here (by simp [alone])
  · exact absurd here (by simp [alone])

theorem sound_put {m : State ι} {session : Session}
    (region : session.pc.region = true → session.inside = true)
    (saved : session.pc.region = true → session.pc ≠ .readTimeout → session.previousTimeout = timeout)
    (restored : session.pc.restored = true → m.timeout = timeout)
    (cleared : session.pc = .unlock → m.pidFile = none)
    (early : session.pc.early = true → m.runner i = .absent)
    (alive : m.runner i = .alive → session.unrecorded = true ∨
      session.inside = true ∧ session.pc.cleaning = false)
    (bare : session.pc.bare = true → ∀ kind, session.traps kind = false) :
    (m.put i session).Sound timeout i := by
  have same : (m.put i session).session i = session := by simp [put]
  refine ⟨?_, ?_, ?_, ?_, ?_, ?_, ?_⟩ <;> rw [same] <;> assumption

/-- A step that only goes on in the script, or leaves it. -/
theorem Guarded.goes (inv : s.Guarded timeout) {pc : Pc}
    (region : pc.region = true → (s.session i).pc.region = true ∧ (s.session i).pc ≠ .readTimeout)
    (unrestored : pc.restored = false) (early : pc.early = true → s.runner i = .absent)
    (cleaning : pc.cleaning = true → (s.session i).pc.cleaning = true ∨ s.runner i ≠ .alive)
    (bare : pc.bare = true → (s.session i).pc.bare = true) : (s.go i pc).Guarded timeout := by
  obtain ⟨region', saved, restored, cleared, early', alive, bare'⟩ := inv.sound i
  refine inv.on rfl (fun _ _ => rfl) rfl rfl (.inl ⟨rfl, rfl⟩) (sound_put (fun inside => ?_)
    (fun inside _ => ?_) (fun back => ?_) (fun last => ?_) early (fun lives => ?_)
    fun now => bare' (bare now))
  · exact region' (region inside).1
  · exact saved (region inside).1 (region inside).2
  · exact absurd (unrestored.symm.trans back) nofun
  · obtain rfl : pc = .unlock := last
    cases unrestored
  · refine (alive lives).imp_right fun ⟨inside, before⟩ => ⟨inside, ?_⟩
    by_contra now
    obtain also | dead := cleaning (by simpa using now)
    · exact absurd (before.symm.trans also) nofun
    · exact dead lives

theorem Guarded.ends (inv : s.Guarded timeout) : (s.go i .ended).Guarded timeout :=
  inv.goes nofun rfl nofun nofun nofun

variable {s' : State ι} {ok : Bool}

theorem Guarded.command (inv : s.Guarded timeout) (step : s.command i ok = some s') :
    s'.Guarded timeout := by
  obtain ⟨region, saved, restored, cleared, early, alive, bare⟩ := inv.sound i
  cases pc : (s.session i).pc with
  | makeState =>
    have on : (s.go i .takeLock).Guarded timeout :=
      inv.goes nofun rfl (fun _ => early (by rw [pc]; rfl)) nofun fun _ => by rw [pc]; rfl
    simp only [State.command, pc, Option.some.injEq] at step
    subst step
    split
    · exact on
    · exact inv.ends
  | takeLock =>
    simp only [State.command, pc] at step
    split at step
    · next taken =>
      obtain rfl := Option.some.inj step
      have unborn := early (by rw [pc]; rfl)
      have original := (inv.free taken.2).1
      refine inv.acquire taken.2 rfl (sound_put (fun _ => rfl) (fun _ other => absurd rfl other)
        (fun _ => original) nofun (fun _ => unborn) (fun lives => ?_) fun _ => bare (by rw [pc]; rfl))
      exact absurd (unborn.symm.trans lives) nofun
    · obtain rfl := Option.some.inj step
      exact inv.ends
  | readTimeout =>
    simp only [State.command, pc] at step
    split at step
    · obtain rfl := Option.some.inj step
      have inside := region (by rw [pc]; rfl)
      refine inv.on rfl (fun _ _ => rfl) rfl rfl (.inr inside) (sound_put (fun _ => inside)
        (fun _ _ => restored (by rw [pc]; rfl)) nofun nofun (fun _ => early (by rw [pc]; rfl))
        (fun lives => ?_) nofun)
      exact (alive lives).imp_right fun _ => ⟨inside, rfl⟩
    · obtain rfl := Option.some.inj step
      exact inv.ends
  | trapExit =>
    simp only [State.command, pc, Option.some.injEq] at step
    subst step
    exact inv.goes (fun _ => by rw [pc]; exact ⟨rfl, nofun⟩) rfl (fun _ => early (by rw [pc]; rfl))
      nofun nofun
  | setTimeout =>
    have inside := region (by rw [pc]; rfl)
    have unborn := early (by rw [pc]; rfl)
    simp only [State.command, pc] at step
    split at step
    · obtain rfl := Option.some.inj step
      refine inv.on rfl (fun _ _ => rfl) rfl rfl (.inr inside) (sound_put (fun _ => inside)
        (fun _ _ => saved (by rw [pc]; rfl) (by rw [pc]; nofun)) nofun nofun
        (fun _ => unborn) (fun lives => ?_) nofun)
      exact absurd (unborn.symm.trans lives) nofun
    · obtain rfl := Option.some.inj step
      exact inv.goes (fun _ => by rw [pc]; exact ⟨rfl, nofun⟩) rfl nofun
        (fun _ => .inr (by rw [unborn]; nofun)) nofun
  | startRunner =>
    have inside := region (by rw [pc]; rfl)
    have unborn := early (by rw [pc]; rfl)
    simp only [State.command, pc] at step
    split at step
    · obtain rfl := Option.some.inj step
      refine inv.on rfl (fun j other => ?_) rfl rfl (.inr inside) (sound_put (fun _ => inside)
        (fun _ _ => saved (by rw [pc]; rfl) (by rw [pc]; nofun)) nofun nofun nofun (fun _ =>
          .inr ⟨inside, rfl⟩) nofun)
      exact Function.update_of_ne other _ _
    · obtain rfl := Option.some.inj step
      exact inv.goes (fun _ => by rw [pc]; exact ⟨rfl, nofun⟩) rfl nofun
        (fun _ => .inr (by rw [unborn]; nofun)) nofun
  | writePid =>
    have inside := region (by rw [pc]; rfl)
    have kept := saved (by rw [pc]; rfl) (by rw [pc]; nofun)
    simp only [State.command, pc] at step
    split at step
    · obtain rfl := Option.some.inj step
      exact inv.on rfl (fun _ _ => rfl) rfl rfl (.inr inside)
        (sound_put (fun _ => inside) (fun _ _ => kept)
        nofun nofun nofun (fun _ => .inr ⟨inside, rfl⟩) nofun)
    · obtain rfl := Option.some.inj step
      exact inv.on rfl (fun _ _ => rfl) rfl rfl (.inr inside)
        (sound_put (fun _ => inside) (fun _ _ => kept)
        nofun nofun nofun (fun _ => .inl rfl) nofun)
  | trapTerm | trapInt =>
    have inside := region (by rw [pc]; rfl)
    have kept := saved (by rw [pc]; rfl) (by rw [pc]; nofun)
    simp only [State.command, pc, Option.some.injEq] at step
    subst step
    exact inv.on rfl (fun _ _ => rfl) rfl rfl (.inr inside)
      (sound_put (fun _ => inside) (fun _ _ => kept)
      nofun nofun nofun (fun lives => (alive lives).imp_right fun _ => ⟨inside, rfl⟩) nofun)
  | waitRunner =>
    simp only [State.command, pc] at step
    split at step
    · cases step
    · next dead =>
      obtain rfl := Option.some.inj step
      exact inv.goes (fun _ => by rw [pc]; exact ⟨rfl, nofun⟩) rfl nofun (fun _ => .inr dead) nofun
  | killRunner exiting =>
    simp only [State.command, pc, Option.some.injEq] at step
    subst step
    exact inv.goes (fun _ => by rw [pc]; exact ⟨rfl, nofun⟩) rfl nofun
      (fun now => .inl (by rw [pc]; exact now)) nofun
  | awaitRunner exiting =>
    simp only [State.command, pc] at step
    split at step
    · cases step
    · next dead =>
      obtain rfl := Option.some.inj step
      split
      · exact inv.ends
      · exact inv.goes (fun _ => by rw [pc]; exact ⟨rfl, nofun⟩) rfl nofun (fun _ => .inr dead) nofun
  | killNetwork | killWpa =>
    simp only [State.command, pc, Option.some.injEq] at step
    subst step
    exact inv.goes (fun _ => by rw [pc]; exact ⟨rfl, nofun⟩) rfl nofun
      (fun _ => .inl (by rw [pc]; rfl)) nofun
  | restoreTimeout =>
    have inside := region (by rw [pc]; rfl)
    have kept := saved (by rw [pc]; rfl) (by rw [pc]; nofun)
    simp only [State.command, pc] at step
    split at step
    · obtain rfl := Option.some.inj step
      refine inv.on rfl (fun _ _ => rfl) rfl rfl (.inr inside)
        (sound_put (fun _ => inside) (fun _ _ => kept)
        (fun _ => kept) nofun nofun (fun lives => .inl ?_) nofun)
      exact (alive lives).resolve_right (by rw [pc]; exact fun both => nomatch both.2)
    · obtain rfl := Option.some.inj step
      exact inv.ends
  | removePid =>
    have inside := region (by rw [pc]; rfl)
    have kept := saved (by rw [pc]; rfl) (by rw [pc]; nofun)
    simp only [State.command, pc] at step
    split at step
    · obtain rfl := Option.some.inj step
      refine inv.on rfl (fun _ _ => rfl) rfl rfl (.inr inside)
        (sound_put (fun _ => inside) (fun _ _ => kept)
        (fun _ => restored (by rw [pc]; rfl)) (fun _ => rfl) nofun (fun lives => .inl ?_) nofun)
      exact (alive lives).resolve_right (by rw [pc]; exact fun both => nomatch both.2)
    · obtain rfl := Option.some.inj step
      exact inv.ends
  | unlock =>
    have inside := region (by rw [pc]; rfl)
    simp only [State.command, pc] at step
    split at step
    · obtain rfl := Option.some.inj step
      refine inv.release inside rfl (restored (by rw [pc]; rfl)) (cleared pc)
        (sound_put nofun nofun nofun nofun nofun (fun lives => .inl ?_) nofun)
      exact (alive lives).resolve_right (by rw [pc]; exact fun both => nomatch both.2)
    · obtain rfl := Option.some.inj step
      exact inv.ends
  | ended => simp [State.command, pc] at step

theorem Guarded.move {l : Move ι} (inv : s.Guarded timeout) (step : s.move l = some s') :
    s'.Guarded timeout := by
  cases l with
  | command i ok => exact inv.command step
  | signal i kind =>
    simp only [State.move] at step
    split at step
    · cases step
    · next running =>
      split at step
      · next trapped =>
        obtain rfl := Option.some.inj step
        have set : (s.session i).pc.bare = false := by
          by_contra bare
          exact absurd (trapped.symm.trans ((inv.sound i).bare (by simpa using bare) kind)) nofun
        refine inv.goes (fun _ => ?_) rfl nofun .inl nofun
        cases pc : (s.session i).pc <;> simp_all [Pc.bare, Pc.region]
      · obtain rfl := Option.some.inj step
        exact inv.ends
  | kill i =>
    obtain rfl := Option.some.inj step
    exact inv.ends
  | runnerEnds i =>
    rw [State.move, Option.ite_none_right_eq_some] at step
    obtain ⟨lives, step⟩ := step
    obtain rfl := Option.some.inj step
    obtain ⟨sound, locked, owned, one, free⟩ := inv
    refine ⟨fun j => ?_, locked, owned, one, free⟩
    obtain ⟨region, saved, restored, cleared, early, alive, bare⟩ := sound j
    refine ⟨region, saved, restored, cleared, fun begun => ?_, fun living => alive ?_, bare⟩
    · have other : j ≠ i := by
        rintro rfl
        exact absurd ((early begun).symm.trans lives) nofun
      exact (Function.update_of_ne other _ _).trans (early begun)
    · by_cases same : j = i
      · exact same ▸ lives
      · exact (Function.update_of_ne same _ _).symm.trans living

omit [DecidableEq ι] in
theorem guarded_start : (start ι timeout).Guarded timeout :=
  ⟨fun _ => ⟨nofun, nofun, nofun, nofun, fun _ => rfl, nofun, fun _ kind => by cases kind <;> rfl⟩,
    nofun, nofun, nofun, fun _ => ⟨rfl, rfl⟩⟩

end State

/-- However many sessions are run, signalled and killed: the lock directory belongs to one of them;
while there is none, the firmware timeout is as it was found and no PID is left; and no two runners
whose PIDs could be written are alive at once, nor is one without the lock. -/
theorem sessions_exclusive {ι : Type} [DecidableEq ι] {timeout : Nat} {s : State ι}
    (reach : Reach State.move (fun _ _ => True) (State.start ι timeout) s) :
    (∀ i j, (s.session i).inside = true → (s.session j).inside = true → i = j) ∧
      (s.lock = false → s.timeout = timeout ∧ s.pidFile = none ∧
        ∀ i, s.runner i = .alive → (s.session i).unrecorded = true) ∧
      ∀ i j, s.runner i = .alive → s.runner j = .alive → (s.session i).unrecorded = false →
        (s.session j).unrecorded = false → i = j := by
  have inv : s.Guarded timeout :=
    Reach.invariant State.guarded_start (fun _ _ _ inv _ step => inv.move step) reach
  have held (i : ι) (lives : s.runner i = .alive) (recorded : (s.session i).unrecorded = false) :
      (s.session i).inside = true :=
    (((inv.sound i).alive lives).resolve_left (by simp [recorded])).1
  refine ⟨inv.one, fun open_ => ⟨(inv.free open_).1, (inv.free open_).2, fun i lives => ?_⟩,
    fun i j lives living recorded written => inv.one i j (held i lives recorded) (held j living written)⟩
  by_contra recorded
  have inside := held i lives (by simpa using recorded)
  exact absurd (open_.symm.trans (inv.locked i inside)) nofun

/-- So many commands of a session, all with success. -/
def succeeding (i : Bool) (n : Nat) : List (Move Bool) := List.replicate n (.command i true)

/-- A session is told to end, its runner goes, and a second session begins. -/
def secondSession : List (Move Bool) :=
  succeeding false 9 ++ [.signal false .term, .signal false .int] ++ succeeding false 1 ++
    [.runnerEnds false] ++ succeeding false 6 ++ succeeding true 9

theorem sessions_exclusive_second : ∃ s, play State.move (fun _ _ => True) secondSession
      (State.start Bool 60) = some s ∧
    (∀ i j, (s.session i).inside = true → (s.session j).inside = true → i = j) ∧
      (s.lock = false → s.timeout = 60 ∧ s.pidFile = none ∧
        ∀ i, s.runner i = .alive → (s.session i).unrecorded = true) ∧
      ∀ i j, s.runner i = .alive → s.runner j = .alive → (s.session i).unrecorded = false →
        (s.session j).unrecorded = false → i = j :=
  have played : play State.move (fun _ _ => True) secondSession (State.start Bool 60) = some _ := rfl
  ⟨_, played, sessions_exclusive (Reach.start.play played)⟩

/-- A session that cannot write the PID of its runner leaves it behind, and another can begin. -/
example : ((play State.move (fun _ _ => True) (succeeding false 6 ++ [.command false false] ++
      succeeding false 5 ++ succeeding true 6) (State.start Bool 60)).map fun s =>
    (s.runner false, s.runner true)) = some (.alive, .alive) := rfl

end WinBoot.HoldSession
