import WinBoot.RamScripts

/-! The lock directory that the snapshot and restore scripts share, for any number of them running
interleaved and ending anywhere. Each process has a stage that its own commands determine; the
stages of a script's commands are checked along the script, and the lock belongs to the one
process whose stage owns it. -/

namespace WinBoot.StateLock
open Interaction Interaction.Script ShellProcess RamScripts

/-- What a command is to the lock and to what it protects. -/
inductive Role
  | acquire | arm | clear | modify | release | quiet
deriving DecidableEq

def roleOf : Command → Role
  | .makeLock => .acquire
  | .trapExit _ => .arm
  | .trapClear => .clear
  | .makeDirectories _ | .receiveArchive | .extractArchive | .remove _ | .move _ _ | .copyHome
  | .makeParent _ | .copyFile _ | .protect _ => .modify
  | .removeLockDirectory | .removeLock => .release
  | _ => .quiet

/-- The state directories, the inside of the lock directory or the lock directory itself. -/
def Touches (c : Command) : Prop := roleOf c = .modify ∨ roleOf c = .release

instance (c : Command) : Decidable (Touches c) := inferInstanceAs (Decidable (_ ∨ _))

abbrev RamEvent : Type := ShellEvent Command

section Lock

variable {ι : Type}

inductive Lock (ι : Type) where
  | absent
  | left
  | made (i : ι)
deriving DecidableEq

/-- Whether the lock is owned by who has just run a command of this role. -/
def Role.ownsNext (role : Role) (ok owns : Bool) : Bool :=
  match role, ok with
  | acquire, true => true
  | release, true => false
  | _, _ => owns

/-- `mkdir` and the two removals, when they succeed. -/
def Lock.next (lock : Lock ι) (i : ι) (event : RamEvent) : Lock ι :=
  match roleOf event.1, event.2 with
  | .acquire, true => made i
  | .release, true => absent
  | _, _ => lock

def lockAfter (start : Lock ι) (trace : List (ι × RamEvent)) : Lock ι :=
  trace.foldl (fun lock e => lock.next e.1 e.2) start

/-- `mkdir` is atomic: it succeeds only where there is nothing. -/
def Answers (start : Lock ι) (trace : List (ι × RamEvent)) (_ : ι) (event : RamEvent) : Prop :=
  roleOf event.1 = .acquire → event.2 = true → lockAfter start trace = .absent

variable [DecidableEq ι]

instance (start : Lock ι) (trace : List (ι × RamEvent)) (i : ι) (event : RamEvent) :
    Decidable (Answers start trace i event) := inferInstanceAs (Decidable (_ → _ → _))

/-- Whether a process is past its lock acquisition, by its own commands. -/
def insideNext (i : ι) (inside : Bool) (e : ι × RamEvent) : Bool :=
  if e.1 = i then (roleOf e.2.1).ownsNext e.2.2 inside else inside

def inside (i : ι) (trace : List (ι × RamEvent)) : Bool := trace.foldl (insideNext i) false

/-- A process has tried to acquire the lock and failed. -/
def Failed (i : ι) (trace : List (ι × RamEvent)) : Prop :=
  ∃ c, roleOf c = .acquire ∧ (i, ⟨c, false⟩) ∈ trace

end Lock

/-! The stages of one process. -/

inductive Stage
  | before | failed | held | armed | ending | released
deriving DecidableEq

def Stage.owns : Stage → Bool
  | held | armed | ending => true
  | _ => false

def Stage.allows : Stage → Role → Bool
  | before, role => role = .acquire || role = .quiet
  | held, role => role = .arm || role = .quiet
  | armed, role => role = .modify || role = .quiet
  | ending, role => role = .clear || role = .modify || role = .release || role = .quiet
  | _, role => role = .quiet

def Stage.next : Stage → Role → Bool → Stage
  | before, .acquire, true => held
  | before, .acquire, false => failed
  | held, .arm, _ => armed
  | ending, .release, true => released
  | stage, _, _ => stage

def watch : Monitor Command (fun _ => Bool) Stage where
  admits _ _ := True
  allows stage event := stage.allows (roleOf event.1)
  next stage event := stage.next (roleOf event.1) event.2

/-- The commands between the trap and the end of a script. -/
def Body (c : Command) : Prop := roleOf c = .modify ∨ roleOf c = .quiet

def Quiet (c : Command) : Prop := roleOf c = .quiet

theorem quiet_inert (stage : Stage) (c : Command) (ok : Bool) (quiet : Quiet c) :
    watch.allows stage ⟨c, ok⟩ ∧ watch.next stage ⟨c, ok⟩ = stage := by
  simp only [watch, Quiet] at quiet ⊢
  rw [quiet]
  cases stage <;> exact ⟨rfl, rfl⟩

theorem body_inert (c : Command) (ok : Bool) (body : Body c) :
    watch.allows .armed ⟨c, ok⟩ ∧ watch.next .armed ⟨c, ok⟩ = .armed := by
  simp only [watch]
  obtain modify | quiet := body
  · rw [modify]
    exact ⟨rfl, rfl⟩
  · rw [quiet]
    exact ⟨rfl, rfl⟩

theorem ending_inert (c : Command) (ok : Bool) (body : Body c) :
    watch.allows .ending ⟨c, ok⟩ ∧ watch.next .ending ⟨c, ok⟩ = .ending := by
  simp only [watch]
  obtain modify | quiet := body
  · rw [modify]
    exact ⟨rfl, rfl⟩
  · rw [quiet]
    exact ⟨rfl, rfl⟩

/-! The parts of the scripts, by the commands they use. -/

section Parts

variable {uses : Command → Prop}

theorem within_ramGuard : ramGuard.Within Quiet := by
  have line (text : String) : (run (Command.guard text)).Within Quiet := within_run rfl
  refine Within.bind (Within.forM line _) fun _ => ?_
  refine Within.bind (within_run rfl) fun _ => ?_
  exact Within.bind (within_run rfl) fun _ => within_run rfl

theorem within_selectFile (file : HomeFile) : (selectFile file).Within Body := by
  refine Within.bind (within_holds (.inr rfl)) fun _ => within_whenever ?_
  exact Within.bind (within_run (.inr rfl)) fun _ => within_run (.inr rfl)

theorem within_refuseSpecial (place : Place) (status : Nat) :
    (refuseSpecial place status).Within Body :=
  Within.bind (within_holds (.inr rfl)) fun _ => within_throwIf Body _ _

theorem within_unlessNot (condition : Condition) {command : Command} (body : Body command) :
    (unlessNot condition command).Within Body :=
  Within.bind (within_holds (.inr rfl)) fun _ => within_whenever (within_run body)

theorem within_ifTest (condition : Condition) {body : RamShell Unit} (within : body.Within Body) :
    (ifTest condition body).Within Body :=
  Within.bind (within_holds (.inr rfl)) fun _ => within_whenever within

theorem within_reserveSpace : reserveSpace.Within Body := by
  refine Within.bind (within_holds (.inr rfl)) fun _ => ?_
  refine Within.bind (within_whenever (within_run (.inr rfl))) fun _ => ?_
  exact Within.bind (within_run (.inr rfl)) fun _ => within_run (.inr rfl)

theorem within_unpackArchive : unpackArchive.Within Body := by
  refine Within.bind (within_run (.inl rfl)) fun _ => ?_
  refine Within.bind (within_run (.inl rfl)) fun _ => ?_
  refine Within.bind (within_run (.inr rfl)) fun _ => ?_
  refine Within.bind (within_run (.inr rfl)) fun _ => ?_
  refine Within.bind (within_run (.inl rfl)) fun _ => ?_
  refine Within.bind (within_run (.inl rfl)) fun _ => ?_
  exact Within.bind (within_run (.inr rfl)) fun _ => within_refuseSpecial _ _

theorem within_overlayFile (file : HomeFile) : (overlayFile file).Within Body := by
  refine Within.bind (within_holds (.inr rfl)) fun _ => within_whenever ?_
  refine Within.bind (within_run (.inr rfl)) fun _ => ?_
  refine Within.bind (within_run (.inl rfl)) fun _ => ?_
  exact Within.bind (within_run (.inl rfl)) fun _ => within_run (.inl rfl)

theorem within_prepareTrees : prepareTrees.Within Body := by
  refine Within.bind (within_run (.inr rfl)) fun _ => ?_
  refine Within.bind (within_run (.inr rfl)) fun _ => ?_
  refine Within.bind (within_run (.inr rfl)) fun _ => ?_
  refine Within.bind (within_run (.inl rfl)) fun _ => ?_
  refine Within.bind (within_run (.inl rfl)) fun _ => ?_
  refine Within.bind (within_unlessNot _ (.inl rfl)) fun _ => ?_
  refine Within.bind (within_refuseSpecial _ _) fun _ => ?_
  refine Within.bind (Within.forM within_overlayFile _) fun _ => ?_
  exact Within.bind (within_run (.inl rfl)) fun _ => within_unlessNot _ (.inl rfl)

theorem within_exchangeTrees : exchangeTrees.Within Body := by
  refine Within.bind (within_unlessNot _ (.inl rfl)) fun _ => ?_
  refine Within.bind (within_unlessNot _ (.inl rfl)) fun _ => ?_
  refine Within.bind (within_run (.inl rfl)) fun _ => ?_
  refine Within.bind (within_run (.inr rfl)) fun _ => ?_
  refine Within.bind (within_run (.inl rfl)) fun _ => ?_
  refine Within.bind (within_run (.inr rfl)) fun _ => ?_
  refine Within.bind (within_run (.inr rfl)) fun _ => ?_
  exact Within.bind (within_run (.inl rfl)) fun _ => within_run (.inr rfl)

theorem within_moveBack (source target : Place) (status : Nat) :
    (moveBack source target status).Within Body :=
  Within.bind (within_holds (.inl rfl)) fun _ => within_throwIf Body _ _

theorem within_restoreOld : restoreOld.Within Body := by
  refine Within.bind (within_ifTest _ (within_run (.inl rfl))) fun _ => ?_
  refine Within.bind (within_ifTest _ (within_run (.inl rfl))) fun _ => ?_
  exact Within.bind (within_ifTest _ (within_moveBack _ _ _)) fun _ =>
    within_ifTest _ (within_moveBack _ _ _)

end Parts

/-! A script's stages, and those of its trap. -/

theorem armed_ensures {body : RamShell Unit} (within : body.Within Body) :
    body.Ensures watch (fun stage _ => stage = .armed) .armed :=
  within.ensures body_inert

theorem body_ensures {body : RamShell Unit} (within : body.Within Body) :
    body.Ensures watch (fun _ _ => True) .armed :=
  (armed_ensures within).mono watch fun _ _ _ => trivial

/-- A script up to its traps: the lock is acquired and the trap is set, or it is over. -/
theorem locked_ensures (operation : Operation) {body : RamShell Unit} (within : body.Within Body) :
    (do ramGuard; run .makeLock; run (.trapExit operation); run .trapSignals; body :
      RamShell Unit).Ensures watch (fun _ _ => True) .before := by
  refine Ensures.bind watch (within_ramGuard.ensures (quiet_inert .before)) ?_
  rintro _ - rfl
  refine Ensures.through watch (fun stage _ => stage = .held) ?_ ?_
  · refine (ensures_run watch _ _ _).mpr fun ok _ => ⟨rfl, ?_⟩
    rintro rfl
    rfl
  · rintro _ - rfl
    refine Ensures.through watch (fun stage _ => stage = .armed) ?_ ?_
    · exact (ensures_run watch _ _ _).mpr fun ok _ => ⟨rfl, fun _ => rfl⟩
    · rintro _ - rfl
      refine Ensures.bind watch (armed_ensures (within_run (.inr rfl))) ?_
      rintro _ - rfl
      exact body_ensures within

theorem scriptOf_ensures (operation : Operation) :
    (scriptOf operation).Ensures watch (fun _ _ => True) .before := by
  cases operation with
  | snapshot =>
    refine locked_ensures .snapshot ?_
    refine Within.bind (within_run (.inr rfl)) fun _ => ?_
    refine Within.bind (Within.forM within_selectFile _) fun _ => ?_
    exact Within.bind (within_refuseSpecial _ _) fun _ => within_run (.inr rfl)
  | restore =>
    refine locked_ensures .restore ?_
    refine Within.bind within_reserveSpace fun _ => ?_
    refine Within.bind within_unpackArchive fun _ => ?_
    exact Within.bind within_prepareTrees fun _ => within_exchangeTrees

def handlerOf : Operation → Nat → Prog Command (fun _ => Bool) Nat
  | .snapshot => releaseLock
  | .restore => rollback

theorem handlerOf_safe (operation : Operation) (status : Nat) :
    (handlerOf operation status).Safe watch (fun _ _ => True) .ending := by
  cases operation with
  | snapshot => exact fun ok _ => ⟨rfl, trivial⟩
  | restore =>
    refine program_safe watch ?_
    refine Ensures.through watch (fun stage _ => stage = .ending) ?_ ?_
    · exact (ensures_run watch _ _ _).mpr fun ok _ => ⟨rfl, fun _ => rfl⟩
    · rintro _ - rfl
      refine Ensures.bind watch ((within_holds (.inr rfl)).ensures ending_inert) ?_
      rintro _ opened rfl
      refine Ensures.bind watch ((within_whenever within_restoreOld).ensures ending_inert) ?_
      rintro _ - rfl
      refine Ensures.through watch (fun _ _ => True) ?_ fun stage _ _ => ensures_throw watch _ _ _
      exact (ensures_run watch _ _ _).mpr fun ok _ => ⟨rfl, fun _ => trivial⟩

/-! One process: its stage fits what it has left to run. -/

structure Fits (stage : Stage) (process : Process Command) : Prop where
  rest : process.rest.Safe watch (fun _ _ => True) stage
  atExit : if stage = .armed then ∃ operation, process.atExit = some (handlerOf operation)
    else process.atExit = none

theorem fits_start (operation : Operation) :
    Fits .before (Process.start (scriptOf operation)) :=
  ⟨program_safe watch (scriptOf_ensures operation), rfl⟩

theorem Stage.next_armed {stage : Stage} {role : Role} (ok : Bool) (allowed : stage.allows role)
    (other : role ≠ .arm) : stage.next role ok = .armed ↔ stage = .armed := by
  cases stage <;> cases role <;> cases ok <;> simp_all [Stage.next, Stage.allows]

theorem Fits.unarmed {stage : Stage} {process : Process Command} (fits : Fits stage process)
    (other : stage ≠ .armed) : process.atExit = none := by
  have atExit := fits.atExit
  rwa [if_neg other] at atExit

theorem settle_atExit {c : Command} (arms : ¬∃ operation, c = .trapExit operation)
    (clears : c ≠ .trapClear) (process : Process Command) :
    (process.settle (trapOf c)).atExit = process.atExit := by
  cases c with
  | trapExit operation => exact absurd ⟨operation, rfl⟩ arms
  | trapClear => exact absurd rfl clears
  | _ => rfl

/-- A step without a command keeps who owns the lock. -/
theorem Fits.silent {stage : Stage} {process next : Process Command} (fits : Fits stage process)
    (step : Local trapOf process none next) :
    ∃ stage', Fits stage' next ∧ stage'.owns = stage.owns ∧ (stage.owns ∨ stage' = stage) := by
  cases step with
  | @exit status handler caught =>
    by_cases armed : stage = .armed
    · subst armed
      obtain ⟨operation, same⟩ := fits.atExit
      obtain rfl := Option.some.inj same
      exact ⟨.ending, ⟨handlerOf_safe operation status, rfl⟩, rfl, .inl rfl⟩
    · cases fits.unarmed armed
  | signal => exact ⟨stage, ⟨trivial, fits.atExit⟩, rfl, .inr rfl⟩
  | kill =>
    by_cases armed : stage = .armed
    · subst armed
      exact ⟨.ending, ⟨trivial, rfl⟩, rfl, .inl rfl⟩
    · exact ⟨stage, ⟨trivial, by rw [if_neg armed]⟩, rfl, .inr rfl⟩

/-- A command is one that the stage allows, and leads to the next stage. -/
theorem Fits.command {stage : Stage} {process next : Process Command} {event : RamEvent}
    (fits : Fits stage process) (step : Local trapOf process (some event) next) :
    stage.allows (roleOf event.1) ∧ Fits (stage.next (roleOf event.1) event.2) next := by
  cases step with
  | @command c rest atExit caught ok =>
    obtain ⟨allowed, safe⟩ := fits.rest ok trivial
    refine ⟨allowed, ?_⟩
    by_cases arms : ∃ operation, c = .trapExit operation
    · obtain ⟨operation, rfl⟩ := arms
      obtain rfl : stage = .held := by
        cases stage <;> simp_all [watch, roleOf, Stage.allows]
      refine ⟨?_, operation, by cases operation <;> rfl⟩
      rw [Process.settle_rest]
      exact safe
    · have other : roleOf c ≠ .arm := fun arm => by
        cases c <;> simp_all [roleOf]
      refine ⟨?_, ?_⟩
      · rw [Process.settle_rest]
        exact safe
      · simp only [Stage.next_armed ok allowed other]
        by_cases clears : c = .trapClear
        · subst clears
          have unarmed : stage ≠ .armed := by
            rintro rfl
            cases allowed
          rw [if_neg unarmed]
          rfl
        · rw [settle_atExit arms clears]
          exact fits.atExit

/-! All processes. -/

section Runs

variable {ι : Type} [DecidableEq ι]

/-- Where one process stands in a run. -/
structure Standing (lock : Lock ι) (trace : List (ι × RamEvent)) (i : ι)
    (process : Process Command) (stage : Stage) : Prop where
  fits : Fits stage process
  lock : stage.owns ↔ lock = .made i
  inside : inside i trace = stage.owns
  failed : Failed i trace → stage = .failed
  idle : stage = .before ∨ stage = .failed → ∀ event, (i, event) ∈ trace → ¬Touches event.1

theorem Stage.next_owns {stage : Stage} {role : Role} (ok : Bool) (allowed : stage.allows role) :
    (stage.next role ok).owns = role.ownsNext ok stage.owns := by
  revert allowed
  cases stage <;> cases role <;> cases ok <;> decide

/-- What the lock protects is touched only by its owner. -/
theorem Stage.owns_of_touches {stage : Stage} {role : Role} (allowed : stage.allows role)
    (touches : role = .modify ∨ role = .release) : stage.owns := by
  revert allowed touches
  cases stage <;> cases role <;> decide

/-- Only what has not begun or has failed leads to a stage that has touched nothing. -/
theorem Stage.next_idle {stage : Stage} {role : Role} {ok : Bool} (allowed : stage.allows role)
    (idle : stage.next role ok = .before ∨ stage.next role ok = .failed) :
    (stage = .before ∨ stage = .failed) ∧ role ≠ .modify ∧ role ≠ .release := by
  revert allowed idle
  cases stage <;> cases role <;> cases ok <;> decide

omit [DecidableEq ι] in
theorem Lock.next_made {lock : Lock ι} {i : ι} {owns : Bool} (owned : owns ↔ lock = .made i)
    (event : RamEvent) :
    (roleOf event.1).ownsNext event.2 owns ↔ lock.next i event = .made i := by
  obtain ⟨c, ok⟩ := event
  cases role : roleOf c <;> cases ok <;> simp [Lock.next, Role.ownsNext, role, owned]

omit [DecidableEq ι] in
theorem lockAfter_snoc (start : Lock ι) (trace : List (ι × RamEvent)) (i : ι) (event : RamEvent) :
    lockAfter start (trace ++ [(i, event)]) = (lockAfter start trace).next i event := by
  simp [lockAfter]

theorem inside_snoc (i : ι) (trace : List (ι × RamEvent)) (e : ι × RamEvent) :
    inside i (trace ++ [e]) = insideNext i (inside i trace) e := by
  simp [inside]

variable {lock : Lock ι} {trace : List (ι × RamEvent)} {i : ι} {stage : Stage}
  {process next : Process Command} {event : RamEvent}

theorem Standing.silent (standing : Standing lock trace i process stage)
    (step : Local trapOf process none next) :
    ∃ stage', Standing lock trace i next stage' := by
  obtain ⟨stage', fits, owns, kept⟩ := standing.fits.silent step
  refine ⟨stage', fits, ?_, ?_, ?_, ?_⟩
  · rw [owns]
    exact standing.lock
  · rw [owns]
    exact standing.inside
  · intro failed
    have here := standing.failed failed
    obtain owning | rfl := kept
    · simp [here, Stage.owns] at owning
    · exact here
  · intro idle
    obtain owning | rfl := kept
    · rw [← owns] at owning
      obtain rfl | rfl := idle <;> cases owning
    · exact standing.idle idle

/-- A process that runs a command stands where the command takes it. -/
theorem Standing.command (standing : Standing lock trace i process stage)
    (step : Local trapOf process (some event) next) :
    Standing (lock.next i event) (trace ++ [(i, event)]) i next
      (stage.next (roleOf event.1) event.2) := by
  obtain ⟨allowed, fits⟩ := standing.fits.command step
  have owns := Stage.next_owns event.2 allowed
  refine ⟨fits, ?_, ?_, ?_, ?_⟩
  · rw [owns]
    exact Lock.next_made standing.lock event
  · rw [owns, inside_snoc, insideNext, if_pos rfl, standing.inside]
  · rintro ⟨c, acquires, member⟩
    obtain earlier | here := List.mem_append.mp member
    · have failed := standing.failed ⟨c, acquires, earlier⟩
      rw [failed] at allowed ⊢
      rfl
    · obtain ⟨-, rfl⟩ := Prod.mk.inj (List.mem_singleton.mp here)
      simp only [acquires] at allowed ⊢
      cases stage <;> simp_all [Stage.allows, Stage.next]
  · intro idle other member
    obtain ⟨before, unmodified, unreleased⟩ := Stage.next_idle allowed idle
    obtain earlier | here := List.mem_append.mp member
    · exact standing.idle before other earlier
    · obtain ⟨-, rfl⟩ := Prod.mk.inj (List.mem_singleton.mp here)
      exact not_or.mpr ⟨unmodified, unreleased⟩

/-- Another process's command leaves a process where it stands. -/
theorem Standing.frame {j : ι} {own : Stage} {other : Process Command}
    (standing : Standing lock trace j other own) (apart : i ≠ j)
    (mover : Standing lock trace i process stage) (step : Local trapOf process (some event) next)
    (atomic : roleOf event.1 = .acquire → event.2 = true → lock = .absent) :
    Standing (lock.next i event) (trace ++ [(i, event)]) j other own := by
  obtain ⟨allowed, -⟩ := mover.fits.command step
  have foreign {e : RamEvent} : (j, e) ∈ trace ++ [(i, event)] → (j, e) ∈ trace := by
    intro member
    obtain earlier | here := List.mem_append.mp member
    · exact earlier
    · exact absurd (Prod.mk.inj (List.mem_singleton.mp here)).1.symm apart
  refine ⟨standing.fits, ?_, ?_, ?_, fun idle e member => standing.idle idle e (foreign member)⟩
  · rw [standing.lock, Lock.next]
    split
    · next acquires ok =>
      rw [atomic acquires ok]
      simp [apart]
    · next releases ok =>
      rw [mover.lock.mp (Stage.owns_of_touches allowed (.inr releases))]
      simp [apart]
    · rfl
  · rw [inside_snoc, insideNext, if_neg apart]
    exact standing.inside
  · rintro ⟨c, acquires, member⟩
    exact standing.failed ⟨c, acquires, foreign member⟩

/-- In any run every process stands somewhere. -/
theorem standing (operations : ι → Operation) {start : Lock ι} (unmade : ∀ i, start ≠ .made i)
    {trace : List (ι × RamEvent)} {processes : ι → Process Command}
    (run : Runs trapOf (Answers start) (fun i => Process.start (scriptOf (operations i))) trace
      processes) :
    ∃ stages : ι → Stage, ∀ i, Standing (lockAfter start trace) trace i (processes i) (stages i) := by
  induction run with
  | start =>
    refine ⟨fun _ => .before, fun i => ⟨fits_start _, ?_, rfl, ?_, ?_⟩⟩
    · simp [Stage.owns, lockAfter, unmade i]
    · rintro ⟨c, -, member⟩
      cases member
    · intro _ event member
      cases member
  | @silent trace processes i next before step ih =>
    obtain ⟨stages, here⟩ := ih
    obtain ⟨stage, moved⟩ := (here i).silent step
    refine ⟨Function.update stages i stage, fun j => ?_⟩
    by_cases same : j = i
    · subst same
      simpa using moved
    · rw [Function.update_of_ne same, Function.update_of_ne same]
      exact here j
  | @command trace processes i event next before step answered ih =>
    obtain ⟨stages, here⟩ := ih
    refine ⟨Function.update stages i ((stages i).next (roleOf event.1) event.2), fun j => ?_⟩
    rw [lockAfter_snoc]
    by_cases same : j = i
    · subst same
      simpa using (here j).command step
    · rw [Function.update_of_ne same, Function.update_of_ne same]
      exact (here j).frame (Ne.symm same) (here i) step answered

/-- No two processes are past the acquisition, one that failed to acquire touches nothing, and
what the lock protects is only touched by the process that made it. -/
theorem lock_exclusive (operations : ι → Operation) {start : Lock ι}
    (unmade : ∀ i, start ≠ .made i) {trace : List (ι × RamEvent)} {processes : ι → Process Command}
    (run : Runs trapOf (Answers start) (fun i => Process.start (scriptOf (operations i))) trace
      processes) :
    (∀ i j, inside i trace → inside j trace → i = j) ∧
      (∀ i, Failed i trace → ∀ event, (i, event) ∈ trace → ¬Touches event.1) ∧
      ∀ before i event after, trace = before ++ (i, event) :: after →
        (Touches event.1 → inside i before) ∧
          (roleOf event.1 = .release → lockAfter start before = .made i) := by
  obtain ⟨stages, stands⟩ := standing operations unmade run
  refine ⟨?_, ?_, ?_⟩
  · intro i j insideI insideJ
    rw [(stands i).inside] at insideI
    rw [(stands j).inside] at insideJ
    have lockI := (stands i).lock.mp insideI
    have lockJ := (stands j).lock.mp insideJ
    exact Lock.made.inj (lockI.symm.trans lockJ)
  · intro i failed event member
    exact (stands i).idle (.inr ((stands i).failed failed)) event member
  · rintro before i event after rfl
    obtain ⟨earlier, next, run', step, -⟩ := run.reaches
    obtain ⟨stages', stands'⟩ := standing operations unmade run'
    obtain ⟨allowed, -⟩ := (stands' i).fits.command step
    refine ⟨fun touches => ?_, fun releases => ?_⟩
    · rw [(stands' i).inside]
      exact Stage.owns_of_touches allowed touches
    · exact (stands' i).lock.mp (Stage.owns_of_touches allowed (.inr releases))

end Runs

/-- A snapshot that takes the lock, and a restore that comes too late. -/
def contenders (i : Bool) : Process Command :=
  Process.start (scriptOf (if i then .snapshot else .restore))

def commandsOf (i : Bool) (oks : List Bool) : List (Bool × RamEvent) :=
  ((contenders i).feed trapOf oks).1.map (i, ·)

def taken : List Bool := List.replicate 10 true

def missed : List Bool := List.replicate 9 true ++ [false]

theorem contention_runs : ∃ processes, Runs trapOf (Answers Lock.absent) contenders
    ([] ++ commandsOf true taken ++ commandsOf false missed) processes :=
  ⟨_, (Runs.start.feed true taken (by decide +kernel)).feed false missed (by decide +kernel)⟩

theorem contention_excluded :
    Failed false ([] ++ commandsOf true taken ++ commandsOf false missed) ∧
      ∀ event, (false, event) ∈ [] ++ commandsOf true taken ++ commandsOf false missed →
        ¬Touches event.1 := by
  obtain ⟨processes, run⟩ := contention_runs
  have failed : Failed false ([] ++ commandsOf true taken ++ commandsOf false missed) :=
    ⟨.makeLock, rfl, by decide +kernel⟩
  exact ⟨failed, (lock_exclusive (fun i => if i then .snapshot else .restore) (by simp) run).2.1 false
    failed⟩

end WinBoot.StateLock
