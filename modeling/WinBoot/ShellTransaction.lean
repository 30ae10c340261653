import WinBoot.ShellProcess

/-! A script whose EXIT trap repairs what an interrupted run has left. A state follows the
commands; a run is an execution of the script alone, ended by a failing command, a signal or its
own end. What the script owes at each boundary between two commands is a state that the trap can
repair, and `Alone.recovers` takes this to whole runs. -/

namespace WinBoot.ShellProcess
open Interaction

variable {C σ : Type}

/-- `Script.Ensures` that also asks something of the state in which a script exits early. -/
def Shell.Finishes {α : Type} (m : Monitor C (fun _ => Bool) σ) (ends : σ → Nat → Prop)
    (p : Shell C α) (post : σ → α → Prop) (s : σ) : Prop :=
  (ExceptT.run p).Safe m (fun s r => match r with | .ok a => post s a | .error e => ends s e) s

section Rules

variable {α β : Type} (m : Monitor C (fun _ => Bool) σ) {ends : σ → Nat → Prop}

theorem finishes_pure (a : α) (post : σ → α → Prop) (s : σ) :
    Shell.Finishes m ends (pure a) post s ↔ post s a := Iff.rfl

theorem finishes_throw (status : Nat) (post : σ → α → Prop) (s : σ) :
    Shell.Finishes m ends (throw status : Shell C α) post s ↔ ends s status := Iff.rfl

theorem Shell.Finishes.mono {p : Shell C α} {post post' : σ → α → Prop} {s : σ}
    (finishes : p.Finishes m ends post s) (weaker : ∀ s a, post s a → post' s a) :
    p.Finishes m ends post' s := by
  refine Prog.Safe.mono m finishes ?_
  rintro s (status | a) here
  · exact here
  · exact weaker s a here

theorem Shell.Finishes.bind {p : Shell C α} {f : α → Shell C β} {mid : σ → α → Prop}
    {post : σ → β → Prop} {s : σ} (first : p.Finishes m ends mid s)
    (rest : ∀ s a, mid s a → (f a).Finishes m ends post s) : (p >>= f).Finishes m ends post s := by
  refine Prog.Safe.bind m first ?_
  rintro s (status | a) here
  · exact here
  · exact rest s a here

/-- `Finishes.bind` where what holds between the two parts has to be said. -/
theorem Shell.Finishes.through {p : Shell C α} {f : α → Shell C β} {post : σ → β → Prop} {s : σ}
    (mid : σ → α → Prop) (first : p.Finishes m ends mid s)
    (rest : ∀ s a, mid s a → (f a).Finishes m ends post s) : (p >>= f).Finishes m ends post s :=
  Shell.Finishes.bind m first rest

theorem finishes_holds (c : C) (post : σ → Bool → Prop) (s : σ) :
    Shell.Finishes m ends (holds c) post s ↔ ∀ ok : Bool, m.admits s ⟨c, ok⟩ →
      m.allows s ⟨c, ok⟩ ∧ post (m.next s ⟨c, ok⟩) ok := Iff.rfl

theorem finishes_throwIf (condition : Bool) (status : Nat) (post : σ → Unit → Prop) (s : σ) :
    Shell.Finishes m ends (Script.throwIf condition status) post s ↔
      (condition = true → ends s status) ∧ (condition = false → post s ()) := by
  cases condition with
  | false => simp [Script.throwIf, finishes_pure]
  | true => simp [Script.throwIf, finishes_throw]

theorem finishes_run (c : C) (post : σ → Unit → Prop) (s : σ) :
    Shell.Finishes m ends (run c) post s ↔ ∀ ok : Bool, m.admits s ⟨c, ok⟩ →
      m.allows s ⟨c, ok⟩ ∧
        if ok then post (m.next s ⟨c, ok⟩) () else ends (m.next s ⟨c, ok⟩) 1 := by
  refine forall_congr' fun ok => imp_congr_right fun _ => and_congr_right' ?_
  refine (finishes_throwIf m (!ok) 1 post _).trans ?_
  cases ok <;> simp

theorem finishes_whenever {condition : Bool} {body : Shell C Unit} {post : σ → Unit → Prop} {s : σ}
    (runs : condition = true → body.Finishes m ends post s)
    (skips : condition = false → post s ()) : (whenever condition body).Finishes m ends post s := by
  cases condition with
  | false => exact skips rfl
  | true => exact runs rfl

theorem finishes_forM {f : α → Shell C Unit} (inv : σ → List α → Prop) {items : List α} {s : σ}
    (start : inv s items)
    (each : ∀ s item rest, inv s (item :: rest) →
      (f item).Finishes m ends (fun after _ => inv after rest) s) :
    (items.forM f).Finishes m ends (fun after _ => inv after []) s := by
  induction items generalizing s with
  | nil => exact start
  | cons item items ih =>
      exact Shell.Finishes.bind m (each s item items start) fun _ _ here => ih here

/-- The whole script ends as its last command or its exit does. -/
theorem Shell.Finishes.program {p : Shell C Unit} {final : σ → Nat → Prop} {s : σ}
    (finishes : p.Finishes m final (fun after _ => final after 0) s) :
    p.program.Safe m final s := by
  refine Prog.Safe.bind m finishes ?_
  rintro after (status | ⟨⟩) here
  · exact here
  · exact here

end Rules

/-- A monitor that asks something at each boundary between two commands. -/
def guarding (m : Monitor C (fun _ => Bool) σ) (boundary : σ → C → Prop) :
    Monitor C (fun _ => Bool) σ :=
  { m with allows := fun s event => boundary s event.1 }

/-- The interruptions that a run may contain: where the EXIT trap begins, and where a signal
arrives. -/
structure Interruptions (C σ : Type) where
  exits : σ → Prop
  signals : σ → Process C → Prop

/-- What a process and the state can come to. A signal that is not caught ends the process. -/
inductive Alone (trapOf : C → Option (Trap C)) (m : Monitor C (fun _ => Bool) σ)
    (may : Interruptions C σ) (start : Process C) (initial : σ) : Process C → σ → Prop
  | start : Alone trapOf m may start initial start initial
  | command {c : C} {next : Bool → Prog C (fun _ => Bool) Nat}
    {atExit : Option (Nat → Prog C (fun _ => Bool) Nat)} {caught : Bool} {s : σ} (ok : Bool)
    (before : Alone trapOf m may start initial ⟨.ask c next, atExit, caught⟩ s)
    (admitted : m.admits s ⟨c, ok⟩) :
    Alone trapOf m may start initial (Process.settle ⟨next ok, atExit, caught⟩ (trapOf c))
      (m.next s ⟨c, ok⟩)
  | exit {status : Nat} {handler : Nat → Prog C (fun _ => Bool) Nat} {caught : Bool} {s : σ}
    (before : Alone trapOf m may start initial ⟨.done status, some handler, caught⟩ s)
    (permitted : may.exits s) :
    Alone trapOf m may start initial ⟨handler status, none, caught⟩ s
  | caught {process : Process C} {s : σ} (before : Alone trapOf m may start initial process s)
    (permitted : may.signals s process) (trapped : process.caught = true) :
    Alone trapOf m may start initial ⟨.done 130, process.atExit, true⟩ s
  | killed {process : Process C} {s : σ} (before : Alone trapOf m may start initial process s)
    (permitted : may.signals s process) (untrapped : process.caught = false) :
    Alone trapOf m may start initial ⟨.done 143, none, false⟩ s

/-- The exit status of a process that is over. -/
def Process.result : Process C → Option Nat
  | ⟨.done status, none, _⟩ => some status
  | _ => none

/-- What a script with this trap owes between two commands: a state that the trap can repair,
and no other trap. -/
def Between (trapOf : C → Option (Trap C)) (handler : Nat → Prog C (fun _ => Bool) Nat)
    (armed calm : σ → Prop) (s : σ) (c : C) : Prop :=
  (armed s → calm s) ∧ ∀ trap, trapOf c = some trap → trap = .signals ∨ trap = .atExit handler

/-- Where a process that sets this trap stands: in its own program, or in the trap. -/
inductive Course (trapOf : C → Option (Trap C)) (m : Monitor C (fun _ => Bool) σ)
    (handler : Nat → Prog C (fun _ => Bool) Nat) (armed calm : σ → Prop)
    (final good : σ → Nat → Prop) : Process C → σ → Prop
  | script {rest : Prog C (fun _ => Bool) Nat}
    {atExit : Option (Nat → Prog C (fun _ => Bool) Nat)} {caught : Bool} {s : σ}
    (safe : rest.Safe (guarding m (Between trapOf handler armed calm))
      (fun s status => armed s → calm s ∧ final s status) s)
    (set : armed s → atExit = some handler) (unset : ¬armed s → atExit = none) :
    Course trapOf m handler armed calm final good ⟨rest, atExit, caught⟩ s
  | trap {rest : Prog C (fun _ => Bool) Nat} {caught : Bool} {s : σ}
    (safe : rest.Safe (guarding m fun _ c => ∀ h, trapOf c ≠ some (.atExit h)) good s) :
    Course trapOf m handler armed calm final good ⟨rest, none, caught⟩ s

section Recovery

variable {trapOf : C → Option (Trap C)} {m : Monitor C (fun _ => Bool) σ}
  {may : Interruptions C σ} {handler : Nat → Prog C (fun _ => Bool) Nat}
  {armed calm : σ → Prop} {final good : σ → Nat → Prop} {process : Process C} {s : σ}

theorem Course.of_result {status : Nat}
    (course : Course trapOf m handler armed calm final good process s) (here : armed s)
    (ended : process.result = some status) : good s status := by
  cases course with
  | @script rest atExit _ _ safe set =>
    rw [set here] at ended
    cases rest <;> cases ended
  | @trap rest _ _ safe =>
    cases rest with
    | done status' =>
      obtain rfl : status' = status := by simpa [Process.result] using ended
      exact safe
    | ask => cases ended

/-- Commands that set no trap leave what is armed. -/
theorem armed_kept {c : C} {before after : Bool} (same : after = before)
    (traps : ∀ handler, trapOf c ≠ some (.atExit handler)) :
    after = true ↔ before = true ∨ ∃ handler, trapOf c = some (.atExit handler) := by
  rw [same]
  exact ⟨.inl, fun here => here.resolve_right fun ⟨handler, does⟩ => traps handler does⟩

/-- A command of the script, or of the trap. -/
theorem Course.command {c : C} {next : Bool → Prog C (fun _ => Bool) Nat}
    {atExit : Option (Nat → Prog C (fun _ => Bool) Nat)} {caught : Bool}
    (arms : ∀ s c ok, m.admits s ⟨c, ok⟩ →
      (armed (m.next s ⟨c, ok⟩) ↔ armed s ∨ ∃ h, trapOf c = some (.atExit h)))
    (course : Course trapOf m handler armed calm final good ⟨.ask c next, atExit, caught⟩ s)
    {ok : Bool} (admitted : m.admits s ⟨c, ok⟩) :
    Course trapOf m handler armed calm final good
      (Process.settle ⟨next ok, atExit, caught⟩ (trapOf c)) (m.next s ⟨c, ok⟩) := by
  cases course with
  | script safe set unset =>
    obtain ⟨⟨-, traps⟩, rest⟩ := safe ok admitted
    have later := arms s c ok admitted
    cases does : trapOf c with
    | none =>
      simp only [does, reduceCtorEq, exists_false, or_false] at later
      exact .script rest (fun here => set (later.mp here)) fun out => unset fun here =>
        out (later.mpr here)
    | some trap =>
      obtain rfl | rfl := traps trap does
      · simp only [does, Option.some.injEq, reduceCtorEq, exists_false, or_false] at later
        exact .script rest (fun here => set (later.mp here)) fun out => unset fun here =>
          out (later.mpr here)
      · exact .script rest (fun _ => rfl) fun out => absurd (later.mpr (.inr ⟨handler, does⟩)) out
  | trap safe =>
    obtain ⟨same, rest⟩ := safe ok admitted
    cases does : trapOf c with
    | none => exact .trap rest
    | some trap =>
      cases trap with
      | atExit h => exact absurd does (same h)
      | signals => exact .trap rest
      | clear => exact .trap rest

/-- Between two commands the state can be repaired. -/
theorem calm_of_safe {rest : Prog C (fun _ => Bool) Nat} (answers : ∀ s c, ∃ ok, m.admits s ⟨c, ok⟩)
    (safe : rest.Safe (guarding m (Between trapOf handler armed calm))
      (fun s status => armed s → calm s ∧ final s status) s) (here : armed s) : calm s := by
  cases rest with
  | done status => exact (safe here).1
  | ask c next =>
    obtain ⟨ok, admitted⟩ := answers s c
    exact (safe ok admitted).1.1 here

/-- A run in which signals arrive only in the script, where it can be repaired, is always either
in the script or in a trap that does its work. -/
theorem Alone.course {start : Process C} {initial : σ}
    (arms : ∀ s c ok, m.admits s ⟨c, ok⟩ →
      (armed (m.next s ⟨c, ok⟩) ↔ armed s ∨ ∃ h, trapOf c = some (.atExit h)))
    (answers : ∀ s c, ∃ ok, m.admits s ⟨c, ok⟩)
    (timely : ∀ s process, may.signals s process →
      process.caught = true ∧ process.atExit ≠ none ∧ (calm s → final s 130))
    (repairs : ∀ s status, armed s → final s status → may.exits s →
      (handler status).Safe (guarding m fun _ c => ∀ h, trapOf c ≠ some (.atExit h)) good s)
    (begun : Course trapOf m handler armed calm final good start initial)
    (run : Alone trapOf m may start initial process s) :
    Course trapOf m handler armed calm final good process s := by
  induction run with
  | start => exact begun
  | command ok before admitted ih => exact ih.command arms admitted
  | @exit status _ _ s before permitted ih =>
    cases ih with
    | script safe set unset =>
      by_cases here : armed s
      · obtain rfl := Option.some.inj (set here)
        exact .trap (repairs s status here (safe here).2 permitted)
      · cases unset here
  | @caught process s before permitted trapped ih =>
    obtain ⟨-, inside, interrupted⟩ := timely s process permitted
    cases ih with
    | script safe set unset =>
      refine .script (fun here => ?_) set unset
      have calm := calm_of_safe answers safe here
      exact ⟨calm, interrupted calm⟩
    | trap => exact absurd rfl inside
  | @killed process s before permitted untrapped ih =>
    rw [(timely s process permitted).1] at untrapped
    cases untrapped

end Recovery

/-! Success: no signal and no failure ends in status zero, so a process that does has come to the
end of its script, whatever else was allowed to happen. -/

section Success

variable {trapOf : C → Option (Trap C)} {m : Monitor C (fun _ => Bool) σ}

/-- A script may set this trap and trap signals, and its trap may clear them. -/
def Traps (trapOf : C → Option (Trap C)) (handler : Nat → Prog C (fun _ => Bool) Nat) (_ : σ)
    (c : C) : Prop :=
  ∀ trap, trapOf c = some trap → trap = .signals ∨ trap = .clear ∨ trap = .atExit handler

theorem guarding_mono {boundary boundary' : σ → C → Prop} {α : Type}
    {p : Prog C (fun _ => Bool) α} {post : σ → α → Prop} {s : σ}
    (weaker : ∀ s c, boundary s c → boundary' s c) (safe : p.Safe (guarding m boundary) post s) :
    p.Safe (guarding m boundary') post s := by
  induction p generalizing s with
  | done a => exact safe
  | ask c next ih =>
    intro ok admitted
    obtain ⟨allowed, rest⟩ := safe ok admitted
    exact ⟨weaker s c allowed, ih ok rest⟩

variable {may : Interruptions C σ} {handler : Nat → Prog C (fun _ => Bool) Nat} {good : σ → Prop}

/-- The process succeeds only where it is good. -/
def Succeeding (trapOf : C → Option (Trap C)) (m : Monitor C (fun _ => Bool) σ)
    (handler : Nat → Prog C (fun _ => Bool) Nat) (good : σ → Prop) (process : Process C) (s : σ) :
    Prop :=
  process.rest.Safe (guarding m (Traps trapOf handler)) (fun s status => status = 0 → good s) s ∧
    (process.atExit = none ∨ process.atExit = some handler)

theorem Succeeding.settle {process : Process C} {s : σ} {c : C}
    (succeeding : Succeeding trapOf m handler good process s) (traps : Traps trapOf handler s c) :
    Succeeding trapOf m handler good (process.settle (trapOf c)) s := by
  obtain ⟨safe, set⟩ := succeeding
  refine ⟨by rwa [Process.settle_rest], ?_⟩
  cases does : trapOf c with
  | none => exact set
  | some trap =>
    obtain rfl | rfl | rfl := traps trap does
    · exact set
    · exact .inl rfl
    · exact .inr rfl

theorem Alone.succeeding {start process : Process C} {initial s : σ}
    (repairs : ∀ s status, (status = 0 → good s) → (handler status).Safe
      (guarding m (Traps trapOf handler)) (fun s status => status = 0 → good s) s)
    (begun : Succeeding trapOf m handler good start initial)
    (run : Alone trapOf m may start initial process s) :
    Succeeding trapOf m handler good process s := by
  induction run with
  | start => exact begun
  | command ok before admitted ih =>
    obtain ⟨traps, rest⟩ := ih.1 ok admitted
    exact Succeeding.settle ⟨rest, ih.2⟩ traps
  | exit before permitted ih =>
    obtain ⟨safe, none | set⟩ := ih
    · cases none
    · obtain rfl := Option.some.inj set
      exact ⟨repairs _ _ safe, .inl rfl⟩
  | caught before permitted trapped ih => exact ⟨fun zero => (by cases zero), ih.2⟩
  | killed before permitted untrapped ih => exact ⟨fun zero => (by cases zero), .inl rfl⟩

theorem Succeeding.ended {process : Process C} {s : σ}
    (succeeding : Succeeding trapOf m handler good process s) (success : process.result = some 0) :
    good s := by
  obtain ⟨rest, atExit, caught⟩ := process
  cases rest with
  | ask => cases success
  | done status =>
    cases atExit with
    | some => cases success
    | none =>
      obtain rfl : status = 0 := by simpa [Process.result] using success
      exact succeeding.1 rfl

end Success

/-! Runs against answers that the state determines. -/

section Advance

variable (trapOf : C → Option (Trap C)) (m : Monitor C (fun _ => Bool) σ)
  (may : Interruptions C σ) [DecidablePred may.exits] (answer : σ → C → Bool)

/-- Up to `n` steps without a signal. -/
def advance : Nat → Process C × σ → Process C × σ
  | 0, here => here
  | n + 1, (⟨.ask c next, atExit, caught⟩, s) =>
    advance n (Process.settle ⟨next (answer s c), atExit, caught⟩ (trapOf c),
      m.next s ⟨c, answer s c⟩)
  | n + 1, (⟨.done status, some handler, caught⟩, s) =>
    if may.exits s then advance n (⟨handler status, none, caught⟩, s)
    else (⟨.done status, some handler, caught⟩, s)
  | _, here => here

variable {trapOf m may answer}

theorem Alone.advance {start : Process C} {initial : σ} (n : Nat) {here : Process C × σ}
    (admitted : ∀ s c, m.admits s ⟨c, answer s c⟩)
    (run : Alone trapOf m may start initial here.1 here.2) :
    Alone trapOf m may start initial (advance trapOf m may answer n here).1
      (advance trapOf m may answer n here).2 := by
  induction n generalizing here with
  | zero => exact run
  | succ n ih =>
    match here, run with
    | (⟨.ask c next, atExit, traps⟩, s), run => exact ih (.command _ run (admitted s c))
    | (⟨.done status, some handler, traps⟩, s), run =>
      by_cases permitted : may.exits s
      · simp only [ShellProcess.advance, if_pos permitted]
        exact ih (.exit run permitted)
      · simpa only [ShellProcess.advance, if_neg permitted] using run
    | (⟨.done status, none, traps⟩, s), run => exact run

end Advance

end WinBoot.ShellProcess
