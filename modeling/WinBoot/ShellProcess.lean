import Mathlib.Logic.Function.Basic
import WinBoot.Throwing

/-! Shell scripts as processes: a program of commands under `set -e`, an EXIT trap, and signals
that are either caught, which means `exit 130`, or end the process where it stands. Processes
run interleaved, command by command, over whatever they share. -/

namespace WinBoot.ShellProcess
open Interaction

/-- A script; what it throws is its exit status. -/
abbrev Shell (C : Type) (α : Type) : Type := Script C (fun _ => Bool) Nat α

/-- A command's answer is whether its status was zero. -/
abbrev ShellEvent (C : Type) : Type := Event C fun _ => Bool

variable {C : Type}

/-- A command whose failure ends the script. -/
def run (c : C) : Shell C Unit := do
  let ok ← Script.ask c
  Script.throwIf (!ok) 1

/-- A command in a condition. -/
def holds (c : C) : Shell C Bool := Script.ask c

/-- `if` without `else`. -/
def whenever (condition : Bool) (body : Shell C Unit) : Shell C Unit :=
  if condition then body else pure ()

/-- The whole script: it ends in an exit status. -/
def Shell.program (script : Shell C Unit) : Prog C (fun _ => Bool) Nat := do
  match ← ExceptT.run script with
  | .ok () => pure 0
  | .error status => pure status

section Rules

variable {σ : Type} (m : Monitor C (fun _ => Bool) σ) {uses : C → Prop}

theorem ensures_run (c : C) (post : σ → Unit → Prop) (s : σ) :
    (run c).Ensures m post s ↔ ∀ ok : Bool, m.admits s ⟨c, ok⟩ →
      m.allows s ⟨c, ok⟩ ∧ (ok = true → post (m.next s ⟨c, ok⟩) ()) := by
  refine forall_congr' fun ok => imp_congr_right fun _ => and_congr_right' ?_
  refine (Script.ensures_throwIf m (!ok) 1 post _).trans ?_
  rw [Bool.not_eq_false']

/-- A script that keeps its obligations does so to its end, whatever it throws. -/
theorem program_safe {script : Shell C Unit} {s : σ}
    (ensures : script.Ensures m (fun _ _ => True) s) :
    script.program.Safe m (fun _ _ => True) s := by
  refine Prog.Safe.bind m ensures ?_
  rintro after (status | ⟨⟩) -
  · trivial
  · trivial

theorem within_run {c : C} (used : uses c) : (run c).Within uses :=
  Script.Within.bind (Script.within_ask used) fun _ => Script.within_throwIf uses _ _

theorem within_holds {c : C} (used : uses c) : (holds c).Within uses := Script.within_ask used

theorem within_whenever {condition : Bool} {body : Shell C Unit} (within : body.Within uses) :
    (whenever condition body).Within uses := by
  cases condition with
  | false => exact Script.within_pure uses ()
  | true => exact within

end Rules

/-- What the `trap` builtin can do. -/
inductive Trap (C : Type) where
  | atExit (handler : Nat → Prog C (fun _ => Bool) Nat)
  | signals
  | clear

structure Process (C : Type) where
  rest : Prog C (fun _ => Bool) Nat
  atExit : Option (Nat → Prog C (fun _ => Bool) Nat)
  caught : Bool

def Process.start (script : Shell C Unit) : Process C := ⟨script.program, none, false⟩

def Process.settle (process : Process C) : Option (Trap C) → Process C
  | none => process
  | some (.atExit handler) => { process with atExit := some handler }
  | some .signals => { process with caught := true }
  | some .clear => { process with atExit := none, caught := false }

@[simp] theorem Process.settle_rest (process : Process C) (trap : Option (Trap C)) :
    (process.settle trap).rest = process.rest := by
  match trap with
  | none => rfl
  | some (.atExit _) => rfl
  | some .signals => rfl
  | some .clear => rfl

/-- One step of one process, with the command it runs, if any. -/
inductive Local (trapOf : C → Option (Trap C)) :
    Process C → Option (ShellEvent C) → Process C → Prop
  | command {c : C} {next : Bool → Prog C (fun _ => Bool) Nat}
    {atExit : Option (Nat → Prog C (fun _ => Bool) Nat)} {caught : Bool} (ok : Bool) :
    Local trapOf ⟨.ask c next, atExit, caught⟩ (some ⟨c, ok⟩)
      (Process.settle ⟨next ok, atExit, caught⟩ (trapOf c))
  | exit {status : Nat} {handler : Nat → Prog C (fun _ => Bool) Nat} {caught : Bool} :
    Local trapOf ⟨.done status, some handler, caught⟩ none ⟨handler status, none, caught⟩
  | signal {rest : Prog C (fun _ => Bool) Nat}
    {atExit : Option (Nat → Prog C (fun _ => Bool) Nat)} :
    Local trapOf ⟨rest, atExit, true⟩ none ⟨.done 130, atExit, true⟩
  | kill (process : Process C) : Local trapOf process none ⟨.done 137, none, false⟩

/-- Runs of any number of processes: `answers` says which statuses a command may have after what
has been run so far. -/
inductive Runs {ι : Type} [DecidableEq ι] (trapOf : C → Option (Trap C))
    (answers : List (ι × ShellEvent C) → ι → ShellEvent C → Prop) (start : ι → Process C) :
    List (ι × ShellEvent C) → (ι → Process C) → Prop
  | start : Runs trapOf answers start [] start
  | silent {trace : List (ι × ShellEvent C)} {processes : ι → Process C} {i : ι}
    {next : Process C} (before : Runs trapOf answers start trace processes)
    (step : Local trapOf (processes i) none next) :
    Runs trapOf answers start trace (Function.update processes i next)
  | command {trace : List (ι × ShellEvent C)} {processes : ι → Process C} {i : ι}
    {event : ShellEvent C} {next : Process C}
    (before : Runs trapOf answers start trace processes)
    (step : Local trapOf (processes i) (some event) next) (answered : answers trace i event) :
    Runs trapOf answers start (trace ++ [(i, event)]) (Function.update processes i next)

/-- A run passes through the state before each of its commands. -/
theorem Runs.reaches {ι : Type} [DecidableEq ι] {trapOf : C → Option (Trap C)}
    {answers : List (ι × ShellEvent C) → ι → ShellEvent C → Prop} {start : ι → Process C}
    {before after : List (ι × ShellEvent C)} {i : ι} {event : ShellEvent C}
    {processes : ι → Process C}
    (run : Runs trapOf answers start (before ++ (i, event) :: after) processes) :
    ∃ (earlier : ι → Process C) (next : Process C), Runs trapOf answers start before earlier ∧
      Local trapOf (earlier i) (some event) next ∧ answers before i event := by
  generalize whole : before ++ (i, event) :: after = trace at run
  induction run generalizing after with
  | start => simp at whole
  | silent _ _ ih => exact ih whole
  | @command trace processes j event' next run step answered ih =>
    obtain rfl | ⟨shorter, last, rfl⟩ := after.eq_nil_or_concat
    · obtain ⟨rfl, same⟩ := List.append_inj' whole rfl
      simp only [List.cons.injEq, Prod.mk.injEq, and_true] at same
      obtain ⟨rfl, rfl⟩ := same
      exact ⟨processes, next, run, step, answered⟩
    · rw [List.concat_eq_append, ← List.cons_append, ← List.append_assoc] at whole
      exact ih (List.append_inj' whole rfl).1

/-- The commands of a process that goes on alone with these statuses, and where it comes to. -/
def Process.feed (trapOf : C → Option (Trap C)) :
    Process C → List Bool → List (ShellEvent C) × Process C
  | ⟨.ask c next, atExit, caught⟩, ok :: oks =>
    let fed := feed trapOf (Process.settle ⟨next ok, atExit, caught⟩ (trapOf c)) oks
    (⟨c, ok⟩ :: fed.1, fed.2)
  | process, _ => ([], process)

/-- The statuses of a process's next commands are ones they may have. -/
def Answered {ι : Type} (answers : List (ι × ShellEvent C) → ι → ShellEvent C → Prop) (i : ι) :
    List (ι × ShellEvent C) → List (ShellEvent C) → Prop
  | _, [] => True
  | trace, event :: events =>
    answers trace i event ∧ Answered answers i (trace ++ [(i, event)]) events

instance {ι : Type} (answers : List (ι × ShellEvent C) → ι → ShellEvent C → Prop)
    [∀ trace i event, Decidable (answers trace i event)] (i : ι) :
    ∀ trace events, Decidable (Answered answers i trace events)
  | _, [] => inferInstanceAs (Decidable True)
  | trace, event :: events =>
    let _ := instDecidableAnswered answers i (trace ++ [(i, event)]) events
    inferInstanceAs (Decidable (_ ∧ _))

/-- A process that goes on alone. -/
theorem Runs.feed {ι : Type} [DecidableEq ι] {trapOf : C → Option (Trap C)}
    {answers : List (ι × ShellEvent C) → ι → ShellEvent C → Prop} {start : ι → Process C}
    {trace : List (ι × ShellEvent C)} {processes : ι → Process C} (i : ι) (oks : List Bool)
    (run : Runs trapOf answers start trace processes)
    (answered : Answered answers i trace ((processes i).feed trapOf oks).1) :
    Runs trapOf answers start (trace ++ ((processes i).feed trapOf oks).1.map (i, ·))
      (Function.update processes i ((processes i).feed trapOf oks).2) := by
  induction oks generalizing trace processes with
  | nil => simpa [Process.feed] using run
  | cons ok oks ih =>
    match here : processes i with
    | ⟨.done status, atExit, caught⟩ =>
      simpa [Process.feed, ← here] using run
    | ⟨.ask c next, atExit, caught⟩ =>
      rw [here] at answered
      simp only [Process.feed] at answered ⊢
      have step : Local trapOf (processes i) (some ⟨c, ok⟩)
          (Process.settle ⟨next ok, atExit, caught⟩ (trapOf c)) := by
        rw [here]
        exact .command ok
      have rest := ih (run.command step answered.1)
      simp only [Function.update_self, Function.update_idem] at rest
      simpa using rest answered.2

end WinBoot.ShellProcess
