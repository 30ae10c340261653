import Mathlib.Logic.Function.Basic
import Mathlib.Tactic.Common

/-! Replacing a file by writing a sibling and renaming it into place, on a directory that may
lose power between any two file-system steps. Names and bytes are arbitrary; `next` and
`backup` give the sibling written first and the one that keeps the replaced file. -/

namespace WinBoot.AtomicFile

variable {N B : Type}

/-- What each name in the directory holds. -/
abbrev Directory (N B : Type) : Type := N → Option (List B)

inductive FileStep (N B : Type) where
  | create (name : N)
  | append (name : N) (byte : B)
  | publish (next path backup : N)

/-- Opening for creation empties the file; publishing replaces an existing file, keeping it as
the backup, and is a plain rename otherwise. -/
def FileStep.apply [DecidableEq N] : FileStep N B → Directory N B → Directory N B
  | create name, d => Function.update d name (some [])
  | append name byte, d => Function.update d name ((d name).map (· ++ [byte]))
  | publish next path backup, d =>
    match d path with
    | some old =>
      Function.update (Function.update (Function.update d backup (some old)) path (d next)) next none
    | none => Function.update (Function.update d path (d next)) next none

def applyAll [DecidableEq N] (steps : List (FileStep N B)) (d : Directory N B) : Directory N B :=
  steps.foldl (fun d step => step.apply d) d

/-- The protocol: empty the sibling, write it byte by byte, publish it. -/
def writeSteps (next path backup : N) (bytes : List B) : List (FileStep N B) :=
  .create next :: bytes.map (.append next) ++ [.publish next path backup]

@[simp] theorem writeSteps_length (next path backup : N) (bytes : List B) :
    (writeSteps next path backup bytes).length = bytes.length + 2 := by
  simp [writeSteps]

variable [DecidableEq N]

@[simp] theorem applyAll_nil (d : Directory N B) : applyAll [] d = d := rfl

@[simp] theorem applyAll_cons (step : FileStep N B) (steps : List (FileStep N B))
    (d : Directory N B) : applyAll (step :: steps) d = applyAll steps (step.apply d) := rfl

theorem applyAll_append (s t : List (FileStep N B)) (d : Directory N B) :
    applyAll (s ++ t) d = applyAll t (applyAll s d) := List.foldl_append

theorem applyAll_appends (next : N) (written bytes : List B) (d : Directory N B) :
    applyAll (bytes.map (.append next)) (Function.update d next (some written)) =
      Function.update d next (some (written ++ bytes)) := by
  induction bytes generalizing written with
  | nil => simp
  | cons byte bytes ih =>
    have step : (FileStep.append next byte).apply (Function.update d next (some written)) =
        Function.update d next (some (written ++ [byte])) := by
      simp [FileStep.apply]
    rw [List.map_cons, applyAll_cons, step, ih, List.append_assoc]
    rfl

/-- Interrupted anywhere before the publication, only the sibling differs. -/
theorem interrupted_write {next path backup : N} {bytes : List B} {k : Nat}
    (cut : k < (writeSteps next path backup bytes).length) (d : Directory N B) {name : N}
    (other : name ≠ next) :
    applyAll ((writeSteps next path backup bytes).take k) d name = d name := by
  cases k with
  | zero => rfl
  | succ k =>
    have bound : k ≤ (bytes.map (FileStep.append next)).length := by
      simp only [writeSteps_length, List.length_map] at cut ⊢
      omega
    rw [writeSteps, List.cons_append, List.take_succ_cons, List.take_append_of_le_length bound,
      applyAll_cons, ← List.map_take]
    change applyAll _ (Function.update d next (some [])) name = _
    rw [applyAll_appends, Function.update_of_ne other]

/-- The whole protocol leaves the bytes in place and the replaced file as the backup. -/
theorem completed_write {next path backup : N} (apart : next ≠ path)
    (bytes : List B) (d : Directory N B) :
    applyAll (writeSteps next path backup bytes) d =
      Function.update (match d path with
        | some old => Function.update (Function.update d backup (some old)) path (some bytes)
        | none => Function.update d path (some bytes)) next none := by
  have written : applyAll (.create next :: bytes.map (.append next)) d =
      Function.update d next (some bytes) := by
    rw [applyAll_cons]
    change applyAll _ (Function.update d next (some [])) = _
    rw [applyAll_appends, List.nil_append]
  rw [writeSteps, applyAll_append, written, applyAll_cons, applyAll_nil, FileStep.apply,
    Function.update_of_ne apart.symm, Function.update_self]
  cases d path with
  | none =>
    funext name
    by_cases hn : name = next
    · simp [hn]
    · by_cases hp : name = path <;> simp [hn, hp, Function.update_apply]
  | some old =>
    funext name
    by_cases hn : name = next
    · simp [hn]
    · by_cases hp : name = path
      · simp [hp, apart.symm]
      · by_cases hb : name = backup <;> simp [hn, hp, hb, Function.update_apply]

theorem completed_write_path {next path backup : N} (apart : next ≠ path)
    (bytes : List B) (d : Directory N B) :
    applyAll (writeSteps next path backup bytes) d path = some bytes := by
  rw [completed_write apart, Function.update_of_ne apart.symm]
  cases d path <;> simp

theorem completed_write_backup {next path backup : N} (apart : next ≠ path)
    (kept : next ≠ backup) (distinct : backup ≠ path) (bytes : List B) (d : Directory N B) :
    applyAll (writeSteps next path backup bytes) d backup = (d path).or (d backup) := by
  rw [completed_write apart, Function.update_of_ne kept.symm]
  cases d path <;> simp [distinct]

theorem completed_write_other {next path backup : N} (apart : next ≠ path)
    (bytes : List B) (d : Directory N B) {name : N} (hn : name ≠ next) (hp : name ≠ path)
    (hb : name ≠ backup) : applyAll (writeSteps next path backup bytes) d name = d name := by
  rw [completed_write apart, Function.update_of_ne hn]
  cases d path <;> simp [hp, hb]

end WinBoot.AtomicFile
