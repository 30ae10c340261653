import WinBoot.AtomicFile

/-! Files that are replaced again and again, each time by a write that may be refused before it starts
or be cut off after any of its steps. -/

namespace WinBoot.WriteHistory
open AtomicFile

/-- A write to a path, and how many of its steps it got to make. -/
structure Write (N B : Type) where
  path : N
  bytes : List B
  progress : ℕ

variable {N B A : Type} (next previous : N → N)

namespace Write

def whole (write : Write N B) : List (FileStep N B) :=
  writeSteps (next write.path) write.path (previous write.path) write.bytes

def steps (write : Write N B) : List (FileStep N B) := (write.whole next previous).take write.progress

def Completed (write : Write N B) : Prop := (write.whole next previous).length ≤ write.progress

instance (write : Write N B) : Decidable (write.Completed next previous) :=
  inferInstanceAs (Decidable (_ ≤ _))

end Write

/-- What each attempt writes, if it comes to that. -/
def storeAfter [DecidableEq N] (write : A → Option (Write N B)) (d : Directory N B) (history : List A) :
    Directory N B :=
  history.foldl (fun d a => (write a).elim d fun w => applyAll (w.steps next previous) d) d

/-- The last attempt on a path to get to the end. -/
def Latest (write : A → Option (Write N B)) (history : List A) (path : N) (a : A) : Prop :=
  ∃ w ∈ write a, w.path = path ∧ w.Completed next previous ∧ ∃ before later, history = before ++ a :: later ∧
    ∀ other ∈ later, ∀ w' ∈ write other, w'.path = path → ¬w'.Completed next previous

/-- No attempt has a path for the file on its way or for its backup. -/
def Apart (write : A → Option (Write N B)) (history : List A) (path : N) : Prop :=
  ∀ a ∈ history, ∀ w ∈ write a, path ≠ next w.path ∧ path ≠ previous w.path ∧ next w.path ≠ w.path

variable {next previous} [DecidableEq N] {write : A → Option (Write N B)} {history : List A} {path : N}

/-- A write that does not get to the end, and one to another path, leaves a file as it was. -/
theorem Write.steps_other {w : Write N B} (notNext : path ≠ next w.path)
    (notPrevious : path ≠ previous w.path) (apart : next w.path ≠ w.path)
    (spared : w.path = path → ¬w.Completed next previous) (d : Directory N B) :
    applyAll (w.steps next previous) d path = d path := by
  obtain cut | whole := Nat.lt_or_ge w.progress (w.whole next previous).length
  · exact interrupted_write cut d notNext
  · rw [Write.steps, List.take_of_length_le whole]
    exact completed_write_other apart _ d notNext (fun same => spared same.symm whole) notPrevious

theorem storeAfter_other (apart : Apart next previous write history path)
    (spared : ∀ a ∈ history, ∀ w ∈ write a, w.path = path → ¬w.Completed next previous)
    (d : Directory N B) : storeAfter next previous write d history path = d path := by
  induction history generalizing d with
  | nil => rfl
  | cons a history ih =>
    refine (ih (fun b listed => apart b (List.mem_cons_of_mem _ listed))
      (fun b listed => spared b (List.mem_cons_of_mem _ listed)) _).trans ?_
    cases made : write a with
    | none => simp only [made, Option.elim_none]
    | some w =>
      simp only [made, Option.elim_some]
      obtain ⟨notNext, notPrevious, distinct⟩ := apart a List.mem_cons_self w made
      exact Write.steps_other notNext notPrevious distinct (spared a List.mem_cons_self w made) d

/-- A path holds what the last attempt that got to the end has written. -/
theorem storeAfter_latest (apart : Apart next previous write history path) {a : A}
    (latest : Latest next previous write history path a) (d : Directory N B) :
    ∃ w ∈ write a, storeAfter next previous write d history path = some w.bytes := by
  obtain ⟨w, made, rfl, whole, before, later, rfl, spared⟩ := latest
  refine ⟨w, made, ?_⟩
  obtain ⟨-, -, distinct⟩ := apart a (by simp) w made
  rw [storeAfter, List.foldl_append, List.foldl_cons]
  refine (storeAfter_other (fun b listed => apart b (by simp [listed])) spared _).trans ?_
  rw [Option.mem_def.mp made, Option.elim_some, Write.steps, List.take_of_length_le whole]
  exact completed_write_path distinct _ _

omit [DecidableEq N] in
/-- Either no attempt on a path has got to the end, or one was the last to. -/
theorem none_or_latest (history : List A) (path : N) :
    (∀ a ∈ history, ∀ w ∈ write a, w.path = path → ¬w.Completed next previous) ∨
      ∃ a ∈ history, Latest next previous write history path a := by
  induction history with
  | nil => exact .inl nofun
  | cons a history ih =>
    obtain none | ⟨b, listed, w, made, same, whole, before, later, rfl, spared⟩ := ih
    · by_cases here : ∃ w ∈ write a, w.path = path ∧ w.Completed next previous
      · obtain ⟨w, made, same, whole⟩ := here
        exact .inr ⟨a, List.mem_cons_self, w, made, same, whole, [], history, rfl, none⟩
      · refine .inl fun b listed => ?_
        obtain rfl | later := List.mem_cons.mp listed
        · exact fun w made same whole => here ⟨w, made, same, whole⟩
        · exact none b later
    · exact .inr ⟨b, List.mem_cons_of_mem _ listed, w, made, same, whole, a :: before, later, rfl, spared⟩

end WinBoot.WriteHistory
