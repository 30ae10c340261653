import Mathlib.Tactic.Common

/-! Nested lifetimes. `Nested` says what a well-nested sequence of lifetimes is; a reader that
keeps the held layers, innermost first, accepts from empty hands to empty hands only those. -/

namespace WinBoot.Nesting

inductive Mark (L : Type) where
  | acquire (layer : L)
  | teardown (layer : L)
  | release (layer : L)
  deriving DecidableEq

variable {L : Type}

def Mark.layer : Mark L → L
  | acquire layer | teardown layer | release layer => layer

/-- Whole lifetimes side by side within `outer`. Inside a lifetime are whole lifetimes only, then
its own teardown, and nothing between that and its release. -/
inductive Nested (encloses : Option L → L → Prop) : Option L → List (Mark L) → Prop where
  | nil {outer : Option L} : Nested encloses outer []
  | layer {outer : Option L} {layer : L} {inside after : List (Mark L)}
      (enclosed : encloses outer layer) (inner : Nested encloses (some layer) inside)
      (rest : Nested encloses outer after) :
      Nested encloses outer
        (.acquire layer :: (inside ++ .teardown layer :: .release layer :: after))

/-- The held layers, innermost first, each with whether its teardown has begun. -/
abbrev Held (L : Type) : Type := List (L × Bool)

def Held.inner (held : Held L) : Option L := held.head?.map Prod.fst

/-- Whether a mark may come next. -/
def Follows (encloses : Option L → L → Prop) (held : Held L) : Mark L → Prop
  | .acquire layer => (∀ layer closing, held.head? = some (layer, closing) → closing = false) ∧
      encloses held.inner layer
  | .teardown layer => held.head? = some (layer, false)
  | .release layer => held.head? = some (layer, true)

def move (held : Held L) : Mark L → Held L
  | .acquire layer => (layer, false) :: held
  | .teardown layer => (layer, true) :: held.tail
  | .release _ => held.tail

/-- The marks take the held layers to nothing held, each in its place. -/
def Empties (encloses : Option L → L → Prop) : Held L → List (Mark L) → Prop
  | held, [] => held = []
  | held, mark :: marks => Follows encloses held mark ∧ Empties encloses (move held mark) marks

variable {encloses : Option L → L → Prop}

theorem Empties.released {layer : L} {held : Held L} {marks : List (Mark L)}
    (empties : Empties encloses ((layer, true) :: held) marks) :
    ∃ after, marks = .release layer :: after ∧ Empties encloses held after := by
  cases marks with
  | nil => cases empties
  | cons mark marks =>
    obtain ⟨follows, empties⟩ := empties
    cases mark with
    | acquire other => exact absurd (follows.1 _ _ rfl) (by simp)
    | teardown other => simp [Follows] at follows
    | release other =>
      obtain rfl : layer = other := by simpa [Follows] using follows
      exact ⟨marks, rfl, empties⟩

/-- Up to the teardown of the innermost layer there are whole lifetimes only. -/
theorem Empties.torn {layer : L} {held : Held L} {marks : List (Mark L)}
    (empties : Empties encloses ((layer, false) :: held) marks) :
    ∃ inside after, marks = inside ++ .teardown layer :: after ∧
      Nested encloses (some layer) inside ∧ Empties encloses ((layer, true) :: held) after := by
  obtain ⟨size, bound⟩ : ∃ size, marks.length ≤ size := ⟨_, Nat.le_refl _⟩
  induction size generalizing layer held marks with
  | zero =>
    obtain rfl : marks = [] := List.length_eq_zero_iff.mp (by omega)
    cases empties
  | succ size ih =>
    cases marks with
    | nil => cases empties
    | cons mark marks =>
      have shorter : marks.length ≤ size := by simpa using bound
      obtain ⟨follows, empties⟩ := empties
      cases mark with
      | acquire other =>
        obtain ⟨inside, tail, rfl, inner, torn⟩ := ih empties shorter
        obtain ⟨tail, rfl, further⟩ := torn.released
        simp only [List.length_append, List.length_cons] at shorter
        obtain ⟨beside, tail, rfl, rest, torn⟩ := ih further (by omega)
        exact ⟨_, tail, by simp, .layer follows.2 inner rest, torn⟩
      | teardown other =>
        obtain rfl : layer = other := by simpa [Follows] using follows
        exact ⟨[], marks, rfl, .nil, empties⟩
      | release other => simp [Follows] at follows

theorem nested_of_empties {marks : List (Mark L)} (empties : Empties encloses [] marks) :
    Nested encloses none marks := by
  obtain ⟨size, bound⟩ : ∃ size, marks.length ≤ size := ⟨_, Nat.le_refl _⟩
  induction size generalizing marks with
  | zero =>
    obtain rfl : marks = [] := List.length_eq_zero_iff.mp (by omega)
    exact .nil
  | succ size ih =>
    cases marks with
    | nil => exact .nil
    | cons mark marks =>
      obtain ⟨follows, empties⟩ := empties
      cases mark with
      | acquire layer =>
        obtain ⟨inside, tail, rfl, inner, torn⟩ := Empties.torn empties
        obtain ⟨tail, rfl, further⟩ := torn.released
        simp only [List.length_append, List.length_cons] at bound
        exact .layer follows.2 inner (ih further (by omega))
      | teardown layer => simp [Follows] at follows
      | release layer => simp [Follows] at follows

end WinBoot.Nesting
