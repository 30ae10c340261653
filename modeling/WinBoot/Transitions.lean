import Mathlib.Tactic.Common

/-! Systems that move by labels, where a run may be held to moves that are permitted. -/

namespace WinBoot.Transitions

variable {σ L : Type} (move : σ → L → Option σ) (may : σ → L → Prop)

/-- The states that permitted moves lead to. -/
inductive Reach (start : σ) : σ → Prop
  | start : Reach start start
  | move {s s' : σ} {l : L} : Reach start s → may s l → move s l = some s' → Reach start s'

variable {move may} {start s s' : σ}

/-- What holds at the start and is kept by each permitted move holds in every state reached. -/
theorem Reach.invariant {inv : σ → Prop} (first : inv start)
    (step : ∀ s l s', inv s → may s l → move s l = some s' → inv s')
    (reach : Reach move may start s) : inv s := by
  induction reach with
  | start => exact first
  | move _ permitted moved ih => exact step _ _ _ ih permitted moved

theorem Reach.trans {s'' : σ} (first : Reach move may s s') (rest : Reach move may s' s'') :
    Reach move may s s'' := by
  induction rest with
  | start => exact first
  | move _ permitted moved ih => exact ih.move permitted moved

variable (move may) in
/-- One run, as far as its moves are permitted and possible. -/
def play [∀ s l, Decidable (may s l)] : List L → σ → Option σ
  | [], s => some s
  | l :: labels, s => if may s l then (move s l).bind (play labels) else none

theorem Reach.play [∀ s l, Decidable (may s l)] {labels : List L} (reach : Reach move may start s)
    (played : play move may labels s = some s') : Reach move may start s' := by
  induction labels generalizing s with
  | nil => exact Option.some.inj played ▸ reach
  | cons l labels ih =>
    rw [Transitions.play] at played
    split at played
    · next permitted =>
      obtain ⟨next, moved, rest⟩ := Option.bind_eq_some_iff.mp played
      exact ih (reach.move permitted moved) rest
    · cases played

/-! ### Runs with their history -/

section History

variable (move : σ → L → Option σ)

/-- The states that moves lead to, each with the moves so far and the state each was made in. -/
inductive Made (start : σ) : List (σ × L) → σ → Prop
  | start : Made start [] start
  | move {made : List (σ × L)} {s s' : σ} {l : L} : Made start made s → move s l = some s' →
    Made start (made ++ [(s, l)]) s'

/-- The history of a run and its last state, if its moves are possible. -/
def record : List L → List (σ × L) → σ → Option (List (σ × L) × σ)
  | [], made, s => some (made, s)
  | l :: labels, made, s => (move s l).bind (record labels (made ++ [(s, l)]))

variable {move}

/-- What holds at the start and is kept by each move, whatever has been made before it, holds of every
history and the state it leads to. -/
theorem Made.invariant {made : List (σ × L)} {inv : List (σ × L) → σ → Prop} (first : inv [] start)
    (step : ∀ made s l s', inv made s → move s l = some s' → inv (made ++ [(s, l)]) s')
    (run : Made move start made s) : inv made s := by
  induction run with
  | start => exact first
  | move _ moved ih => exact step _ _ _ _ ih moved

theorem Made.record {labels : List L} {made made' : List (σ × L)} (run : Made move start made s)
    (recorded : record move labels made s = some (made', s')) : Made move start made' s' := by
  induction labels generalizing made s with
  | nil =>
    cases recorded
    exact run
  | cons l labels ih =>
    obtain ⟨next, moved, rest⟩ := Option.bind_eq_some_iff.mp recorded
    exact ih (run.move moved) rest

end History

end WinBoot.Transitions
