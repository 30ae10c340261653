import Mathlib.Tactic.Common

/-! Chains of checks that stop at the first failure, read from a success: what each step returned,
and what a loop over a list has kept. -/

namespace WinBoot.Checks

variable {ε α β : Type}

theorem bind_ok {x : Except ε α} {f : α → Except ε β} {b : β} :
    (x >>= f) = .ok b ↔ ∃ a, x = .ok a ∧ f a = .ok b := by
  cases x <;> simp [bind, Except.bind]

theorem bind_error {x : Except ε α} {f : α → Except ε β} {e : ε} :
    (x >>= f) = .error e ↔ x = .error e ∨ ∃ a, x = .ok a ∧ f a = .error e := by
  cases x <;> simp [bind, Except.bind]

theorem ite_ok {condition : Bool} {e : ε} {u : Unit} :
    (if condition then Except.ok () else .error e) = .ok u ↔ condition := by
  cases condition <;> simp

theorem ok_of_toOption {x : Except ε α} {a : α} (some : x.toOption = .some a) : x = .ok a := by
  cases x with
  | error e => cases some
  | ok b => rw [← Option.some.inj some]

theorem exists_ok {x : Except ε α} (some : x.toOption.isSome) : ∃ a, x = .ok a := by
  cases x with
  | error e => cases some
  | ok a => exact ⟨a, rfl⟩

theorem forM_ok {check : α → Except ε Unit} {items : List α} :
    items.forM check = .ok () ↔ ∀ a ∈ items, check a = .ok () := by
  induction items with
  | nil => exact iff_of_true rfl fun a member => absurd member List.not_mem_nil
  | cons a items ih =>
    rw [List.forall_mem_cons, ← ih]
    constructor
    · intro ok
      obtain ⟨_, first, rest⟩ := bind_ok.mp ok
      exact ⟨first, rest⟩
    · rintro ⟨first, rest⟩
      exact bind_ok.mpr ⟨(), first, rest⟩

/-- A loop that fails has failed in one of its turns. -/
theorem foldlM_error {f : β → α → Except ε β} {items : List α} {b : β} {e : ε}
    (failed : items.foldlM f b = .error e) : ∃ b, ∃ a ∈ items, f b a = .error e := by
  induction items generalizing b with
  | nil => cases failed
  | cons a items ih =>
    rw [List.foldlM_cons] at failed
    obtain here | ⟨next, -, rest⟩ := bind_error.mp failed
    · exact ⟨b, a, List.mem_cons_self, here⟩
    · obtain ⟨b, a, member, here⟩ := ih rest
      exact ⟨b, a, List.mem_cons_of_mem _ member, here⟩

theorem forM_error {check : α → Except ε Unit} {items : List α} {e : ε}
    (failed : items.forM check = .error e) : ∃ a ∈ items, check a = .error e := by
  induction items with
  | nil => cases failed
  | cons a items ih =>
    obtain here | ⟨_, -, rest⟩ := bind_error.mp failed
    · exact ⟨a, List.mem_cons_self, here⟩
    · obtain ⟨a, member, here⟩ := ih rest
      exact ⟨a, List.mem_cons_of_mem _ member, here⟩

/-- What each turn of a loop keeps, a loop that ends well has kept. -/
theorem foldlM_keeps (keeps : β → Prop) {f : β → α → Except ε β}
    (turn : ∀ b a next, keeps b → f b a = .ok next → keeps next) {items : List α} {b result : β}
    (ok : items.foldlM f b = .ok result) (start : keeps b) : keeps result := by
  induction items generalizing b with
  | nil => exact Except.ok.inj ok ▸ start
  | cons a items ih =>
    rw [List.foldlM_cons] at ok
    obtain ⟨next, turned, rest⟩ := bind_ok.mp ok
    exact ih rest (turn b a next start turned)

end WinBoot.Checks
