import Mathlib.Data.List.Induction
import Mathlib.Logic.Function.Basic
import Mathlib.Tactic.Common

/-! Registers that pack fields of one width. Writing a field leaves the others, so a register is as
good as one register for each field. -/

namespace WinBoot.PackedRegister

variable {W w n : ℕ} {register value : BitVec W}

/-- The low bits that a field has. -/
def mask (W w : ℕ) : BitVec W := (BitVec.allOnes w).setWidth W

/-- The field with this number. -/
def field (w k : ℕ) (register : BitVec W) : BitVec w := register.extractLsb' (k * w) w

/-- The register with the low bits of a value in a field. -/
def put (w k : ℕ) (value register : BitVec W) : BitVec W :=
  register &&& ~~~(mask W w <<< (k * w)) ||| (value &&& mask W w) <<< (k * w)

theorem getLsbD_mask (i : ℕ) : (mask W w).getLsbD i = (decide (i < W) && decide (i < w)) := by
  rw [mask, BitVec.getLsbD_setWidth, BitVec.getLsbD_allOnes]

theorem getLsbD_put {k i : ℕ} (small : i < W) : (put w k value register).getLsbD i =
    if k * w ≤ i ∧ i < k * w + w then value.getLsbD (i - k * w) else register.getLsbD i := by
  have shifted : i - k * w < W := Nat.lt_of_le_of_lt (Nat.sub_le i _) small
  simp only [put, BitVec.getLsbD_or, BitVec.getLsbD_and, BitVec.getLsbD_not, BitVec.getLsbD_shiftLeft,
    getLsbD_mask, small, shifted, decide_true, Bool.true_and]
  by_cases early : i < k * w
  · have outside : ¬(k * w ≤ i ∧ i < k * w + w) := by omega
    simp [early, outside]
  · by_cases late : i - k * w < w
    · have inside : k * w ≤ i ∧ i < k * w + w := by omega
      simp [early, late, inside]
    · have outside : ¬(k * w ≤ i ∧ i < k * w + w) := by omega
      simp [early, late, outside]

theorem getLsbD_field {k i : ℕ} (small : i < w) :
    (field w k register).getLsbD i = register.getLsbD (k * w + i) := by
  simp [field, small]

theorem field_put_same {k : ℕ} (inside : (k + 1) * w ≤ W) :
    field w k (put w k value register) = value.setWidth w := by
  apply BitVec.eq_of_getLsbD_eq
  intro i small
  have within : k * w + i < W := by
    rw [Nat.succ_mul] at inside
    omega
  rw [getLsbD_field small, getLsbD_put within, if_pos ⟨Nat.le_add_right _ _, Nat.add_lt_add_left small _⟩,
    Nat.add_sub_cancel_left, BitVec.getLsbD_setWidth]
  simp [small]

theorem field_put_other {j k : ℕ} (inside : (j + 1) * w ≤ W) (other : j ≠ k) :
    field w j (put w k value register) = field w j register := by
  apply BitVec.eq_of_getLsbD_eq
  intro i small
  rw [Nat.succ_mul] at inside
  have within : j * w + i < W := by omega
  have apart : ¬(k * w ≤ j * w + i ∧ j * w + i < k * w + w) := by
    obtain below | above := Nat.lt_or_gt_of_ne other
    · have steps := Nat.mul_le_mul_right w below
      rw [Nat.succ_mul] at steps
      omega
    · have steps := Nat.mul_le_mul_right w above
      rw [Nat.succ_mul] at steps
      omega
  rw [getLsbD_field small, getLsbD_field small, getLsbD_put within, if_neg apart]

/-- All fields of a register. -/
def fields (w n : ℕ) (register : BitVec W) (k : Fin n) : BitVec w := field w k register

/-- A register that is filled by its fields is determined by them. -/
theorem fields_injective (filled : W = n * w) :
    Function.Injective (fields w n : BitVec W → Fin n → BitVec w) := by
  intro one another same
  apply BitVec.eq_of_getLsbD_eq
  intro i small
  have positive : 0 < w := Nat.pos_of_ne_zero fun zero => by
    rw [filled, zero] at small
    exact Nat.not_lt_zero i small
  have number : i / w < n := (Nat.div_lt_iff_lt_mul positive).mpr (filled ▸ small)
  have bit := congrArg (BitVec.getLsbD · (i % w)) (congrFun same ⟨i / w, number⟩)
  have place : i / w * w + i % w = i := Nat.div_add_mod' i w
  rw [fields, fields, getLsbD_field (Nat.mod_lt i positive), getLsbD_field (Nat.mod_lt i positive)] at bit
  rwa [place] at bit

theorem fields_put (filled : n * w ≤ W) (k : Fin n) (value register : BitVec W) :
    fields w n (put w k value register) = Function.update (fields w n register) k (value.setWidth w) := by
  have inside (j : Fin n) : (j + 1) * w ≤ W := Nat.le_trans (Nat.mul_le_mul_right w j.isLt) filled
  funext j
  by_cases same : j = k
  · rw [same, Function.update_self]
    exact field_put_same (inside k)
  · rw [Function.update_of_ne same]
    exact field_put_other (inside j) fun numbers => same (Fin.ext numbers)

/-! ### Sequences of writes -/

section

variable {κ α β : Type} [DecidableEq κ] (f : α → β)

/-- What is written to one cell, in order. -/
def writtenTo (k : κ) (writes : List (κ × α)) : List α := (writes.filter (·.1 = k)).map Prod.snd

/-- The cells after writes to one at a time, of which each keeps a part. -/
def stored (cells : κ → β) (writes : List (κ × α)) : κ → β :=
  writes.foldl (fun cells write => Function.update cells write.1 (f write.2)) cells

theorem writtenTo_snoc (k : κ) (writes : List (κ × α)) (write : κ × α) :
    writtenTo k (writes ++ [write]) = writtenTo k writes ++ if write.1 = k then [write.2] else [] := by
  rw [writtenTo, List.filter_append, List.map_append, writtenTo]
  by_cases here : write.1 = k <;> simp [here]

/-- A cell holds what was last written to it. -/
theorem stored_apply (cells : κ → β) (writes : List (κ × α)) (k : κ) :
    stored f cells writes k = ((writtenTo k writes).getLast?.map f).getD (cells k) := by
  induction writes using List.reverseRecOn with
  | nil => rfl
  | append_singleton writes write ih =>
    rw [stored, List.foldl_append, writtenTo_snoc]
    refine (?_ : Function.update (stored f cells writes) write.1 (f write.2) k = _)
    by_cases here : write.1 = k
    · rw [← here, Function.update_self, if_pos rfl, List.getLast?_concat]
      rfl
    · rw [Function.update_of_ne (Ne.symm here), if_neg here, List.append_nil]
      exact ih

/-- Only the order of the writes to each cell counts. -/
theorem stored_reorder (cells : κ → β) {writes others : List (κ × α)}
    (same : ∀ k, writtenTo k writes = writtenTo k others) :
    stored f cells writes = stored f cells others := by
  funext k
  rw [stored_apply, stored_apply, same]

end

end WinBoot.PackedRegister
