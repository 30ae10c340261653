import Mathlib.Algebra.BigOperators.Group.Finset.Piecewise
import Mathlib.Algebra.Order.BigOperators.Group.Finset
import Mathlib.Data.Fintype.Basic

/-! Lists put together from the entries of several sources, those of each in their order and each
once. -/

namespace WinBoot.Interleaving

variable {ι α : Type} [DecidableEq ι]

/-- The entries of one source. -/
def entries (i : ι) (tagged : List (ι × α)) : List α := (tagged.filter (·.1 = i)).map Prod.snd

def Interleaves (parts : ι → List α) (whole : List α) : Prop :=
  ∃ tagged : List (ι × α), tagged.map Prod.snd = whole ∧ ∀ i, entries i tagged = parts i

variable {parts parts' : ι → List α} {whole more : List α} {i : ι}

theorem Interleaves.nil : Interleaves (fun _ : ι => ([] : List α)) [] := ⟨[], rfl, fun _ => rfl⟩

theorem entries_append (tagged tagged' : List (ι × α)) :
    entries i (tagged ++ tagged') = entries i tagged ++ entries i tagged' := by
  simp [entries]

theorem entries_same (more : List α) : entries i (more.map fun a => (i, a)) = more := by
  induction more with
  | nil => rfl
  | cons a more ih => simpa [entries] using ih

theorem entries_other {j : ι} (other : j ≠ i) (more : List α) :
    entries j (more.map fun a => (i, a)) = [] := by
  induction more with
  | nil => rfl
  | cons a more ih => simp [entries, other.symm]

/-- More from one source, after all that there is. -/
theorem Interleaves.append (merged : Interleaves parts whole) (i : ι) (more : List α)
    (same : parts' i = parts i ++ more) (rest : ∀ j ≠ i, parts' j = parts j) :
    Interleaves parts' (whole ++ more) := by
  obtain ⟨tagged, whole_eq, parts_eq⟩ := merged
  refine ⟨tagged ++ more.map fun a => (i, a), by simp [whole_eq, Function.comp_def], fun j => ?_⟩
  rw [entries_append, parts_eq]
  obtain rfl | other := eq_or_ne j i
  · rw [entries_same, same]
  · rw [entries_other other, List.append_nil, rest j other]

theorem entries_length [Fintype ι] (tagged : List (ι × α)) :
    tagged.length = ∑ i, (entries i tagged).length := by
  induction tagged with
  | nil => simp [entries]
  | cons entry tagged ih =>
    have one (i : ι) : (entries i (entry :: tagged)).length =
        (if entry.1 = i then 1 else 0) + (entries i tagged).length := by
      by_cases here : entry.1 = i <;> simp [entries, here, Nat.add_comm]
    simp_rw [one, Finset.sum_add_distrib, ← ih]
    rw [Finset.sum_ite_eq, if_pos (Finset.mem_univ _), List.length_cons, Nat.add_comm]

theorem Interleaves.length_eq [Fintype ι] (merged : Interleaves parts whole) :
    whole.length = ∑ i, (parts i).length := by
  obtain ⟨tagged, whole_eq, parts_eq⟩ := merged
  rw [← whole_eq, List.length_map, entries_length]
  simp_rw [parts_eq]

/-- Of two ways to take one list apart, the shorter parts cannot be shorter. -/
theorem Interleaves.eq_of_isPrefix [Fintype ι] (merged : Interleaves parts whole)
    (full : Interleaves parts' whole) (begins : ∀ i, parts i <+: parts' i) : parts = parts' := by
  have lengths : ∑ i, (parts i).length = ∑ i, (parts' i).length := by
    rw [← merged.length_eq, full.length_eq]
  funext i
  refine (begins i).eq_of_length ?_
  exact (Finset.sum_eq_sum_iff_of_le fun i _ => (begins i).length_le).mp lengths i (Finset.mem_univ i)

end WinBoot.Interleaving
