import Mathlib.Tactic.Common

/-! Strings that end with a NUL, and the first place of one in another. -/

namespace WinBoot.CStrings

structure CString where
  bytes : List UInt8
  plain : 0 ∉ bytes

/-- `s[i]`, which has a value up to the terminating NUL. -/
def CString.read (s : CString) (i : ℕ) : Option UInt8 := (s.bytes ++ [0])[i]?

def strlen (s : CString) : ℕ := s.bytes.length

def find (needle : List UInt8) : List UInt8 → Option ℕ
  | [] => if needle.isPrefixOf [] then some 0 else none
  | c :: rest => if needle.isPrefixOf (c :: rest) then some 0 else (find needle rest).map (· + 1)

def strstr (s needle : CString) : Option ℕ := find needle.bytes s.bytes

theorem read_drop {s : CString} {i : ℕ} (inside : i ≤ s.bytes.length) :
    s.read i = some ((s.bytes.drop i).headD 0) := by
  rw [CString.read]
  obtain ended | early := Nat.eq_or_lt_of_le inside
  · rw [ended, List.getElem?_append_right (Nat.le_refl _), Nat.sub_self, List.drop_length]
    rfl
  · rw [List.getElem?_append_left early, List.getElem?_eq_getElem early, List.drop_eq_getElem_cons early]
    rfl

/-- `needle` stands at this place. -/
def Occurs (needle bytes : List UInt8) (k : ℕ) : Prop :=
  ∃ before rest, bytes = before ++ needle ++ rest ∧ before.length = k

theorem occurs_zero {needle bytes : List UInt8} :
    Occurs needle bytes 0 ↔ needle.isPrefixOf bytes = true := by
  rw [List.isPrefixOf_iff_prefix]
  constructor
  · rintro ⟨before, rest, rfl, empty⟩
    rw [List.length_eq_zero_iff.mp empty]
    exact ⟨rest, rfl⟩
  · rintro ⟨rest, rfl⟩
    exact ⟨[], rest, rfl, rfl⟩

theorem occurs_succ {needle rest : List UInt8} {c : UInt8} {k : ℕ} :
    Occurs needle (c :: rest) (k + 1) ↔ Occurs needle rest k := by
  constructor
  · rintro ⟨before, after, whole, size⟩
    cases before with
    | nil => cases size
    | cons first before => exact ⟨before, after, (List.cons.inj whole).2, Nat.succ.inj size⟩
  · rintro ⟨before, after, rfl, size⟩
    exact ⟨c :: before, after, rfl, congrArg Nat.succ size⟩

theorem not_occurs_nil {needle : List UInt8} {k : ℕ} : ¬ Occurs needle [] (k + 1) := by
  rintro ⟨before, rest, empty, size⟩
  rw [List.append_assoc] at empty
  rw [(List.append_eq_nil_iff.mp empty.symm).1] at size
  cases size

/-- What is found is the first place. -/
theorem find_some {needle bytes : List UInt8} {k : ℕ} :
    find needle bytes = some k ↔ Occurs needle bytes k ∧ ∀ j < k, ¬ Occurs needle bytes j := by
  induction bytes generalizing k with
  | nil =>
    rw [find]
    cases k with
    | zero =>
      rw [occurs_zero]
      by_cases here : needle.isPrefixOf [] = true <;> simp [here]
    | succ k =>
      refine iff_of_false (fun found => ?_) fun first => not_occurs_nil first.1
      split at found <;> cases found
  | cons c rest ih =>
    rw [find]
    by_cases here : needle.isPrefixOf (c :: rest) = true
    · have first := occurs_zero.mpr here
      rw [if_pos here, Option.some.injEq]
      constructor
      · rintro rfl
        exact ⟨first, fun j small => absurd small (Nat.not_lt_zero j)⟩
      · rintro ⟨-, earlier⟩
        exact (Nat.eq_zero_of_not_pos fun positive => earlier 0 positive first).symm
    · have later : ¬ Occurs needle (c :: rest) 0 := fun first => here (occurs_zero.mp first)
      rw [if_neg here]
      cases k with
      | zero => exact iff_of_false (by cases find needle rest <;> simp) fun first => later first.1
      | succ k =>
        have shifted : (find needle rest).map (· + 1) = some (k + 1) ↔ find needle rest = some k := by
          cases find needle rest <;> simp
        rw [shifted, ih, occurs_succ]
        refine and_congr_right fun _ => ⟨fun earlier j small => ?_, fun earlier j small => ?_⟩
        · cases j with
          | zero => exact later
          | succ j =>
              exact fun occurs => earlier j (Nat.lt_of_succ_lt_succ small) (occurs_succ.mp occurs)
        · exact fun occurs => earlier (j + 1) (Nat.succ_lt_succ small) (occurs_succ.mpr occurs)

theorem find_none {needle bytes : List UInt8} (missing : find needle bytes = none) (k : ℕ) :
    ¬ Occurs needle bytes k := by
  induction k using Nat.strongRecOn with
  | ind k ih =>
    intro occurs
    have found := find_some.mpr ⟨occurs, ih⟩
    rw [missing] at found
    cases found

end WinBoot.CStrings
