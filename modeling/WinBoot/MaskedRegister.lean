import Mathlib.Tactic.Common

/-! Registers of which only some bits are implemented, and controls that change the bits of a mask.
What a control changed is undone by writing the masked bits back as they were. -/

namespace WinBoot.MaskedRegister

variable {w : Nat} {implemented mask bits content saved : BitVec w}

/-- What a register holds after `value` was written to it. -/
def store (implemented content value : BitVec w) : BitVec w :=
  content &&& ~~~implemented ||| value &&& implemented

/-- `value` with the bits of `mask` set to `bits`. -/
def merge (mask bits value : BitVec w) : BitVec w := value &&& ~~~mask ||| bits

theorem merge_xor (within : bits &&& ~~~mask = 0#w) (value : BitVec w) :
    (merge mask bits value ^^^ value) &&& ~~~mask = 0#w := by
  apply BitVec.eq_of_getLsbD_eq
  intro i small
  have inside := congrArg (·.getLsbD i) within
  simp only [BitVec.getLsbD_and, BitVec.getLsbD_not, BitVec.getLsbD_zero, small, decide_true,
    Bool.true_and] at inside
  simp only [merge, BitVec.getLsbD_and, BitVec.getLsbD_or, BitVec.getLsbD_xor, BitVec.getLsbD_not,
    BitVec.getLsbD_zero, small, decide_true, Bool.true_and]
  revert inside
  cases mask.getLsbD i <;> cases bits.getLsbD i <;> cases value.getLsbD i <;> decide

theorem masked_within (content mask : BitVec w) : content &&& mask &&& ~~~mask = 0#w := by
  apply BitVec.eq_of_getLsbD_eq
  intro i small
  simp only [BitVec.getLsbD_and, BitVec.getLsbD_not, BitVec.getLsbD_zero, small, decide_true,
    Bool.true_and]
  cases mask.getLsbD i <;> simp

/-- Whatever part of the register is implemented, the control is undone by what was saved of it. -/
theorem store_restore (within : bits &&& ~~~mask = 0#w) :
    store implemented (store implemented content (merge mask bits content))
      (merge mask (content &&& mask) (store implemented content (merge mask bits content))) =
        content := by
  apply BitVec.eq_of_getLsbD_eq
  intro i small
  have inside := congrArg (·.getLsbD i) within
  simp only [BitVec.getLsbD_and, BitVec.getLsbD_not, BitVec.getLsbD_zero, small, decide_true,
    Bool.true_and] at inside
  simp only [store, merge, BitVec.getLsbD_and, BitVec.getLsbD_or, BitVec.getLsbD_not, small,
    decide_true, Bool.true_and]
  revert inside
  cases mask.getLsbD i <;> cases bits.getLsbD i <;> cases content.getLsbD i <;>
    cases implemented.getLsbD i <;> decide

end WinBoot.MaskedRegister
