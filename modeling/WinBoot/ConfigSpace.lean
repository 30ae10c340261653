import Mathlib.Tactic.Common

/-! Register spaces addressed by bits: bit `8 * k + i` is bit `i` of the byte at offset `k`, so
a little-endian store of any width at any offset says directly which bits it drives. -/

namespace WinBoot.ConfigSpace

/-- The content of a register space. -/
abbrev Bits := Nat → Bool

/-- A store of the low `8 * size` bits of `value`. -/
structure Store where
  offset : Nat
  size : Nat
  value : BitVec 32
  deriving DecidableEq

namespace Store

/-- The store drives this bit. -/
def Covers (store : Store) (bit : Nat) : Prop :=
  8 * store.offset ≤ bit ∧ bit < 8 * (store.offset + store.size)

instance (store : Store) (bit : Nat) : Decidable (store.Covers bit) :=
  inferInstanceAs (Decidable (_ ∧ _))

def bit (store : Store) (bit : Nat) : Bool := store.value.getLsbD (bit - 8 * store.offset)

/-- The store writes a one into this bit. -/
def Sets (store : Store) (bit : Nat) : Prop := store.Covers bit ∧ store.bit bit = true

instance (store : Store) (bit : Nat) : Decidable (store.Sets bit) :=
  inferInstanceAs (Decidable (_ ∧ _))

end Store

/-- A masked-out bit is clear. -/
theorem getLsbD_of_and_eq_zero {width : Nat} {value mask : BitVec width}
    (clear : value &&& mask = 0)
    {i : Nat} (masked : mask.getLsbD i = true) : ¬value.getLsbD i = true := by
  have bit := congrArg (BitVec.getLsbD · i) clear
  simpa [masked] using bit

theorem and_or_eq_zero {width : Nat} {a b mask : BitVec width} (clear : (a ||| b) &&& mask = 0) :
    a &&& mask = 0 ∧ b &&& mask = 0 := by
  have bits := fun i => congrArg (BitVec.getLsbD · i) clear
  constructor <;> ext i bound <;> have := bits i <;> simp at this ⊢ <;> grind

/-- Read `width` bits from bit `start` on. -/
def loadBits (bits : Bits) (start : Nat) : (width : Nat) → BitVec width
  | 0 => 0#0
  | width + 1 => (loadBits bits start width).cons (bits (start + width))

theorem getLsbD_loadBits (bits : Bits) (start width i : Nat) :
    (loadBits bits start width).getLsbD i = (decide (i < width) && bits (start + i)) := by
  induction width with
  | zero => simp [loadBits]
  | succ width ih =>
    rw [loadBits, BitVec.getLsbD_cons, ih]
    by_cases last : i = width
    · simp [last]
    · have lt_iff : i < width + 1 ↔ i < width := by omega
      simp [last, lt_iff]

/-- Load `size` bytes at `offset`. -/
def load (bits : Bits) (offset size : Nat) : BitVec (8 * size) :=
  loadBits bits (8 * offset) (8 * size)

end WinBoot.ConfigSpace
