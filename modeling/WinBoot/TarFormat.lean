import Mathlib.Algebra.Order.Ring.Nat
import Mathlib.Data.List.Infix
import WinBoot.PaddedField

/-! The tar layout the snapshot scripts and their reader share: 512-byte headers of fixed fields,
each followed by its data padded to a multiple of 512. The reader takes a text field up to its
first NUL and a size up to the first NUL or space after optional leading spaces. -/

namespace WinBoot.Tar

open PaddedField

abbrev Bytes : Type := List UInt8

def field (header : Bytes) (offset length : Nat) : Bytes := (header.drop offset).take length

def isNul (b : UInt8) : Bool := b == 0
def isSpace (b : UInt8) : Bool := b == 32
def isBlank (b : UInt8) : Bool := isNul b || isSpace b

def isOctal (b : UInt8) : Bool := 48 ≤ b && b ≤ 55

def octalStep (value : Nat) (digit : UInt8) : Nat := 8 * value + (digit.toNat - 48)

/-- An octal numeral; the digits are not checked here. -/
def octalValue (digits : Bytes) : Nat := digits.foldl octalStep 0

/-- The bytes that `size` bytes of data occupy. -/
def padded (size : Nat) : Nat := (size + 511) / 512 * 512

/-- The name field under the directory given by the extension field, if any. -/
def joinPath (dir name : Bytes) : Bytes := if dir = [] then name else dir ++ 47 :: name

def nameField (header : Bytes) : Bytes := field header 0 100
def modeField (header : Bytes) : Bytes := field header 100 8
def sizeField (header : Bytes) : Bytes := field header 124 12
def checksumField (header : Bytes) : Bytes := field header 148 8
def typeByte (header : Bytes) : UInt8 := header.getD 156 0
def prefixField (header : Bytes) : Bytes := field header 345 155

/-! ### The reader -/

def ustarPath (header : Bytes) : Bytes :=
  joinPath (cut isNul (prefixField header)) (cut isNul (nameField header))

def ustarSize (header : Bytes) : Nat :=
  octalValue (cut isBlank ((sizeField header).dropWhile isSpace))

structure Entry where
  path : Bytes
  type : UInt8
  size : Nat
  content : Bytes
deriving DecidableEq

/-- The headers the reader meets, each with its content, up to a zero block. -/
def ustarBlocks : Nat → Bytes → List (Bytes × Bytes)
  | 0, _ => []
  | fuel + 1, data =>
    let header := data.take 512
    let rest := data.drop 512
    if header.length < 512 ∨ header.all isNul then []
    else
      (header, rest.take (ustarSize header)) ::
        ustarBlocks fuel (rest.drop (padded (ustarSize header)))

def ustarEntry (block : Bytes × Bytes) : Entry :=
  ⟨ustarPath block.1, typeByte block.1, ustarSize block.1, block.2⟩

def ustarEntries (data : Bytes) : List Entry := (ustarBlocks data.length data).map ustarEntry

/-- Every header is a whole block, so the length of the stream is fuel enough. -/
theorem ustarBlocks_fuel {fuel more : Nat} {data : Bytes} (enough : data.length ≤ 512 * fuel)
    (extra : fuel ≤ more) : ustarBlocks more data = ustarBlocks fuel data := by
  induction fuel generalizing more data with
  | zero =>
    have empty : data = [] := List.length_eq_zero_iff.mp (by omega)
    cases more <;> simp [empty, ustarBlocks]
  | succ fuel ih =>
    obtain ⟨more, rfl⟩ : ∃ m, more = m + 1 := ⟨more - 1, by omega⟩
    have tail : ustarBlocks more ((data.drop 512).drop (padded (ustarSize (data.take 512)))) =
        ustarBlocks fuel ((data.drop 512).drop (padded (ustarSize (data.take 512)))) := by
      refine ih ?_ (by omega)
      simp only [List.length_drop]
      omega
    simp only [ustarBlocks, tail]

theorem ustarBlocks_cons {header rest : Bytes} (whole : header.length = 512)
    (used : ¬header.all isNul) (fuel : Nat) : ustarBlocks (fuel + 1) (header ++ rest) =
      (header, rest.take (ustarSize header)) ::
        ustarBlocks fuel (rest.drop (padded (ustarSize header))) := by
  have front : (header ++ rest).take 512 = header := List.take_left' whole
  have behind : (header ++ rest).drop 512 = rest := List.drop_left' whole
  simp only [ustarBlocks, front, behind, whole, used]
  rfl

/-! ### Octal numerals -/

theorem isBlank_iff {b : UInt8} : isBlank b ↔ b = 0 ∨ b = 32 := by
  simp [isBlank, isNul, isSpace]

theorem isOctal_not_blank {b : UInt8} (octal : isOctal b) : ¬isBlank b := by
  rw [isBlank_iff]
  rintro (rfl | rfl) <;> contradiction

theorem isOctal_single {b : UInt8} (octal : isOctal b) : b < 128 := by
  rw [isOctal, Bool.and_eq_true, decide_eq_true_eq, decide_eq_true_eq] at octal
  exact UInt8.lt_of_le_of_lt octal.2 (by decide)

theorem isBlank_single {b : UInt8} (blank : isBlank b) : b < 128 := by
  rcases isBlank_iff.mp blank with rfl | rfl <;> decide

theorem octalValue_append (digits : Bytes) (digit : UInt8) :
    octalValue (digits ++ [digit]) = octalStep (octalValue digits) digit := by
  simp [octalValue]

/-- A numeral is zero exactly when it has no digit but zeros. -/
theorem octalValue_eq_zero {digits : Bytes} (octal : ∀ d ∈ digits, isOctal d) :
    octalValue digits = 0 ↔ ∀ d ∈ digits, d = 48 := by
  induction digits using List.reverseRecOn with
  | nil => simp [octalValue]
  | append_singleton digits digit ih =>
    have early := ih fun d member => octal d (by simp [member])
    have last : isOctal digit := octal digit (by simp)
    have zero : digit.toNat - 48 = 0 ↔ digit = 48 := by
      simp only [isOctal, Bool.and_eq_true, decide_eq_true_eq, UInt8.le_iff_toNat_le] at last
      rw [← UInt8.toNat_inj]
      simp only [UInt8.reduceToNat] at last ⊢
      omega
    rw [octalValue_append, octalStep]
    constructor
    · intro nothing d member
      rcases List.mem_append.mp member with old | new
      · exact early.mp (by omega) d old
      · rw [List.mem_singleton.mp new]
        exact zero.mp (by omega)
    · intro zeros
      have front : octalValue digits = 0 := early.mpr fun d member => zeros d (by simp [member])
      have back : digit.toNat - 48 = 0 := zero.mpr (zeros digit (by simp))
      omega

end WinBoot.Tar
