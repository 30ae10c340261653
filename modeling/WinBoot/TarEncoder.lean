import WinBoot.TarHeader

/-! Writing the format: headers with zero-padded octal fields and a checksum, data padded to a
block, and a zero trailer of two blocks. -/

namespace WinBoot.Tar

open PaddedField Checks

def zeros (count : Nat) : Bytes := List.replicate count 0

/-- A text at the front of a field of NULs. -/
def fill (width : Nat) (text : Bytes) : Bytes := text ++ zeros (width - text.length)

def octalDigits : Nat → Nat → Bytes
  | 0, _ => []
  | width + 1, value => octalDigits width (value / 8) ++ [(48 + value % 8).toUInt8]

/-- Digits over all but the last byte of a field, which is NUL. -/
def octalField (width value : Nat) : Bytes := octalDigits (width - 1) value ++ [0]

/-- A header from its full-width fields; the owner is left out and the time is zero. -/
def assemble (name mode size checksum : Bytes) (type : UInt8) (dir : Bytes) : Bytes :=
  [name, mode, zeros 16, size, octalField 12 0, checksum, [type], zeros 100,
    fill 88 (ascii "ustar"), dir, zeros 12].flatten

/-- The checksum counts its own field as spaces. -/
def checksumOf (name mode size : Bytes) (type : UInt8) (dir : Bytes) : Nat :=
  ((assemble name mode size (List.replicate 8 32) type dir).map UInt8.toNat).sum

def sealHeader (name mode size : Bytes) (type : UInt8) (dir : Bytes) : Bytes :=
  assemble name mode size (octalDigits 6 (checksumOf name mode size type dir) ++ [0, 32]) type dir

/-- An entry to write, its path split into directory and name as the header holds them. -/
structure Source where
  dir : Bytes
  name : Bytes
  type : UInt8
  mode : Nat
  content : Bytes

def Source.path (source : Source) : Bytes := joinPath source.dir source.name

def Source.header (source : Source) : Bytes :=
  sealHeader (fill 100 source.name) (octalField 8 source.mode)
    (octalField 12 source.content.length) source.type (fill 155 source.dir)

def Source.encode (source : Source) : Bytes :=
  source.header ++ fill (padded source.content.length) source.content

def encodeTar (sources : List Source) : Bytes := sources.flatMap Source.encode ++ zeros 1024

/-! ### Fields -/

theorem zeros_length (count : Nat) : (zeros count).length = count := List.length_replicate

theorem fill_length {width : Nat} {text : Bytes} (fits : text.length ≤ width) :
    (fill width text).length = width := by
  rw [fill, List.length_append, zeros_length]
  omega

theorem octalDigits_length (width value : Nat) : (octalDigits width value).length = width := by
  induction width generalizing value with
  | zero => rfl
  | succ width ih => rw [octalDigits, List.length_append, ih, List.length_singleton]

theorem octalField_length {width : Nat} (some : 0 < width) (value : Nat) :
    (octalField width value).length = width := by
  rw [octalField, List.length_append, octalDigits_length, List.length_singleton]
  omega

theorem octalDigit_toNat (value : Nat) : (48 + value % 8).toUInt8.toNat = 48 + value % 8 := by
  rw [Nat.toUInt8, UInt8.toNat_ofNat']
  omega

theorem octalDigits_octal (width value : Nat) : (octalDigits width value).all isOctal := by
  induction width generalizing value with
  | zero => rfl
  | succ width ih =>
    have digit : isOctal (48 + value % 8).toUInt8 := by
      have toNat := octalDigit_toNat value
      simp only [isOctal, Bool.and_eq_true, decide_eq_true_eq, UInt8.le_iff_toNat_le, toNat]
      simp only [UInt8.reduceToNat]
      omega
    rw [octalDigits, List.all_append, ih, List.all_cons, digit]
    rfl

theorem octalDigits_value {width value : Nat} (fits : value < 8 ^ width) :
    octalValue (octalDigits width value) = value := by
  induction width generalizing value with
  | zero =>
    have none : value = 0 := by simpa using fits
    simp [octalDigits, octalValue, none]
  | succ width ih =>
    have smaller : value / 8 < 8 ^ width := Nat.div_lt_of_lt_mul (by rwa [Nat.pow_succ'] at fits)
    rw [octalDigits, octalValue_append, ih smaller, octalStep, octalDigit_toNat]
    omega

/-- One piece of a block laid out as a list of pieces. -/
theorem field_piece (before : List Bytes) (part : Bytes) (after : List Bytes)
    {offset length : Nat} (start : before.flatten.length = offset) (size : part.length = length) :
    field (before ++ part :: after).flatten offset length = part := by
  rw [field, List.flatten_append, ← start, List.drop_left, List.flatten_cons, ← size,
    List.take_left]

theorem headerSum_split {front middle back : Bytes} (before : front.length = 148)
    (between : middle.length = 8) : headerSum (front ++ (middle ++ back)) =
      (front.map UInt8.toNat).sum + 8 * 32 + (back.map UInt8.toNat).sum := by
  have start : (front ++ middle).length = 156 := by rw [List.length_append, before, between]
  have behind : (front ++ (middle ++ back)).drop 156 = back := by
    rw [← List.append_assoc, List.drop_left' start]
  rw [headerSum, List.take_left' before, behind]

theorem sum_bytes_le (bytes : Bytes) : (bytes.map UInt8.toNat).sum ≤ 255 * bytes.length := by
  induction bytes with
  | nil => exact Nat.le_refl 0
  | cons b bytes ih =>
    have byte := b.toNat_lt
    rw [List.map_cons, List.sum_cons, List.length_cons]
    omega

/-- The widths that make a header whole. -/
structure Widths (name mode size checksum dir : Bytes) : Prop where
  name : name.length = 100
  mode : mode.length = 8
  size : size.length = 12
  checksum : checksum.length = 8
  dir : dir.length = 155

theorem magic_length : (fill 88 (ascii "ustar")).length = 88 := by decide +kernel

section

variable {name mode size checksum dir : Bytes} {type : UInt8}

theorem Widths.assemble_length (widths : Widths name mode size checksum dir) :
    (assemble name mode size checksum type dir).length = 512 := by
  simp [assemble, widths.name, widths.mode, widths.size, widths.checksum, widths.dir,
    zeros_length, octalField_length, magic_length]

theorem Widths.nameField (widths : Widths name mode size checksum dir) :
    nameField (assemble name mode size checksum type dir) = name :=
  field_piece [] name _ rfl widths.name

theorem Widths.modeField (widths : Widths name mode size checksum dir) :
    modeField (assemble name mode size checksum type dir) = mode :=
  field_piece [name] mode _ (by simp [widths.name]) widths.mode

theorem Widths.sizeField (widths : Widths name mode size checksum dir) :
    sizeField (assemble name mode size checksum type dir) = size :=
  field_piece [name, mode, zeros 16] size _
    (by simp [widths.name, widths.mode, zeros_length]) widths.size

theorem Widths.before_checksum (widths : Widths name mode size checksum dir) :
    [name, mode, zeros 16, size, octalField 12 0].flatten.length = 148 := by
  simp [widths.name, widths.mode, widths.size, zeros_length, octalField_length]

theorem Widths.checksumField (widths : Widths name mode size checksum dir) :
    checksumField (assemble name mode size checksum type dir) = checksum :=
  field_piece [name, mode, zeros 16, size, octalField 12 0] checksum _ widths.before_checksum
    widths.checksum

theorem Widths.typeByte (widths : Widths name mode size checksum dir) :
    typeByte (assemble name mode size checksum type dir) = type := by
  have before := widths.before_checksum
  have whole : assemble name mode size checksum type dir =
      [name, mode, zeros 16, size, octalField 12 0].flatten ++ checksum ++
        type :: [zeros 100, fill 88 (ascii "ustar"), dir, zeros 12].flatten := by
    simp [assemble]
  have start : ([name, mode, zeros 16, size, octalField 12 0].flatten ++ checksum).length = 156 := by
    rw [List.length_append, before, widths.checksum]
  rw [Tar.typeByte, whole, List.getD_eq_getElem?_getD, ← start,
    List.getElem?_append_right (Nat.le_refl _), Nat.sub_self]
  rfl

theorem Widths.prefixField (widths : Widths name mode size checksum dir) :
    prefixField (assemble name mode size checksum type dir) = dir :=
  field_piece [name, mode, zeros 16, size, octalField 12 0, checksum, [type], zeros 100,
    fill 88 (ascii "ustar")] dir _
    (by simp [widths.name, widths.mode, widths.size, widths.checksum, zeros_length,
      octalField_length, magic_length]) widths.dir

/-- Whatever stands in the checksum field, the sum counts it as spaces. -/
theorem Widths.headerSum (widths : Widths name mode size checksum dir) :
    headerSum (assemble name mode size checksum type dir) =
      checksumOf name mode size type dir := by
  have before := widths.before_checksum
  have whole : ∀ middle, assemble name mode size middle type dir =
      [name, mode, zeros 16, size, octalField 12 0].flatten ++ (middle ++
        [[type], zeros 100, fill 88 (ascii "ustar"), dir, zeros 12].flatten) := by
    simp [assemble]
  have spaces : ((List.replicate 8 (32 : UInt8)).map UInt8.toNat).sum = 8 * 32 := by decide
  rw [checksumOf, whole checksum, whole (List.replicate 8 32),
    headerSum_split before widths.checksum, List.map_append, List.map_append, List.sum_append,
    List.sum_append, spaces, Nat.add_assoc]

/-- Six octal digits hold every checksum. -/
theorem Widths.checksum_bound (widths : Widths name mode size checksum dir) :
    checksumOf name mode size type dir < 8 ^ 6 := by
  have blank : Widths name mode size (List.replicate 8 32) dir :=
    { widths with checksum := List.length_replicate }
  have bound := sum_bytes_le (assemble name mode size (List.replicate 8 32) type dir)
  rw [blank.assemble_length] at bound
  exact Nat.lt_of_le_of_lt bound (by decide)

end

theorem sealHeader_widths {name mode size dir : Bytes} (type : UInt8) (named : name.length = 100)
    (moded : mode.length = 8) (sized : size.length = 12) (placed : dir.length = 155) :
    Widths name mode size (octalDigits 6 (checksumOf name mode size type dir) ++ [0, 32]) dir :=
  ⟨named, moded, sized, by simp [octalDigits_length], placed⟩

/-! ### Texts -/

/-- A byte below 0x80 ends what precedes it, for the strict decoder. -/
theorem strictUtf8_append {more : Nat} {low high : UInt8} (text : Bytes) {b : UInt8}
    (single : b < 0x80) (tail : Bytes) (multi : 0x80 ≤ low) :
    strictUtf8 more low high (text ++ b :: tail) =
      (strictUtf8 more low high text && validUtf8 tail) := by
  induction text generalizing more low high with
  | nil =>
    cases more with
    | zero => simp [strictUtf8, single, validUtf8]
    | succ more =>
      have below : ¬low ≤ b := by
        rw [UInt8.not_le]
        exact UInt8.lt_of_lt_of_le single multi
      simp [strictUtf8, below]
  | cons c text ih =>
    have same : (0x80 : UInt8) ≤ 0x80 := by decide
    cases more with
    | zero =>
      -- every branch goes on with continuation bytes from 0x80 up
      have three : (0x80 : UInt8) ≤ 0xA0 := by decide
      have four : (0x80 : UInt8) ≤ 0x90 := by decide
      have branch (c : Prop) [Decidable c] (yes no : Bool) :
          ((if c then yes else no) && validUtf8 tail) =
            if c then yes && validUtf8 tail else no && validUtf8 tail :=
        apply_ite (· && validUtf8 tail) c yes no
      simp only [List.cons_append, strictUtf8, ih same, ih three, ih four, branch, Bool.false_and]
    | succ more => simp only [List.cons_append, strictUtf8, ih same, Bool.and_assoc]

theorem validUtf8_append {text : Bytes} {b : UInt8} (single : b < 0x80) (tail : Bytes) :
    validUtf8 (text ++ b :: tail) = (validUtf8 text && validUtf8 tail) :=
  strictUtf8_append text single tail (by decide)

theorem validUtf8_fill {width : Nat} {text : Bytes} (valid : validUtf8 text) :
    validUtf8 (fill width text) := by
  have clear : ∀ count, validUtf8 (zeros count) := by
    intro count
    induction count with
    | zero => rfl
    | succ count ih => simpa [zeros, List.replicate_succ, validUtf8, strictUtf8] using ih
  rw [fill]
  cases width - text.length with
  | zero => simpa [zeros] using valid
  | succ count =>
    rw [zeros, List.replicate_succ, validUtf8_append (by decide), valid]
    exact clear count

/-! ### A small archive -/

def note : Source := ⟨[], ascii "run/work/note", 48, 420, ascii "hi"⟩

def noteGzip : Gzip := ⟨100, encodeTar [note], false, [3, 700]⟩

def noteDetails : Details Bytes := ⟨1, 2, 2048, [⟨ascii "run/work/note", 2, ascii "hi", 48⟩]⟩

theorem note_accepted : assertSafeTar id noteGzip = .ok noteDetails :=
  ok_of_toOption (by decide +kernel)

end WinBoot.Tar
