import WinBoot.Checks
import WinBoot.TarRuns

/-! What a header is that passes inspection. -/

namespace WinBoot.Tar

open PaddedField Checks

theorem require_ok {good : Bool} {refusal : Refusal} {u : Unit} :
    require good refusal = .ok u ↔ good :=
  ite_ok

theorem toInt64_ok {text : Bytes} {value : Nat} :
    toInt64 text = .ok value ↔ text.all isOctal ∧ octalValue text = value := by
  by_cases octal : text.all isOctal <;> simp [toInt64, octal]

theorem toSize_ok {text : Bytes} {value : Nat} :
    toSize text = .ok value ↔ text.all isOctal ∧ octalValue text = value := by
  cases text with
  | nil => simp [toSize, octalValue]
  | cons b rest => exact toInt64_ok

theorem getString_ok {text string : Bytes} :
    getString text = .ok string ↔ validUtf8 text ∧ text = string := by
  by_cases valid : validUtf8 text <;> simp [getString, valid]

/-- A numeral has no final line feed for the pattern to overlook. -/
theorem anchoredText_of_octal {text : Bytes} (octal : text.all isOctal) :
    anchoredText text = text := by
  rw [anchoredText, if_neg]
  intro feed
  have digit := List.all_eq_true.mp octal 10 (List.mem_of_getLast? feed)
  exact absurd digit (by decide)

theorem octalPlus_and {text : Bytes} :
    octalPlus text ∧ text.all isOctal ↔ text ≠ [] ∧ text.all isOctal := by
  refine and_congr_left fun octal => ?_
  rw [octalPlus, anchoredText_of_octal octal, octal]
  simp

theorem octalStar_and {text : Bytes} : octalStar text ∧ text.all isOctal ↔ text.all isOctal := by
  refine and_iff_right_of_imp fun octal => ?_
  rw [octalStar, anchoredText_of_octal octal, octal]

/-- What `inspectHeader` has established of a header when it reports a member. -/
structure Inspected (seen : List Bytes) (expanded : Nat) (header : Bytes) (member : Member) :
    Prop where
  checksum : (fieldText (checksumField header)).all isOctal
  checksum_some : fieldText (checksumField header) ≠ []
  sum : headerSum header = octalValue (fieldText (checksumField header))
  name_valid : validUtf8 (nameField header)
  prefix_valid : validUtf8 (prefixField header)
  name : member.name =
    joinPath (strip isNul (prefixField header)) (strip isNul (nameField header))
  type : member.type = typeByte header
  size_octal : (fieldText (sizeField header)).all isOctal
  size : member.size = octalValue (fieldText (sizeField header))
  path : testArchivePath member.name
  fresh : trimEnd member.name ∉ seen
  mode : (fieldText (modeField header)).all isOctal
  mode_some : fieldText (modeField header) ≠ []
  mode_safe : octalValue (fieldText (modeField header)) &&& 0xE00 = 0
  type_safe : member.type = 0 ∨ member.type = 48 ∨ member.type = 53
  directory : member.type = 53 → member.size = 0
  small : member.size ≤ 67108864
  total : expanded + member.size ≤ 536870912

theorem testArchivePath_nil : testArchivePath [] = false := by decide +kernel

theorem inspectHeader_ok {seen : List Bytes} {expanded : Nat} {header : Bytes}
    {member : Member} : inspectHeader seen expanded header = .ok member ↔
      Inspected seen expanded header member := by
  simp only [inspectHeader, bind_ok, require_ok, toInt64_ok, toSize_ok, getString_ok]
  constructor
  · rintro ⟨-, checksum, _, ⟨octal, rfl⟩, -, sum, _, ⟨named, rfl⟩, _, ⟨dir, rfl⟩, -, star, _,
      ⟨size, rfl⟩, -, path, -, fresh, -, mode, _, ⟨digits, rfl⟩, -, safe, -, type, -, directory,
      -, small, -, total, last⟩
    obtain rfl := Except.ok.inj last
    rw [Bool.and_eq_true] at path
    exact
      { checksum := octal
        checksum_some := (octalPlus_and.mp ⟨checksum, octal⟩).1
        sum := by simpa using sum
        name_valid := named
        prefix_valid := dir
        name := rfl
        type := rfl
        size_octal := size
        size := rfl
        path := path.2
        fresh := by simpa using fresh
        mode := digits
        mode_some := (octalPlus_and.mp ⟨mode, digits⟩).1
        mode_safe := by simpa using safe
        type_safe := by simpa [or_assoc] using type
        directory := by simpa [imp_iff_not_or] using directory
        small := by simpa using small
        total := by simpa using total }
  · intro inspected
    obtain ⟨name, type, size⟩ := member
    have path := inspected.path
    have some : name ≠ [] := by
      rintro rfl
      rw [testArchivePath_nil] at path
      contradiction
    obtain rfl : name = _ := inspected.name
    obtain rfl : type = _ := inspected.type
    obtain rfl : size = _ := inspected.size
    refine ⟨(), (octalPlus_and.mpr ⟨inspected.checksum_some, inspected.checksum⟩).1, _,
      ⟨inspected.checksum, rfl⟩, (), by simpa using inspected.sum, _,
      ⟨inspected.name_valid, rfl⟩, _, ⟨inspected.prefix_valid, rfl⟩, (),
      (octalStar_and.mpr inspected.size_octal).1, _, ⟨inspected.size_octal, rfl⟩, (), ?_, (),
      by simpa using inspected.fresh, (),
      (octalPlus_and.mpr ⟨inspected.mode_some, inspected.mode⟩).1, _, ⟨inspected.mode, rfl⟩, (),
      by simpa using inspected.mode_safe, (), by simpa [or_assoc] using inspected.type_safe, (),
      by simpa [imp_iff_not_or] using inspected.directory, (), by simpa using inspected.small, (),
      by simpa using inspected.total, rfl⟩
    rw [Bool.and_eq_true]
    exact ⟨by simpa using some, path⟩

end WinBoot.Tar
