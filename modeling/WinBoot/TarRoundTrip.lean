import WinBoot.TarAccounting

/-! Reading back what was written: an encoded archive is accepted however its decompression is
cut, and the report lists the entries that were written. -/

namespace WinBoot.Tar

open PaddedField

/-- An entry the format and the allowlist have room for. -/
structure Source.Fits (source : Source) : Prop where
  allowed : testArchivePath source.path
  utf8 : validUtf8 source.path
  name : source.name.length ≤ 100
  dir : source.dir.length ≤ 155
  type : source.type = 0 ∨ source.type = 48 ∨ source.type = 53
  directory : source.type = 53 → source.content = []
  mode : source.mode < 512
  small : source.content.length ≤ 67108864

/-! ### Paths -/

theorem allowed_free {path : Bytes} (allowed : testArchivePath path) :
    ∀ b ∈ path, ¬isNul b := by
  intro b member nul
  rw [testArchivePath] at allowed
  split at allowed
  · contradiction
  · rename_i clear
    have low : isUnsafe b := by
      rw [isNul, beq_iff_eq] at nul
      rw [nul]
      decide
    simp only [Bool.or_eq_true, not_or, List.any_eq_true, not_exists, not_and] at clear
    exact clear.1.1 b member low

theorem Source.Fits.name_free {source : Source} (fits : source.Fits) :
    ∀ b ∈ source.name, ¬isNul b := by
  refine fun b member => allowed_free fits.allowed b ?_
  rw [Source.path, joinPath]
  split
  · exact member
  · exact List.mem_append_right _ (List.mem_cons_of_mem _ member)

theorem Source.Fits.dir_free {source : Source} (fits : source.Fits) :
    ∀ b ∈ source.dir, ¬isNul b := by
  intro b member
  refine allowed_free fits.allowed b ?_
  rw [Source.path, joinPath, if_neg (List.ne_nil_of_mem member)]
  exact List.mem_append_left _ member

theorem Source.Fits.utf8_parts {source : Source} (fits : source.Fits) :
    validUtf8 source.name ∧ validUtf8 source.dir := by
  have valid := fits.utf8
  rw [Source.path, joinPath] at valid
  split at valid
  · rename_i empty
    exact ⟨valid, by rw [empty]; rfl⟩
  · rw [validUtf8_append (by decide), Bool.and_eq_true] at valid
    exact valid.symm

theorem strip_filled {width : Nat} {text : Bytes} (free : ∀ b ∈ text, ¬isNul b) :
    strip isNul (fill width text) = text := by
  refine strip_append free fun b member => ?_
  rw [zeros, List.mem_replicate] at member
  rw [member.2]
  rfl

/-! ### Numbers -/

theorem asciiText_of_small {text : Bytes} (small : ∀ b ∈ text, b < 128) :
    asciiText text = text :=
  (List.map_congr_left fun b member => if_pos (small b member)).trans (List.map_id' text)

/-- A numeral followed by blanks is read as the numeral. -/
theorem fieldText_numeral {digits tail : Bytes} (octal : digits.all isOctal)
    (blank : tail.all isBlank) : fieldText (digits ++ tail) = digits := by
  rw [List.all_eq_true] at octal blank
  have single : ∀ b ∈ digits ++ tail, b < 128 := by
    intro b member
    rcases List.mem_append.mp member with early | late
    · exact isOctal_single (octal b early)
    · exact isBlank_single (blank b late)
  rw [fieldText, asciiText_of_small single]
  exact strip_append (fun b member => isOctal_not_blank (octal b member)) blank

theorem fieldText_octalField (width value : Nat) :
    fieldText (octalField width value) = octalDigits (width - 1) value :=
  fieldText_numeral (octalDigits_octal _ _) (by decide)

/-! ### Headers -/

def Source.member (source : Source) : Member := ⟨source.path, source.type, source.content.length⟩

theorem Source.Fits.widths {source : Source} (fits : source.Fits) :
    Widths (fill 100 source.name) (octalField 8 source.mode)
      (octalField 12 source.content.length)
      (octalDigits 6 (checksumOf (fill 100 source.name) (octalField 8 source.mode)
        (octalField 12 source.content.length) source.type (fill 155 source.dir)) ++ [0, 32])
      (fill 155 source.dir) :=
  sealHeader_widths _ (fill_length fits.name) (octalField_length (by decide) _)
    (octalField_length (by decide) _) (fill_length fits.dir)

theorem Source.Fits.header_length {source : Source} (fits : source.Fits) :
    source.header.length = 512 := fits.widths.assemble_length

theorem low_mode_safe {mode : Nat} (low : mode < 512) : mode &&& 0xE00 = 0 := by
  have special : (0xE00 : Nat) = 7 * 2 ^ 9 := by decide
  refine Nat.eq_of_testBit_eq fun bit => ?_
  rw [Nat.testBit_and, Nat.zero_testBit, special, Nat.testBit_mul_two_pow]
  by_cases high : 9 ≤ bit
  · have above : mode < 2 ^ bit := Nat.lt_of_lt_of_le low (Nat.pow_le_pow_right Nat.two_pos high)
    rw [Nat.testBit_lt_two_pow above, Bool.false_and]
  · simp [high]

theorem Source.Fits.inspected {source : Source} (fits : source.Fits) {seen : List Bytes}
    {expanded : Nat} (fresh : trimEnd source.path ∉ seen)
    (total : expanded + source.content.length ≤ 536870912) :
    Inspected seen expanded source.header source.member := by
  have widths := fits.widths
  have small := fits.small
  have low := fits.mode
  have checksum : fieldText (checksumField source.header) = octalDigits 6
      (checksumOf (fill 100 source.name) (octalField 8 source.mode)
        (octalField 12 source.content.length) source.type (fill 155 source.dir)) := by
    rw [Source.header, sealHeader, widths.checksumField]
    exact fieldText_numeral (octalDigits_octal _ _) (by decide)
  have size : fieldText (sizeField source.header) = octalDigits 11 source.content.length := by
    rw [Source.header, sealHeader, widths.sizeField, fieldText_octalField]
  have mode : fieldText (modeField source.header) = octalDigits 7 source.mode := by
    rw [Source.header, sealHeader, widths.modeField, fieldText_octalField]
  have name : nameField source.header = fill 100 source.name := widths.nameField
  have dir : prefixField source.header = fill 155 source.dir := widths.prefixField
  have nonempty : ∀ width value, octalDigits (width + 1) value ≠ [] := by simp [octalDigits]
  exact
    { checksum := by rw [checksum]; exact octalDigits_octal _ _
      checksum_some := by rw [checksum]; exact nonempty 5 _
      sum := by
        rw [checksum, octalDigits_value widths.checksum_bound]
        exact widths.headerSum
      name_valid := by rw [name]; exact validUtf8_fill fits.utf8_parts.1
      prefix_valid := by rw [dir]; exact validUtf8_fill fits.utf8_parts.2
      name := by rw [name, dir, strip_filled fits.dir_free, strip_filled fits.name_free]; rfl
      type := widths.typeByte.symm
      size_octal := by rw [size]; exact octalDigits_octal _ _
      size := by
        rw [size, octalDigits_value (by omega)]
        rfl
      path := fits.allowed
      fresh := fresh
      mode := by rw [mode]; exact octalDigits_octal _ _
      mode_some := by rw [mode]; exact nonempty 6 _
      mode_safe := by
        rw [mode, octalDigits_value (by omega)]
        exact low_mode_safe low
      type_safe := fits.type
      directory := fun is_directory => by
        rw [Source.member, fits.directory is_directory, List.length_nil]
      small := small
      total := total }

/-- A header of zeros has no checksum to pass inspection with. -/
theorem Inspected.used {seen : List Bytes} {expanded : Nat} {header : Bytes} {member : Member}
    (inspected : Inspected seen expanded header member) : ¬header.all isNul := by
  intro zero
  rw [List.all_eq_true] at zero
  have nul : ∀ b ∈ checksumField header, b = 0 := by
    intro b member
    have within := List.mem_of_mem_drop (List.mem_of_mem_take member)
    simpa [isNul] using zero b within
  have blank : ∀ b ∈ asciiText (checksumField header), isBlank b := by
    intro b member
    obtain ⟨c, inside, rfl⟩ := List.mem_map.mp member
    rw [nul c inside]
    decide
  exact inspected.checksum_some (strip_eq_nil.mpr (List.all_eq_true.mpr blank))

/-! ### Whole archives -/

variable {D : Type} {sha256 : Bytes → D}

def Source.file (sha256 : Bytes → D) (source : Source) : TarFile D :=
  ⟨source.path, source.content.length, sha256 source.content, source.type⟩

def totalBytes (sources : List Source) : Nat :=
  (sources.map fun source => source.content.length).sum

theorem encoded_run {sources : List Source} {room : Nat} {progress : Progress D}
    (fit : ∀ source ∈ sources, source.Fits)
    (distinct : (sources.map fun source => trimEnd source.path).Nodup)
    (fresh : ∀ source ∈ sources, trimEnd source.path ∉ progress.seen)
    (fits_room : sources.length ≤ room)
    (total : progress.expandedBytes + totalBytes sources ≤ 536870912) :
    ∃ result, Accepted sha256 room progress (encodeTar sources) result ∧
      result.files = progress.files ++ sources.map (Source.file sha256) := by
  induction sources generalizing room progress with
  | nil =>
    have empty : encodeTar [] = zeros 1024 := rfl
    have zero : (zeros 1024).all isNul := by
      rw [List.all_eq_true]
      intro b member
      rw [List.eq_of_mem_replicate member]
      rfl
    have length := zeros_length 1024
    rw [empty]
    exact ⟨_, .trailer zero (by rw [length]) (by rw [length]) (by rw [length]; decide),
      (List.append_nil _).symm⟩
  | cons source sources ih =>
    obtain ⟨room, rfl⟩ : ∃ fewer, room = fewer + 1 := by
      rw [List.length_cons] at fits_room
      exact ⟨room - 1, by omega⟩
    rw [List.map_cons, List.nodup_cons] at distinct
    rw [totalBytes, List.map_cons, List.sum_cons, ← totalBytes] at total
    have here := fit source List.mem_cons_self
    have left : progress.expandedBytes + source.content.length ≤ 536870912 := by omega
    have inspected := here.inspected (fresh source List.mem_cons_self) left
    have size : (fill (padded source.content.length) source.content).length =
        padded source.content.length := by
      refine fill_length ?_
      rw [padded]
      omega
    have content : (fill (padded source.content.length) source.content).take
        source.content.length = source.content := List.take_left
    have later : ∀ other ∈ sources, trimEnd other.path ∉
        (progress.add sha256 source.member source.content).seen := by
      intro other listed
      rw [Progress.add_seen, List.mem_cons, not_or]
      refine ⟨fun same => distinct.1 ?_, fresh other (List.mem_cons_of_mem _ listed)⟩
      exact List.mem_map.mpr ⟨other, listed, same⟩
    have rest_total : (progress.add sha256 source.member source.content).expandedBytes +
        totalBytes sources ≤ 536870912 := by
      change progress.expandedBytes + source.content.length + _ ≤ _
      omega
    obtain ⟨result, run, files⟩ := ih
      (fun other listed => fit other (List.mem_cons_of_mem _ listed)) distinct.2 later
      (Nat.le_of_succ_le_succ fits_room) rest_total
    refine ⟨result, ?_, ?_⟩
    · rw [encodeTar, List.flatMap_cons, List.append_assoc, Source.encode]
      refine .entry here.header_length inspected.used (inspectHeader_ok.mpr inspected) size ?_
      rw [Source.member] at run ⊢
      rw [content]
      exact run
    · rw [files, Progress.add_files, List.append_assoc]
      rfl

/-- Whatever the cuts, an encoded archive that compresses to 256 MiB at most is accepted and
reported entry by entry. -/
theorem encoded_accepted {sources : List Source} {compressedLength : Nat}
    (fit : ∀ source ∈ sources, source.Fits)
    (distinct : (sources.map fun source => trimEnd source.path).Nodup)
    (some : 1 ≤ sources.length) (few : sources.length ≤ 4096)
    (total : totalBytes sources ≤ 536870912) (compressed : compressedLength ≤ 268435456)
    (splits : List Nat) :
    assertSafeTar sha256 ⟨compressedLength, encodeTar sources, false, splits⟩ =
      .ok ⟨sources.length, totalBytes sources, (encodeTar sources).length,
        sources.map (Source.file sha256)⟩ := by
  have fresh : ∀ source ∈ sources, trimEnd source.path ∉ (Progress.start : Progress D).seen := by
    simp [Progress.start]
  have room : (Progress.start : Progress D).expandedBytes + totalBytes sources ≤ 536870912 := by
    simpa [Progress.start] using total
  obtain ⟨result, run, files⟩ : ∃ result, Accepted sha256 4096 .start (encodeTar sources) result ∧
      result.files = _ := encoded_run fit distinct fresh few room
  obtain ⟨blocks, read, trailer, account⟩ := run.account
  have reported : result.files = sources.map (Source.file sha256) := by
    simpa [Progress.start] using files
  have same : read = sources.map (Source.file sha256) := by
    rw [← reported]
    simpa [Progress.start] using account.reported.symm
  have entries : result.entries = sources.length := by
    simpa [Progress.start, same] using account.entries
  have expanded : result.expandedBytes = totalBytes sources := by
    have sum := account.expanded
    rw [same, List.map_map] at sum
    exact sum.trans (Nat.zero_add _)
  have length : result.tarBytes = (encodeTar sources).length := by
    simpa [Progress.start] using account.length
  refine assertSafeTar_ok.mpr ⟨compressed, rfl, result, run, by omega, ?_⟩
  rw [← entries, ← expanded, ← length, ← reported]

theorem note_fits : note.Fits :=
  { allowed := by decide +kernel, utf8 := by decide +kernel, name := by decide +kernel
    dir := by decide, type := by decide, directory := by decide, mode := by decide
    small := by decide +kernel }

theorem note_reported :
    assertSafeTar id ⟨100, encodeTar [note], false, [7, 300]⟩ =
      .ok ⟨1, totalBytes [note], (encodeTar [note]).length, [note.file id]⟩ :=
  encoded_accepted (by simpa using note_fits) (by simp) (by decide) (by decide)
    (by decide +kernel) (by decide) [7, 300]

/-! Five full entries, stored without compression, are 320 MiB: over the limit on the
compressed length, though every other limit is kept. -/

def bulk (digit : UInt8) : Source :=
  ⟨[], ascii "run/work/" ++ [digit], 48, 420, List.replicate 67108864 digit⟩

def bulkSources : List Source := [48, 49, 50, 51, 52].map bulk

theorem bulk_fits {digit : UInt8} (shown : digit ∈ [48, 49, 50, 51, 52]) : (bulk digit).Fits := by
  have paths : ∀ digit ∈ ([48, 49, 50, 51, 52] : Bytes),
      testArchivePath (ascii "run/work/" ++ [digit]) ∧
        validUtf8 (ascii "run/work/" ++ [digit]) ∧
        (ascii "run/work/" ++ [digit]).length ≤ 100 := by decide +kernel
  obtain ⟨allowed, utf8, short⟩ := paths digit shown
  exact
    { allowed := allowed, utf8 := utf8, name := short, dir := Nat.zero_le _
      type := .inr (.inl rfl)
      directory := fun is_directory => absurd is_directory (by decide : ¬(48 : UInt8) = 53)
      mode := (by decide : 420 < 512), small := Nat.le_of_eq List.length_replicate }

theorem stored_archive_refused : (∀ source ∈ bulkSources, source.Fits) ∧
    (bulkSources.map fun source => trimEnd source.path).Nodup ∧ bulkSources.length = 5 ∧
    totalBytes bulkSources ≤ 536870912 ∧
    assertSafeTar id ⟨335573527, encodeTar bulkSources, false, []⟩ =
      .error (.thrown "Compressed snapshot exceeds 256 MiB" []) := by
  refine ⟨?_, by decide +kernel, rfl, ?_, rfl⟩
  · intro source member
    obtain ⟨digit, shown, rfl⟩ := List.mem_map.mp member
    exact bulk_fits shown
  · have size : ∀ digit, (bulk digit).content.length = 67108864 := fun _ => List.length_replicate
    simp only [totalBytes, bulkSources, List.map_cons, List.map_nil, List.sum_cons, List.sum_nil,
      size]
    decide

end WinBoot.Tar
