import WinBoot.TarRoundTrip

/-! Validator and reader side by side. The validator strips NULs and spaces at both ends of a
field where the reader stops at the first NUL, so the two see the same entries exactly when no
field hides its text behind a leading NUL. -/

namespace WinBoot.Tar

open PaddedField Checks

/-- A size field with a NUL in front of its digits has only zeros for digits. -/
def SizeAnchored (field : Bytes) : Prop :=
  ((field.dropWhile isSpace).head?.any isNul → ∀ b ∈ field, ¬(49 ≤ b ∧ b ≤ 55))

structure HeaderAnchored (header : Bytes) : Prop where
  name : Anchored isNul (nameField header)
  dir : Anchored isNul (prefixField header)
  size : SizeAnchored (sizeField header)

/-- No header on the reader's way hides text behind a leading NUL. -/
def StreamAnchored (data : Bytes) : Prop :=
  ∀ block ∈ ustarBlocks data.length data, HeaderAnchored block.1

instance (field : Bytes) : Decidable (SizeAnchored field) := inferInstanceAs (Decidable (_ → _))

instance (header : Bytes) : Decidable (HeaderAnchored header) :=
  decidable_of_iff (Anchored isNul (nameField header) ∧ Anchored isNul (prefixField header) ∧
    SizeAnchored (sizeField header))
    ⟨fun ⟨name, dir, size⟩ => ⟨name, dir, size⟩, fun ⟨name, dir, size⟩ => ⟨name, dir, size⟩⟩

instance (data : Bytes) : Decidable (StreamAnchored data) := inferInstanceAs (Decidable (∀ _ ∈ _, _))

/-! ### Sizes -/

theorem asciiText_digit {b : UInt8} (octal : isOctal (if b < 128 then b else 63)) : isOctal b := by
  split at octal
  · exact octal
  · contradiction

/-- The text of a numeral is the field without the blanks at its ends. -/
theorem fieldText_octal {field : Bytes} (octal : (fieldText field).all isOctal) :
    fieldText field = strip isBlank field := by
  rw [fieldText, asciiText_of_small]
  intro b member
  have shown : (if b < 128 then b else 63) ∈ asciiText field := List.mem_map.mpr ⟨b, member, rfl⟩
  rcases mem_strip_or_pad isBlank shown with digit | blank
  · exact isOctal_single (asciiText_digit (List.all_eq_true.mp octal _ digit))
  · by_contra large
    rw [if_neg large] at blank
    contradiction

theorem isSpace_blank (b : UInt8) (space : isSpace b) : isBlank b := by
  rw [isBlank, space, Bool.or_true]

theorem isNul_blank {b : UInt8} (nul : isNul b) : isBlank b := by
  rw [isBlank, nul, Bool.true_or]

/-- A numeral vanishes when none of the field's bytes is a digit above zero. -/
theorem numeral_eq_zero {field : Bytes} (octal : (strip isBlank field).all isOctal) :
    octalValue (strip isBlank field) = 0 ↔ ∀ b ∈ field, ¬(49 ≤ b ∧ b ≤ 55) := by
  rw [octalValue_eq_zero (List.all_eq_true.mp octal)]
  constructor
  · rintro zeros b member ⟨low, -⟩
    rcases mem_strip_or_pad isBlank member with digit | blank
    · rw [zeros b digit] at low
      contradiction
    · rcases isBlank_iff.mp blank with rfl | rfl <;> contradiction
  · intro none d digit
    have range := List.all_eq_true.mp octal d digit
    have absent := none d (strip_mem digit)
    rw [isOctal, Bool.and_eq_true, decide_eq_true_eq, decide_eq_true_eq] at range
    rw [not_and] at absent
    rw [← UInt8.toNat_inj]
    have low : ¬49 ≤ d := fun high => absent high range.2
    simp only [UInt8.le_iff_toNat_le, UInt8.reduceToNat] at low range ⊢
    omega

theorem ustarSize_agrees {seen : List Bytes} {expanded : Nat} {header : Bytes} {member : Member}
    (inspected : Inspected seen expanded header member) :
    ustarSize header = member.size ↔ SizeAnchored (sizeField header) := by
  have text := fieldText_octal inspected.size_octal
  have octal := inspected.size_octal
  rw [text] at octal
  have whole : strip isBlank ((sizeField header).dropWhile isSpace) =
      strip isBlank (sizeField header) := strip_dropWhile isSpace_blank _
  rw [inspected.size, text, ustarSize]
  by_cases hidden : ((sizeField header).dropWhile isSpace).head?.any isNul
  · have first : ((sizeField header).dropWhile isSpace).head?.any isBlank := by
      rw [Option.any_eq_true] at hidden ⊢
      obtain ⟨b, head, nul⟩ := hidden
      exact ⟨b, head, isNul_blank nul⟩
    rw [cut_of_head first, SizeAnchored, ← numeral_eq_zero octal]
    exact ⟨fun same _ => same.symm, fun anchored => (anchored hidden).symm⟩
  · have first : ¬((sizeField header).dropWhile isSpace).head?.any isBlank := by
      rw [Option.any_eq_true] at hidden ⊢
      rintro ⟨b, head, blank⟩
      rcases Bool.or_eq_true_iff.mp blank with nul | space
      · exact hidden ⟨b, head, nul⟩
      · have stop := List.head?_dropWhile_not isSpace (sizeField header)
        rw [head] at stop
        simp [space] at stop
    have clean : ∀ b ∈ strip isBlank ((sizeField header).dropWhile isSpace), ¬isBlank b := by
      rw [whole]
      exact fun b digit => isOctal_not_blank (List.all_eq_true.mp octal b digit)
    rw [cut_eq_strip clean first, whole]
    exact ⟨fun _ nul => absurd nul hidden, fun _ => rfl⟩

/-! ### Paths -/

theorem joinPath_length (dir name : Bytes) : (joinPath dir name).length =
    if dir = [] then name.length else dir.length + (name.length + 1) := by
  rw [joinPath]
  split <;> simp

/-- Dropping a part that is not empty changes the path. -/
theorem joinPath_cut {dir name dir' name' : Bytes} (dirs : dir' = dir ∨ dir' = [] ∧ dir ≠ [])
    (names : name' = name ∨ name' = [] ∧ name ≠ []) :
    joinPath dir' name' = joinPath dir name ↔ dir' = dir ∧ name' = name := by
  constructor
  · intro same
    have lengths := congrArg List.length same
    rw [joinPath_length, joinPath_length] at lengths
    rcases dirs with rfl | ⟨rfl, some⟩
    · refine ⟨rfl, ?_⟩
      rcases names with rfl | ⟨rfl, some⟩
      · rfl
      · have positive := List.length_pos_of_ne_nil some
        rw [List.length_nil] at lengths
        split at lengths <;> omega
    · have positive := List.length_pos_of_ne_nil some
      rw [if_pos rfl, if_neg some] at lengths
      rcases names with rfl | ⟨rfl, -⟩
      · omega
      · rw [List.length_nil] at lengths
        omega
  · rintro ⟨rfl, rfl⟩
    rfl

theorem joinPath_free {dir name : Bytes} (free : ∀ b ∈ joinPath dir name, ¬isNul b) :
    (∀ b ∈ dir, ¬isNul b) ∧ ∀ b ∈ name, ¬isNul b := by
  rw [joinPath] at free
  split at free
  · rename_i empty
    exact ⟨by simp [empty], free⟩
  · exact ⟨fun b member => free b (List.mem_append_left _ member),
      fun b member => free b (List.mem_append_right _ (List.mem_cons_of_mem _ member))⟩

theorem ustarPath_agrees {seen : List Bytes} {expanded : Nat} {header : Bytes} {member : Member}
    (inspected : Inspected seen expanded header member) : ustarPath header = member.name ↔
      Anchored isNul (prefixField header) ∧ Anchored isNul (nameField header) := by
  have free := allowed_free inspected.path
  rw [inspected.name] at free ⊢
  obtain ⟨dir_free, name_free⟩ := joinPath_free free
  have dirs := cut_cases dir_free
  have names := cut_cases name_free
  rw [ustarPath, joinPath_cut (dirs.imp And.right And.right) (names.imp And.right And.right)]
  have both : ∀ {field : Bytes}, (Anchored isNul field ∧ cut isNul field = strip isNul field) ∨
      (¬Anchored isNul field ∧ cut isNul field = [] ∧ strip isNul field ≠ []) →
      (cut isNul field = strip isNul field ↔ Anchored isNul field) := by
    rintro field (⟨anchored, same⟩ | ⟨loose, empty, some⟩)
    · exact ⟨fun _ => anchored, fun _ => same⟩
    · exact ⟨fun same => absurd (same.symm.trans empty) some, fun anchored => absurd anchored loose⟩
  rw [both dirs, both names]

/-- A checked header is read alike exactly when it is anchored. -/
theorem header_agrees {seen : List Bytes} {expanded : Nat} {header : Bytes} {member : Member}
    (inspected : Inspected seen expanded header member) :
    (ustarPath header = member.name ∧ ustarSize header = member.size) ↔ HeaderAnchored header := by
  rw [ustarPath_agrees inspected, ustarSize_agrees inspected]
  exact ⟨fun ⟨⟨dir, name⟩, size⟩ => ⟨name, dir, size⟩, fun ⟨name, dir, size⟩ => ⟨⟨dir, name⟩, size⟩⟩

/-! ### Whole streams -/

variable {D : Type} {sha256 : Bytes → D}

/-- The line that reports an entry the reader sees. -/
def Entry.file (sha256 : Bytes → D) (entry : Entry) : TarFile D :=
  ⟨entry.path, entry.size, sha256 entry.content, entry.type⟩

theorem Accepted.agrees {room : Nat} {progress result : Progress D} {data : Bytes}
    (accepted : Accepted sha256 room progress data result) {fuel : Nat}
    (enough : data.length ≤ 512 * fuel) : ∃ files, result.files = progress.files ++ files ∧
      (files = (ustarBlocks fuel data).map (fun block => (ustarEntry block).file sha256) ↔
        ∀ block ∈ ustarBlocks fuel data, HeaderAnchored block.1) := by
  induction accepted generalizing fuel with
  | @trailer room progress data zero whole long short =>
    have front : (data.take 512).all isNul := by
      rw [List.all_eq_true] at zero ⊢
      exact fun b member => zero b (List.mem_of_mem_take member)
    have ended : ustarBlocks fuel data = [] := by
      cases fuel with
      | zero => rfl
      | succ fuel => rw [ustarBlocks, if_pos (.inr front)]
    exact ⟨[], by simp, by simp [ended]⟩
  | @entry room progress result header body rest member whole used checked size later ih =>
    have inspected := inspectHeader_ok.mp checked
    have same := header_agrees inspected
    obtain ⟨fuel, rfl⟩ : ∃ less, fuel = less + 1 := by
      rw [List.length_append, List.length_append, whole] at enough
      exact ⟨fuel - 1, by omega⟩
    have less : rest.length ≤ 512 * fuel := by
      rw [List.length_append, List.length_append, whole] at enough
      omega
    obtain ⟨files, reported, agree⟩ := ih less
    refine ⟨⟨member.name, member.size, sha256 (body.take member.size), member.type⟩ :: files,
      by rw [reported, Progress.add_files, List.append_assoc]; rfl, ?_⟩
    rw [List.append_assoc, ustarBlocks_cons whole used]
    by_cases anchored : HeaderAnchored header
    · obtain ⟨path, bytes⟩ := same.mpr anchored
      have inside : member.size ≤ body.length := by
        rw [size, padded]
        omega
      have line : (ustarEntry (header, (body ++ rest).take (ustarSize header))).file sha256 =
          ⟨member.name, member.size, sha256 (body.take member.size), member.type⟩ := by
        rw [bytes, List.take_append_of_le_length inside, ustarEntry, Entry.file, path, bytes,
          inspected.type]
      have next : (body ++ rest).drop (padded (ustarSize header)) = rest := by
        rw [bytes, List.drop_left' size]
      rw [List.map_cons, line, next, List.cons_inj_right, agree, List.forall_mem_cons]
      exact (and_iff_right anchored).symm
    · refine iff_of_false (fun alike => anchored ?_) fun all => anchored (all _ List.mem_cons_self)
      rw [List.map_cons, List.cons.injEq, ustarEntry, Entry.file, TarFile.mk.injEq] at alike
      exact same.mp ⟨alike.1.1.symm, alike.1.2.1.symm⟩

/-- The report of an accepted archive is what the reader sees, content included as the digest is
arbitrary, exactly when the stream hides no text behind a leading NUL. -/
theorem reader_agrees_iff {gzip : Gzip} {details : Details D}
    (accepted : assertSafeTar sha256 gzip = .ok details) :
    details.files = (ustarEntries gzip.data).map (Entry.file sha256) ↔
      StreamAnchored gzip.data := by
  obtain ⟨-, -, result, run, -, rfl⟩ := assertSafeTar_ok.mp accepted
  have enough : gzip.data.length ≤ 512 * gzip.data.length := by omega
  obtain ⟨files, reported, agree⟩ := run.agrees enough
  have same : result.files = files := by simpa [Progress.start] using reported
  rw [same, ustarEntries, List.map_map]
  exact agree

theorem note_reader_agrees :
    noteDetails.files = (ustarEntries noteGzip.data).map (Entry.file id) :=
  (reader_agrees_iff note_accepted).mpr (by decide +kernel)

/-! A size field with its NUL in front: the validator takes the second header for data. -/

def coverHeader : Bytes :=
  sealHeader (fill 100 (ascii "run/work/a")) (octalField 8 420) (0 :: octalDigits 11 512) 48
    (zeros 155)

def hidden : Source := ⟨[], ascii "etc/evil", 48, 420, []⟩

def hidingGzip : Gzip := ⟨100, coverHeader ++ hidden.header ++ zeros 1024, false, []⟩

def coverFiles : List (TarFile Bytes) := [⟨ascii "run/work/a", 512, hidden.header, 48⟩]

theorem hidden_entry_accepted :
    assertSafeTar id hidingGzip = .ok ⟨1, 512, 2048, coverFiles⟩ ∧
      ustarEntries hidingGzip.data =
        [⟨ascii "run/work/a", 48, 0, []⟩, ⟨ascii "etc/evil", 48, 0, []⟩] ∧
      coverFiles ≠ (ustarEntries hidingGzip.data).map (Entry.file id) :=
  ⟨ok_of_toOption (by decide +kernel), by decide +kernel, by decide +kernel⟩

end WinBoot.Tar
