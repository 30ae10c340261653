import Mathlib.Data.List.Forall2
import WinBoot.PathSegments
import WinBoot.TarEncoder

/-! What an accepted archive is: every byte of the stream lies in a checked header, in an entry's
data or padding, or in the zero trailer, and the report describes exactly these entries. -/

namespace WinBoot.Tar

open PathSegments

variable {D : Type} {sha256 : Bytes → D}

/-! ### Allowed paths -/

/-- Non-empty segments, none of them a dot segment, and at most one trailing slash. -/
def CleanPath (path : Bytes) : Prop :=
  ∃ trimmed, (path = trimmed ∨ path = trimmed ++ [47]) ∧
    ∀ segment ∈ segments trimmed, segment ≠ [] ∧ segment ≠ [46] ∧ segment ≠ [46, 46]

/-- What a path names in the file system. -/
def treePath (path : Bytes) : List Bytes := components 47 path

theorem workPath_head : workPath.head? = some 114 := by decide +kernel

theorem codexPaths_head : ∀ path ∈ codexPaths, path.head? = some 114 := by decide +kernel

theorem allowed_place {path : Bytes} (allowed : testArchivePath path) :
    path = workPath ∨ workPath ++ [47] <+: path ∨ path ∈ codexPaths := by
  rw [testArchivePath] at allowed
  split at allowed
  · contradiction
  · simpa only [Bool.or_eq_true, decide_eq_true_eq, List.isPrefixOf_iff_prefix,
      List.contains_iff_mem, or_assoc] using allowed

theorem allowed_head {path : Bytes} (allowed : testArchivePath path) :
    path.head? = some 114 := by
  rcases allowed_place allowed with rfl | ⟨rest, rfl⟩ | member
  · exact workPath_head
  · rw [List.append_assoc, List.head?_append, workPath_head]
    rfl
  · exact codexPaths_head path member

theorem allowed_shape {path : Bytes} (allowed : testArchivePath path) :
    ¬path.any isUnsafe ∧ ¬hasDotSegment path ∧ ¬[47, 47] <:+: path := by
  rw [testArchivePath] at allowed
  split at allowed
  · contradiction
  · rename_i clear
    simpa [not_or, and_assoc] using clear

theorem allowed_trimmed {path : Bytes} (allowed : testArchivePath path) :
    Plain 47 (trimEnd path) ∧ (path = trimEnd path ∨ path = trimEnd path ++ [47]) := by
  have head := allowed_head allowed
  refine trailing_cases ?_ (by rw [head]; decide) (allowed_shape allowed).2.2
  rintro rfl
  cases head

theorem allowed_clean {path : Bytes} (allowed : testArchivePath path) : CleanPath path := by
  obtain ⟨plain, whole⟩ := allowed_trimmed allowed
  refine ⟨trimEnd path, whole, fun segment member => ?_⟩
  have inside : segment ∈ segments path := by
    rcases whole with same | slash
    · rwa [same]
    · rw [slash, segments, List.splitOn_append_cons_self]
      exact List.mem_append_left _ member
  have dotless := (allowed_shape allowed).2.1
  simp only [hasDotSegment, List.any_eq_true, not_exists, not_and, Bool.or_eq_true,
    decide_eq_true_eq, not_or] at dotless
  refine ⟨?_, dotless segment inside⟩
  rintro rfl
  exact plain.segment_some member

/-- Two allowed paths name the same file exactly when they differ in a trailing slash at most. -/
theorem allowed_treePath {p q : Bytes} (hp : testArchivePath p) (hq : testArchivePath q)
    (same : treePath p = treePath q) : trimEnd p = trimEnd q := by
  have trimmed : ∀ {path}, testArchivePath path → treePath path = components 47 (trimEnd path) := by
    intro path allowed
    rcases (allowed_trimmed allowed).2 with whole | slash
    · rw [← whole, treePath]
    · rw [treePath, slash, components_trailing, ← slash]
  rw [trimmed hp, trimmed hq] at same
  exact (allowed_trimmed hp).1.components_inj (allowed_trimmed hq).1 same

/-! ### Entries -/

/-- The bytes of one entry. -/
structure Block where
  header : Bytes
  content : Bytes
  padding : Bytes

def Block.bytes (block : Block) : Bytes := block.header ++ block.content ++ block.padding

def Block.mode (block : Block) : Nat := octalValue (fieldText (modeField block.header))

/-- An entry that was checked, and the line that reports it. -/
structure Sound (sha256 : Bytes → D) (block : Block) (file : TarFile D) : Prop where
  whole : block.header.length = 512
  checksum : (fieldText (checksumField block.header)).all isOctal ∧
    fieldText (checksumField block.header) ≠ [] ∧
    headerSum block.header = octalValue (fieldText (checksumField block.header))
  allowed : testArchivePath file.path
  clean : CleanPath file.path
  type : file.type = typeByte block.header
  regular_or_directory : file.type = 0 ∨ file.type = 48 ∨ file.type = 53
  directory : file.type = 53 → block.content = []
  mode : ∀ bit ∈ [9, 10, 11], block.mode.testBit bit = false
  bytes : file.bytes = block.content.length
  small : file.bytes ≤ 67108864
  digest : file.sha256 = sha256 block.content
  aligned : (block.content ++ block.padding).length = padded block.content.length

theorem special_bits_clear {mode : Nat} (safe : mode &&& 0xE00 = 0) :
    ∀ bit ∈ [9, 10, 11], mode.testBit bit = false := by
  have clear : ∀ bit, (0xE00).testBit bit = true → mode.testBit bit = false := by
    intro bit special
    have both := congrArg (·.testBit bit) safe
    simpa [Nat.testBit_and, special] using both
  have special : ∀ bit ∈ [9, 10, 11], (0xE00).testBit bit = true := by decide
  exact fun bit member => clear bit (special bit member)

theorem Inspected.sound {seen : List Bytes} {expanded : Nat} {header body : Bytes}
    {member : Member} (inspected : Inspected seen expanded header member)
    (whole : header.length = 512) (size : body.length = padded member.size) :
    Sound sha256 ⟨header, body.take member.size, body.drop member.size⟩
      ⟨member.name, member.size, sha256 (body.take member.size), member.type⟩ := by
  have inside : member.size ≤ body.length := by
    rw [size, padded]
    omega
  have content : (body.take member.size).length = member.size := List.length_take_of_le inside
  exact
    { whole := whole
      checksum := ⟨inspected.checksum, inspected.checksum_some, inspected.sum⟩
      allowed := inspected.path
      clean := allowed_clean inspected.path
      type := inspected.type
      regular_or_directory := inspected.type_safe
      directory := fun is_directory => by
        rw [show member.size = 0 from inspected.directory is_directory, List.take_zero]
      mode := special_bits_clear inspected.mode_safe
      bytes := content.symm
      small := inspected.small
      digest := rfl
      aligned := by rw [List.take_append_drop, content, size] }

/-! ### Whole archives -/

/-- What a run from `progress` to `result` over `data` has read. -/
structure Account (sha256 : Bytes → D) (room : Nat) (progress : Progress D) (data : Bytes)
    (result : Progress D) (blocks : List Block) (files : List (TarFile D)) (trailer : Bytes) :
    Prop where
  bytes : data = blocks.flatMap Block.bytes ++ trailer
  zero : trailer.all isNul
  ended : 1024 ≤ trailer.length
  sound : List.Forall₂ (Sound sha256) blocks files
  reported : result.files = progress.files ++ files
  entries : result.entries = progress.entries + files.length
  room : files.length ≤ room
  expanded : result.expandedBytes = progress.expandedBytes + (files.map TarFile.bytes).sum
  limit : progress.expandedBytes ≤ 536870912 → result.expandedBytes ≤ 536870912
  length : result.tarBytes = progress.tarBytes + data.length
  distinct : (files.map fun file => trimEnd file.path).Nodup
  fresh : ∀ file ∈ files, trimEnd file.path ∉ progress.seen

theorem Accepted.account {room : Nat} {progress result : Progress D} {data : Bytes}
    (accepted : Accepted sha256 room progress data result) :
    ∃ blocks files trailer, Account sha256 room progress data result blocks files trailer := by
  induction accepted with
  | trailer zero whole long short =>
    rename_i room progress data
    refine ⟨[], [], data, ?_⟩
    exact
      { bytes := rfl, zero := zero, ended := long, sound := .nil, reported := by simp
        entries := rfl, room := Nat.zero_le _, expanded := rfl, limit := id, length := rfl
        distinct := List.nodup_nil, fresh := by simp }
  | entry whole used checked size later ih =>
    rename_i room progress result header body rest member
    obtain ⟨blocks, files, trailer, account⟩ := ih
    have inspected := inspectHeader_ok.mp checked
    refine ⟨⟨header, body.take member.size, body.drop member.size⟩ :: blocks,
      ⟨member.name, member.size, sha256 (body.take member.size), member.type⟩ :: files, trailer, ?_⟩
    have apart : ∀ file ∈ files, trimEnd file.path ∉ progress.seen ∧
        trimEnd file.path ≠ trimEnd member.name := by
      intro file listed
      have unseen := account.fresh file listed
      rw [Progress.add_seen, List.mem_cons, not_or] at unseen
      exact ⟨unseen.2, unseen.1⟩
    have read : (header ++ body ++ rest).length = 512 + padded member.size + rest.length := by
      rw [List.length_append, List.length_append, whole, size]
    exact
      { bytes := by
          have cut : body.take member.size ++ body.drop member.size = body :=
            List.take_append_drop ..
          simp only [List.flatMap_cons, Block.bytes, List.append_assoc, ← account.bytes]
          rw [← List.append_assoc (body.take member.size), cut]
        zero := account.zero
        ended := account.ended
        sound := .cons (inspected.sound whole size) account.sound
        reported := by
          rw [account.reported, Progress.add_files, List.append_assoc]
          rfl
        entries := by
          rw [account.entries, Progress.add_entries, List.length_cons]
          omega
        room := Nat.succ_le_succ account.room
        expanded := by
          rw [account.expanded, Progress.add_expandedBytes, List.map_cons, List.sum_cons,
            Nat.add_assoc]
        limit := fun _ => account.limit inspected.total
        length := by
          rw [account.length, read, Progress.add_tarBytes]
          omega
        distinct := by
          rw [List.map_cons, List.nodup_cons]
          refine ⟨fun again => ?_, account.distinct⟩
          obtain ⟨file, listed, same⟩ := List.mem_map.mp again
          exact (apart file listed).2 same
        fresh := by
          intro file listed
          rcases List.mem_cons.mp listed with rfl | later
          · exact inspected.fresh
          · exact (apart file later).1 }

theorem sound_of_listed {blocks : List Block} {files : List (TarFile D)}
    (sound : List.Forall₂ (Sound sha256) blocks files) {file : TarFile D} (listed : file ∈ files) :
    ∃ block, Sound sha256 block file := by
  induction sound with
  | nil => cases listed
  | cons front _ ih =>
    rcases List.mem_cons.mp listed with rfl | later
    · exact ⟨_, front⟩
    · exact ih later

/-- The entries' names in the tree differ as their trimmed paths do. -/
theorem Account.tree_distinct {room : Nat} {progress result : Progress D} {data : Bytes}
    {blocks : List Block} {files : List (TarFile D)} {trailer : Bytes}
    (account : Account sha256 room progress data result blocks files trailer) :
    (files.map fun file => treePath file.path).Nodup := by
  have apart := account.distinct
  rw [List.Nodup, List.pairwise_map] at apart ⊢
  refine apart.imp_of_mem fun here there differ same => differ ?_
  obtain ⟨_, first⟩ := sound_of_listed account.sound here
  obtain ⟨_, second⟩ := sound_of_listed account.sound there
  exact allowed_treePath first.allowed second.allowed same

theorem accepted_archive {gzip : Gzip} {details : Details D}
    (accepted : assertSafeTar sha256 gzip = .ok details) :
    ∃ blocks trailer, gzip.data = blocks.flatMap Block.bytes ++ trailer ∧ trailer.all isNul ∧
      List.Forall₂ (Sound sha256) blocks details.files ∧
      (details.files.map fun file => treePath file.path).Nodup ∧
      details.expandedBytes = (details.files.map TarFile.bytes).sum ∧
      details.expandedBytes ≤ 536870912 ∧ details.entries = details.files.length ∧
      1 ≤ details.entries ∧ details.entries ≤ 4096 ∧ details.tarBytes = gzip.data.length := by
  obtain ⟨-, -, result, run, some, rfl⟩ := assertSafeTar_ok.mp accepted
  obtain ⟨blocks, files, trailer, account⟩ := run.account
  have reported : result.files = files := by simpa [Progress.start] using account.reported
  have entries : result.entries = files.length := by simpa [Progress.start] using account.entries
  have expanded : result.expandedBytes = (files.map TarFile.bytes).sum := by
    simpa [Progress.start] using account.expanded
  have length : result.tarBytes = gzip.data.length := by
    simpa [Progress.start] using account.length
  have room := account.room
  refine ⟨blocks, trailer, account.bytes, account.zero, ?_, ?_, ?_,
    account.limit (Nat.zero_le _), ?_, by omega, by omega, length⟩
  · rw [reported]
    exact account.sound
  · rw [reported]
    exact account.tree_distinct
  · rw [reported, expanded]
  · rw [reported, entries]

theorem note_archive : ∃ blocks trailer, noteGzip.data = blocks.flatMap Block.bytes ++ trailer ∧
    trailer.all isNul ∧ List.Forall₂ (Sound id) blocks noteDetails.files ∧
    (noteDetails.files.map fun file => treePath file.path).Nodup ∧
    noteDetails.expandedBytes = (noteDetails.files.map TarFile.bytes).sum ∧
    noteDetails.expandedBytes ≤ 536870912 ∧
    noteDetails.entries = noteDetails.files.length ∧ 1 ≤ noteDetails.entries ∧
    noteDetails.entries ≤ 4096 ∧ noteDetails.tarBytes = noteGzip.data.length :=
  accepted_archive note_accepted

end WinBoot.Tar
