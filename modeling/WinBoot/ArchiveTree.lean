import WinBoot.TarAccounting
import WinBoot.TreeExtraction

/-! Whether the entries of an accepted archive are those of a tree. The validator looks at each
entry's path and type apart, so a file can stand above other entries and at the place of the work
directory, and a directory at that of a home file. -/

namespace WinBoot.Tar

open FileTree PathSegments Checks

variable {D : Type} {sha256 : Bytes → D}

/-- A name as the tree has it, one character a byte. -/
def nameText (name : Bytes) : String := String.ofList (name.map fun b => Char.ofNat b.toNat)

def treeNames (path : Bytes) : List String := (treePath path).map nameText

def TarFile.Regular (file : TarFile D) : Prop := file.type = 0 ∨ file.type = 48

/-- What extracting an entry makes. A name that ends in a slash is a directory's, whatever the
type. -/
def TarFile.item (attributes : TarFile D → Nat × Bytes) (file : TarFile D) : Item :=
  ⟨treeNames file.path, (attributes file).1,
    if file.type = 53 ∨ file.path.getLast? = some 47 then none else some (attributes file).2⟩

structure TreeFormed (files : List (TarFile D)) : Prop where
  ancestors : ∀ file ∈ files, file.Regular → ∀ other ∈ files,
    treePath file.path <+: treePath other.path → treePath file.path = treePath other.path
  home : ∀ file ∈ files, file.path ∈ codexPaths → file.Regular
  work : ∀ file ∈ files, treePath file.path = treePath workPath → file.type = 53
  extracts : ∀ attributes mode,
    (extractAll (files.map (TarFile.item attributes)) (.directory mode [])).isSome

/-- The checks that the validator leaves out: the work directory is one, no home file is one, and
no other entry's name goes on a work file's behind a slash. -/
structure KindsFit (files : List (TarFile D)) : Prop where
  work : ∀ file ∈ files, trimEnd file.path = workPath → file.type = 53
  home : ∀ file ∈ files, file.path ∈ codexPaths → file.type ≠ 53
  below : ∀ file ∈ files, file.type ≠ 53 → workPath ++ [47] <+: file.path →
    ∀ other ∈ files, ¬trimEnd file.path ++ [47] <+: trimEnd other.path

/-! ### Names -/

theorem byteText_toNat (b : UInt8) : (Char.ofNat b.toNat).toNat = b.toNat := by
  have valid : b.toNat.isValidChar := .inl (Nat.lt_trans b.toNat_lt (by decide))
  rw [Char.ofNat, dif_pos valid]
  rfl

theorem nameText_injective : Function.Injective nameText := by
  intro name other same
  have chars := String.ofList_injective same
  refine List.map_injective_iff.mpr (fun b c alike => ?_) chars
  have codes := congrArg Char.toNat alike
  rwa [byteText_toNat, byteText_toNat, UInt8.toNat_inj] at codes

theorem treeNames_begins {p q : Bytes} : treeNames p <+: treeNames q ↔ treePath p <+: treePath q :=
  List.prefix_map_iff_of_injective nameText_injective

theorem treePath_trimmed {path : Bytes} (allowed : testArchivePath path) :
    treePath path = segments (trimEnd path) := by
  obtain ⟨plain, whole⟩ := allowed_trimmed allowed
  rw [segments, ← plain.components_eq]
  rcases whole with same | slash
  · rw [treePath, ← same]
  · rw [treePath, ← components_trailing (trimEnd path), ← slash]

theorem treePath_begins {p q : Bytes} (hp : testArchivePath p) (hq : testArchivePath q) :
    treePath p <+: treePath q ↔ trimEnd p = trimEnd q ∨ trimEnd p ++ [47] <+: trimEnd q := by
  rw [treePath_trimmed hp, treePath_trimmed hq]
  exact splitOn_begins

theorem treePath_some {path : Bytes} (allowed : testArchivePath path) : treePath path ≠ [] := by
  rw [treePath_trimmed allowed]
  exact List.splitOn_ne_nil 47 _

theorem codexPaths_trimmed : ∀ path ∈ codexPaths, trimEnd path = path := by decide

theorem codexPaths_apart : ∀ path ∈ codexPaths, 5 ≤ path.length ∧
    ¬path.take 5 = workPath.take 5 ∧ ∀ other ∈ codexPaths, ¬path ++ [47] <+: other := by
  decide

/-- Nothing allowed lies below a home file. -/
theorem codexPath_leaf {path other : Bytes} (member : path ∈ codexPaths)
    (allowed : testArchivePath other) : ¬path ++ [47] <+: trimEnd other := by
  intro below
  obtain ⟨long, apart, files⟩ := codexPaths_apart path member
  have whole : path ++ [47] <+: other := below.trans (List.rdropWhile_prefix _ other)
  have front : path.take 5 = other.take 5 := by
    obtain ⟨rest, rfl⟩ := whole
    rw [List.append_assoc, List.take_append_of_le_length long]
  rcases allowed_place allowed with rfl | ⟨rest, rfl⟩ | listed
  · exact apart front
  · exact apart (front.trans (by rw [List.append_assoc, List.take_append_of_le_length (by decide)]))
  · exact files other listed whole

/-! ### Accepted archives -/

section

variable {files : List (TarFile D)} (allowed : ∀ file ∈ files, testArchivePath file.path)
  (typed : ∀ file ∈ files, file.type = 0 ∨ file.type = 48 ∨ file.type = 53)

include typed in
theorem regular_iff {file : TarFile D} (member : file ∈ files) : file.Regular ↔ file.type ≠ 53 := by
  rw [TarFile.Regular]
  rcases typed file member with type | type | type <;> rw [type] <;> decide

include allowed in
/-- An entry above another is a directory in an archive whose kinds fit. -/
theorem KindsFit.ancestors (fit : KindsFit files) {file other : TarFile D} (member : file ∈ files)
    (regular : file.type ≠ 53) (member' : other ∈ files)
    (above : treePath file.path <+: treePath other.path) :
    treePath file.path = treePath other.path := by
  have here := allowed file member
  have there := allowed other member'
  rcases (treePath_begins here there).mp above with same | below
  · rw [treePath_trimmed here, treePath_trimmed there, same]
  · rcases allowed_place here with work | work | home
    · have trimmed : trimEnd file.path = workPath := by rw [work]; decide
      exact absurd (fit.work file member trimmed) regular
    · exact absurd below (fit.below file member regular work other member')
    · rw [codexPaths_trimmed _ home] at below
      exact absurd below (codexPath_leaf home there)

theorem items_distinct (distinct : (files.map fun file => treePath file.path).Nodup)
    (attributes : TarFile D → Nat × Bytes) :
    ((files.map (TarFile.item attributes)).map Item.path).Nodup := by
  rw [List.map_map]
  have names : (Item.path ∘ TarFile.item attributes) =
      (List.map nameText) ∘ fun file : TarFile D => treePath file.path := rfl
  rw [names, ← List.map_map]
  exact distinct.map (List.map_injective_iff.mpr nameText_injective)

include allowed in
theorem items_rooted (attributes : TarFile D → Nat × Bytes) :
    ∀ item ∈ files.map (TarFile.item attributes), item.path ≠ [] := by
  intro item member
  obtain ⟨file, listed, rfl⟩ := List.mem_map.mp member
  have named := treePath_some (allowed file listed)
  exact fun root => named (List.map_eq_nil_iff.mp root)

end

theorem accepted_files {gzip : Gzip} {details : Details D}
    (accepted : assertSafeTar sha256 gzip = .ok details) :
    (∀ file ∈ details.files, testArchivePath file.path) ∧
      (∀ file ∈ details.files, file.type = 0 ∨ file.type = 48 ∨ file.type = 53) ∧
      (details.files.map fun file => treePath file.path).Nodup := by
  obtain ⟨-, -, result, run, -, rfl⟩ := assertSafeTar_ok.mp accepted
  obtain ⟨blocks, files, trailer, account⟩ := run.account
  have reported : result.files = files := by simpa [Progress.start] using account.reported
  rw [reported]
  refine ⟨fun file listed => ?_, fun file listed => ?_, account.tree_distinct⟩
  · obtain ⟨_, sound⟩ := sound_of_listed account.sound listed
    exact sound.allowed
  · obtain ⟨_, sound⟩ := sound_of_listed account.sound listed
    exact sound.regular_or_directory

theorem accepted_sizes {gzip : Gzip} {details : Details D}
    (accepted : assertSafeTar sha256 gzip = .ok details) :
    (details.files.map TarFile.bytes).sum = details.expandedBytes ∧ details.files.length ≤ 4096 := by
  obtain ⟨-, -, result, run, -, rfl⟩ := assertSafeTar_ok.mp accepted
  obtain ⟨blocks, files, trailer, account⟩ := run.account
  have reported : result.files = files := by simpa [Progress.start] using account.reported
  have expanded : result.expandedBytes = (files.map TarFile.bytes).sum := by
    simpa [Progress.start] using account.expanded
  rw [reported]
  exact ⟨expanded.symm, account.room⟩

def crossedGzip : Gzip :=
  ⟨100, encodeTar [note, ⟨[], ascii "run/work/note/deep", 48, 420, []⟩], false, []⟩

def crossedDetails : Details Bytes :=
  ⟨2, 2, 2560, [⟨ascii "run/work/note", 2, ascii "hi", 48⟩,
    ⟨ascii "run/work/note/deep", 0, [], 48⟩]⟩

end WinBoot.Tar
