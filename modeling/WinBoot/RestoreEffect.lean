import WinBoot.ArchiveTree
import WinBoot.RestoreRollback
import WinBoot.TarAgreement

/-! What a restore that succeeds leaves: the work tree of the archive, its home files at their own
paths, and the old home otherwise. A file is only replaced where it does not meet a directory, in
the archive or in the old home. -/

namespace WinBoot.Tar
open FileTree PaddedField

/-- The mode that the reader gives, under a umask of 077. -/
def ustarMode (header : Bytes) : Nat :=
  octalValue (cut isBlank ((modeField header).dropWhile isSpace)) &&& 0o700

def ustarItem (block : Bytes × Bytes) : Item :=
  ⟨treeNames (ustarPath block.1), ustarMode block.1,
    if typeByte block.1 = 53 ∨ (ustarPath block.1).getLast? = some 47 then none else some block.2⟩

/-- What the reader makes of an archive in an empty directory. -/
def extractArchive (data : Bytes) : Option Node :=
  extractAll ((ustarBlocks data.length data).map ustarItem) (.directory 0o700 [])

/-- An entry's content is its digest here. -/
def contents (file : TarFile Bytes) : Nat × Bytes := (0o600, file.sha256)

theorem read_files {D : Type} {sha256 : Bytes → D} {gzip : Gzip} {details : Details D}
    (accepted : assertSafeTar sha256 gzip = .ok details) (anchored : StreamAnchored gzip.data) :
    details.files =
      (ustarBlocks gzip.data.length gzip.data).map fun b => (ustarEntry b).file sha256 := by
  obtain ⟨-, -, result, run, -, rfl⟩ := assertSafeTar_ok.mp accepted
  have enough : gzip.data.length ≤ 512 * gzip.data.length := by omega
  obtain ⟨files, reported, agree⟩ := run.agrees enough
  rw [reported, agree.mpr anchored]
  rfl

/-- The reader's tree is the one that the checked entries describe. -/
theorem extractArchive_described {gzip : Gzip} {details : Details Bytes}
    (accepted : assertSafeTar id gzip = .ok details) (anchored : StreamAnchored gzip.data)
    {tree : Node} (made : extractArchive gzip.data = some tree) (at_ : List String) :
    tree.kindAt at_ = described (details.files.map (TarFile.item contents)) at_ := by
  obtain ⟨allowed, -, distinct⟩ := accepted_files accepted
  have read := read_files accepted anchored
  have apart := items_distinct distinct contents
  have rooted := items_rooted allowed contents
  rw [read, List.map_map] at apart rooted
  have shaped : Shaped ((ustarBlocks gzip.data.length gzip.data).map ustarItem) tree := by
    refine extractAll_shape ?_ (fun item member => ?_) made
    · rw [List.map_map] at apart ⊢
      exact apart
    · obtain ⟨block, listed, rfl⟩ := List.mem_map.mp member
      exact rooted (TarFile.item contents ((ustarEntry block).file id))
        (List.mem_map.mpr ⟨block, listed, rfl⟩)
  rw [shaped at_, read, List.map_map]
  exact described_congr (f := ustarItem)
    (g := TarFile.item contents ∘ fun b => (ustarEntry b).file id) _ (fun _ => rfl) (fun _ => rfl) at_

/-! ### Names -/

theorem workPath_names : treeNames workPath = ["run", "work"] := by decide

theorem work_names {path : Bytes} (below : workPath ++ [47] <+: path) :
    ["run", "work"] <+: treeNames path := by
  obtain ⟨rest, rfl⟩ := below
  rw [List.append_assoc, List.singleton_append, treeNames, treePath, PathSegments.components_append,
    List.map_append]
  exact ⟨(treePath rest).map nameText, congrArg (· ++ _) workPath_names.symm⟩

end WinBoot.Tar

namespace WinBoot.RestoreState
open Interaction ShellProcess RamScripts FileTree Tar

/-- A home file's path in the archive. -/
def HomeFile.archived (file : HomeFile) : List String :=
  "run" :: "codex-home" :: HomeFile.path file

/-- The snapshot has the file. -/
def Contained (files : List (TarFile Bytes)) (file : HomeFile) : Prop :=
  ∃ entry ∈ files, treeNames entry.path = HomeFile.archived file

/-- What a restore is to leave. The way to a restored file is made where it is missing. -/
structure Restored (files : List (TarFile Bytes)) (home : Option Node) (s : State) : Prop where
  work : ∀ at_, s.work.bind (·.kindAt at_) =
    described (files.map (TarFile.item contents)) ("run" :: "work" :: at_)
  saved : ∀ file, ∀ entry ∈ files, treeNames entry.path = HomeFile.archived file →
    s.home.bind (·.seek (HomeFile.path file)) = some (.file 0o600 entry.sha256)
  kept : ∀ at_, (∀ file, Contained files file → HomeFile.path file ≠ at_) →
    ∀ k ∈ home.bind (·.kindAt at_), s.home.bind (·.kindAt at_) = some k
  added : ∀ at_, at_ ≠ [] → (s.home.bind (·.kindAt at_)).isSome →
    (home.bind (·.kindAt at_)).isSome ∨ ∃ file, Contained files file ∧ at_ <+: HomeFile.path file

/-- No directory stands at the place of a home file that the snapshot has, neither in the snapshot
nor in the old home. -/
def Unobstructed (files : List (TarFile Bytes)) (home : Option Node) : Prop :=
  ∀ file, ∀ entry ∈ files, treeNames entry.path = HomeFile.archived file →
    entry.type ≠ 53 ∧ ¬(home.bind (·.seek (HomeFile.path file))).any Node.isDirectory

instance (files : List (TarFile Bytes)) (home : Option Node) :
    Decidable (Unobstructed files home) :=
  decidable_of_iff (∀ file ∈ restoreFiles, ∀ entry ∈ files,
    treeNames entry.path = HomeFile.archived file →
      entry.type ≠ 53 ∧ ¬(home.bind (·.seek (HomeFile.path file))).any Node.isDirectory)
    ⟨fun all file => all file (mem_restoreFiles file), fun clear file _ => clear file⟩

theorem archived_entry : ∀ path ∈ codexPaths, trimEnd path = path ∧ path.getLast? ≠ some 47 ∧
    ∀ file ∈ restoreFiles, HomeFile.archived file <+: treeNames path →
      treeNames path = HomeFile.archived file := by
  decide

/-- An allowed entry at or below a home file's path is that file's. -/
theorem entry_of_archived {path : Bytes} (allowed : testArchivePath path) {file : HomeFile}
    (below : HomeFile.archived file <+: treeNames path) :
    treeNames path = HomeFile.archived file ∧ path.getLast? ≠ some 47 := by
  have apart : ¬HomeFile.archived file <+: ["run", "work"] ∧
      ¬["run", "work"] <+: HomeFile.archived file := by cases file <;> decide
  rcases allowed_place allowed with rfl | work | home
  · rw [workPath_names] at below
    exact absurd below apart.1
  · rcases List.prefix_or_prefix_of_prefix below (work_names work) with first | second
    · exact absurd first apart.1
    · exact absurd second apart.2
  · obtain ⟨-, last, names⟩ := archived_entry path home
    exact ⟨names file (mem_restoreFiles file) below, last⟩

section

variable {files : List (TarFile Bytes)} (allowed : ∀ file ∈ files, testArchivePath file.path)
  (distinct : (files.map fun file => treePath file.path).Nodup) {file : HomeFile}

include allowed distinct in
theorem described_archived {entry : TarFile Bytes} (member : entry ∈ files)
    (here : treeNames entry.path = HomeFile.archived file) :
    described (files.map (TarFile.item contents)) (HomeFile.archived file) =
      some (if entry.type = 53 then .directory else .file entry.sha256) := by
  have found := described_of_mem (items_distinct distinct contents) (List.mem_map_of_mem member)
  have below : HomeFile.archived file <+: treeNames entry.path := by rw [here]
  have last := (entry_of_archived (allowed entry member) below).2
  rw [← here]
  refine found.trans (congrArg some ?_)
  by_cases directory : entry.type = 53
  · simp [TarFile.item, Item.node, directory, Node.kind]
  · simp [TarFile.item, Item.node, directory, last, contents, Node.kind]

include allowed in
theorem contained_of_described
    (some : described (files.map (TarFile.item contents)) (HomeFile.archived file) ≠ none) :
    Contained files file := by
  by_contra missing
  have fresh : HomeFile.archived file ∉ (files.map (TarFile.item contents)).map Item.path := by
    intro listed
    obtain ⟨item, among, same⟩ := List.mem_map.mp listed
    obtain ⟨entry, member, rfl⟩ := List.mem_map.mp among
    exact missing ⟨entry, member, same⟩
  rw [described_of_fresh fresh] at some
  split at some
  · next implied =>
    obtain root | ⟨item, among, below⟩ := implied
    · cases root
    · obtain ⟨entry, member, rfl⟩ := List.mem_map.mp among
      exact missing ⟨entry, member, (entry_of_archived (allowed entry member) below).1⟩
  · exact some rfl

end

/-! ### The old home and the new -/

theorem settled_of_clear {file : HomeFile} {n home : Node}
    (clear : ¬(home.seek (HomeFile.path file)).any Node.isDirectory) :
    HomeFile.settled file n home = n.chmod 0o600 := by
  rw [HomeFile.settled]
  cases found : home.seek (HomeFile.path file) with
  | none => rfl
  | some there =>
    cases there with
    | directory => simp [found, Node.isDirectory] at clear
    | _ => rfl

theorem settled_of_directory {file : HomeFile} {n home : Node}
    (obstructed : (home.seek (HomeFile.path file)).any Node.isDirectory) :
    (HomeFile.settled file n home).isDirectory := by
  rw [HomeFile.settled]
  cases found : home.seek (HomeFile.path file) with
  | none => simp [found] at obstructed
  | some there =>
    cases there with
    | directory => rfl
    | _ => simp [found, Node.isDirectory] at obstructed

/-- A missing home directory and an empty one have the same paths, their own apart. -/
theorem seek_getD (home : Option Node) {at_ : List String} (some : at_ ≠ []) :
    (home.getD (.directory 0o700 [])).seek at_ = home.bind (·.seek at_) := by
  cases home with
  | some n => rfl
  | none =>
    cases at_ with
    | nil => exact absurd rfl some
    | cons name rest => rfl

theorem file_of_kind {n : Node} {data : List UInt8} (kind : n.kind = .file data) :
    n.chmod 0o600 = .file 0o600 data := by
  cases n with
  | file mode content => rw [Node.chmod, (Kind.file.inj kind)]
  | _ => cases kind

section

variable {files : List (TarFile Bytes)} (allowed : ∀ file ∈ files, testArchivePath file.path)
  (distinct : (files.map fun file => treePath file.path).Nodup) {tree : Node}
  (shaped : ∀ at_, tree.kindAt at_ = described (files.map (TarFile.item contents)) at_)

include allowed shaped in
theorem contained_of_saved {file : HomeFile} (saved : (HomeFile.saved file tree).isSome) :
    Contained files file := by
  refine contained_of_described allowed fun none => ?_
  rw [← shaped, Node.kindAt, Option.map_eq_none_iff] at none
  rw [HomeFile.saved, ← HomeFile.archived, none] at saved
  cases saved

include allowed distinct shaped in
theorem saved_of_entry {file : HomeFile} {entry : TarFile Bytes} (member : entry ∈ files)
    (here : treeNames entry.path = HomeFile.archived file) :
    ∃ n, HomeFile.saved file tree = some n ∧
      n.kind = if entry.type = 53 then .directory else .file entry.sha256 :=
  Option.map_eq_some_iff.mp ((shaped _).trans (described_archived allowed distinct member here))

variable {old : Option Node} (accommodated : ∀ n ∈ old, n.isDirectory)
  (landed : LandedAll tree restoreFiles (old.getD (.directory 0o700 [])))

include allowed distinct shaped accommodated landed in
/-- A directory in the way is still there, or the file's copy is one. -/
theorem unobstructed_of_saved (saved : ∀ file, ∀ entry ∈ files,
      treeNames entry.path = HomeFile.archived file →
        (newHome tree old).seek (HomeFile.path file) = some (.file 0o600 entry.sha256)) :
    Unobstructed files old := by
  intro file entry member here
  obtain ⟨n, found, kind⟩ := saved_of_entry allowed distinct shaped member here
  have placed := (newHome_overlaying accommodated landed).placed file (mem_restoreFiles file) n found
  have settled := Option.some.inj (placed.symm.trans (saved file entry member here))
  have some : HomeFile.path file ≠ [] := by cases file <;> decide
  have clear : ¬((old.getD (.directory 0o700 [])).seek (HomeFile.path file)).any Node.isDirectory := by
    intro obstructed
    have directory := settled_of_directory (n := n) obstructed
    rw [settled] at directory
    cases directory
  refine ⟨fun directory => ?_, by rwa [← seek_getD old some]⟩
  rw [settled_of_clear clear] at settled
  rw [if_pos directory, ← Node.kind_chmod 0o600, settled] at kind
  cases kind

include allowed distinct shaped accommodated landed in
theorem saved_of_unobstructed (clear : Unobstructed files old) {file : HomeFile}
    {entry : TarFile Bytes} (member : entry ∈ files)
    (here : treeNames entry.path = HomeFile.archived file) :
    (newHome tree old).seek (HomeFile.path file) = some (.file 0o600 entry.sha256) := by
  obtain ⟨n, found, kind⟩ := saved_of_entry allowed distinct shaped member here
  obtain ⟨regular, free⟩ := clear file entry member here
  have some : HomeFile.path file ≠ [] := by cases file <;> decide
  rw [← seek_getD old some] at free
  rw [if_neg regular] at kind
  rw [(newHome_overlaying accommodated landed).placed file (mem_restoreFiles file) n found,
    settled_of_clear free, file_of_kind kind]

/-- Below a place without a directory there is nothing. -/
theorem kindAt_below {n : Node} {path at_ : List String}
    (clear : ¬(n.seek path).any Node.isDirectory) (below : path <+: at_) (proper : path ≠ at_) :
    n.kindAt at_ = none := by
  obtain ⟨rest, rfl⟩ := below
  rw [Node.kindAt, Node.seek_append]
  cases found : n.seek path with
  | none => rfl
  | some there =>
    cases rest with
    | nil => exact absurd (List.append_nil path).symm proper
    | cons name rest =>
      cases there with
      | directory => simp [found, Node.isDirectory] at clear
      | _ => rfl

include allowed distinct shaped accommodated landed in
/-- Elsewhere nothing is changed and only parents are made. -/
theorem others_of_unobstructed (clear : Unobstructed files old) (at_ : List String)
    (other : ∀ file, Contained files file → HomeFile.path file ≠ at_) :
    (newHome tree old).kindAt at_ = (old.getD (.directory 0o700 [])).kindAt at_ ∨
      (old.getD (.directory 0o700 [])).kindAt at_ = none ∧
        ∃ file, Contained files file ∧ at_ <+: HomeFile.path file := by
  by_cases below : ∃ file, Contained files file ∧ HomeFile.path file <+: at_
  · obtain ⟨file, contained, below⟩ := below
    obtain ⟨entry, member, here⟩ := contained
    have some : HomeFile.path file ≠ [] := by cases file <;> decide
    have proper := other file ⟨entry, member, here⟩
    have free := (clear file entry member here).2
    rw [← seek_getD old some] at free
    have after : ¬((newHome tree old).seek (HomeFile.path file)).any Node.isDirectory := by
      rw [saved_of_unobstructed allowed distinct shaped accommodated landed clear member here]
      simp [Node.isDirectory]
    exact .inl ((kindAt_below after below proper).trans (kindAt_below free below proper).symm)
  · have outside : ∀ file ∈ restoreFiles, (HomeFile.saved file tree).isSome →
        ¬HomeFile.path file <+: at_ := fun file _ saved under =>
      below ⟨file, contained_of_saved allowed shaped saved, under⟩
    obtain same | ⟨absent, -, file, -, saved, above⟩ :=
      (newHome_overlaying accommodated landed).kinds at_ outside
    · exact .inl same
    · exact .inr ⟨absent, file, contained_of_saved allowed shaped saved, above⟩

end

/-- A device where the archive can be extracted. -/
def deviceOf {data : Bytes} (extracts : (extractArchive data).isSome) : Device where
  snapshot := (extractArchive data).get extracts
  leaves _ _ := none

theorem deviceOf_made {data : Bytes} (extracts : (extractArchive data).isSome) :
    extractArchive data = some (deviceOf extracts).snapshot :=
  (Option.some_get extracts).symm

/-! A work tree and a home file, restored over a home that has another file, and over one where a
directory has the file's name. -/

def savedGzip : Gzip :=
  ⟨100, encodeTar [⟨[], ascii "run/work", 53, 448, []⟩,
    ⟨[], ascii "run/codex-home/auth.json", 48, 384, ascii "key"⟩], false, []⟩

def savedDetails : Details Bytes :=
  ⟨2, 3, 2560, [⟨ascii "run/work", 0, [], 53⟩,
    ⟨ascii "run/codex-home/auth.json", 3, ascii "key", 48⟩]⟩

theorem saved_accepted : assertSafeTar id savedGzip = .ok savedDetails :=
  Checks.ok_of_toOption (by decide +kernel)

theorem saved_anchored : StreamAnchored savedGzip.data := by decide +kernel

theorem saved_extracts : (extractArchive savedGzip.data).isSome := by decide +kernel

def savedDevice : Device := deviceOf saved_extracts

theorem saved_made : extractArchive savedGzip.data = some savedDevice.snapshot :=
  deviceOf_made saved_extracts

def restoring (home : Node) : Process Command × State :=
  advance trapOf (semantics savedDevice) anytime State.can 80
    (Process.start restoreCommand, .initial none (some home) false)

theorem restoring_run (home : Node) : Alone trapOf (semantics savedDevice) anytime
    (Process.start restoreCommand) (.initial none (some home) false) (restoring home).1
    (restoring home).2 :=
  .advance 80 can_admitted .start

def otherHome : Node := .directory 0o755 [("config.toml", .file 0o600 []), ("log", .file 0o644 [])]

def takenHome : Node := .directory 0o755 [("auth.json", .directory 0o700 [])]

end WinBoot.RestoreState
