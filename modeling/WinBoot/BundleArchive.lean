import Mathlib.Logic.Equiv.List
import Mathlib.Logic.Function.Basic
import WinBoot.DevelopmentBundle

/-! The archive of the development bundle: what its builder reads of the source directory besides
the contents, and when two directories with the same contents give the same archive. -/

namespace WinBoot.BundleArchive
open Checks PosixPath DevelopmentBundle

abbrev Bytes : Type := List UInt8

/-- A regular file as `os.lstat` and the name services describe it. -/
structure File where
  content : Bytes
  inode : Nat
  device : Nat
  links : Nat
  mode : Nat
  uid : Nat
  gid : Nat
  mtime : Nat
  uname : String
  gname : String

/-- A symbolic link is followed when it is opened. -/
inductive Node
  | regular (file : File)
  | symlink (content : Option Bytes)
  | other

/-- No name in a directory has a NUL. -/
structure Directory where
  node : Text → Option Node
  plain : ∀ name, node name ≠ none → '\x00' ∉ name

inductive TarKind
  | regular | hardlink
deriving DecidableEq

structure TarInfo where
  name : Text
  mode : Nat
  uid : Nat
  gid : Nat
  size : Nat
  mtime : Nat
  kind : TarKind
  linkname : Text
  uname : String
  gname : String
deriving DecidableEq

/-- A header with the data that follow it. -/
structure Record where
  info : TarInfo
  data : Bytes
deriving DecidableEq

/-- A record that a header can hold, with as many bytes as the header says. -/
structure Record.Plain (record : Record) : Prop where
  name : '\x00' ∉ record.info.name
  linkname : '\x00' ∉ record.info.linkname
  mode : record.info.mode < 2 ^ 12
  uname : record.info.uname = ""
  gname : record.info.gname = ""
  size : record.data.length = record.info.size

/-- What the builder calls of `json`, `tarfile` and `gzip`. `readPackage` gives the members that are
met before the end of the package or an error; `write` is the whole archive, compressed with a fixed
time and name, and what it writes can be read back. -/
structure Library where
  parseManifest : Bytes → Except String (List Text)
  readPackage : Bytes → List Member × Option String
  write : List Record → Bytes
  faithful : ∀ records others, (∀ record ∈ records, record.Plain) → (∀ record ∈ others, record.Plain) →
    write records = write others → records = others

def Directory.read (d : Directory) (name : Text) : Except String Bytes :=
  match d.node name with
  | some (.regular file) => .ok file.content
  | some (.symlink (some content)) => .ok content
  | _ => .error ("cannot open " ++ String.ofList name)

def Directory.isLink (d : Directory) (name : Text) : Bool :=
  match d.node name with
  | some (.symlink _) => true
  | _ => false

def inspectPackage (lib : Library) (d : Directory) (seen : Inspection) (file : Text) :
    Except String Inspection := do
  let content ← d.read file
  let seen ← (lib.readPackage content).1.foldlM checkMember seen
  match (lib.readPackage content).2 with
  | none => return seen
  | some message => .error message

/-- The names of the inputs, and what the packages hold. -/
def inspectBundle (lib : Library) (d : Directory) : Except String (List Text × Inspection) := do
  let manifest ← d.read "manifest.json".toList
  let files ← lib.parseManifest manifest
  let names := ownFiles ++ files
  require (names.length = names.dedup.length) "Duplicate package name"
  let seen ← files.foldlM (inspectPackage lib d) ⟨[], [], 0⟩
  seen.paths.forM (checkTraversal seen.links)
  return (names, seen)

/-- `TarFile.inodes` -/
abbrev Inodes : Type := Nat × Nat → Option Text

/-- What a file is recorded as a hard link to. -/
def linkTarget (inodes : Inodes) (name : Text) (file : File) : Option Text :=
  if 1 < file.links then (inodes (file.inode, file.device)).filter (· ≠ name) else none

/-- A file that is not recorded as a link is remembered by its inode, if that is one. -/
def remember (inodes : Inodes) (name : Text) (file : File) : Inodes :=
  if (linkTarget inodes name file).isNone && file.inode ≠ 0 then
    Function.update inodes (file.inode, file.device) (some name)
  else inodes

/-- `TarFile.gettarinfo` of a regular file -/
def gettarinfo (inodes : Inodes) (name : Text) (file : File) : TarInfo where
  name := name
  mode := file.mode
  uid := file.uid
  gid := file.gid
  size := if (linkTarget inodes name file).isSome then 0 else file.content.length
  mtime := file.mtime
  kind := if (linkTarget inodes name file).isSome then .hardlink else .regular
  linkname := (linkTarget inodes name file).getD []
  uname := file.uname
  gname := file.gname

/-- One turn of the last loop. -/
def addFile (d : Directory) (state : Inodes × List Record) (name : Text) :
    Except String (Inodes × List Record) := do
  checkInput d.isLink name
  match d.node name with
  | some (.regular file) =>
    let info := { gettarinfo state.1 name file with
      mtime := 0, mode := 0o644, uid := 0, gid := 0, uname := "", gname := "" }
    return (remember state.1 name file, state.2 ++ [⟨info, file.content.take info.size⟩])
  | _ => .error ("cannot open " ++ String.ofList name)

/-- `sorted` -/
def sortNames (names : List Text) : List Text := names.mergeSort fun a b => !(List.lex b a (· < ·))

def buildArchive (lib : Library) (d : Directory) : Except String (Bytes × Summary) := do
  let (names, seen) ← inspectBundle lib d
  let (_, records) ← (sortNames names).foldlM (addFile d) (fun _ => none, [])
  return (lib.write records, ⟨seen.expandedBytes, seen.paths.length⟩)

/-! ### Two directories -/

/-- A readable regular file of the same content. -/
def SameContent (d e : Directory) (name : Text) : Prop :=
  ∃ f g : File, d.node name = some (.regular f) ∧ e.node name = some (.regular g) ∧ f.content = g.content

/-- The inputs that the manifest of a directory selects. -/
def selectedFiles (lib : Library) (d : Directory) : List Text :=
  match d.read "manifest.json".toList >>= lib.parseManifest with
  | .ok files => ownFiles ++ files
  | .error _ => ownFiles

def Alike (lib : Library) (d e : Directory) : Prop := ∀ name ∈ selectedFiles lib d, SameContent d e name

/-- The checks on the contents and the names, which end the builder before or while it writes. -/
def checkContents (lib : Library) (d : Directory) : Except String Unit := do
  let (names, _) ← inspectBundle lib d
  (sortNames names).forM (checkInput fun _ => false)

def Regular (d : Directory) (name : Text) : Prop := ∃ file, d.node name = some (.regular file)

/-- For each name in turn the earlier one that it is recorded as a hard link to. -/
def linkTargets (d : Directory) : Inodes → List Text → List (Option Text)
  | _, [] => []
  | inodes, name :: names =>
    match d.node name with
    | some (.regular file) =>
        linkTarget inodes name file :: linkTargets d (remember inodes name file) names
    | _ => none :: linkTargets d inodes names

def hardLinks (lib : Library) (d : Directory) : List (Option Text) :=
  linkTargets d (fun _ => none) (sortNames (selectedFiles lib d))

/-- What the builder makes of a name, a content and a link. -/
def recordOf (name : Text) (content : Bytes) (target : Option Text) : Record :=
  let size := if target.isSome then 0 else content.length
  { info :=
      { name := name, mode := 0o644, uid := 0, gid := 0, size := size, mtime := 0
        kind := if target.isSome then .hardlink else .regular, linkname := target.getD []
        uname := "", gname := "" }
    data := content.take size }

theorem recordOf_inj {name : Text} {content : Bytes} {target other : Option Text}
    (same : recordOf name content target = recordOf name content other) : target = other := by
  have kinds := congrArg (fun record => record.info.kind) same
  have names := congrArg (fun record => record.info.linkname) same
  cases target with
  | none =>
    cases other with
    | none => rfl
    | some first => cases kinds
  | some first =>
    cases other with
    | none => cases kinds
    | some second => exact congrArg some names

/-- The records of a directory of regular files. -/
def records (d : Directory) : Inodes → List Text → List Record
  | _, [] => []
  | inodes, name :: names =>
    match d.node name with
    | some (.regular file) =>
      recordOf name file.content (linkTarget inodes name file) :: records d (remember inodes name file) names
    | _ => records d inodes names

section

variable {lib : Library} {d e : Directory} {name : Text} {names : List Text} {file : File}

theorem SameContent.read (same : SameContent d e name) : d.read name = e.read name := by
  obtain ⟨f, g, here, there, contents⟩ := same
  rw [Directory.read, Directory.read, here, there]
  exact congrArg Except.ok contents

theorem isLink_regular (regular : d.node name = some (.regular file)) : d.isLink name = false := by
  rw [Directory.isLink, regular]

theorem addFile_regular (regular : d.node name = some (.regular file))
    (state : Inodes × List Record) :
    addFile d state name = checkInput (fun _ => false) name >>= fun _ => .ok
      (remember state.1 name file, state.2 ++ [recordOf name file.content (linkTarget state.1 name file)]) := by
  have check : checkInput d.isLink name = checkInput (fun _ => false) name := by
    rw [checkInput, checkInput, isLink_regular regular]
  rw [addFile, check, regular]
  rfl

theorem foldlM_addFile (regular : ∀ name ∈ names, Regular d name) (inodes : Inodes)
    (before : List Record) : ∃ after, names.foldlM (addFile d) (inodes, before) =
      names.forM (checkInput fun _ => false) >>= fun _ => .ok (after, before ++ records d inodes names) := by
  induction names generalizing inodes before with
  | nil => exact ⟨inodes, by rw [records, List.append_nil]; rfl⟩
  | cons name names ih =>
    obtain ⟨file, here⟩ := regular name List.mem_cons_self
    obtain ⟨after, rest⟩ := ih (fun other member => regular other (List.mem_cons_of_mem _ member))
      (remember inodes name file) (before ++ [recordOf name file.content (linkTarget inodes name file)])
    have checks : (name :: names).forM (checkInput fun _ => false) =
        checkInput (fun _ => false) name >>= fun _ => names.forM (checkInput fun _ => false) := rfl
    refine ⟨after, ?_⟩
    have appended : before ++ records d inodes (name :: names) =
        before ++ [recordOf name file.content (linkTarget inodes name file)] ++
          records d (remember inodes name file) names := by
      rw [records, here, List.append_assoc, List.singleton_append]
    rw [List.foldlM_cons, addFile_regular here, checks, appended]
    cases checkInput (fun _ => false) name with
    | error message => rfl
    | ok => exact rest

theorem records_same_iff (same : ∀ name ∈ names, SameContent d e name) (inodes others : Inodes) :
    records d inodes names = records e others names ↔ linkTargets d inodes names = linkTargets e others names := by
  induction names generalizing inodes others with
  | nil => exact iff_of_true rfl rfl
  | cons name names ih =>
    obtain ⟨f, g, here, there, contents⟩ := same name List.mem_cons_self
    have rest := ih (fun other member => same other (List.mem_cons_of_mem _ member))
      (remember inodes name f) (remember others name g)
    rw [records, records, linkTargets, linkTargets, here, there]
    dsimp only
    rw [List.cons.injEq, List.cons.injEq, contents, rest]
    exact and_congr_left fun _ => ⟨recordOf_inj, congrArg (recordOf name g.content)⟩

theorem inspectPackage_same (same : SameContent d e name) (seen : Inspection) :
    inspectPackage lib d seen name = inspectPackage lib e seen name := by
  rw [inspectPackage, inspectPackage, same.read]

theorem inspectPackages_same (same : ∀ name ∈ names, SameContent d e name) (seen : Inspection) :
    names.foldlM (inspectPackage lib d) seen = names.foldlM (inspectPackage lib e) seen := by
  induction names generalizing seen with
  | nil => rfl
  | cons name names ih =>
    rw [List.foldlM_cons, List.foldlM_cons, inspectPackage_same (same name List.mem_cons_self)]
    exact congrArg _ (funext fun next =>
      ih (fun other member => same other (List.mem_cons_of_mem _ member)) next)

theorem own_selected (own : name ∈ ownFiles) : name ∈ selectedFiles lib d := by
  rw [selectedFiles]
  split
  · exact List.mem_append_left _ own
  · exact own

theorem Alike.manifest (alike : Alike lib d e) :
    d.read "manifest.json".toList = e.read "manifest.json".toList :=
  (alike _ (own_selected List.mem_cons_self)).read

theorem Alike.selected (alike : Alike lib d e) : selectedFiles lib d = selectedFiles lib e := by
  rw [selectedFiles, selectedFiles, alike.manifest]

theorem selectedFiles_parsed {manifest : Bytes} {files : List Text}
    (read : d.read "manifest.json".toList = .ok manifest) (parsed : lib.parseManifest manifest = .ok files) :
    selectedFiles lib d = ownFiles ++ files := by
  have whole : (d.read "manifest.json".toList >>= lib.parseManifest) = .ok files :=
    bind_ok.mpr ⟨manifest, read, parsed⟩
  rw [selectedFiles, whole]

theorem Alike.inspect (alike : Alike lib d e) : inspectBundle lib d = inspectBundle lib e := by
  rw [inspectBundle, inspectBundle, ← alike.manifest]
  cases read : d.read "manifest.json".toList with
  | error message => rfl
  | ok manifest =>
    refine (?_ : (lib.parseManifest manifest >>= _) = (lib.parseManifest manifest >>= _))
    cases parsed : lib.parseManifest manifest with
    | error message => rfl
    | ok files =>
      have same : ∀ name ∈ files, SameContent d e name := fun name member =>
        alike name (selectedFiles_parsed read parsed ▸ List.mem_append_right _ member)
      refine congrArg (require _ _ >>= ·) (funext fun _ => ?_)
      rw [inspectPackages_same same]

/-! What is written has no NUL in a name. -/

def PlainInodes (inodes : Inodes) : Prop := ∀ key first, inodes key = some first → '\x00' ∉ first

theorem linkTarget_plain {inodes : Inodes} (plain : PlainInodes inodes) :
    '\x00' ∉ (linkTarget inodes name file).getD [] := by
  rw [linkTarget]
  split
  · cases remembered : inodes (file.inode, file.device) with
    | none => simp
    | some first =>
      have bare := plain _ first remembered
      rw [Option.filter]
      split
      · exact bare
      · simp
  · simp

theorem recordOf_plain {content : Bytes} {target : Option Text} (bare : '\x00' ∉ name)
    (plain : '\x00' ∉ target.getD []) : (recordOf name content target).Plain where
  name := bare
  linkname := plain
  mode := (by decide : 0o644 < 2 ^ 12)
  uname := rfl
  gname := rfl
  size := by cases target <;> simp [recordOf]

theorem remember_plain {inodes : Inodes} (plain : PlainInodes inodes) (bare : '\x00' ∉ name) :
    PlainInodes (remember inodes name file) := by
  intro key first remembered
  rw [remember] at remembered
  split at remembered
  · by_cases same : key = (file.inode, file.device)
    · rw [same, Function.update_self] at remembered
      rwa [← Option.some.inj remembered]
    · rw [Function.update_of_ne same] at remembered
      exact plain key first remembered
  · exact plain key first remembered

theorem records_plain (regular : ∀ name ∈ names, Regular d name) {inodes : Inodes}
    (plain : PlainInodes inodes) : ∀ record ∈ records d inodes names, record.Plain := by
  induction names generalizing inodes with
  | nil => simp [records]
  | cons name names ih =>
    obtain ⟨file, here⟩ := regular name List.mem_cons_self
    have bare : '\x00' ∉ name := d.plain name (by simp [here])
    rw [records, here]
    intro record member
    obtain rfl | later := List.mem_cons.mp member
    · exact recordOf_plain bare (linkTarget_plain plain)
    · exact ih (fun other member => regular other (List.mem_cons_of_mem _ member))
        (remember_plain plain bare) record later

theorem inspectBundle_names {seen : Inspection}
    (inspected : inspectBundle lib d = .ok (names, seen)) :
    names = selectedFiles lib d := by
  rw [inspectBundle] at inspected
  obtain ⟨manifest, read, inspected⟩ := bind_ok.mp inspected
  obtain ⟨files, parsed, inspected⟩ := bind_ok.mp inspected
  obtain ⟨_, -, inspected⟩ := bind_ok.mp inspected
  obtain ⟨_, -, inspected⟩ := bind_ok.mp inspected
  obtain ⟨_, -, inspected⟩ := bind_ok.mp inspected
  rw [selectedFiles_parsed read parsed]
  exact (congrArg Prod.fst (Except.ok.inj inspected)).symm

theorem mem_sortNames : name ∈ sortNames names ↔ name ∈ names := List.mem_mergeSort

/-- The builder on regular files: the checks, then the records. -/
theorem buildArchive_regular {seen : Inspection}
    (inspected : inspectBundle lib d = .ok (names, seen))
    (regular : ∀ name ∈ names, Regular d name) :
    buildArchive lib d = (sortNames names).forM (checkInput fun _ => false) >>= fun _ =>
      .ok (lib.write (records d (fun _ => none) (sortNames names)),
        ⟨seen.expandedBytes, seen.paths.length⟩) := by
  have sorted : ∀ name ∈ sortNames names, Regular d name := fun name member =>
    regular name (mem_sortNames.mp member)
  obtain ⟨after, added⟩ := foldlM_addFile sorted (fun _ => none) []
  rw [buildArchive, inspected]
  refine (congrArg (fun loop => loop >>= fun result => (.ok (lib.write result.2,
    ⟨seen.expandedBytes, seen.paths.length⟩) : Except String (Bytes × Summary))) added).trans ?_
  cases (sortNames names).forM (checkInput fun _ => false) <;> rfl

/-- Inputs that are single files are recorded as no links. -/
theorem linkTargets_own (own : ∀ name ∈ names, ∀ file, d.node name = some (.regular file) →
    file.links ≤ 1) (inodes : Inodes) : linkTargets d inodes names = names.map fun _ => none := by
  induction names generalizing inodes with
  | nil => rfl
  | cons name names ih =>
    have rest := fun inodes =>
      ih (fun other member => own other (List.mem_cons_of_mem _ member)) inodes
    rw [linkTargets, List.map_cons]
    split
    · next file here =>
      have single : linkTarget inodes name file = none :=
        if_neg (Nat.not_lt.mpr (own name List.mem_cons_self file here))
      rw [single, rest]
    · rw [rest]

theorem checkContents_inspected {seen : Inspection}
    (inspected : inspectBundle lib d = .ok (names, seen)) :
    checkContents lib d = (sortNames names).forM (checkInput fun _ => false) := by
  rw [checkContents, inspected]
  rfl

theorem Alike.regular (alike : Alike lib d e) (member : name ∈ selectedFiles lib d) :
    Regular d name ∧ Regular e name := by
  obtain ⟨f, g, left, right, -⟩ := alike name member
  exact ⟨⟨f, left⟩, g, right⟩

/-- Contents that fail a check are refused. -/
theorem buildArchive_refused {message : String}
    (regular : ∀ name ∈ selectedFiles lib d, Regular d name)
    (refused : checkContents lib d = .error message) : buildArchive lib d = .error message := by
  cases inspected : inspectBundle lib d with
  | error other =>
    rw [checkContents, inspected] at refused
    rw [buildArchive, inspected]
    cases refused
    rfl
  | ok found =>
    obtain ⟨names, seen⟩ := found
    obtain rfl := inspectBundle_names inspected
    rw [checkContents_inspected inspected] at refused
    rw [buildArchive_regular inspected regular, refused]
    rfl

theorem Alike.checkContents (alike : Alike lib d e) :
    checkContents lib d = checkContents lib e := by
  rw [BundleArchive.checkContents, BundleArchive.checkContents, alike.inspect]

/-- Contents that pass the checks are accepted; the archives are the same when the links are. -/
theorem buildArchive_passed (alike : Alike lib d e) (passed : checkContents lib d = .ok ()) :
    (buildArchive lib d).isOk ∧ ((buildArchive lib d).toOption = (buildArchive lib e).toOption ↔
      hardLinks lib d = hardLinks lib e) := by
  obtain ⟨⟨names, seen⟩, inspected, -⟩ := bind_ok.mp passed
  obtain rfl := inspectBundle_names inspected
  have checked := (checkContents_inspected inspected).symm.trans passed
  have there : inspectBundle lib e = .ok (selectedFiles lib d, seen) := alike.inspect ▸ inspected
  rw [buildArchive_regular inspected fun name member => (alike.regular member).1,
    buildArchive_regular there fun name member => (alike.regular member).2, checked, hardLinks, hardLinks,
    ← alike.selected]
  have sorted : ∀ name ∈ sortNames (selectedFiles lib d), name ∈ selectedFiles lib d := fun name =>
    mem_sortNames.mp
  have targets := records_same_iff (fun name member => alike name (sorted name member))
    (fun _ => none) (fun _ => none)
  have plain : PlainInodes fun _ => none := fun key first remembered => by cases remembered
  refine ⟨rfl, ?_⟩
  rw [← targets]
  constructor
  · intro same
    refine lib.faithful _ _ ?_ ?_ (congrArg Prod.fst (Option.some.inj same))
    · exact records_plain (fun name member => (alike.regular (sorted name member)).1) plain
    · exact records_plain (fun name member => (alike.regular (sorted name member)).2) plain
  · intro same
    rw [same]

/-! An accepted archive is one that the checks of the packages accept. -/

theorem inspectPackage_members {seen next : Inspection} {file : Text}
    (inspected : inspectPackage lib d seen file = .ok next) :
    ∃ members : List Member, members.foldlM checkMember seen = .ok next := by
  rw [inspectPackage] at inspected
  obtain ⟨content, -, inspected⟩ := bind_ok.mp inspected
  obtain ⟨after, checked, inspected⟩ := bind_ok.mp inspected
  refine ⟨(lib.readPackage content).1, checked.trans ?_⟩
  cases whole : (lib.readPackage content).2 with
  | none => rwa [whole] at inspected
  | some message =>
    rw [whole] at inspected
    cases inspected

theorem inspectPackages_members {files : List Text} {seen next : Inspection}
    (inspected : files.foldlM (inspectPackage lib d) seen = .ok next) :
    ∃ packages : List Package, packages.map Package.file = files ∧
      (packages.flatMap Package.members).foldlM checkMember seen = .ok next := by
  induction files generalizing seen with
  | nil => exact ⟨[], rfl, inspected⟩
  | cons file files ih =>
    rw [List.foldlM_cons] at inspected
    obtain ⟨middle, here, inspected⟩ := bind_ok.mp inspected
    obtain ⟨members, checked⟩ := inspectPackage_members here
    obtain ⟨packages, named, rest⟩ := ih inspected
    refine ⟨⟨file, members⟩ :: packages, by rw [List.map_cons, named], ?_⟩
    rw [List.flatMap_cons, List.foldlM_append]
    exact bind_ok.mpr ⟨middle, checked, rest⟩

theorem addFiles_checked {state after : Inodes × List Record}
    (added : names.foldlM (addFile d) state = .ok after) :
    ∀ name ∈ names, checkInput d.isLink name = .ok () := by
  induction names generalizing state with
  | nil => exact fun name member => absurd member List.not_mem_nil
  | cons name names ih =>
    rw [List.foldlM_cons] at added
    obtain ⟨middle, here, added⟩ := bind_ok.mp added
    rw [addFile] at here
    obtain ⟨_, checked, -⟩ := bind_ok.mp here
    exact List.forall_mem_cons.mpr ⟨checked, ih added⟩

/-- The builder accepts the directory only as it accepts its packages. -/
theorem buildArchive_built {archive : Bytes} {summary : Summary}
    (accepted : buildArchive lib d = .ok (archive, summary)) : ∃ packages : List Package,
      ownFiles ++ packages.map Package.file = selectedFiles lib d ∧ build d.isLink packages = .ok summary := by
  rw [buildArchive] at accepted
  obtain ⟨⟨names, seen⟩, inspected, accepted⟩ := bind_ok.mp accepted
  obtain rfl := inspectBundle_names inspected
  obtain ⟨written, added, accepted⟩ := bind_ok.mp accepted
  rw [inspectBundle] at inspected
  obtain ⟨manifest, read, inspected⟩ := bind_ok.mp inspected
  obtain ⟨files, parsed, inspected⟩ := bind_ok.mp inspected
  obtain ⟨_, distinct, inspected⟩ := bind_ok.mp inspected
  obtain ⟨found, members, inspected⟩ := bind_ok.mp inspected
  obtain ⟨_, traversal, inspected⟩ := bind_ok.mp inspected
  have selected := selectedFiles_parsed read parsed
  obtain rfl : found = seen := congrArg Prod.snd (Except.ok.inj inspected)
  obtain ⟨packages, named, checked⟩ := inspectPackages_members members
  refine ⟨packages, named ▸ selected.symm, ?_⟩
  have inputs : ∀ name ∈ ownFiles ++ packages.map Package.file, checkInput d.isLink name = .ok () :=
    fun name member => addFiles_checked added name (mem_sortNames.mpr (selected ▸ named ▸ member))
  rw [build]
  refine bind_ok.mpr ⟨(), named ▸ distinct, bind_ok.mpr ⟨found, checked, bind_ok.mpr ⟨(), traversal, ?_⟩⟩⟩
  refine bind_ok.mpr ⟨(), forM_ok.mpr inputs, ?_⟩
  exact congrArg Except.ok (congrArg Prod.snd (Except.ok.inj accepted))

/-- Two directories of the same contents give the same archive, or both none, exactly when the
contents are refused or the same inputs are recorded as links to the same. -/
theorem archive_same_iff (lib : Library) (d e : Directory) (alike : Alike lib d e) :
    (buildArchive lib d).toOption = (buildArchive lib e).toOption ↔
      (∃ message, checkContents lib d = .error message) ∨ hardLinks lib d = hardLinks lib e := by
  cases checked : checkContents lib d with
  | error message =>
    refine iff_of_true ?_ (.inl ⟨message, rfl⟩)
    rw [buildArchive_refused (fun name member => (alike.regular member).1) checked,
      buildArchive_refused (fun name member => (alike.regular (alike.selected ▸ member)).2)
        (alike.checkContents ▸ checked)]
  | ok =>
    have accepted : ¬∃ message, (Except.ok () : Except String Unit) = .error message := by
      rintro ⟨message, refused⟩
      cases refused
    rw [or_iff_right accepted]
    exact (buildArchive_passed alike checked).2

end

/-! Two directories whose packages are one file or two. -/

/-- Any other records are written so that they can be told apart. -/
def Record.code (record : Record) : List ℕ × List ℕ × List ℕ × List ℕ × List ℕ × List ℕ :=
  (record.info.name.map Char.toNat, record.info.linkname.map Char.toNat,
    record.info.uname.toList.map Char.toNat, record.info.gname.toList.map Char.toNat,
    record.data.map UInt8.toNat, [record.info.mode, record.info.uid, record.info.gid, record.info.size,
      record.info.mtime, if record.info.kind = .regular then 0 else 1])

theorem code_injective : Function.Injective Record.code := by
  have chars : Function.Injective (List.map Char.toNat) := List.map_injective_iff.mpr fun a b same =>
    Char.ext (UInt32.toNat_inj.mp same)
  have bytes : Function.Injective (List.map UInt8.toNat) := List.map_injective_iff.mpr fun a b =>
    UInt8.toNat_inj.mp
  rintro ⟨⟨name, mode, uid, gid, size, mtime, kind, linkname, uname, gname⟩, data⟩ ⟨⟨_, _, _, _, _, _, other, _⟩, _⟩
    same
  simp only [Record.code, Prod.mk.injEq, List.cons.injEq, chars.eq_iff, bytes.eq_iff,
    String.toList_inj] at same
  obtain ⟨rfl, rfl, rfl, rfl, rfl, rfl, rfl, rfl, rfl, rfl, kinds, -⟩ := same
  have equal : kind = other := by
    cases kind <;> cases other <;> simp at kinds ⊢
  rw [equal]

def numbered (records : List Record) : Bytes :=
  0 :: List.replicate (Encodable.encode (records.map Record.code)) 1

theorem numbered_injective : Function.Injective numbered := by
  intro records others same
  have count := congrArg List.length (List.cons.inj same).2
  rw [List.length_replicate, List.length_replicate] at count
  exact List.map_injective_iff.mpr code_injective (Encodable.encode_injective count)

theorem update_injective {α β : Type} [DecidableEq α] {f : α → β} {a : α} {b : β}
    (injective : f.Injective) (new : ∀ x, f x ≠ b) : (Function.update f a b).Injective := by
  intro x y same
  by_cases left : x = a <;> by_cases right : y = a
  · rw [left, right]
  · rw [left, Function.update_self, Function.update_of_ne right] at same
    exact absurd same.symm (new y)
  · rw [right, Function.update_self, Function.update_of_ne left] at same
    exact absurd same (new x)
  · rw [Function.update_of_ne left, Function.update_of_ne right] at same
    exact injective same

def manifestText : Bytes :=
  [
    123, 34, 112, 97, 99, 107, 97, 103, 101, 115, 34, 58, 32, 91, 123, 34, 102, 105, 108, 101, 34,
    58, 32, 34, 97, 46, 97, 112, 107, 34, 125, 44, 32, 123, 34, 102, 105, 108, 101, 34, 58, 32,
    34, 98, 46, 97, 112, 107, 34, 125, 93, 125]

def script : Bytes := [35, 33, 47, 98, 105, 110, 47, 115, 104, 10]

/-- A package of one empty file. -/
def packageBytes : Bytes :=
  [
    31, 139, 8, 0, 0, 0, 0, 0, 2, 3, 43, 45, 46, 210, 47, 206, 72, 44, 74, 213, 175, 96, 160, 21,
    48, 0, 2, 51, 19, 19, 48, 13, 4, 232, 52, 38, 219, 208, 192, 192, 196, 128, 65, 193, 128, 129,
    14, 160, 180, 184, 36, 177, 8, 104, 61, 195, 40, 24, 5, 163, 96, 20, 140, 44, 0, 0, 138, 24,
    204, 47, 0, 6, 0, 0]

def contents : List (Text × Bytes) :=
  [("manifest.json".toList, manifestText), ("a1625-zram-enable".toList, script),
    ("a1625-tool".toList, script), ("a.apk".toList, packageBytes), ("b.apk".toList, packageBytes)]

/-- What is written of `contents` when the second package is recorded as the given link. -/
def bundleRecords (target : Option Text) : List Record :=
  [recordOf "a.apk".toList packageBytes none, recordOf "a1625-tool".toList script none,
    recordOf "a1625-zram-enable".toList script none, recordOf "b.apk".toList packageBytes target,
    recordOf "manifest.json".toList manifestText none]

def separateArchive : Bytes :=
  [
    31, 139, 8, 0, 0, 0, 0, 0, 2, 255, 237, 214, 61, 75, 195, 64, 28, 199, 241, 163, 62, 80, 4,
    93, 170, 208, 205, 24, 69, 4, 243, 112, 73, 47, 87, 16, 28, 220, 196, 183, 32, 66, 47, 146,
    218, 216, 52, 41, 77, 92, 44, 133, 118, 85, 95, 68, 193, 23, 32, 130, 131, 99, 69, 71, 17, 17,
    156, 124, 3, 190, 12, 99, 11, 10, 117, 78, 26, 233, 239, 179, 252, 143, 255, 114, 211, 151,
    59, 161, 137, 102, 157, 36, 139, 198, 56, 99, 195, 25, 27, 159, 212, 48, 204, 159, 243, 104,
    207, 185, 197, 136, 68, 73, 10, 206, 194, 72, 180, 226, 43, 201, 116, 90, 189, 204, 15, 103,
    110, 102, 91, 213, 222, 244, 151, 125, 229, 224, 253, 166, 210, 95, 161, 36, 87, 42, 20, 232,
    226, 236, 39, 219, 252, 120, 29, 12, 158, 186, 123, 15, 221, 222, 82, 255, 238, 126, 227, 54,
    95, 219, 125, 220, 42, 206, 93, 87, 150, 175, 20, 66, 46, 138, 207, 58, 153, 39, 240, 47, 9,
    131, 155, 150, 26, 5, 129, 55, 185, 254, 233, 159, 254, 203, 165, 178, 137, 254, 211, 176,
    190, 166, 219, 174, 175, 135, 181, 5, 180, 48, 189, 253, 159, 183, 68, 67, 117, 124, 97, 123,
    78, 22, 250, 55, 40, 55, 208, 63, 250, 135, 196, 217, 89, 253, 255, 91, 232, 31, 255, 127, 72,
    90, 67, 248, 110, 213, 9, 35, 237, 52, 12, 252, 73, 253, 255, 57, 27, 127, 255, 25, 227, 232,
    63, 13, 109, 185, 41, 142, 235, 226, 196, 9, 229, 29, 233, 176, 45, 87, 93, 207, 137, 79, 178,
    248, 126, 23, 228, 142, 34, 253, 174, 236, 209, 234, 168, 131, 106, 0, 0, 0, 0, 0, 0, 0, 0, 0,
    0, 178, 239, 11, 21, 121, 52, 83, 0, 40, 0, 0]

def linkedArchive : Bytes :=
  [
    31, 139, 8, 0, 0, 0, 0, 0, 2, 255, 237, 214, 203, 74, 195, 64, 20, 6, 224, 161, 94, 40, 130,
    110, 170, 208, 157, 49, 138, 8, 230, 50, 73, 39, 83, 16, 92, 184, 19, 95, 65, 132, 78, 36,
    181, 177, 105, 82, 154, 184, 177, 20, 218, 173, 250, 16, 5, 31, 64, 4, 23, 46, 43, 186, 20,
    17, 193, 149, 47, 224, 99, 24, 90, 80, 104, 215, 77, 35, 249, 191, 205, 57, 156, 205, 12, 12,
    255, 97, 132, 38, 154, 117, 50, 93, 52, 198, 25, 27, 214, 216, 120, 165, 134, 97, 254, 246,
    163, 57, 231, 22, 35, 18, 37, 9, 184, 8, 35, 209, 138, 143, 36, 217, 180, 126, 157, 31, 214,
    220, 220, 174, 170, 125, 232, 111, 135, 202, 209, 231, 93, 165, 191, 70, 73, 174, 84, 40, 208,
    229, 249, 111, 182, 253, 245, 62, 24, 188, 116, 15, 158, 186, 189, 149, 254, 195, 227, 214,
    125, 190, 182, 255, 188, 83, 92, 184, 173, 172, 222, 40, 132, 92, 21, 95, 117, 178, 72, 224,
    95, 18, 6, 55, 45, 53, 10, 2, 111, 118, 249, 167, 19, 249, 47, 151, 202, 38, 242, 159, 132,
    205, 13, 221, 118, 125, 61, 172, 45, 33, 11, 217, 205, 255, 101, 75, 52, 84, 199, 23, 182,
    231, 164, 33, 255, 6, 229, 6, 242, 143, 252, 195, 212, 217, 41, 248, 255, 79, 246, 101, 139,
    91, 68, 50, 68, 2, 151, 203, 120, 254, 27, 194, 119, 171, 78, 24, 105, 231, 97, 224, 207, 234,
    253, 57, 27, 223, 255, 140, 113, 236, 255, 36, 180, 229, 166, 56, 173, 139, 51, 39, 148, 247,
    164, 227, 182, 92, 117, 61, 39, 238, 228, 97, 244, 228, 142, 34, 253, 141, 236, 209, 232, 164,
    131, 173, 9, 0, 0, 0, 0, 0, 0, 0, 0, 0, 0, 144, 110, 63, 95, 108, 150, 91, 0, 40, 0, 0]

def pythonWrite : List Record → Bytes :=
  Function.update (Function.update numbered (bundleRecords none) separateArchive)
    (bundleRecords (some "a.apk".toList)) linkedArchive

theorem write_linked : pythonWrite (bundleRecords (some "a.apk".toList)) = linkedArchive := by
  rw [pythonWrite, Function.update_self]

theorem write_separate : pythonWrite (bundleRecords none) = separateArchive := by
  have fresh : bundleRecords none ≠ bundleRecords (some "a.apk".toList) := fun same =>
    absurd (congrArg (List.map fun record : Record => record.info.kind) same) (by decide)
  rw [pythonWrite, Function.update_of_ne fresh, Function.update_self]

theorem pythonWrite_injective : Function.Injective pythonWrite := by
  have first : ∀ records, numbered records ≠ separateArchive := fun records same =>
    absurd (List.cons.inj same).1 (by decide)
  have second : ∀ records,
      Function.update numbered (bundleRecords none) separateArchive records ≠ linkedArchive := by
    intro records same
    by_cases separate : records = bundleRecords none
    · rw [separate, Function.update_self] at same
      exact absurd (congrArg (fun archive : Bytes => archive[12]?) same) (by decide)
    · rw [Function.update_of_ne separate] at same
      exact absurd (List.cons.inj same).1 (by decide)
  exact update_injective (update_injective numbered_injective first) second

/-- The Python libraries on `contents`. -/
def pythonLibrary : Library where
  parseManifest content :=
    if content = manifestText then .ok ["a.apk".toList, "b.apk".toList] else .error "Expecting value"
  readPackage content :=
    if content = packageBytes then ([⟨"usr/share/x".toList, .file 0⟩], none) else ([], some "not a gzip file")
  write := pythonWrite
  faithful _ _ _ _ same := pythonWrite_injective same

/-- `contents` in files with the given metadata. -/
def directoryOf (describe : Text → File) : Directory where
  node name := (contents.find? fun entry => entry.1 = name).map fun entry =>
    .regular { describe name with content := entry.2 }
  plain := by
    intro name stored
    have named : ∀ entry ∈ contents, '\x00' ∉ entry.1 := by decide
    cases found : contents.find? (fun entry => entry.1 = name) with
    | none =>
      rw [found] at stored
      exact absurd rfl stored
    | some entry =>
      have here : entry.1 = name := by simpa using List.find?_some found
      exact here ▸ named entry (List.mem_of_find?_eq_some found)

def checkedOut (name : Text) : File where
  content := []
  inode := 100 + contents.findIdx fun entry => entry.1 = name
  device := 66306
  links := 1
  mode := 0o100644
  uid := 0
  gid := 0
  mtime := 1700000000
  uname := "root"
  gname := "root"

def separate : Directory := directoryOf checkedOut

/-- Copied at another time by another user. -/
def copied : Directory := directoryOf fun name => { checkedOut name with
  inode := (checkedOut name).inode + 100, mode := 0o100755, uid := 1000, gid := 1000, mtime := 1800000000
  uname := "user", gname := "user" }

/-- The two packages are one file. -/
def deduplicated : Directory := directoryOf fun name =>
  if name = "a.apk".toList ∨ name = "b.apk".toList then { checkedOut "a.apk".toList with links := 2 }
  else checkedOut name

theorem directoryOf_selected (describe : Text → File) :
    selectedFiles pythonLibrary (directoryOf describe) = contents.map Prod.fst := rfl

theorem directoryOf_alike (one another : Text → File) :
    Alike pythonLibrary (directoryOf one) (directoryOf another) := by
  intro name member
  rw [directoryOf_selected] at member
  obtain ⟨entry, listed, rfl⟩ := List.mem_map.mp member
  have found : ∀ entry ∈ contents, (contents.find? fun other => other.1 = entry.1) = some entry := by decide
  refine ⟨{ one entry.1 with content := entry.2 }, { another entry.1 with content := entry.2 }, ?_, ?_, rfl⟩
  · exact congrArg (Option.map _) (found entry listed)
  · exact congrArg (Option.map _) (found entry listed)

/-- Nothing is recorded as a link in a directory of single files. -/
theorem directoryOf_own {describe : Text → File} (own : ∀ name, (describe name).links = 1) :
    hardLinks pythonLibrary (directoryOf describe) =
      (sortNames (contents.map Prod.fst)).map fun _ => none := by
  refine linkTargets_own (fun name _ file stored => ?_) _
  obtain ⟨entry, -, same⟩ := Option.map_eq_some_iff.mp stored
  cases same
  exact Nat.le_of_eq (own name)

/-- A copy by another user gives the same archive. -/
theorem copied_same :
    (buildArchive pythonLibrary separate).toOption = (buildArchive pythonLibrary copied).toOption :=
  (archive_same_iff pythonLibrary separate copied (directoryOf_alike _ _)).mpr <| .inr <|
    (directoryOf_own fun _ => rfl).trans (directoryOf_own fun _ => rfl).symm

theorem contents_sorted : sortNames (contents.map Prod.fst) = ["a.apk".toList, "a1625-tool".toList,
    "a1625-zram-enable".toList, "b.apk".toList, "manifest.json".toList] := by
  rw [sortNames, contents]
  simp [List.mergeSort]

theorem directoryOf_built (describe : Text → File) : buildArchive pythonLibrary (directoryOf describe) =
    .ok (pythonWrite (records (directoryOf describe) (fun _ => none) (sortNames (contents.map Prod.fst))),
      ⟨0, 1⟩) := by
  have inspected : inspectBundle pythonLibrary (directoryOf describe) =
    .ok (contents.map Prod.fst, ⟨["usr/share/x".toList], [], 0⟩) := rfl
  have inputs : ∀ name ∈ contents.map Prod.fst, checkInput (fun _ => false) name = .ok () := by decide
  have passed : (sortNames (contents.map Prod.fst)).forM (checkInput fun _ => false) = .ok () :=
    forM_ok.mpr fun name member => inputs name (mem_sortNames.mp member)
  rw [buildArchive_regular inspected fun name member =>
    ((directoryOf_alike describe describe).regular member).1, passed]
  rfl

/-- Two packages of the same content that share an inode give another archive than two files. -/
theorem deduplicated_differs : Alike pythonLibrary separate deduplicated ∧
    buildArchive pythonLibrary separate = .ok (separateArchive, ⟨0, 1⟩) ∧
    buildArchive pythonLibrary deduplicated = .ok (linkedArchive, ⟨0, 1⟩) ∧
    separateArchive ≠ linkedArchive := by
  refine ⟨directoryOf_alike _ _, ?_, ?_, fun same => ?_⟩
  · have written : records separate (fun _ => none) ["a.apk".toList, "a1625-tool".toList,
        "a1625-zram-enable".toList, "b.apk".toList, "manifest.json".toList] = bundleRecords none := rfl
    rw [separate, directoryOf_built, contents_sorted, ← separate, written, write_separate]
  · have written : records deduplicated (fun _ => none) ["a.apk".toList, "a1625-tool".toList,
        "a1625-zram-enable".toList, "b.apk".toList, "manifest.json".toList] =
        bundleRecords (some "a.apk".toList) := rfl
    rw [deduplicated, directoryOf_built, contents_sorted, ← deduplicated, written, write_linked]
  · exact absurd (congrArg (fun archive : Bytes => archive[12]?) same) (by decide)

end WinBoot.BundleArchive
