import Mathlib.Algebra.GroupWithZero.Nat
import Mathlib.Data.List.Dedup
import Mathlib.Data.List.DropRight
import WinBoot.Checks
import WinBoot.PosixPath

/-! The development bundle: what the builder checks of the packages it puts into it, and what
extracting the packages one after the other touches. -/

namespace WinBoot.DevelopmentBundle
open Checks Extraction PathSegments PosixPath

inductive MemberKind
  | file (size : Nat)
  | directory
  | symlink (linkname : Text)
  | hardlink (linkname : Text)
  | other
deriving DecidableEq

structure Member where
  name : Text
  kind : MemberKind
deriving DecidableEq

structure Package where
  file : Text
  members : List Member
deriving DecidableEq

/-- The sets of the builder and its count, as its loop carries them. -/
structure Inspection where
  paths : List Text
  links : List Text
  expandedBytes : Nat
deriving DecidableEq

structure Summary where
  expandedBytes : Nat
  archiveEntries : Nat
deriving DecidableEq

def require (condition : Bool) (message : String) : Except String Unit :=
  if condition then .ok () else .error message

def insert (set : List Text) (name : Text) : List Text :=
  if set.contains name then set else set ++ [name]

/-- `name.removeprefix("./").rstrip("/")` -/
def memberName (member : Member) : Text :=
  let name := if ['.', '/'].isPrefixOf member.name then member.name.drop 2 else member.name
  name.rdropWhile (· = '/')

/-- `posixpath.dirname` -/
def dirname (path : Text) : Text :=
  let head := path.rdropWhile (· ≠ '/')
  if head.all (· = '/') then head else head.rdropWhile (· = '/')

def linkRoots : List Text := ["usr".toList, "lib".toList, "bin".toList, "sbin".toList, "etc".toList]

/-- Where the builder takes a link to lead, symbolic or hard. -/
def resolvedLink (name target : Text) : Text :=
  normpath (if isAbsolute target then target.dropWhile (· = '/') else join (dirname name) target)

def checkLink (name target : Text) : Except String Unit :=
  let resolved := resolvedLink name target
  require (! ['.', '.', '/'].isPrefixOf resolved &&
    linkRoots.contains ((resolved.splitOn '/').headD [])) ("Unsafe APK link: " ++ String.ofList name)

def checkMember (seen : Inspection) (member : Member) : Except String Inspection := do
  let name := memberName member
  require (!name.isEmpty && !isAbsolute name && !(name.splitOn '/').contains dotDot &&
    !name.contains '\\') ("Unsafe APK path: " ++ String.ofList name)
  require (member.kind ≠ .other) ("Unsupported APK member: " ++ String.ofList name)
  let paths := insert seen.paths name
  match member.kind with
  | .symlink target | .hardlink target =>
    checkLink name target
    return { seen with paths, links := insert seen.links name }
  | .file size => return { seen with paths, expandedBytes := seen.expandedBytes + size }
  | _ => return { seen with paths }

/-- Whether a proper beginning of the name is the name of a link. -/
def traverses (links : List Text) (name : Text) : Bool :=
  let pieces := name.splitOn '/'
  (List.range pieces.length).any fun i => 0 < i && links.contains (joined (pieces.take i))

def checkTraversal (links : List Text) (name : Text) : Except String Unit :=
  require (!traverses links name) ("APK entry traverses a link: " ++ String.ofList name)

def ownFiles : List Text :=
  ["manifest.json".toList, "a1625-zram-enable".toList, "a1625-tool".toList]

/-- A file that is put into the bundle; `isLink` is what the file system says of the builder's
own inputs. -/
def checkInput (isLink : Text → Bool) (name : Text) : Except String Unit := do
  require (!name.contains '/' && name ≠ dot && name ≠ dotDot) "Unsafe package filename"
  require (!isLink name) "Package input must be a regular file"

def inspect (packages : List Package) : Except String Inspection :=
  (packages.flatMap Package.members).foldlM checkMember ⟨[], [], 0⟩

def build (isLink : Text → Bool) (packages : List Package) : Except String Summary := do
  let names := ownFiles ++ packages.map Package.file
  require (names.length = names.dedup.length) "Duplicate package name"
  let seen ← inspect packages
  seen.paths.forM (checkTraversal seen.links)
  names.forM (checkInput isLink)
  return ⟨seen.expandedBytes, seen.paths.length⟩

/-- What the extraction takes a member for; the root itself is no entry. -/
def entryOf (member : Member) : Option (Entry Text) :=
  match (parts member.name).getLast? with
  | none => none
  | some name => some {
    parent := (parts member.name).dropLast
    name := name
    kind := match member.kind with
      | .symlink linkname => .symlink (targetOf linkname)
      | .hardlink linkname => .hardlink (stepsOf linkname)
      | .directory => .directory
      | _ => .file }

def entries (packages : List Package) : List (Entry Text) :=
  (packages.flatMap Package.members).filterMap entryOf

def isLinkKind : MemberKind → Bool
  | .symlink _ | .hardlink _ => true
  | _ => false

/-- Links and directories have no content of their own. -/
def memberSize : MemberKind → Option Nat
  | .file size => some size
  | _ => none

/-- A place where a package puts a link. -/
def LinkPlace (packages : List Package) (path : List Text) : Prop :=
  path ≠ [] ∧
    ∃ member ∈ packages.flatMap Package.members, isLinkKind member.kind ∧ parts member.name = path

/-- Extracting the packages in order touches nothing outside the root. -/
def Contained (packages : List Package) : Prop :=
  ∀ limit links touched, Extracts false limit (entries packages) links touched → .outside ∉ touched

/-- A name that goes through a link spells it as the link's own name does. -/
def SpelledAlike (packages : List Package) : Prop :=
  ∀ member ∈ packages.flatMap Package.members, ∀ link ∈ packages.flatMap Package.members,
    isLinkKind link.kind → parts link.name ≠ [] → parts link.name <+: parts member.name →
    parts link.name ≠ parts member.name →
      (memberName link).splitOn '/' <+: (memberName member).splitOn '/'

/-- What is linked to, read from the root, stays below it and goes through no link. -/
def HardLinksBelow (packages : List Package) : Prop :=
  ∀ member ∈ packages.flatMap Package.members, ∀ linkname, member.kind = .hardlink linkname →
    Clear (LinkPlace packages) [] (stepsOf linkname)

theorem require_ok {condition : Bool} {message : String} {u : Unit} :
    require condition message = .ok u ↔ condition :=
  ite_ok

theorem mem_insert {set : List Text} {name other : Text} :
    other ∈ insert set name ↔ other ∈ set ∨ other = name := by
  rw [insert]
  split
  · next present =>
    have present : name ∈ set := by simpa using present
    constructor
    · exact .inl
    · rintro (old | rfl)
      · exact old
      · exact present
  · rw [List.mem_append, List.mem_singleton]

/-! A member's name and the name it is checked under have the same parts. -/

theorem parts_slashes (front : Text) {slashes : Text} (only : ∀ c ∈ slashes, c = '/') :
    parts (front ++ slashes) = parts front := by
  induction slashes generalizing front with
  | nil => rw [List.append_nil]
  | cons c rest ih =>
    obtain rfl := only c List.mem_cons_self
    have empty : parts rest = [] := by
      simpa [parts, components] using ih [] fun c member => only c (List.mem_cons_of_mem _ member)
    rw [parts_append_slash, empty, List.append_nil]

theorem parts_memberName (member : Member) : parts (memberName member) = parts member.name := by
  have trailing (name : Text) : parts (name.rdropWhile (· = '/')) = parts name := by
    have whole := List.rdropWhile_append_rtakeWhile (p := (· = '/')) (l := name)
    refine (parts_slashes _ fun c member => ?_).symm.trans (congrArg parts whole)
    simpa using List.mem_rtakeWhile_imp member
  rw [memberName]
  split
  · next dotted =>
    obtain ⟨rest, whole⟩ := List.isPrefixOf_iff_prefix.mp dotted
    rw [trailing, ← whole]
    exact (parts_append_slash ['.'] rest).symm
  · exact trailing _

/-! What the checks have found of an accepted bundle. -/

structure Recorded (seen : Inspection) (member : Member) : Prop where
  level : dotDot ∉ (memberName member).splitOn '/'
  listed : memberName member ∈ seen.paths
  linked : isLinkKind member.kind → memberName member ∈ seen.links

structure Extends (before after : Inspection) : Prop where
  paths : ∀ name ∈ before.paths, name ∈ after.paths
  links : ∀ name ∈ before.links, name ∈ after.links

theorem Recorded.mono {before after : Inspection} {member : Member}
    (recorded : Recorded before member) (more : Extends before after) : Recorded after member :=
  ⟨recorded.level, more.paths _ recorded.listed, fun link => more.links _ (recorded.linked link)⟩

theorem Inspection.extends (seen : Inspection) (name : Text) (expandedBytes : Nat) :
    Extends seen ⟨insert seen.paths name, seen.links, expandedBytes⟩ ∧
      Extends seen ⟨insert seen.paths name, insert seen.links name, expandedBytes⟩ :=
  ⟨⟨fun _ old => mem_insert.mpr (.inl old), fun _ old => old⟩,
    fun _ old => mem_insert.mpr (.inl old), fun _ old => mem_insert.mpr (.inl old)⟩

theorem checkMember_ok {seen next : Inspection} {member : Member}
    (ok : checkMember seen member = .ok next) : Recorded next member ∧ Extends seen next := by
  rw [checkMember] at ok
  obtain ⟨_, named, ok⟩ := bind_ok.mp ok
  obtain ⟨_, -, ok⟩ := bind_ok.mp ok
  have level : dotDot ∉ (memberName member).splitOn '/' := by
    simp only [require_ok, Bool.and_eq_true, Bool.not_eq_true', List.contains_eq_mem,
      decide_eq_false_iff_not] at named
    exact named.1.2
  have listed : memberName member ∈ insert seen.paths (memberName member) :=
    mem_insert.mpr (.inr rfl)
  have linked : memberName member ∈ insert seen.links (memberName member) :=
    mem_insert.mpr (.inr rfl)
  have more := seen.extends (memberName member)
  cases kind : member.kind with
  | symlink target | hardlink target =>
    rw [kind] at ok
    obtain ⟨_, -, ok⟩ := bind_ok.mp ok
    obtain rfl := Except.ok.inj ok
    exact ⟨⟨level, listed, fun _ => linked⟩, (more _).2⟩
  | file size =>
    rw [kind] at ok
    obtain rfl := Except.ok.inj ok
    exact ⟨⟨level, listed, fun link => by simp [kind, isLinkKind] at link⟩, (more _).1⟩
  | directory | other =>
    rw [kind] at ok
    obtain rfl := Except.ok.inj ok
    exact ⟨⟨level, listed, fun link => by simp [kind, isLinkKind] at link⟩, (more _).1⟩

theorem foldlM_recorded {members : List Member} {seen last : Inspection}
    (ok : members.foldlM checkMember seen = .ok last) :
    (∀ member ∈ members, Recorded last member) ∧ Extends seen last := by
  induction members generalizing seen with
  | nil =>
    obtain rfl := Except.ok.inj ok
    exact ⟨by simp, fun _ old => old, fun _ old => old⟩
  | cons member rest ih =>
    rw [List.foldlM_cons] at ok
    obtain ⟨next, checked, ok⟩ := bind_ok.mp ok
    obtain ⟨recorded, more⟩ := checkMember_ok checked
    obtain ⟨others, further⟩ := ih ok
    refine ⟨?_, fun name old => further.paths name (more.paths name old),
      fun name old => further.links name (more.links name old)⟩
    intro other here
    obtain rfl | here := List.mem_cons.mp here
    · exact recorded.mono further
    · exact others other here

/-- An accepted bundle: every member is recorded and none goes through a recorded link. -/
theorem build_ok {isLink : Text → Bool} {packages : List Package} {summary : Summary}
    (accepted : build isLink packages = .ok summary) : ∃ seen : Inspection,
      (∀ member ∈ packages.flatMap Package.members, Recorded seen member) ∧
      ∀ name ∈ seen.paths, traverses seen.links name = false := by
  rw [build] at accepted
  obtain ⟨_, -, accepted⟩ := bind_ok.mp accepted
  obtain ⟨seen, inspected, accepted⟩ := bind_ok.mp accepted
  obtain ⟨_, traversal, -⟩ := bind_ok.mp accepted
  refine ⟨seen, (foldlM_recorded inspected).1, fun name here => ?_⟩
  simpa [checkTraversal, require_ok] using forM_ok.mp traversal name here

/-- The packages of an accepted bundle have names of their own. -/
theorem build_distinct {isLink : Text → Bool} {packages : List Package} {summary : Summary}
    (accepted : build isLink packages = .ok summary) : (packages.map Package.file).Nodup := by
  rw [build] at accepted
  obtain ⟨_, distinct, -⟩ := bind_ok.mp accepted
  rw [require_ok, decide_eq_true_eq] at distinct
  have whole : (ownFiles ++ packages.map Package.file).dedup = ownFiles ++ packages.map Package.file :=
    (List.dedup_sublist _).eq_of_length distinct.symm
  exact (List.dedup_eq_self.mp whole).of_append_right

/-! Packages that have files only. -/

structure Ordinary (name : Text) : Prop where
  some : name ≠ []
  first : name.head? ≠ Option.some '/'
  last : name.getLast? ≠ Option.some '/'
  level : '.' ∉ name
  straight : '\\' ∉ name

theorem Ordinary.memberName {name : Text} (ordinary : Ordinary name) (kind : MemberKind) :
    memberName ⟨name, kind⟩ = name := by
  have undotted : ['.', '/'].isPrefixOf name = false := by
    rw [Bool.eq_false_iff]
    intro dotted
    obtain ⟨rest, rfl⟩ := List.isPrefixOf_iff_prefix.mp dotted
    exact ordinary.level List.mem_cons_self
  rw [DevelopmentBundle.memberName, undotted]
  refine List.rdropWhile_eq_self_iff.mpr fun some slash => ordinary.last ?_
  rw [decide_eq_true_eq] at slash
  exact (List.getLast?_eq_some_getLast some).trans (congrArg _ slash)

theorem checkMember_ordinary {name : Text} (ordinary : Ordinary name) (seen : Inspection)
    (size : Nat) :
    checkMember seen ⟨name, .file size⟩ = .ok
      { seen with paths := insert seen.paths name, expandedBytes := seen.expandedBytes + size } := by
  have level : dotDot ∉ name.splitOn '/' := by
    intro up
    obtain ⟨before, after, rfl, -⟩ := segment_place up
    exact ordinary.level (List.mem_append_left _ (List.mem_append_right _ List.mem_cons_self))
  have checked : (!name.isEmpty && !isAbsolute name && !(name.splitOn '/').contains dotDot &&
      !name.contains '\\') = true := by
    simp [level, ordinary.some, ordinary.first, ordinary.straight, isAbsolute]
  rw [checkMember, ordinary.memberName, checked]
  rfl

theorem inspect_ordinary {members : List Member}
    (files : ∀ member ∈ members, Ordinary member.name ∧ ∃ size, member.kind = .file size)
    (seen : Inspection) : ∃ paths, members.foldlM checkMember seen = .ok
      ⟨paths, seen.links, seen.expandedBytes + (members.filterMap (memberSize ·.kind)).sum⟩ := by
  induction members generalizing seen with
  | nil => exact ⟨seen.paths, rfl⟩
  | cons member members ih =>
    obtain ⟨name, kind⟩ := member
    obtain ⟨ordinary, size, rfl⟩ := files _ List.mem_cons_self
    obtain ⟨paths, rest⟩ := ih (fun other here => files other (List.mem_cons_of_mem _ here))
      { seen with paths := insert seen.paths name, expandedBytes := seen.expandedBytes + size }
    refine ⟨paths, ?_⟩
    rw [List.foldlM_cons, checkMember_ordinary ordinary]
    have sizes : (Member.mk name (.file size) :: members).filterMap (memberSize ·.kind) =
        size :: members.filterMap (memberSize ·.kind) := rfl
    rw [sizes, List.sum_cons, ← Nat.add_assoc]
    exact rest

theorem build_ordinary {package : Package}
    (files : ∀ member ∈ package.members, Ordinary member.name ∧ ∃ size, member.kind = .file size)
    (named : ownFiles ++ [package.file] = (ownFiles ++ [package.file]).dedup)
    (bare : ∀ name ∈ ownFiles ++ [package.file], checkInput (fun _ => false) name = .ok ()) :
    ∃ count, build (fun _ => false) [package] =
      .ok ⟨(package.members.filterMap (memberSize ·.kind)).sum, count⟩ := by
  obtain ⟨paths, inspected⟩ := inspect_ordinary files ⟨[], [], 0⟩
  have traversal : paths.forM (checkTraversal []) = .ok () := by
    refine forM_ok.mpr fun name _ => require_ok.mpr ?_
    simp [traverses]
  have inspected : inspect [package] = .ok
      ⟨paths, [], (package.members.filterMap (memberSize ·.kind)).sum⟩ := by
    rw [inspect, List.flatMap_singleton, inspected, Nat.zero_add]
  refine ⟨paths.length, bind_ok.mpr ⟨(), ?_, bind_ok.mpr ⟨_, inspected, bind_ok.mpr ⟨(), traversal, ?_⟩⟩⟩⟩
  · exact require_ok.mpr (decide_eq_true (congrArg List.length named))
  · exact bind_ok.mpr ⟨(), forM_ok.mpr bare, rfl⟩

theorem traverses_of_prefix {links : List Text} {link name : Text} (recorded : link ∈ links)
    (begins : link.splitOn '/' <+: name.splitOn '/') (proper : link ≠ name) :
    traverses links name := by
  have whole (path : Text) : joined (path.splitOn '/') = path := List.intercalate_splitOn '/'
  have some : 0 < (link.splitOn '/').length := List.length_pos_of_ne_nil (List.splitOn_ne_nil _ _)
  have shorter : (link.splitOn '/').length < (name.splitOn '/').length := by
    refine Nat.lt_of_le_of_ne begins.length_le fun same => proper ?_
    rw [← whole link, ← whole name, begins.eq_of_length same]
  simp only [traverses, List.any_eq_true, List.mem_range, Bool.and_eq_true, decide_eq_true_eq]
  refine ⟨_, shorter, some, ?_⟩
  rw [← List.prefix_iff_eq_take.mp begins, whole]
  simpa using recorded

theorem entryOf_path {member : Member} {entry : Entry Text} (taken : entryOf member = some entry) :
    entry.path = parts member.name := by
  rw [entryOf] at taken
  split at taken
  · cases taken
  · next name last =>
    obtain rfl := Option.some.inj taken
    exact List.dropLast_append_getLast? name last

theorem entryOf_link {member : Member} {entry : Entry Text} (taken : entryOf member = some entry) :
    (∀ target, entry.kind = .symlink target → isLinkKind member.kind) ∧
    ∀ target, entry.kind = .hardlink target →
      ∃ linkname, member.kind = .hardlink linkname ∧ target = stepsOf linkname := by
  rw [entryOf] at taken
  split at taken
  · cases taken
  · obtain rfl := Option.some.inj taken
    cases kind : member.kind <;> simp [isLinkKind]

/-- A bundle that spells links alike and links hard below the root stays below it. -/
theorem packages_contained (isLink : Text → Bool) (packages : List Package) (summary : Summary)
    (accepted : build isLink packages = .ok summary) (alike : SpelledAlike packages)
    (below : HardLinksBelow packages) : Contained packages := by
  obtain ⟨seen, recorded, straight⟩ := build_ok accepted
  have placed : ∀ entry ∈ entries packages, Placed (LinkPlace packages) entry := by
    intro entry here
    obtain ⟨member, listed, taken⟩ := List.mem_filterMap.mp here
    have path := entryOf_path taken
    obtain ⟨symbolic, hard⟩ := entryOf_link taken
    have place (link : isLinkKind member.kind) : LinkPlace packages entry.path :=
      ⟨by simp [Entry.path], member, listed, link, path.symm⟩
    refine ⟨?_, fun target kind => place (symbolic target kind), ?_⟩
    · rw [path]
      rintro _ begins proper ⟨full, link, linkListed, kind, rfl⟩
      have spelled := alike member listed link linkListed kind full begins proper
      have loud := traverses_of_prefix ((recorded link linkListed).linked kind) spelled fun same =>
        proper (by rw [← parts_memberName, same, parts_memberName])
      rw [straight _ (recorded member listed).listed] at loud
      cases loud
    · intro target kind
      obtain ⟨linkname, written, rfl⟩ := hard target kind
      exact ⟨place (by rw [written]; rfl), below member listed linkname written⟩
  exact fun limit links touched run => run.inside placed

/-- Names in an accepted bundle never climb, so that the extraction takes them as they are read. -/
theorem entryOf_steps (isLink : Text → Bool) (packages : List Package) (summary : Summary)
    (accepted : build isLink packages = .ok summary) {member : Member}
    (listed : member ∈ packages.flatMap Package.members) {entry : Entry Text}
    (taken : entryOf member = some entry) : stepsOf member.name = entry.path.map .down := by
  obtain ⟨seen, recorded, -⟩ := build_ok accepted
  rw [entryOf_path taken]
  refine stepsOf_down fun up => (recorded member listed).level ?_
  rw [← parts_memberName] at up
  exact List.mem_of_mem_filter (List.mem_of_mem_filter up)

/-! A library and its alias, symbolic and hard. -/

def realLibrary : Member := ⟨"./usr/lib/libreal.so".toList, .file 5⟩
def softAlias : Member := ⟨"usr/lib/libalias.so".toList, .symlink "libreal.so".toList⟩
def hardAlias : Member := ⟨"lib/libhard.so".toList, .hardlink "usr/lib/libreal.so".toList⟩

def aliasPackage : Package := ⟨"alias.apk".toList, [realLibrary, softAlias, hardAlias]⟩

theorem aliasPackage_members {member : Member}
    (listed : member ∈ [aliasPackage].flatMap Package.members) :
    member = realLibrary ∨ member = softAlias ∨ member = hardAlias := by
  obtain ⟨_, one, listed⟩ := List.mem_flatMap.mp listed
  obtain rfl := List.mem_singleton.mp one
  have listed : member ∈ [realLibrary, softAlias, hardAlias] := listed
  simpa using listed

theorem aliasPackage_contained : Contained [aliasPackage] := by
  refine packages_contained (fun _ => false) _ ⟨5, 3⟩ (ok_of_toOption (by decide +kernel)) ?_ ?_
  · unfold SpelledAlike
    decide +kernel
  · intro member listed linkname kind
    obtain rfl | rfl | rfl := aliasPackage_members listed
    · cases kind
    · cases kind
    · have steps : stepsOf "usr/lib/libreal.so".toList =
          [.down "usr".toList, .down "lib".toList, .down "libreal.so".toList] := by decide +kernel
      rw [← MemberKind.hardlink.inj kind, steps]
      refine ⟨.inr ?_, .inr ?_, .inl rfl, trivial⟩ <;> unfold LinkPlace <;> decide +kernel

/-! A link spelled with an empty component, and a file beneath it. -/

def evilPackage : Package where
  file := ['e', '.', 'a', 'p', 'k']
  members := [
    ⟨['u', 's', 'r', '/', '/', 'x'], .symlink ['/', 'e', 't', 'c']⟩,
    ⟨['u', 's', 'r', '/', 'x', '/', 'p', 'w'], .file 1⟩]

theorem doubled_slash_escapes :
    build (fun _ => false) [evilPackage] = .ok ⟨1, 2⟩ ∧ ¬Contained [evilPackage] := by
  refine ⟨ok_of_toOption (by decide +kernel), fun contained => ?_⟩
  have first : Extracts false 8
      ([] ++ [⟨[['u', 's', 'r']], ['x'], .symlink ⟨true, [.down ['e', 't', 'c']]⟩⟩]) _ _ :=
    .snoc .nil (.symlink rfl rfl)
  have second : Extracts false 8 (entries [evilPackage]) _ ([] ++ _ ++ [.outside]) :=
    first.snoc (.plain (.inl rfl) rfl)
  exact contained 8 _ _ second (by simp)

end WinBoot.DevelopmentBundle
