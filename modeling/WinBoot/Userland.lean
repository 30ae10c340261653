import WinBoot.Checks
import WinBoot.PosixPath

/-! The Wi-Fi userland bundle: which members of the packages are taken, what each is checked for,
and what extracting them touches. Packages arrive as one list of members in order. -/

namespace WinBoot.Userland
open Checks Extraction PosixPath

inductive MemberKind
  | file
  | symlink (linkname : Text)
  | other
deriving DecidableEq

structure Member where
  name : Text
  kind : MemberKind
deriving DecidableEq

def require (condition : Bool) (message : String) : Except String Unit :=
  if condition then .ok () else .error message

def safeMember (member : Member) : Except String Unit := do
  require (!isAbsolute member.name && !(parts member.name).contains dotDot &&
    !member.name.contains '\\') "Unsafe archive path"
  match member.kind with
  | .symlink target =>
    let resolved := normpath (join (parentText member.name) target)
    require (!isAbsolute target && !target.contains '\\' && !climbs resolved)
      "Symlink escapes bundle root"
  | _ => pure ()

def libraryDirectories : List Text :=
  [['l', 'i', 'b', '/'], ['u', 's', 'r', '/', 'l', 'i', 'b', '/']]

def programs : List Text :=
  ["sbin/wpa_supplicant".toList, "sbin/wpa_cli".toList, "usr/bin/curl".toList, "usr/sbin/iw".toList]

def selected (member : Member) : Bool :=
  (libraryDirectories.any (·.isPrefixOf member.name) || programs.contains member.name) &&
    member.kind ≠ .other

/-- One member of the loop: it is passed over, or checked and added. -/
def addMember (bundle : List Member) (member : Member) : Except String (List Member) :=
  if selected member then do
    safeMember member
    require (!(bundle.map Member.name).contains member.name)
      ("Duplicate member: " ++ String.ofList member.name)
    return bundle ++ [member]
  else .ok bundle

def build (members : List Member) : Except String (List Member) := members.foldlM addMember []

/-- What the extraction takes a member for. -/
def entryOf (member : Member) : Entry Text where
  parent := (parts member.name).dropLast
  name := (parts member.name).getLastD []
  kind := match member.kind with
    | .symlink linkname => .symlink (targetOf linkname)
    | _ => .file

/-- A place where the bundle puts a symbolic link. -/
def LinkPlace (bundle : List Member) (path : List Text) : Prop :=
  ∃ member ∈ bundle, (∃ linkname, member.kind = .symlink linkname) ∧ parts member.name = path

/-- No member and no link of the bundle goes through one of its links. -/
structure Apart (bundle : List Member) : Prop where
  names : ∀ member ∈ bundle, ∀ place ∈ passed [] (stepsOf member.name), ¬LinkPlace bundle place
  links : ∀ member ∈ bundle, ∀ linkname, member.kind = .symlink linkname →
    ∀ place ∈ passed (parts member.name).dropLast (stepsOf linkname), ¬LinkPlace bundle place

/-- The bundle can be extracted anywhere and stays there: whatever is refused on the way, nothing
outside is touched and every link that stands leads on below the root. -/
def Contained (bundle : List Member) : Prop :=
  ∀ limit links touched, Extracts true limit (bundle.map entryOf) links touched →
    .outside ∉ touched ∧ ∀ path target, links path = some target → target.absolute = false ∧
      ∀ limit, walk links limit path.dropLast target.steps ≠ some .outside

theorem require_ok {condition : Bool} {message : String} {u : Unit} :
    require condition message = .ok u ↔ condition :=
  ite_ok

/-- What a member of a finished bundle has been checked for. -/
structure Safe (member : Member) : Prop where
  selected : selected member
  relative : isAbsolute member.name = false
  level : dotDot ∉ parts member.name
  linked : ∀ linkname, member.kind = .symlink linkname → isAbsolute linkname = false ∧
    climbs (normpath (join (parentText member.name) linkname)) = false

theorem safeMember_ok {member : Member} {u : Unit} (ok : safeMember member = .ok u)
    (chosen : selected member) : Safe member := by
  rw [safeMember] at ok
  obtain ⟨_, named, linked⟩ := bind_ok.mp ok
  simp only [require_ok, Bool.and_eq_true, Bool.not_eq_true', List.contains_eq_mem,
    decide_eq_false_iff_not] at named
  refine ⟨chosen, named.1.1, named.1.2, fun linkname kind => ?_⟩
  rw [kind] at linked
  simp only [require_ok, Bool.and_eq_true, Bool.not_eq_true'] at linked
  exact ⟨linked.1.1, linked.2⟩

theorem addMember_ok {bundle result : List Member} {member : Member}
    (ok : addMember bundle member = .ok result) :
    result = bundle ∨ result = bundle ++ [member] ∧ Safe member := by
  rw [addMember] at ok
  split at ok
  · next chosen =>
    obtain ⟨_, safe, rest⟩ := bind_ok.mp ok
    obtain ⟨_, -, last⟩ := bind_ok.mp rest
    exact .inr ⟨(Except.ok.inj last).symm, safeMember_ok safe chosen⟩
  · exact .inl (Except.ok.inj ok).symm

/-- Every member of a finished bundle is safe. -/
theorem build_safe {members bundle : List Member} (accepted : build members = .ok bundle) :
    ∀ member ∈ bundle, Safe member := by
  refine foldlM_keeps (fun bundle => ∀ member ∈ bundle, Safe member) ?_ accepted (by simp)
  intro bundle member next safe added
  obtain rfl | ⟨rfl, good⟩ := addMember_ok added
  · exact safe
  · intro other here
    obtain here | here := List.mem_append.mp here
    · exact safe other here
    · rwa [List.mem_singleton.mp here]

theorem parts_ne_nil {member : Member} (chosen : selected member) : parts member.name ≠ [] := by
  have below (front rest : Text) (some : parts front ≠ []) : parts (front ++ '/' :: rest) ≠ [] := by
    rw [parts_append_slash]
    simp [some]
  simp only [selected, libraryDirectories, List.any_cons, List.any_nil, Bool.or_false,
    Bool.and_eq_true, Bool.or_eq_true, List.isPrefixOf_iff_prefix] at chosen
  obtain ((⟨rest, whole⟩ | ⟨rest, whole⟩) | program) := chosen.1
  · rw [← whole]
    exact below ['l', 'i', 'b'] rest (by decide)
  · rw [← whole]
    exact below ['u', 's', 'r', '/', 'l', 'i', 'b'] rest (by decide)
  · have each : ∀ name ∈ programs, parts name ≠ [] := by decide +kernel
    exact each _ (by simpa using program)

theorem entryOf_path {member : Member} (chosen : selected member) :
    (entryOf member).path = parts member.name := by
  have some := parts_ne_nil chosen
  rw [Entry.path, entryOf, List.getLastD_eq_getLast?, List.getLast?_eq_some_getLast some]
  exact List.dropLast_append_getLast some

variable {bundle : List Member}

/-- A member of a safe bundle whose links are kept apart lands on its own path and, as a link,
leads on below the root. -/
theorem entryOf_led (safe : ∀ member ∈ bundle, Safe member) (apart : Apart bundle)
    {member : Member} (here : member ∈ bundle) : Led (LinkPlace bundle) (entryOf member) := by
  have good := safe member here
  have path := entryOf_path good.selected
  have shape {target : Target Text} (kind : (entryOf member).kind = .symlink target) :
      ∃ linkname, member.kind = .symlink linkname ∧ target = targetOf linkname := by
    rw [entryOf] at kind
    split at kind
    · next linkname written => exact ⟨linkname, written, (Kind.symlink.inj kind).symm⟩
    · cases kind
  refine ⟨⟨?_, ?_, ?_⟩, ?_, ?_⟩
  · rw [path]
    intro front begins proper ⟨link, member', kind, place⟩
    by_cases empty : front = []
    · exact parts_ne_nil (safe link member').selected (place.trans empty)
    · refine apart.names member here front ?_ ⟨link, member', kind, place⟩
      rw [stepsOf_down good.level]
      exact mem_passed_down begins proper empty
  · intro target kind
    obtain ⟨linkname, written, -⟩ := shape kind
    exact ⟨member, here, ⟨linkname, written⟩, path.symm⟩
  · intro target kind
    rw [entryOf] at kind
    split at kind <;> cases kind
  · intro target kind
    rw [entryOf] at kind
    split at kind <;> cases kind
  · intro target kind
    obtain ⟨linkname, written, rfl⟩ := shape kind
    obtain ⟨relative, below⟩ := good.linked linkname written
    refine ⟨relative, clear_of_passed ?_ (apart.links member here linkname written)⟩
    exact clear_of_resolved good.level relative below

/-- A bundle whose links are kept apart stays below the root it is extracted into. -/
theorem members_contained (members bundle : List Member) (accepted : build members = .ok bundle)
    (apart : Apart bundle) : Contained bundle := by
  intro limit links touched run
  have led : ∀ entry ∈ bundle.map entryOf, Led (LinkPlace bundle) entry := by
    intro entry here
    obtain ⟨member, listed, rfl⟩ := List.mem_map.mp here
    exact entryOf_led (build_safe accepted) apart listed
  have within := run.within fun entry here => (led entry here).toPlaced
  obtain ⟨tame, inside⟩ := run.led led
  refine ⟨inside, fun path target found => ?_⟩
  obtain ⟨relative, clear⟩ := tame path target found
  exact ⟨relative, fun limit => walk_clear within tame limit clear⟩

/-! A library and its alias in another directory. -/

def realLibrary : Member := ⟨"lib/libreal.so".toList, .file⟩

def aliasLink : Member := ⟨"usr/lib/libalias.so".toList, .symlink "../../lib/libreal.so".toList⟩

theorem aliasLink_contained : Contained [realLibrary, aliasLink] := by
  have place {path : List Text} (link : LinkPlace [realLibrary, aliasLink] path) :
      path = parts aliasLink.name := by
    obtain ⟨member, listed, ⟨linkname, kind⟩, rfl⟩ := link
    obtain rfl | rfl := by simpa using listed
    · cases kind
    · rfl
  refine members_contained [realLibrary, aliasLink] _ (ok_of_toOption (by decide +kernel)) ⟨?_, ?_⟩
  · intro member listed path through link
    rw [place link] at through
    revert member
    decide +kernel
  · intro member listed linkname kind path through link
    rw [place link] at through
    obtain rfl | rfl := by simpa using listed
    · cases kind
    · obtain rfl := MemberKind.symlink.inj kind
      revert through
      decide +kernel

/-! A link to the root, a link beneath it, and a file beneath both. -/

def rootLink : Member := ⟨['l', 'i', 'b', '/', 'a'], .symlink ['.', '.']⟩

def stackedLink : Member :=
  ⟨['l', 'i', 'b', '/', 'a', '/', 'b'], .symlink ['.', '.', '/', '.', '.']⟩

def stackedFile : Member := ⟨['l', 'i', 'b', '/', 'a', '/', 'b', '/', 'x'], .file⟩

theorem stacked_extraction : ∃ links touched,
    Extracts true 8 ([rootLink, stackedLink, stackedFile].map entryOf) links touched ∧
      .outside ∈ touched := by
  have first : Extracts true 8 ([] ++ [entryOf rootLink]) _ _ :=
    .snoc .nil (.symlink rfl rfl)
  have second : Extracts true 8 ([] ++ [entryOf rootLink] ++ [entryOf stackedLink]) _ _ :=
    first.snoc (.symlink rfl rfl)
  have third : Extracts true 8
      ([] ++ [entryOf rootLink] ++ [entryOf stackedLink] ++ [entryOf stackedFile]) _
      ([] ++ _ ++ _ ++ [.outside]) := second.snoc (.plain (.inl rfl) rfl)
  exact ⟨_, _, third, by simp⟩

/-- A link to the root makes the next link's depth wrong, and a file beneath both leaves it. -/
theorem stacked_links_escape : build [rootLink, stackedLink, stackedFile] =
      .ok [rootLink, stackedLink, stackedFile] ∧
    ¬Contained [rootLink, stackedLink, stackedFile] := by
  refine ⟨ok_of_toOption (by decide +kernel), fun contained => ?_⟩
  obtain ⟨links, touched, run, out⟩ := stacked_extraction
  exact (contained 8 links touched run).1 out

end WinBoot.Userland
