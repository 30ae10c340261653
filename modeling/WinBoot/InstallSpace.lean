import Mathlib.Data.List.Infix
import WinBoot.DevelopmentBundle
import WinBoot.InstallScript
import WinBoot.PageStorage

/-! The space that the installation of the tool layer takes on `/run`, next to what its check
reserves. The builder sums the sizes of the files in the packages; the device gives each of them
whole pages, and has the packages next to the archive that they came in. -/

namespace WinBoot.InstallSpace
open Interaction ShellProcess InstallScript PageStorage
open DevelopmentBundle (Member Summary build memberSize)
open PosixPath (Text)

/-- What `/opt/bin` has under a name. -/
inductive Wrapper
  | absent
  | link
  | file (size : Nat)

def Wrapper.there : Wrapper → Bool
  | absent => false
  | _ => true

/-- The sizes that an installation meets, in bytes. `replaces` says what the device's tar frees on
`/run` when it puts a member there after the earlier ones, or that it puts it elsewhere. -/
structure Load where
  url : String
  hash : String
  sha256 : Text → String
  enableZram : Bool
  packages : List DevelopmentBundle.Package
  expandedBytes : Nat
  bundleBytes : Nat
  manifest : Nat
  zramScript : Nat
  tool : Nat
  size : Text → Nat
  replaces : List Member → Member → Option Nat
  wrapper : String → Wrapper
  marker : Option Nat
  runtimeMarker : Nat
  oldLayer : Nat
  previous : Nat

/-- `neededkb` -/
def Load.needed (load : Load) : Nat := (load.expandedBytes + 2 * load.bundleBytes + 1023) / 1024 + 65536

def Load.bundle (load : Load) : Bundle where
  url := load.url
  hash := load.hash
  packages := load.packages.map fun package =>
    ⟨String.ofList package.file, load.sha256 package.file⟩
  zramCommand := if load.enableZram then "/run/a1625-tools/root/opt/bin/a1625-zram-enable" else ":"

def Load.members (load : Load) : List Member := load.packages.flatMap DevelopmentBundle.Package.members

/-- Links and directories take no pages. -/
def memberChange (replaced : Option Nat) (member : Member) : List Int :=
  match replaced with
  | some freed =>
      -(freed : Int) :: (memberSize member.kind).toList.map fun size => (pages size : Int)
  | none => []

/-- What unpacking members after earlier ones takes and gives back. -/
def memberChanges (replaces : List Member → Member → Option Nat) :
    List Member → List Member → List Int :=
  along fun earlier member => memberChange (replaces earlier member) member

def layerName : Text := "layer.tar.gz".toList

/-- The names that `*.apk` stands for. -/
def isPackage (file : Text) : Bool := ".apk".toList.isSuffixOf file && file.head? != some '.'

/-- What `/run/a1625-layer` has after the archive is unpacked there. -/
def Load.files (load : Load) : List Nat :=
  [load.manifest, load.zramScript, load.tool] ++ load.packages.map (load.size ·.file)

/-- A package of the archive's own name takes its place. -/
def Load.overwritten (load : Load) : Nat :=
  if (load.packages.map DevelopmentBundle.Package.file).contains layerName then pages load.bundleBytes else 0

/-- What `rm -f` frees of the packages and the archive. -/
def Load.cleared (load : Load) : Nat :=
  (((load.packages.map DevelopmentBundle.Package.file).filter fun file =>
    isPackage file || file == layerName).map fun file => pages (load.size file)).sum +
    (pages load.bundleBytes - load.overwritten)

def tarLine (package : DevelopmentBundle.Package) : String :=
  "tar -xzf '/run/a1625-layer/" ++ String.ofList package.file ++ "' -C \"$nextroot\""

def zramMember : Member := ⟨"opt/bin/a1625-zram-enable".toList, .file 0⟩

def Load.layerChanges (load : Load) (line : String) : List Int :=
  if line = "rm -rf /run/a1625-layer" then [-(load.oldLayer : Int)]
  else if line = "wget -q -O /run/a1625-layer/layer.tar.gz " ++ load.url then writes [load.bundleBytes]
  else if line = "tar -xzf /run/a1625-layer/layer.tar.gz -C /run/a1625-layer" then
    writes load.files ++ [-(load.overwritten : Int)]
  else if line = "rm -f /run/a1625-layer/*.apk /run/a1625-layer/layer.tar.gz" then [-(load.cleared : Int)]
  else []

def Load.buildChanges (load : Load) (line : String) : List Int :=
  if line = "mv /run/a1625-layer/a1625-zram-enable \"$nextroot/opt/bin/a1625-zram-enable\"" then
    [-((load.replaces load.members zramMember).getD 0 : Int)]
  else
    match load.packages.dropWhile (tarLine · ≠ line) with
    | [] => []
    | package :: _ =>
      memberChanges load.replaces
        ((load.packages.takeWhile (tarLine · ≠ line)).flatMap DevelopmentBundle.Package.members)
        package.members

def Load.oldMarker (load : Load) : Nat := load.marker.elim 0 pages

/-- What a command takes and gives back. -/
def Load.changes (load : Load) : Command → List Int
  | .backUp name =>
    match load.wrapper name with
    | .file size => writes [size]
    | _ => []
  | .copyMarker => writes load.marker.toList
  | .layer line => load.layerChanges line
  | .build line => load.buildChanges line
  | .moveTool => [-(pages load.tool : Int)]
  | .writeMarker => [-(load.oldMarker : Int), pages load.runtimeMarker]
  | .removePrevious => [-(load.previous : Int)]
  | _ => []

/-- The answers that the sizes decide, and what `df` says is available. -/
def Load.admits (load : Load) (available : Nat) : ShellEvent Command → Prop
  | ⟨.testSpace, ok⟩ => ok = decide (load.needed < available)
  | ⟨.test (.exists (.tool name)), ok⟩ =>
    match load.wrapper name with
    | .absent => ok = false
    | .link => True
    | .file _ => ok = true
  | ⟨.test (.symlink (.tool name)), ok⟩ =>
    match load.wrapper name with
    | .link => ok = true
    | _ => ok = false
  | ⟨.testNot (.regular .marker), ok⟩ => ok = load.marker.isNone
  | _ => True

/-- Whatever is available and whatever else the commands answer, an installation whose check passes
stays within it. -/
def Load.Roomy (load : Load) : Prop :=
  ∀ available : Nat, (install load.bundle).program.Safe
    (storage load.changes (load.admits available) (available * 1024)) (fun _ _ => True) 0

/-! ### Lines told apart -/

def Begins (line : String) (first : Char) : Prop := line.toList.head? = some first

theorem begins_literal {line : String} {first : Char} {rest : Text}
    (literal : line = String.ofList (first :: rest)) : Begins line first := by
  rw [Begins, literal, String.toList_ofList, List.head?_cons]

theorem Begins.append {line : String} {first : Char} (begins : Begins line first) (more : String) :
    Begins (line ++ more) first := by
  rw [Begins, String.toList_append, List.head?_append, begins, Option.some_or]

theorem Begins.ne {line other : String} {first second : Char} (here : Begins line first)
    (there : Begins other second) (differ : first ≠ second) : line ≠ other := by
  rintro rfl
  exact differ (Option.some.inj (here.symm.trans there))

theorem literal_ne {line other : String} {here there : Text} (literal : line = String.ofList here)
    (literal' : other = String.ofList there) (differ : here ≠ there) : line ≠ other := by
  rw [literal, literal']
  exact fun same => differ (String.ofList_injective same)

theorem begins_wget (url : String) : Begins ("wget -q -O /run/a1625-layer/layer.tar.gz " ++ url) 'w' :=
  (begins_literal rfl).append url

/-! ### The script's changes -/

def fetchLines (bundle : Bundle) : List String :=
  ["rm -rf /run/a1625-layer",
    "mkdir /run/a1625-layer",
    "wget -q -O /run/a1625-layer/layer.tar.gz " ++ bundle.url,
    "echo '" ++ bundle.hash ++ "  /run/a1625-layer/layer.tar.gz' | sha256sum -c -",
    "tar -xzf /run/a1625-layer/layer.tar.gz -C /run/a1625-layer",
    "test -s /run/a1625-layer/manifest.json"]

def Load.wrapperChanges (load : Load) : List Int :=
  wrapperNames.flatMap fun name => load.changes (.backUp name)

def Load.fetchChanges (load : Load) : List Int :=
  (fetchLines load.bundle).flatMap fun line => load.changes (.layer line)

def Load.rootChanges (load : Load) : List Int :=
  (buildLines load.bundle).flatMap fun line => load.changes (.build line)

section

variable {load : Load} {available : Nat} {limit used : Int}

theorem guards_keeps (inside : used ≤ limit) (post : Int → Unit → Prop) :
    Keeps load.changes (load.admits available) limit guards post used ↔ post used () := by
  have line : ∀ line post, Keeps load.changes (load.admits available) limit (run (.guard line)) post used ↔
      post used () := fun line post => (keeps_still rfl trivial post).trans (and_iff_right inside)
  rw [guards, keeps_bind, keeps_forM_still line, keeps_next rfl trivial inside,
    keeps_next rfl trivial inside, keeps_next rfl trivial inside, line]

theorem present_keeps (name : String) (inside : used ≤ limit) (post : Int → Bool → Prop) :
    Keeps load.changes (load.admits available) limit (present (.tool name)) post used ↔
      post used (load.wrapper name).there := by
  rw [present, keeps_bind]
  cases wrapper : load.wrapper name with
  | absent =>
    have missing : ∀ ok, load.admits available ⟨.test (.exists (.tool name)), ok⟩ ↔ ok = false := by
      simp [Load.admits, wrapper]
    have no_link : ∀ ok, load.admits available ⟨.test (.symlink (.tool name)), ok⟩ ↔ ok = false := by
      simp [Load.admits, wrapper]
    rw [keeps_holds rfl missing, and_iff_right inside, if_neg Bool.false_ne_true,
      keeps_holds rfl no_link, and_iff_right inside, Wrapper.there]
  | link =>
    have leads : ∀ ok, load.admits available ⟨.test (.exists (.tool name)), ok⟩ := by
      simp [Load.admits, wrapper]
    have is_link : ∀ ok, load.admits available ⟨.test (.symlink (.tool name)), ok⟩ ↔ ok = true := by
      simp [Load.admits, wrapper]
    rw [keeps_ask rfl leads, and_iff_right inside]
    refine (forall_congr' fun found => ?_).trans (forall_const Bool)
    cases found with
    | true => exact Iff.rfl
    | false => exact (keeps_holds rfl is_link _).trans (and_iff_right inside)
  | file size =>
    have found : ∀ ok, load.admits available ⟨.test (.exists (.tool name)), ok⟩ ↔ ok = true := by
      simp [Load.admits, wrapper]
    rw [keeps_holds rfl found, and_iff_right inside]
    exact Iff.rfl

theorem backUpTool_keeps (name : String) (used : Int) (inside : used ≤ limit)
    (post : Int → Unit → Prop) :
    Keeps load.changes (load.admits available) limit (backUpTool name) post used ↔
      Stays limit used (load.changes (.backUp name)) ∧
        post (used + (load.changes (.backUp name)).sum) () := by
  rw [backUpTool, keeps_next rfl trivial inside, keeps_bind, present_keeps name inside, keeps_whenever]
  cases wrapper : load.wrapper name with
  | absent => simp [Wrapper.there, Load.changes, wrapper, Stays, inside]
  | link => exact keeps_run trivial post
  | file size => exact keeps_run trivial post

theorem copyMarker_keeps (inside : used ≤ limit) (post : Int → Unit → Prop) :
    Keeps load.changes (load.admits available) limit (unless_ (.testNot (.regular .marker)) .copyMarker)
      post used ↔
      Stays limit used (load.changes .copyMarker) ∧ post (used + (load.changes .copyMarker).sum) () := by
  rw [unless_, keeps_bind, keeps_holds rfl fun _ => Iff.rfl, and_iff_right inside, keeps_whenever]
  cases marker : load.marker with
  | none => simp [Load.changes, marker, writes, Stays, inside]
  | some size => exact keeps_run trivial post

theorem prepare_keeps (inside : used ≤ limit) (post : Int → Unit → Prop) :
    Keeps load.changes (load.admits available) limit prepare post used ↔
      (load.needed < available →
        Stays limit used (load.wrapperChanges ++ load.changes .copyMarker) ∧
          post (used + (load.wrapperChanges ++ load.changes .copyMarker).sum) ()) := by
  rw [prepare, keeps_next rfl trivial inside, keeps_bind, keeps_check rfl (fun _ => Iff.rfl) inside,
    decide_eq_true_eq]
  refine imp_congr_right fun _ => ?_
  rw [keeps_next rfl trivial inside, keeps_next rfl trivial inside, keeps_bind,
    keeps_forM (fun name => load.changes (.backUp name)) backUpTool_keeps wrapperNames inside,
    stays_append, List.sum_append, ← add_assoc, and_assoc]
  exact and_congr_right fun copied => copyMarker_keeps copied.finish post

/-- Only lines that remove, download or unpack something take or give back space. -/
theorem layerChanges_quiet {line : String} {first : Char} (begins : Begins line first)
    (other : first ≠ 'r' ∧ first ≠ 'w' ∧ first ≠ 't') : load.layerChanges line = [] := by
  obtain ⟨r, w, t⟩ := other
  rw [Load.layerChanges, if_neg (begins.ne (begins_literal rfl) r), if_neg (begins.ne (begins_wget _) w),
    if_neg (begins.ne (begins_literal rfl) t), if_neg (begins.ne (begins_literal rfl) r)]

theorem fetch_keeps (inside : used ≤ limit) (post : Int → Unit → Prop) :
    Keeps load.changes (load.admits available) limit (fetch load.bundle) post used ↔
      Stays limit used load.fetchChanges ∧ post (used + load.fetchChanges.sum) () := by
  rw [fetch, keeps_bind]
  refine (keeps_commands Command.layer (fun _ => trivial) (fetchLines load.bundle) inside _).trans
    (and_congr_right fun fetched => keeps_forM_still (fun package post => ?_) _ _)
  have quiet : load.changes (.layer ("echo '" ++ package.sha256 ++ "  /run/a1625-layer/" ++ package.file ++
      "' | sha256sum -c -")) = [] :=
    layerChanges_quiet ((((begins_literal rfl).append _).append _).append _ |>.append _) (by decide)
  exact (keeps_still quiet trivial post).trans (and_iff_right fetched.finish)

theorem exchangeRoot_keeps (inside : used ≤ limit) (post : Int → Unit → Prop) :
    Keeps load.changes (load.admits available) limit exchangeRoot post used ↔ post used () := by
  rw [exchangeRoot, unless_, keeps_bind, keeps_bind, keeps_ask rfl fun _ => trivial,
    and_iff_right inside]
  refine (forall_congr' fun absent => ?_).trans (forall_const Bool)
  rw [keeps_whenever]
  cases absent with
  | false =>
    refine (keeps_still rfl trivial _).trans ((and_iff_right inside).trans ?_)
    rw [keeps_next rfl trivial inside, keeps_still rfl trivial]
    exact and_iff_right inside
  | true =>
    refine (keeps_next rfl trivial inside _ _).trans ((keeps_still rfl trivial _).trans ?_)
    exact and_iff_right inside

theorem linkWrapper_keeps (inside : used ≤ limit) (name : String) (post : Int → Unit → Prop) :
    Keeps load.changes (load.admits available) limit (linkWrapper name) post used ↔ post used () := by
  rw [linkWrapper, keeps_bind, keeps_ask rfl fun _ => trivial, and_iff_right inside]
  refine (forall_congr' fun executable => ?_).trans (forall_const Bool)
  cases executable with
  | true => exact (keeps_still rfl trivial _).trans (and_iff_right inside)
  | false =>
    refine (keeps_bind _ _ _).trans ((keeps_ask rfl (fun _ => trivial) _).trans
      ((and_iff_right inside).trans ?_))
    refine (forall_congr' fun stale => ?_).trans (forall_const Bool)
    rw [keeps_whenever]
    cases stale with
    | true => exact (keeps_still rfl trivial _).trans (and_iff_right inside)
    | false => exact Iff.rfl

def Load.clearChanges (load : Load) : List Int := [-(load.cleared : Int), -(pages load.tool : Int)]

theorem exchangeWrappers_keeps (post : Int → Unit → Prop) :
    Keeps load.changes (load.admits available) limit exchangeWrappers post used ↔
      Stays limit used load.clearChanges ∧ post (used + load.clearChanges.sum) () := by
  have cleared : load.changes
      (.layer "rm -f /run/a1625-layer/*.apk /run/a1625-layer/layer.tar.gz") = [-(load.cleared : Int)] := by
    rw [Load.changes, Load.layerChanges, if_neg (literal_ne rfl rfl (by decide)),
      if_neg ((begins_literal rfl).ne (begins_wget _) (by decide)),
      if_neg (literal_ne rfl rfl (by decide)), if_pos rfl]
  have moved : load.changes .moveTool = [-(pages load.tool : Int)] := rfl
  have split : load.clearChanges = [-(load.cleared : Int)] ++ [-(pages load.tool : Int)] := rfl
  rw [exchangeWrappers, keeps_bind, keeps_run trivial, cleared, split, stays_append, List.sum_append,
    and_assoc, ← add_assoc]
  refine and_congr_right fun layer => ?_
  rw [keeps_next rfl trivial layer.finish, keeps_bind, keeps_run trivial, moved]
  refine and_congr_right fun tool => ?_
  rw [keeps_next rfl trivial tool.finish, keeps_bind, keeps_forM_still (linkWrapper_keeps tool.finish),
    keeps_next rfl trivial tool.finish, keeps_next rfl trivial tool.finish, keeps_still rfl trivial]
  exact and_iff_right tool.finish

set_option maxRecDepth 2000 in
theorem commit_keeps (inside : used ≤ limit) (post : Int → Unit → Prop) :
    Keeps load.changes (load.admits available) limit (commit load.bundle) post used ↔
      Stays limit used (load.changes .writeMarker ++ load.changes .removePrevious) ∧
        post (used + (load.changes .writeMarker ++ load.changes .removePrevious).sum) () := by
  have zram : load.changes (.layer load.bundle.zramCommand) = [] := by
    cases enable : load.enableZram with
    | true =>
      rw [Load.bundle, enable, if_pos rfl]
      exact layerChanges_quiet (begins_literal rfl) (by decide)
    | false =>
      rw [Load.bundle, enable, if_neg Bool.false_ne_true]
      exact layerChanges_quiet (begins_literal rfl) (by decide)
  have lines : ["export HOME=/run/codex-home GIT_CONFIG_GLOBAL=/run/codex-home/.gitconfig SSL_CERT_FILE=/etc/ssl/certs/ca-certificates.crt",
      "/opt/bin/a1625-git --version", "date -u +%FT%TZ", load.bundle.zramCommand].flatMap
        (fun line => load.changes (.layer line)) = [] := by
    simp only [List.flatMap_eq_nil_iff, List.forall_mem_cons, List.not_mem_nil, false_implies, implies_true,
      and_true]
    exact ⟨layerChanges_quiet (begins_literal rfl) (by decide),
      layerChanges_quiet (begins_literal rfl) (by decide),
      layerChanges_quiet (begins_literal rfl) (by decide), zram⟩
  rw [commit, keeps_bind, keeps_commands Command.layer (fun _ => trivial) _ inside, lines, List.sum_nil,
    add_zero, Stays, and_iff_right inside, keeps_bind, keeps_run trivial, stays_append, List.sum_append,
    and_assoc, ← add_assoc]
  refine and_congr_right fun written => ?_
  rw [keeps_next rfl trivial written.finish, keeps_run trivial]

def Load.allChanges (load : Load) : List Int :=
  (load.wrapperChanges ++ load.changes .copyMarker) ++ (load.fetchChanges ++ (load.rootChanges ++
    (load.clearChanges ++ (load.changes .writeMarker ++ load.changes .removePrevious))))

/-- The script stays within the limit exactly when what it takes after its check does. -/
theorem install_keeps (positive : 0 ≤ limit) :
    Keeps load.changes (load.admits available) limit (install load.bundle) (fun _ _ => True) 0 ↔
      (load.needed < available → Stays limit 0 load.allChanges) := by
  rw [install, keeps_bind, guards_keeps positive, keeps_next rfl trivial positive,
    keeps_next rfl trivial positive, keeps_next rfl trivial positive, keeps_bind,
    prepare_keeps positive]
  refine imp_congr_right fun _ => ?_
  rw [Load.allChanges]
  refine Iff.trans (and_congr_right fun prepared => ?_) stays_append.symm
  rw [keeps_bind, fetch_keeps prepared.finish]
  refine Iff.trans (and_congr_right fun fetched => ?_) stays_append.symm
  rw [keeps_bind, keeps_commands Command.build (fun _ => trivial) _ fetched.finish]
  refine Iff.trans (and_congr_right fun unpacked => ?_) stays_append.symm
  rw [keeps_bind, exchangeRoot_keeps unpacked.finish, keeps_bind, exchangeWrappers_keeps]
  refine Iff.trans (and_congr_right fun cleared => ?_) stays_append.symm
  exact (commit_keeps cleared.finish _).trans (and_iff_left trivial)

end

/-! ### What is enough -/

def Load.limit (load : Load) : Int := (load.needed + 1) * 1024

/-- What the copies of the old wrappers and of the old marker take. -/
def Load.copies (load : Load) : Int := (load.wrapperChanges ++ load.changes .copyMarker).sum

/-- With the old layer gone, the new archive and its files. -/
def Load.layer (load : Load) : Int :=
  load.copies - load.oldLayer + pages load.bundleBytes + ((load.files.map pages).sum : Nat)

/-- What the first members make of the root. -/
def Load.rootSpace (load : Load) (front : List Member) : Int :=
  (memberChanges load.replaces [] front).sum

structure Load.Ample (load : Load) : Prop where
  copies : load.copies ≤ load.limit
  layer : load.layer ≤ load.limit
  root : ∀ front, front <+: load.members →
    load.layer - load.overwritten + load.rootSpace front ≤ load.limit
  marker : load.layer - load.overwritten + load.rootSpace load.members -
    (load.replaces load.members zramMember).getD 0 - load.cleared - pages load.tool - load.oldMarker +
      pages load.runtimeMarker ≤ load.limit

section

variable {load : Load} {limit used : Int}

theorem level_memberChange (replaced : Option Nat) (member : Member) :
    Level (memberChange replaced member) := by
  cases replaced with
  | none => exact level_nil
  | some freed =>
    rw [memberChange]
    cases memberSize member.kind with
    | none => exact level_release freed
    | some size => exact level_replace freed (pages size)

theorem fetchChanges_eq : load.fetchChanges = [-(load.oldLayer : Int)] ++ writes [load.bundleBytes] ++
    (writes load.files ++ [-(load.overwritten : Int)]) := by
  have removed : load.layerChanges "rm -rf /run/a1625-layer" = [-(load.oldLayer : Int)] := by
    rw [Load.layerChanges, if_pos rfl]
  have made : load.layerChanges "mkdir /run/a1625-layer" = [] :=
    layerChanges_quiet (begins_literal rfl) (by decide)
  have fetched : load.layerChanges ("wget -q -O /run/a1625-layer/layer.tar.gz " ++ load.url) =
      writes [load.bundleBytes] := by
    rw [Load.layerChanges, if_neg ((begins_wget _).ne (begins_literal rfl) (by decide)), if_pos rfl]
  have checked : load.layerChanges ("echo '" ++ load.hash ++
      "  /run/a1625-layer/layer.tar.gz' | sha256sum -c -") = [] :=
    layerChanges_quiet (((begins_literal rfl).append _).append _) (by decide)
  have unpacked : load.layerChanges "tar -xzf /run/a1625-layer/layer.tar.gz -C /run/a1625-layer" =
      writes load.files ++ [-(load.overwritten : Int)] := by
    rw [Load.layerChanges, if_neg (literal_ne rfl rfl (by decide)),
      if_neg ((begins_literal rfl).ne (begins_wget _) (by decide)), if_pos rfl]
  have tested : load.layerChanges "test -s /run/a1625-layer/manifest.json" = [] := by
    rw [Load.layerChanges, if_neg (literal_ne rfl rfl (by decide)),
      if_neg ((begins_literal rfl).ne (begins_wget _) (by decide)),
      if_neg (literal_ne rfl rfl (by decide)), if_neg (literal_ne rfl rfl (by decide))]
  calc load.fetchChanges
      = load.layerChanges "rm -rf /run/a1625-layer" ++ (load.layerChanges "mkdir /run/a1625-layer" ++
        (load.layerChanges ("wget -q -O /run/a1625-layer/layer.tar.gz " ++ load.url) ++
        (load.layerChanges ("echo '" ++ load.hash ++ "  /run/a1625-layer/layer.tar.gz' | sha256sum -c -") ++
        (load.layerChanges "tar -xzf /run/a1625-layer/layer.tar.gz -C /run/a1625-layer" ++
        (load.layerChanges "test -s /run/a1625-layer/manifest.json" ++ []))))) := rfl
    _ = _ := by
      rw [removed, made, fetched, checked, unpacked, tested]
      simp

/-! The lines that unpack the packages, each told from the others by its package. -/

theorem tarLine_eq (package : DevelopmentBundle.Package) : tarLine package =
    "tar -xzf '/run/a1625-layer/" ++ String.ofList package.file ++ "' -C \"$nextroot\"" := rfl

theorem tarLine_inj {package other : DevelopmentBundle.Package}
    (same : tarLine package = tarLine other) :
    package.file = other.file := by
  have lists := congrArg String.toList same
  simp only [tarLine_eq, String.toList_append, String.toList_ofList] at lists
  exact List.append_cancel_left (List.append_cancel_right lists)

theorem tarLine_begins (package : DevelopmentBundle.Package) : Begins (tarLine package) 't' := by
  rw [tarLine_eq]
  exact ((begins_literal rfl).append _).append _

theorem buildChanges_other {line : String} {first : Char} (begins : Begins line first) (other : first ≠ 't')
    (stays : line ≠ "mv /run/a1625-layer/a1625-zram-enable \"$nextroot/opt/bin/a1625-zram-enable\"") :
    load.buildChanges line = [] := by
  have none : load.packages.dropWhile (tarLine · ≠ line) = [] := by
    rw [List.dropWhile_eq_nil_iff]
    intro package _
    exact decide_eq_true ((tarLine_begins package).ne begins other.symm)
  rw [Load.buildChanges, if_neg stays, none]

theorem buildChanges_package {front back : List DevelopmentBundle.Package}
    {package : DevelopmentBundle.Package} (packages : load.packages = front ++ package :: back)
    (distinct : (load.packages.map DevelopmentBundle.Package.file).Nodup) :
    load.buildChanges (tarLine package) = memberChanges load.replaces
      (front.flatMap DevelopmentBundle.Package.members) package.members := by
  have fresh : ∀ other ∈ front, decide (tarLine other ≠ tarLine package) = true := by
    rw [packages, List.map_append, List.map_cons, List.perm_middle.nodup_iff, List.nodup_cons] at distinct
    intro other member
    rw [decide_eq_true_eq]
    refine fun same => distinct.1 (List.mem_append_left _ ?_)
    exact tarLine_inj same ▸ List.mem_map_of_mem member
  have moves : tarLine package ≠
      "mv /run/a1625-layer/a1625-zram-enable \"$nextroot/opt/bin/a1625-zram-enable\"" :=
    (tarLine_begins package).ne (begins_literal rfl) (by decide)
  have here : decide (tarLine package ≠ tarLine package) = false := by simp
  have before : load.packages.takeWhile (tarLine · ≠ tarLine package) = front := by
    rw [packages, List.takeWhile_append_of_pos fresh, List.takeWhile_cons_of_neg (by simp), List.append_nil]
  have after : load.packages.dropWhile (tarLine · ≠ tarLine package) = package :: back := by
    rw [packages, List.dropWhile_append_of_pos fresh, List.dropWhile_cons_of_neg (by simp)]
  rw [Load.buildChanges, if_neg moves, before, after]

theorem packages_changes (distinct : (load.packages.map DevelopmentBundle.Package.file).Nodup)
    {front back : List DevelopmentBundle.Package} (packages : load.packages = front ++ back) :
    back.flatMap (fun package => load.buildChanges (tarLine package)) = memberChanges load.replaces
      (front.flatMap DevelopmentBundle.Package.members)
      (back.flatMap DevelopmentBundle.Package.members) := by
  induction back generalizing front with
  | nil => rfl
  | cons package back ih =>
    have rest := ih (packages.trans (List.append_cons front package back))
    rw [List.flatMap_append, List.flatMap_singleton] at rest
    rw [List.flatMap_cons, buildChanges_package packages distinct, rest, List.flatMap_cons, memberChanges,
      along_append]

theorem rootChanges_eq (distinct : (load.packages.map DevelopmentBundle.Package.file).Nodup) :
    load.rootChanges = memberChanges load.replaces [] load.members ++
      [-((load.replaces load.members zramMember).getD 0 : Int)] := by
  have packages := packages_changes distinct (List.nil_append load.packages).symm
  have found : load.buildChanges "find \"$nextroot\" -type f -perm +6000 -exec chmod a-s \x7b\x7d \\;" = [] :=
    buildChanges_other (begins_literal rfl) (by decide) (literal_ne rfl rfl (by decide))
  have made : load.buildChanges "mkdir -p \"$nextroot/opt/bin\"" = [] :=
    buildChanges_other (begins_literal rfl) (by decide) (literal_ne rfl rfl (by decide))
  have moved : load.buildChanges
      "mv /run/a1625-layer/a1625-zram-enable \"$nextroot/opt/bin/a1625-zram-enable\"" =
        [-((load.replaces load.members zramMember).getD 0 : Int)] := by
    rw [Load.buildChanges, if_pos rfl]
  have chmod : load.buildChanges "chmod 0755 \"$nextroot/opt/bin/a1625-zram-enable\"" = [] :=
    buildChanges_other (begins_literal rfl) (by decide) (literal_ne rfl rfl (by decide))
  have lines : ((load.bundle.packages.map fun package =>
      "tar -xzf '/run/a1625-layer/" ++ package.file ++ "' -C \"$nextroot\"").flatMap
        fun line => load.changes (.build line)) =
      load.packages.flatMap fun package => load.buildChanges (tarLine package) := by
    rw [Load.bundle, List.map_map, List.flatMap_map]
    rfl
  rw [Load.rootChanges, buildLines, List.flatMap_append, lines, packages]
  simp only [List.flatMap_cons, List.flatMap_nil, Load.changes]
  rw [found, made, moved, chmod]
  rfl

theorem roomy_iff_stays : load.Roomy ↔ Stays load.limit 0 load.allChanges := by
  have each : ∀ available : Nat, (install load.bundle).program.Safe
      (storage load.changes (load.admits available) (available * 1024)) (fun _ _ => True) 0 ↔
        (load.needed < available → Stays (available * 1024) 0 load.allChanges) := fun available =>
    keeps_program.trans (install_keeps (by omega))
  simp only [Load.Roomy, each, Load.limit]
  constructor
  · exact fun all => by simpa using all (load.needed + 1) (Nat.lt_succ_self _)
  · exact fun stays available passed => stays.mono (by omega)

theorem copies_grow : ∀ change ∈ load.wrapperChanges ++ load.changes .copyMarker, 0 ≤ change := by
  have written : ∀ sizes : List Nat, ∀ change ∈ writes sizes, 0 ≤ change := by
    intro sizes change member
    obtain ⟨size, -, rfl⟩ := List.mem_map.mp member
    exact Int.natCast_nonneg _
  intro change member
  rcases List.mem_append.mp member with wrapper | marker
  · obtain ⟨name, -, copy⟩ := List.mem_flatMap.mp wrapper
    cases kind : load.wrapper name with
    | absent | link => simp [Load.changes, kind] at copy
    | file size =>
      rw [Load.changes, kind] at copy
      exact written _ _ copy
  · exact written _ _ marker

theorem stays_fetch (copied : used ≤ limit) : Stays limit used load.fetchChanges ↔
    used - load.oldLayer + pages load.bundleBytes + ((load.files.map pages).sum : Nat) ≤ limit := by
  rw [fetchChanges_eq]
  simp only [stays_append, stays_writes, List.sum_append, writes_sum, List.map_singleton,
    List.sum_singleton, Stays]
  omega

theorem fetchChanges_sum : load.fetchChanges.sum =
    -load.oldLayer + pages load.bundleBytes + ((load.files.map pages).sum : Nat) - load.overwritten := by
  rw [fetchChanges_eq]
  simp only [List.sum_append, writes_sum, List.map_singleton, List.sum_singleton]
  omega

theorem stays_root (distinct : (load.packages.map DevelopmentBundle.Package.file).Nodup) :
    Stays limit used load.rootChanges ↔
      ∀ front, front <+: load.members → used + load.rootSpace front ≤ limit := by
  rw [rootChanges_eq distinct, stays_append, memberChanges,
    stays_along fun earlier member => level_memberChange _ member]
  refine and_iff_left_of_imp fun fronts => ?_
  have whole := fronts load.members List.prefix_rfl
  simp only [Stays]
  omega

theorem rootChanges_sum (distinct : (load.packages.map DevelopmentBundle.Package.file).Nodup) :
    load.rootChanges.sum = load.rootSpace load.members - (load.replaces load.members zramMember).getD 0 := by
  rw [rootChanges_eq distinct, List.sum_append, List.sum_singleton, Load.rootSpace]
  omega

/-- After the root is there only the new marker takes something. -/
theorem stays_rest (inside : used ≤ limit) :
    Stays limit used (load.clearChanges ++ (load.changes .writeMarker ++ load.changes .removePrevious)) ↔
      used - load.cleared - pages load.tool - load.oldMarker + pages load.runtimeMarker ≤ limit := by
  have marker : load.changes .writeMarker = [-(load.oldMarker : Int), pages load.runtimeMarker] := rfl
  have previous : load.changes .removePrevious = [-(load.previous : Int)] := rfl
  rw [marker, previous, Load.clearChanges]
  simp only [List.cons_append, List.nil_append, Stays]
  omega

theorem roomy_iff_ample (distinct : (load.packages.map DevelopmentBundle.Package.file).Nodup) :
    load.Roomy ↔ load.Ample := by
  have copies : Stays load.limit 0 (load.wrapperChanges ++ load.changes .copyMarker) ↔
      load.copies ≤ load.limit := by
    rw [stays_of_growth copies_grow, zero_add, Load.copies]
  have fetched : load.copies + load.fetchChanges.sum = load.layer - load.overwritten := by
    rw [fetchChanges_sum, Load.layer]
    omega
  have root := rootChanges_sum distinct
  rw [roomy_iff_stays, Load.allChanges, stays_append, copies, zero_add, ← Load.copies]
  constructor
  · rintro ⟨copied, later⟩
    obtain ⟨layer, later⟩ := stays_append.mp later
    rw [fetched] at later
    obtain ⟨fronts, later⟩ := stays_append.mp later
    have marker := (stays_rest fronts.finish).mp later
    refine ⟨copied, (stays_fetch copied).mp layer, (stays_root distinct).mp fronts, ?_⟩
    omega
  · intro ample
    have fronts := (stays_root distinct).mpr ample.root
    refine ⟨ample.copies, stays_append.mpr ⟨(stays_fetch ample.copies).mpr ample.layer, ?_⟩⟩
    rw [fetched]
    refine stays_append.mpr ⟨fronts, (stays_rest fronts.finish).mpr ?_⟩
    have marker := ample.marker
    omega

end

/-! ### Accepted bundles -/

/-- An installation of an accepted bundle whose check passes never takes more than was available
exactly when the stages of the layer leave it room. -/
theorem install_roomy_iff (isLink : Text → Bool) (load : Load) (count : Nat)
    (accepted : build isLink load.packages = .ok ⟨load.expandedBytes, count⟩) :
    load.Roomy ↔ load.Ample :=
  roomy_iff_ample (DevelopmentBundle.build_distinct accepted)

/-! A library with two aliases, over an older layer. -/

def aliasLoad : Load where
  url := "http://172.16.42.2:8080/a1625-minimal-packages.tar.gz"
  hash := "00"
  sha256 _ := "00"
  enableZram := true
  packages := [DevelopmentBundle.aliasPackage]
  expandedBytes := 5
  bundleBytes := 1200
  manifest := 900
  zramScript := 1500
  tool := 700
  size _ := 600
  replaces _ _ := some 0
  wrapper name := if name = "git" then .link else if name = "a1625-tool" then .file 700 else .absent
  marker := some 800
  runtimeMarker := 850
  oldLayer := 4096
  previous := 8192

theorem alias_install_roomy : aliasLoad.Roomy := by
  refine (install_roomy_iff (fun _ => false) aliasLoad 3 (Checks.ok_of_toOption (by decide +kernel))).mpr ?_
  have fronts : ∀ front ∈ aliasLoad.members.inits,
      aliasLoad.layer - aliasLoad.overwritten + aliasLoad.rootSpace front ≤ aliasLoad.limit := by
    decide +kernel
  exact
    { copies := by decide +kernel, layer := by decide +kernel
      root := fun front begins => fronts front ((List.mem_inits _ _).mpr begins)
      marker := by decide +kernel }

/-! Many files of one byte. -/

def smallMembers (n : Nat) : List Member :=
  (List.range n).map fun i => ⟨"usr/share/".toList ++ Nat.toDigits 10 i, .file 1⟩

def smallLoad (n : Nat) : Load where
  url := "http://172.16.42.2:8080/a1625-development-packages.tar.gz"
  hash := "00"
  sha256 _ := "00"
  enableZram := false
  packages := [⟨"small.apk".toList, smallMembers n⟩]
  expandedBytes := n
  bundleBytes := 20 * n
  manifest := 900
  zramScript := 1500
  tool := 700
  size _ := 20 * n
  replaces _ _ := some 0
  wrapper _ := .absent
  marker := none
  runtimeMarker := 850
  oldLayer := 0
  previous := 0

theorem small_ordinary (i : Nat) :
    DevelopmentBundle.Ordinary ("usr/share/".toList ++ Nat.toDigits 10 i) := by
  have digit : ∀ c ∈ Nat.toDigits 10 i, c.isDigit := fun c member =>
    Nat.isDigit_of_mem_toDigits (by decide) (by decide) member
  have absent : ∀ c ∉ "usr/share/".toList, c.isDigit = false →
      c ∉ "usr/share/".toList ++ Nat.toDigits 10 i := by
    intro c front no_digit member
    rcases List.mem_append.mp member with early | late
    · exact front early
    · rw [digit c late] at no_digit
      cases no_digit
  have last := List.getLast?_eq_some_getLast (Nat.toDigits_ne_nil (n := i) (b := 10))
  exact
    { some := by simp
      first := by simp
      last := by
        rw [List.getLast?_append, last, Option.some_or]
        intro slash
        have digit := digit _ (List.getLast_mem Nat.toDigits_ne_nil)
        rw [Option.some.inj slash] at digit
        exact absurd digit (by decide)
      level := absent '.' (by decide +kernel) (by decide)
      straight := absent '\\' (by decide +kernel) (by decide) }

theorem memberChanges_fresh {members : List Member}
    (files : ∀ member ∈ members, member.kind = .file 1)
    (earlier : List Member) :
    (memberChanges (fun _ _ => some 0) earlier members).sum = 4096 * members.length := by
  induction members generalizing earlier with
  | nil => rfl
  | cons member members ih =>
    have rest := ih (fun other here => files other (List.mem_cons_of_mem _ here))
      (earlier ++ [member])
    have here : (memberChange (some 0) member).sum = 4096 := by
      rw [memberChange, files member List.mem_cons_self]
      rfl
    rw [memberChanges, along, List.sum_append, here, ← memberChanges, rest, List.length_cons]
    omega

theorem small_files (n : Nat) : ∀ member ∈ smallMembers n,
    DevelopmentBundle.Ordinary member.name ∧ member.kind = .file 1 := by
  intro member here
  obtain ⟨i, -, rfl⟩ := List.mem_map.mp here
  exact ⟨small_ordinary i, rfl⟩

theorem small_sizes (n : Nat) : ((smallMembers n).filterMap (memberSize ·.kind)).sum = n := by
  have sizes : (smallMembers n).filterMap (memberSize ·.kind) = (List.range n).map fun _ => 1 := by
    rw [smallMembers, List.filterMap_map, ← List.filterMap_eq_map]
    rfl
  rw [sizes, List.map_const', List.sum_replicate_nat, List.length_range, Nat.mul_one]

theorem small_accepted (n : Nat) : ∃ count, build (fun _ => false) (smallLoad n).packages =
    .ok ⟨(smallLoad n).expandedBytes, count⟩ := by
  have files : ∀ member ∈ smallMembers n,
      DevelopmentBundle.Ordinary member.name ∧ ∃ size, member.kind = .file size := fun member here =>
    ⟨(small_files n member here).1, 1, (small_files n member here).2⟩
  have distinct : DevelopmentBundle.ownFiles ++ ["small.apk".toList] =
      (DevelopmentBundle.ownFiles ++ ["small.apk".toList]).dedup := by decide +kernel
  have bare : ∀ name ∈ DevelopmentBundle.ownFiles ++ ["small.apk".toList],
      DevelopmentBundle.checkInput (fun _ => false) name = .ok () := by decide +kernel
  have built : ∃ count, build (fun _ => false) [⟨"small.apk".toList, smallMembers n⟩] =
      .ok ⟨((smallMembers n).filterMap (memberSize ·.kind)).sum, count⟩ :=
    DevelopmentBundle.build_ordinary files distinct bare
  rwa [small_sizes] at built

theorem small_overruns (n : Nat) (many : 16400 ≤ n) : ¬(smallLoad n).Ample := by
  have members : (smallLoad n).members = smallMembers n := List.append_nil _
  have length : (smallMembers n).length = n := by rw [smallMembers, List.length_map, List.length_range]
  have root : (smallLoad n).rootSpace (smallMembers n) = 4096 * n := by
    rw [Load.rootSpace]
    refine (memberChanges_fresh (fun member here => (small_files n member here).2) []).trans ?_
    rw [length]
  have copies : (smallLoad n).copies = 0 := rfl
  have kept : (smallLoad n).overwritten = 0 := rfl
  have files : 20 * n ≤ ((smallLoad n).files.map pages).sum := by
    refine le_trans ?_ (le_pages_sum _)
    have sizes : (smallLoad n).files.sum = 900 + (1500 + (700 + (20 * n + 0))) := rfl
    omega
  have layer : ((20 * n + 20 * n : Nat) : Int) ≤ (smallLoad n).layer - (smallLoad n).overwritten := by
    have archive : 20 * n ≤ pages (smallLoad n).bundleBytes := le_pages _
    have old : (smallLoad n).oldLayer = 0 := rfl
    rw [Load.layer, copies, kept, old]
    omega
  have limit : (smallLoad n).limit = ((n + 2 * (20 * n) + 1023) / 1024 + 65536 + 1 : Nat) * 1024 := rfl
  intro ample
  have whole := ample.root _ List.prefix_rfl
  rw [members, root, limit] at whole
  omega

theorem small_files_overrun : (∃ count, build (fun _ => false) (smallLoad 20000).packages =
    .ok ⟨(smallLoad 20000).expandedBytes, count⟩) ∧ ¬(smallLoad 20000).Roomy := by
  obtain ⟨count, accepted⟩ := small_accepted 20000
  refine ⟨⟨count, accepted⟩, fun roomy => small_overruns 20000 (by decide) ?_⟩
  exact (roomy_iff_ample (DevelopmentBundle.build_distinct accepted)).mp roomy

end WinBoot.InstallSpace
