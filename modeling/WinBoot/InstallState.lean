import WinBoot.FileTree
import WinBoot.InstallScript

/-! What the commands of the installer do to the tool layer: the root under `/run/a1625-tools`, the
wrappers in `/opt/bin`, the marker, and what the cleanup needs to bring them back. -/

namespace WinBoot.InstallState
open Interaction ShellProcess InstallScript FileTree

abbrev InstallEvent : Type := ShellEvent Command

/-- What `/run/a1625-development-layer.json` is. -/
inductive Marker where
  | text (content : String)
  | link
  | other
deriving DecidableEq

inductive Kind where
  | directory | regular | link | other
deriving DecidableEq

def kindOf : Node → Kind
  | .directory _ _ => .directory
  | .file _ _ => .regular
  | .link _ => .link
  | .special => .other

def Marker.kind : Marker → Kind
  | text _ => .regular
  | link => .link
  | other => .other

/-- What a run meets: what the bundle holds and its packages make of `$nextroot`, what `test -x`
finds in a root, and what commands that fail leave of the files that they write. -/
structure Device where
  build : String → Node → Node
  executable : Node → String → Bool
  toolScript : List UInt8
  gitScript : List UInt8
  manifest : String
  partRoot : Command → Option Node
  partWrapper : Command → Option Node
  partMarker : Command → Option String
  notDirectory : ∀ c n, partWrapper c = some n → n.isDirectory = false

/-- A link that an earlier install has made. -/
def isStale : Node → Bool
  | .link target => target = "/opt/bin/a1625-tool"
  | _ => false

structure State where
  root : Option Node
  previous : Option Node
  next : Option Node
  wrappers : String → Option Node
  backups : String → Option Node
  marker : Option Marker
  oldManifest : Option Marker
  lock : Bool
  committed : Bool
  rootChanged : Bool
  wrappersChanged : Bool
  armed : Bool
  handling : Bool
  last : Option InstallEvent

def State.initial (root : Option Node) (wrappers : String → Option Node) (marker : Option Marker)
    (lock : Bool) : State :=
  { root := root, previous := none, next := none, wrappers := wrappers, backups := fun _ => none
    marker := marker, oldManifest := none, lock := lock, committed := false, rootChanged := false
    wrappersChanged := false, armed := false, handling := false, last := none }

namespace State

def kind (s : State) : Spot → Option Kind
  | .root => s.root.map kindOf
  | .previous => s.previous.map kindOf
  | .tool name => (s.wrappers name).map kindOf
  | .backup name => (s.backups name).map kindOf
  | .marker => s.marker.map Marker.kind
  | .oldManifest => s.oldManifest.map Marker.kind

def flag (s : State) : Flag → Bool
  | .committed => s.committed
  | .rootChanged => s.rootChanged
  | .wrappersChanged => s.wrappersChanged

def set (s : State) : Flag → State
  | .committed => { s with committed := true }
  | .rootChanged => { s with rootChanged := true }
  | .wrappersChanged => { s with wrappersChanged := true }

/-- A condition can be found true; a link may lead anywhere or nowhere. -/
def may (d : Device) (s : State) : Condition → Bool
  | .directory spot => s.kind spot = some .directory || s.kind spot = some .link
  | .exists spot => (s.kind spot).isSome
  | .symlink spot => s.kind spot = some .link
  | .regular spot => s.kind spot = some .regular || s.kind spot = some .link
  | .executable name => s.root.any (d.executable · name)
  | .readlink name => (s.wrappers name).any isStale
  | .set flag => s.flag flag

/-- A condition can be found false. -/
def mayNot (d : Device) (s : State) : Condition → Bool
  | .directory spot => s.kind spot ≠ some .directory
  | .exists spot => (s.kind spot).isNone || s.kind spot = some .link
  | .symlink spot => s.kind spot ≠ some .link
  | .regular spot => s.kind spot ≠ some .regular
  | .executable name => !s.may d (.executable name)
  | .readlink name => !s.may d (.readlink name)
  | .set flag => !s.flag flag

/-- A command can succeed. -/
def can (d : Device) (s : State) : Command → Bool
  | .test condition => s.may d condition
  | .testNot condition => s.mayNot d condition
  | .makeLock => !s.lock
  | .backUp name => (s.wrappers name).isSome
  | .copyMarker => s.may d (.regular .marker)
  | .movePrevious => s.root.isSome && s.previous.all Node.isDirectory
  | .moveNext => s.next.isSome && s.root.all Node.isDirectory
  | .moveTool => (s.wrappers "a1625-tool").all (!·.isDirectory)
  | .forceRemoveTool name => (s.wrappers name).all (!·.isDirectory)
  | .moveBack => s.previous.isSome && s.root.all Node.isDirectory
  | .restoreTool name => (s.backups name).isSome
  | .restoreMarker => s.oldManifest.isSome
  | _ => true

/-- A command can fail of itself. -/
def cannot (d : Device) (s : State) : Command → Bool
  | .test condition => s.mayNot d condition
  | .testNot condition => s.may d condition
  | .copyMarker => s.mayNot d (.regular .marker)
  | .writeMarker | .removeMarker => s.kind .marker = some .other
  | c => !s.can d c

def wrap (s : State) (name : String) (n : Option Node) : State :=
  { s with wrappers := Function.update s.wrappers name n }

/-- `>` into a file; through a link it goes elsewhere. -/
def written (old : Option Node) (new : Option Node) : Option Node :=
  match old with
  | none | some (.file _ _) => new
  | _ => old

def writtenMarker (old new : Option Marker) : Option Marker :=
  match old with
  | none | some (.text _) => new
  | _ => old

/-- What a command that succeeds does. -/
def run (d : Device) (s : State) : Command → State
  | .makeLock => { s with lock := true, backups := fun _ => none, oldManifest := none }
  | .trapExit => { s with armed := true }
  | .trapClear => { s with handling := true }
  | .makeNext => { s with next := some (.directory 0o755 []) }
  | .backUp name => { s with backups := Function.update s.backups name (s.wrappers name) }
  | .copyMarker => { s with oldManifest := s.marker.map fun marker =>
      match marker with | .text content => .text content | _ => .text "" }
  | .build line => { s with next := s.next.map (d.build line) }
  | .movePrevious =>
    { s with root := none, previous := s.root.map fun n => n.placed "root" s.previous }
  | .moveNext => { s with next := none, root := s.next.map fun n => n.placed "root.next" s.root }
  | .assign flag => s.set flag
  | .moveTool => s.wrap "a1625-tool" (some (.file 0o644 d.toolScript))
  | .chmodTool => s.wrap "a1625-tool" ((s.wrappers "a1625-tool").map (·.chmod 0o755))
  | .linkTool name => s.wrap name (some (.link "/opt/bin/a1625-tool"))
  | .removeTool name => s.wrap name none
  | .writeGit =>
    s.wrap "a1625-git" (written (s.wrappers "a1625-git") (some (.file 0o644 d.gitScript)))
  | .chmodGit => s.wrap "a1625-git" ((s.wrappers "a1625-git").map (·.chmod 0o755))
  | .linkGit => s.wrap "git" (some (.link "/opt/bin/a1625-git"))
  | .writeMarker => { s with marker := writtenMarker s.marker (some (.text d.manifest)) }
  | .removePrevious => { s with previous := none }
  | .removeRoot => { s with root := none }
  | .moveBack =>
    { s with previous := none, root := s.previous.map fun n => n.placed "root.previous" s.root }
  | .forceRemoveTool name => s.wrap name none
  | .restoreTool name =>
    { s.wrap name (s.backups name) with backups := Function.update s.backups name none }
  | .removeMarker => { s with marker := none }
  | .restoreMarker => { s with marker := s.oldManifest, oldManifest := none }
  | .removeNext => { s with next := none }
  | .removeLock => { s with lock := false, backups := fun _ => none, oldManifest := none }
  | _ => s

/-- What a command that fails leaves: within one file system a rename has not happened, what is
copied or removed may be there in part. -/
def fail (d : Device) (s : State) : Command → State
  | .backUp name => { s with backups := Function.update s.backups name (d.partWrapper (.backUp name)) }
  | .copyMarker => { s with oldManifest := (d.partMarker .copyMarker).map .text }
  | .build line => { s with next := d.partRoot (.build line) }
  | .moveTool => s.wrap "a1625-tool" (d.partWrapper .moveTool)
  | .linkTool name => s.wrap name (d.partWrapper (.linkTool name))
  | .removeTool name => s.wrap name (d.partWrapper (.removeTool name))
  | .writeGit => s.wrap "a1625-git" (written (s.wrappers "a1625-git") (d.partWrapper .writeGit))
  | .linkGit => s.wrap "git" (d.partWrapper .linkGit)
  | .writeMarker =>
    { s with marker := writtenMarker s.marker ((d.partMarker .writeMarker).map .text) }
  | .removePrevious => { s with previous := d.partRoot .removePrevious }
  | .removeNext => { s with next := d.partRoot .removeNext }
  | _ => s

end State

/-- Builtins that only set something, and the tests whose failure the script takes for an
answer. -/
def takenForAnswer : Command → Bool
  | .trapExit | .trapSignals | .trapClear | .assign _ | .test _ | .testNot (.directory .root) => true
  | _ => false

/-- These do not fail but of themselves, nor does what the cleanup runs. -/
def Reliable (s : State) (c : Command) : Prop := s.handling = true ∨ takenForAnswer c = true

def semantics (d : Device) : Monitor Command (fun _ => Bool) State where
  admits s event :=
    (event.2 = true → s.can d event.1 = true) ∧
      (event.2 = false → Reliable s event.1 → s.cannot d event.1 = true)
  allows _ _ := True
  next s event := { (if event.2 then s.run d event.1 else s.fail d event.1) with last := some event }

/-- The root that the packages make. -/
def newRoot (d : Device) (bundle : Bundle) : Node :=
  (buildLines bundle).foldl (fun n line => d.build line n) (.directory 0o755 [])

/-- The wrappers of a new layer over the old ones. -/
def newWrappers (d : Device) (bundle : Bundle) (old : String → Option Node) (name : String) :
    Option Node :=
  if name = "a1625-tool" then some (.file 0o755 d.toolScript)
  else if name = "a1625-git" then some (.file 0o755 d.gitScript)
  else if name = "git" then some (.link "/opt/bin/a1625-git")
  else if name ∈ linkedNames then
    if d.executable (newRoot d bundle) name then some (.link "/opt/bin/a1625-tool")
    else (old name).filter (!isStale ·)
  else old name

end WinBoot.InstallState
