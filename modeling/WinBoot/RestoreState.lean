import WinBoot.FileTree
import WinBoot.RamScripts

/-! What the commands of a restore do under `/run`: the two state directories, what lies in the
lock directory, the shell variables that the rollback reads, and which commands can succeed. -/

namespace WinBoot.RestoreState
open Interaction ShellProcess RamScripts FileTree

abbrev RamEvent : Type := ShellEvent Command

def HomeFile.parents : HomeFile → List String
  | .authJson | .configToml | .gitconfig => []
  | .sshConfig | .knownHosts | .idEd25519 | .idEd25519Pub => [".ssh"]

def HomeFile.name : HomeFile → String
  | .authJson => "auth.json"
  | .configToml => "config.toml"
  | .gitconfig => ".gitconfig"
  | .sshConfig => "config"
  | .knownHosts => "known_hosts"
  | .idEd25519 => "id_ed25519"
  | .idEd25519Pub => "id_ed25519.pub"

def HomeFile.path (file : HomeFile) : List String := parents file ++ [name file]

/-- The last name of a place's path. -/
def Place.name : Place → String
  | .work | .stageWork | .nextWork => "work"
  | .home | .nextHome => "codex-home"
  | .homeSsh | .nextSsh => ".ssh"
  | .homeFile file | .stageFile file | .nextFile file => HomeFile.name file
  | .lock => ".a1625-state-lock"
  | .stage => "stage"
  | .next => "next"
  | .archive => "archive.gz"
  | .stageRun => "run"
  | .oldWork => "old-work"
  | .oldHome => "old-home"

/-- What a run meets: the tree that `tar` makes of the archive, and what commands that fail have
done by then. -/
structure Device where
  snapshot : Node
  leaves : Command → Place → Option Node

structure State where
  work : Option Node
  home : Option Node
  lock : Bool
  stage : Option Node
  nextWork : Option Node
  nextHome : Option Node
  oldWork : Option Node
  oldHome : Option Node
  committed : Bool
  worknew : Bool
  homenew : Bool
  armed : Bool
  handling : Bool
  last : Option RamEvent

/-- Before the script; nothing has been set. -/
def State.initial (work home : Option Node) (lock : Bool) : State :=
  { work := work, home := home, lock := lock, stage := none, nextWork := none, nextHome := none
    oldWork := none, oldHome := none, committed := false, worknew := false, homenew := false
    armed := false, handling := false, last := none }

namespace State

/-- What lies at a place that a test or a move names. -/
def look (s : State) : Place → Option Node
  | .work => s.work
  | .home => s.home
  | .homeSsh => s.home.bind (·.seek [".ssh"])
  | .homeFile file => s.home.bind (·.seek (HomeFile.path file))
  | .stage => s.stage
  | .stageRun => s.stage.bind (·.seek ["run"])
  | .stageWork => s.stage.bind (·.seek ["run", "work"])
  | .stageFile file => s.stage.bind (·.seek ("run" :: "codex-home" :: HomeFile.path file))
  | .nextWork => s.nextWork
  | .nextHome => s.nextHome
  | .nextSsh => s.nextHome.bind (·.seek [".ssh"])
  | .nextFile file => s.nextHome.bind (·.seek (HomeFile.path file))
  | .oldWork => s.oldWork
  | .oldHome => s.oldHome
  | .lock | .next | .archive => none

def put (s : State) (n : Option Node) : Place → State
  | .work => { s with work := n }
  | .home => { s with home := n }
  | .stage => { s with stage := n }
  | .nextWork => { s with nextWork := n }
  | .nextHome => { s with nextHome := n }
  | .oldWork => { s with oldWork := n }
  | .oldHome => { s with oldHome := n }
  | _ => s

def take (s : State) : Place → State
  | .stageWork => { s with stage := s.stage.map (·.modify ["run"] (·.remove "work")) }
  | place => s.put none place

def move (s : State) (source target : Place) : State :=
  match s.look source with
  | none => s
  | some n => (s.take source).put (some (n.placed (Place.name source) (s.look target))) target

def flag (s : State) : Flag → Bool
  | .committed => s.committed
  | .worknew => s.worknew
  | .homenew => s.homenew

def set (s : State) : Flag → State
  | .committed => { s with committed := true }
  | .worknew => { s with worknew := true }
  | .homenew => { s with homenew := true }

end State

/-- `mkdir -p` of the parent of a file in the new home. -/
def HomeFile.makeParent (file : HomeFile) (home : Node) : Node :=
  (parents file).foldl (fun home name => home.makeDirectory name) home

/-- `cp -a` of a file into the new home. -/
def HomeFile.copyTo (file : HomeFile) (n home : Node) : Node :=
  home.modify (parents file) fun dir =>
    dir.insert (name file) (n.placed (name file) (dir.entry (name file)))

/-- A condition can be found true. A link may lead to a directory or a file. -/
def State.may (s : State) : Condition → Bool
  | .directory place => (s.look place).any fun n => n.isDirectory || n.isLink
  | .exists place => (s.look place).isSome
  | .symlink place => (s.look place).any Node.isLink
  | .regular place => (s.look place).any fun n => n.isFile || n.isLink
  | .set flag => s.flag flag

/-- A condition can be found false. -/
def State.mayNot (s : State) : Condition → Bool
  | .directory place => !(s.look place).any Node.isDirectory
  | .exists place => (s.look place).isNone
  | .symlink place => !(s.look place).any Node.isLink
  | .regular place => !(s.look place).any Node.isFile
  | .set flag => !s.flag flag

/-- Links count among what is searched for, except in the copy of the old home. -/
def State.special (s : State) (place : Place) : Bool :=
  (s.look place).any fun n => n.any fun n => n.isSpecial || (n.isLink && place ≠ .nextHome)

/-- A command can succeed. -/
def State.can (s : State) : Command → Bool
  | .test condition => s.may condition
  | .testNot condition => s.mayNot condition
  | .findSpecial place => s.special place
  | .makeLock => !s.lock
  | .move source target => (s.look source).any fun n => n.fits (s.look target)
  | .copyHome => s.home.any Node.isDirectory
  | .copyFile file => (s.look (.stageFile file)).any fun n => n.fits (s.look (.nextFile file))
  | .protect place => (s.look place).isSome
  | _ => true

/-- What a command that succeeds does. -/
def State.run (d : Device) (s : State) : Command → State
  | .makeLock =>
    { s with lock := true, stage := none, nextWork := none, nextHome := none, oldWork := none
             oldHome := none }
  | .trapExit _ => { s with armed := true }
  | .trapClear => { s with handling := true }
  | .makeDirectories places => places.foldl (fun s => s.put (some (.directory 0o700 []))) s
  | .extractArchive => { s with stage := some d.snapshot }
  | .remove places => places.foldl (fun s => s.put none) s
  | .move source target => s.move source target
  | .copyHome => { s with nextHome := s.home }
  | .makeParent file => { s with nextHome := s.nextHome.map (HomeFile.makeParent file) }
  | .copyFile file =>
    { s with nextHome := (s.look (.stageFile file)).elim s.nextHome fun n =>
        s.nextHome.map (HomeFile.copyTo file n) }
  | .protect (.nextFile file) =>
    { s with nextHome := s.nextHome.map (·.modify (HomeFile.path file) (·.chmod 0o600)) }
  | .protect .nextHome => { s with nextHome := s.nextHome.map (·.chmod 0o700) }
  | .protect .nextSsh => { s with nextHome := s.nextHome.map (·.modify [".ssh"] (·.chmod 0o700)) }
  | .assign flag => s.set flag
  | .removeLockDirectory => { s with lock := false }
  | .removeLock =>
    { s with lock := false, stage := none, nextWork := none, nextHome := none, oldWork := none
             oldHome := none }
  | _ => s

/-- What a command that fails leaves: a rename has not happened, copies and removals have come to
any point. -/
def State.fail (d : Device) (s : State) : Command → State
  | .extractArchive => { s with stage := d.leaves .extractArchive .stage }
  | .makeDirectories places =>
    places.foldl (fun s place => s.put (d.leaves (.makeDirectories places) place) place) s
  | .remove places => places.foldl (fun s place => s.put (d.leaves (.remove places) place) place) s
  | .copyHome => { s with nextHome := d.leaves .copyHome .nextHome }
  | .makeParent file => { s with nextHome := d.leaves (.makeParent file) .nextHome }
  | .copyFile file => { s with nextHome := d.leaves (.copyFile file) .nextHome }
  | .protect place => { s with nextHome := d.leaves (.protect place) .nextHome }
  | _ => s

/-- These do not fail of themselves: builtins that only set something, and the tests and searches
whose failure the script takes for an answer. -/
def takenForAnswer : Command → Bool
  | .trapExit _ | .trapSignals | .trapClear | .assign _ | .findSpecial _ => true
  | .test (.exists (.stageFile _)) | .testNot (.directory .nextSsh) => true
  | _ => false

/-- Nor does what the rollback runs. -/
def Reliable (s : State) (c : Command) : Prop := s.handling = true ∨ takenForAnswer c = true

def semantics (d : Device) : Monitor Command (fun _ => Bool) State where
  admits s event :=
    (event.2 = true → s.can event.1 = true) ∧
      (Reliable s event.1 → s.can event.1 = true → event.2 = true)
  allows _ _ := True
  next s event := { (if event.2 then s.run d event.1 else s.fail d event.1) with last := some event }

/-- The new home: the old one with the snapshot's files put over it. -/
def overlay (snapshot home : Node) (file : HomeFile) : Node :=
  match snapshot.seek ("run" :: "codex-home" :: HomeFile.path file) with
  | none => home
  | some n =>
    (HomeFile.copyTo file n (HomeFile.makeParent file home)).modify (HomeFile.path file)
      (·.chmod 0o600)

def newHome (snapshot : Node) (old : Option Node) : Node :=
  let home := (restoreFiles.foldl (overlay snapshot) (old.getD (.directory 0o700 []))).chmod 0o700
  if (home.seek [".ssh"]).any Node.isDirectory then home.modify [".ssh"] (·.chmod 0o700) else home

end WinBoot.RestoreState
