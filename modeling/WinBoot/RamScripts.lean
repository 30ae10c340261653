import WinBoot.ShellProcess

/-! The two scripts that the snapshot and restore commands send to the device, command by
command. -/

namespace WinBoot.RamScripts
open Interaction ShellProcess

/-- The files of the home directory that a snapshot holds. -/
inductive HomeFile
  | authJson | configToml | gitconfig | sshConfig | knownHosts | idEd25519 | idEd25519Pub
deriving DecidableEq

inductive Place
  | work | home | homeSsh | homeFile (file : HomeFile)
  | lock | stage | next
  | archive | stageRun | stageWork | stageFile (file : HomeFile)
  | nextWork | nextHome | nextSsh | nextFile (file : HomeFile)
  | oldWork | oldHome
deriving DecidableEq

/-- The variables that the rollback reads. -/
inductive Flag
  | committed | worknew | homenew
deriving DecidableEq

/-- What `test` is asked. -/
inductive Condition
  | directory (place : Place)
  | exists (place : Place)
  | symlink (place : Place)
  | regular (place : Place)
  | set (flag : Flag)
deriving DecidableEq

inductive Operation
  | snapshot | restore
deriving DecidableEq

inductive Command
  | guard (line : String)
  | test (condition : Condition)
  | testNot (condition : Condition)
  | findSpecial (place : Place)
  | makeLock
  | trapExit (operation : Operation)
  | trapSignals
  | trapClear
  | measureHome
  | measureFree
  | testSpace
  | makeDirectories (places : List Place)
  | receiveArchive
  | testSize
  | testHash
  | extractArchive
  | remove (places : List Place)
  | move (source target : Place)
  | copyHome
  | makeParent (file : HomeFile)
  | copyFile (file : HomeFile)
  | protect (place : Place)
  | assign (flag : Flag)
  | createArchive
  | echoDone
  | removeLockDirectory
  | removeLock
deriving DecidableEq

abbrev RamShell : Type → Type := Shell Command

/-- `Get-A1625RamGuard` -/
def ramGuard : RamShell Unit := do
  ["test \"$(uname -m)\" = aarch64",
    "grep -q '^KernelPageSize:[[:space:]]*4 kB$' /proc/self/smaps",
    "grep -q ' / rootfs ' /proc/mounts",
    "grep -q ' /run tmpfs ' /proc/mounts",
    "awk 'NR>1 && $4 !~ /^zram[0-9]+$/ && $1 ~ /^[0-9]+$/ \x7bfound=1\x7d END \x7bexit found\x7d' /proc/partitions",
    "awk '$2 ~ /^\\/run\\// \x7bfound=1\x7d END \x7bexit found\x7d' /proc/mounts"].forM fun line => run (.guard line)
  run (.testNot (.symlink .work))
  run (.testNot (.symlink .home))
  run (.testNot (.symlink .homeSsh))

def snapshotFiles : List HomeFile :=
  [.authJson, .configToml, .sshConfig, .knownHosts, .idEd25519, .idEd25519Pub, .gitconfig]

def restoreFiles : List HomeFile :=
  [.authJson, .configToml, .gitconfig, .sshConfig, .knownHosts, .idEd25519, .idEd25519Pub]

def selectFile (file : HomeFile) : RamShell Unit := do
  let present ← holds (.test (.exists (.homeFile file)))
  whenever present do
    run (.testNot (.symlink (.homeFile file)))
    run (.test (.regular (.homeFile file)))

/-- `if find ...; then exit status; fi` -/
def refuseSpecial (place : Place) (status : Nat) : RamShell Unit := do
  let found ← holds (.findSpecial place)
  Script.throwIf found status

/-- `Get-A1625RamSnapshotCommand` -/
def snapshotCommand : RamShell Unit := do
  ramGuard
  run .makeLock
  run (.trapExit .snapshot)
  run .trapSignals
  run (.test (.directory .work))
  snapshotFiles.forM selectFile
  refuseSpecial .work 41
  run .createArchive

/-- Its EXIT trap. -/
def releaseLock (status : Nat) : Prog Command (fun _ => Bool) Nat := do
  let _ ← Prog.call .removeLockDirectory
  pure status

/-- `test ! condition || command` -/
def unlessNot (condition : Condition) (command : Command) : RamShell Unit := do
  let absent ← holds (.testNot condition)
  whenever (!absent) (run command)

def reserveSpace : RamShell Unit := do
  let present ← holds (.test (.directory .home))
  whenever present (run .measureHome)
  run .measureFree
  run .testSpace

def unpackArchive : RamShell Unit := do
  run (.makeDirectories [.stage, .next])
  run .receiveArchive
  run .testSize
  run .testHash
  run .extractArchive
  run (.remove [.archive])
  run (.test (.directory .stageRun))
  refuseSpecial .stage 42

def overlayFile (file : HomeFile) : RamShell Unit := do
  let present ← holds (.test (.exists (.stageFile file)))
  whenever present do
    run (.testNot (.symlink (.nextFile file)))
    run (.makeParent file)
    run (.copyFile file)
    run (.protect (.nextFile file))

def prepareTrees : RamShell Unit := do
  run (.testNot (.symlink .work))
  run (.testNot (.symlink .home))
  run (.test (.directory .stageWork))
  run (.move .stageWork .nextWork)
  run (.makeDirectories [.nextHome])
  unlessNot (.exists .home) .copyHome
  refuseSpecial .nextHome 43
  restoreFiles.forM overlayFile
  run (.protect .nextHome)
  unlessNot (.directory .nextSsh) (.protect .nextSsh)

def exchangeTrees : RamShell Unit := do
  unlessNot (.exists .work) (.move .work .oldWork)
  unlessNot (.exists .home) (.move .home .oldHome)
  run (.move .nextWork .work)
  run (.assign .worknew)
  run (.move .nextHome .home)
  run (.assign .homenew)
  run (.assign .committed)
  run (.remove [.oldWork, .oldHome])
  run .echoDone

/-- `Get-A1625RamRestoreCommand` -/
def restoreCommand : RamShell Unit := do
  ramGuard
  run .makeLock
  run (.trapExit .restore)
  run .trapSignals
  reserveSpace
  unpackArchive
  prepareTrees
  exchangeTrees

/-- `mv source target || exit status` -/
def moveBack (source target : Place) (status : Nat) : RamShell Unit := do
  let moved ← holds (.move source target)
  Script.throwIf (!moved) status

/-- `if test ...; then ...; fi` -/
def ifTest (condition : Condition) (body : RamShell Unit) : RamShell Unit := do
  let yes ← holds (.test condition)
  whenever yes body

def restoreOld : RamShell Unit := do
  ifTest (.set .worknew) (run (.remove [.work]))
  ifTest (.set .homenew) (run (.remove [.home]))
  ifTest (.directory .oldWork) (moveBack .oldWork .work 71)
  ifTest (.directory .oldHome) (moveBack .oldHome .home 72)

/-- The EXIT trap of the restore. -/
def rollback (status : Nat) : Prog Command (fun _ => Bool) Nat :=
  Shell.program do
    run .trapClear
    let open_ ← holds (.testNot (.set .committed))
    whenever open_ restoreOld
    run .removeLock
    throw status

def trapOf : Command → Option (Trap Command)
  | .trapExit .snapshot => some (.atExit releaseLock)
  | .trapExit .restore => some (.atExit rollback)
  | .trapSignals => some .signals
  | .trapClear => some .clear
  | _ => none

def scriptOf : Operation → RamShell Unit
  | .snapshot => snapshotCommand
  | .restore => restoreCommand

end WinBoot.RamScripts
