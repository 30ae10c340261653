import WinBoot.ShellTransaction

/-! The script that installs the tool layer on the device, command by command. -/

namespace WinBoot.InstallScript
open Interaction ShellProcess

inductive Spot
  | root | previous
  | tool (name : String)
  | backup (name : String)
  | marker | oldManifest
deriving DecidableEq

/-- The variables that the cleanup reads. -/
inductive Flag
  | committed | rootChanged | wrappersChanged
deriving DecidableEq

inductive Condition
  | directory (spot : Spot)
  | exists (spot : Spot)
  | symlink (spot : Spot)
  | regular (spot : Spot)
  | executable (name : String)
  | readlink (name : String)
  | set (flag : Flag)
deriving DecidableEq

/-- `layer` is a command that works on `/run/a1625-layer` or prints, `build` one that works on
`$nextroot`. -/
inductive Command
  | guard (line : String)
  | test (condition : Condition)
  | testNot (condition : Condition)
  | makeLock
  | trapExit
  | trapSignals
  | trapClear
  | measureFree
  | testSpace
  | makeNext
  | makeBackup
  | backUp (name : String)
  | copyMarker
  | layer (line : String)
  | build (line : String)
  | movePrevious
  | moveNext
  | assign (flag : Flag)
  | moveTool
  | chmodTool
  | linkTool (name : String)
  | removeTool (name : String)
  | writeGit
  | chmodGit
  | linkGit
  | writeMarker
  | removePrevious
  | removeRoot
  | moveBack
  | forceRemoveTool (name : String)
  | restoreTool (name : String)
  | removeMarker
  | restoreMarker
  | removeNext
  | removeLock
deriving DecidableEq

abbrev InstallShell : Type → Type := Shell Command

structure Package where
  file : String
  sha256 : String

/-- What the host writes into the script. -/
structure Bundle where
  url : String
  hash : String
  packages : List Package
  zramCommand : String

def wrapperNames : List String :=
  ["a1625-tool", "a1625-git", "git", "ssh", "ssh-keygen", "scp", "sftp", "cc", "gcc", "c++", "g++",
    "cpp", "make", "pkgconf", "pkg-config", "ar", "as", "ld", "nm", "ranlib", "strip", "objcopy",
    "objdump", "size", "strings", "file", "patch"]

def linkedNames : List String :=
  ["ssh", "ssh-keygen", "scp", "sftp", "cc", "gcc", "c++", "g++", "cpp", "make", "pkgconf",
    "pkg-config", "ar", "as", "ld", "nm", "ranlib", "strip", "objcopy", "objdump", "size", "strings",
    "file", "patch"]

def guards : InstallShell Unit := do
  ["test \"$(uname -m)\" = aarch64",
    "grep -q '^KernelPageSize:[[:space:]]*4 kB$' /proc/self/smaps",
    "grep -q ' /run tmpfs ' /proc/mounts",
    "grep -q ' / rootfs ' /proc/mounts",
    "awk 'NR>1 && $1 ~ /^[0-9]+$/ && $4 !~ /^zram[0-9]+$/ \x7bfound=1\x7d END \x7bexit found\x7d' /proc/partitions",
    "test ! -L /run/a1625-layer",
    "test ! -L /run/a1625-tools"].forM fun line => run (.guard line)
  run (.testNot (.symlink .root))
  run (.guard "test ! -L /opt/bin")
  run (.testNot (.exists .previous))
  run (.guard "mkdir -p /run/work /run/a1625-layer /run/a1625-tools /opt/bin")

/-- `test condition || command` -/
def unless_ (condition : Command) (command : Command) : InstallShell Unit := do
  let yes ← holds condition
  whenever (!yes) (run command)

/-- `test -e spot || test -L spot` -/
def present (spot : Spot) : InstallShell Bool := do
  let found ← holds (.test (.exists spot))
  if found then pure true else holds (.test (.symlink spot))

def backUpTool (name : String) : InstallShell Unit := do
  run (.testNot (.directory (.tool name)))
  let there ← present (.tool name)
  whenever there (run (.backUp name))

def prepare : InstallShell Unit := do
  run .measureFree
  run .testSpace
  run .makeNext
  run .makeBackup
  wrapperNames.forM backUpTool
  unless_ (.testNot (.regular .marker)) .copyMarker

def fetch (bundle : Bundle) : InstallShell Unit := do
  ["rm -rf /run/a1625-layer",
    "mkdir /run/a1625-layer",
    "wget -q -O /run/a1625-layer/layer.tar.gz " ++ bundle.url,
    "echo '" ++ bundle.hash ++ "  /run/a1625-layer/layer.tar.gz' | sha256sum -c -",
    "tar -xzf /run/a1625-layer/layer.tar.gz -C /run/a1625-layer",
    "test -s /run/a1625-layer/manifest.json"].forM fun line => run (.layer line)
  bundle.packages.forM fun package =>
    run (.layer ("echo '" ++ package.sha256 ++ "  /run/a1625-layer/" ++ package.file ++
      "' | sha256sum -c -"))

/-- The commands that fill `$nextroot`. -/
def buildLines (bundle : Bundle) : List String :=
  (bundle.packages.map fun package =>
    "tar -xzf '/run/a1625-layer/" ++ package.file ++ "' -C \"$nextroot\"") ++
  ["find \"$nextroot\" -type f -perm +6000 -exec chmod a-s \x7b\x7d \\;",
    "mkdir -p \"$nextroot/opt/bin\"",
    "mv /run/a1625-layer/a1625-zram-enable \"$nextroot/opt/bin/a1625-zram-enable\"",
    "chmod 0755 \"$nextroot/opt/bin/a1625-zram-enable\""]

def exchangeRoot : InstallShell Unit := do
  unless_ (.testNot (.directory .root)) .movePrevious
  run .moveNext
  run (.assign .rootChanged)

def linkWrapper (name : String) : InstallShell Unit := do
  let executable ← holds (.test (.executable name))
  if executable then run (.linkTool name)
  else
    let stale ← holds (.test (.readlink name))
    whenever stale (run (.removeTool name))

def exchangeWrappers : InstallShell Unit := do
  run (.layer "rm -f /run/a1625-layer/*.apk /run/a1625-layer/layer.tar.gz")
  run (.assign .wrappersChanged)
  run .moveTool
  run .chmodTool
  linkedNames.forM linkWrapper
  run .writeGit
  run .chmodGit
  run .linkGit

def commit (bundle : Bundle) : InstallShell Unit := do
  ["export HOME=/run/codex-home GIT_CONFIG_GLOBAL=/run/codex-home/.gitconfig SSL_CERT_FILE=/etc/ssl/certs/ca-certificates.crt",
    "/opt/bin/a1625-git --version",
    "date -u +%FT%TZ",
    bundle.zramCommand].forM fun line => run (.layer line)
  run .writeMarker
  run (.assign .committed)
  run .removePrevious

/-- `$remote` -/
def install (bundle : Bundle) : InstallShell Unit := do
  guards
  run .makeLock
  run .trapExit
  run .trapSignals
  prepare
  fetch bundle
  (buildLines bundle).forM fun line => run (.build line)
  exchangeRoot
  exchangeWrappers
  commit bundle

/-- `command || exit status` -/
def orExit (command : Command) (status : Nat) : InstallShell Unit := do
  let ok ← holds command
  Script.throwIf (!ok) status

def ifHolds (condition : Condition) (body : InstallShell Unit) : InstallShell Unit := do
  let yes ← holds (.test condition)
  whenever yes body

def restoreRoot : InstallShell Unit := do
  let aside ← holds (.test (.directory .previous))
  if aside then do
    run .removeRoot
    orExit .moveBack 71
  else
    ifHolds (.set .rootChanged) (run .removeRoot)

def restoreWrapper (name : String) : InstallShell Unit := do
  run (.forceRemoveTool name)
  let kept ← present (.backup name)
  whenever kept (orExit (.restoreTool name) 72)

def restoreWrappers : InstallShell Unit := do
  wrapperNames.forM restoreWrapper
  run .removeMarker
  unless_ (.testNot (.regular .oldManifest)) .restoreMarker

def cleanup (status : Nat) : Prog Command (fun _ => Bool) Nat :=
  Shell.program do
    run .trapClear
    let open_ ← holds (.testNot (.set .committed))
    whenever open_ do
      restoreRoot
      ifHolds (.set .wrappersChanged) restoreWrappers
    run .removeNext
    run .removeLock
    throw status

def trapOf : Command → Option (Trap Command)
  | .trapExit => some (.atExit cleanup)
  | .trapSignals => some .signals
  | .trapClear => some .clear
  | _ => none

end WinBoot.InstallScript
