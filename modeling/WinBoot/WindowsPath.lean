import Mathlib.Tactic.Common

/-! Windows paths as the Rust standard library reads them: what a path begins with, whether it is
absolute, and its last component. -/

namespace WinBoot.WindowsPath

abbrev Text : Type := List Char

def isSep (c : Char) : Bool := c = '\\' || c = '/'

inductive Prefix where
  | verbatim (name : Text)
  | verbatimUnc (server share : Text)
  | verbatimDisk (drive : Char)
  | deviceNs (name : Text)
  | unc (server share : Text)
  | disk (drive : Char)
deriving DecidableEq

def Prefix.isVerbatim : Prefix → Bool
  | .verbatim _ | .verbatimUnc _ _ | .verbatimDisk _ => true
  | .deviceNs _ | .unc _ _ | .disk _ => false

def shareLength (server share : Text) : Nat :=
  server.length + if share.isEmpty then 0 else 1 + share.length

def Prefix.length : Prefix → Nat
  | .verbatim name => 4 + name.length
  | .verbatimUnc server share => 8 + shareLength server share
  | .verbatimDisk _ => 6
  | .deviceNs name => 4 + name.length
  | .unc server share => 2 + shareLength server share
  | .disk _ => 2

/-- A verbatim path is cut at backslashes only. -/
def cutsAt (verbatim : Bool) (c : Char) : Bool := if verbatim then c = '\\' else isSep c

/-- The component that `path` begins with, and what follows its separator. -/
def nextComponent (verbatim : Bool) (path : Text) : Text × Text :=
  (path.takeWhile (!cutsAt verbatim ·), (path.dropWhile (!cutsAt verbatim ·)).drop 1)

def parseDrive : Text → Option Char
  | drive :: ':' :: _ => if drive.isAlpha then some drive else none
  | _ => none

/-- A drive with nothing but a separator after it. -/
def parseDriveExact (path : Text) : Option Char :=
  if path[2]?.all isSep then parseDrive path else none

def stripUnc : Text → Option Text
  | 'U' :: 'N' :: 'C' :: sep :: path => if isSep sep then some path else none
  | _ => none

def parseVerbatim (path : Text) : Prefix :=
  match stripUnc path with
  | some path =>
    let (server, path) := nextComponent true path
    .verbatimUnc server (nextComponent true path).1
  | none =>
    match parseDriveExact path with
    | some drive => .verbatimDisk drive
    | none => .verbatim (nextComponent true path).1

def parseUnc (path : Text) : Option Prefix :=
  let (server, path) := nextComponent false path
  let share := (nextComponent false path).1
  if server.isEmpty || share.isEmpty then none else some (.unc server share)

/-- Only `\\?\` with its backslashes as they stand makes a path verbatim. -/
def parsePrefix : Text → Option Prefix
  | '\\' :: '\\' :: '?' :: '\\' :: path => some (parseVerbatim path)
  | a :: b :: path =>
    if isSep a && isSep b then
      match path with
      | '.' :: sep :: device =>
        if isSep sep then some (.deviceNs (nextComponent false device).1) else parseUnc path
      | _ => parseUnc path
    else (parseDrive (a :: b :: path)).map .disk
  | _ => none

/-- A drive alone is relative to a directory of its own. -/
def isAbsolute (path : Text) : Bool :=
  match parsePrefix path with
  | none => false
  | some (.disk _) => path[2]?.any isSep
  | some _ => true

/-- The components behind the prefix and the root, `.` dropped where it means nothing. -/
def bodyComponents (path : Text) : List Text :=
  let head := parsePrefix path
  let verbatim := head.any Prefix.isVerbatim
  let rest := path.drop (head.elim 0 Prefix.length)
  let body := if rest.head?.any isSep then rest.drop 1 else rest
  (body.splitOnP (cutsAt verbatim)).filter fun piece => piece ≠ [] && (verbatim || piece ≠ ['.'])

def fileName (path : Text) : Option Text :=
  (bodyComponents path).getLast?.filter fun piece => piece ≠ ['.'] && piece ≠ ['.', '.']

def eqIgnoreAsciiCase (a b : Text) : Bool := a.map Char.toLower = b.map Char.toLower

example : isAbsolute "C:\\tools\\libusb-1.0.dll".toList = true := by decide +kernel
example : isAbsolute "C:libusb-1.0.dll".toList = false := by decide +kernel
example : fileName "\\\\host\\share\\tools/libusb-1.0.dll\\.".toList =
    some "libusb-1.0.dll".toList := by decide +kernel

end WinBoot.WindowsPath
