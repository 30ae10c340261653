import WinBoot.TryFinally
import WinBoot.Userland

/-! The builder of the Wi-Fi userland bundles with its files: packages are read from a cache or
downloaded, the bundle is written beside its destination and moved there. -/

namespace WinBoot.UserlandBuild
open Interaction PosixPath Userland

abbrev Bytes : Type := List UInt8

structure LockedPackage where
  file : Text
  sha256 : String

/-- `lock['bundles'][kind]` -/
structure Expected where
  packages : List LockedPackage
  bundleSha256 : String

structure Lock where
  source : Text
  bundles : Text → Option Expected

/-- A member of a package, with what `addfile` keeps of its header and with its content. -/
structure Entry where
  member : Member
  mode : Nat
  content : Bytes

/-- What the builder calls of `hashlib`, `zlib` and `tarfile`. A decoder that reaches its end gives
the data and what is left, a tar file the members that can be read before its end or an error. -/
structure Library where
  hexdigest : Bytes → String
  decompress : Bytes → Except String (Option (Bytes × Bytes))
  readTar : Bytes → List Entry × Option String
  encode : Entry → Bytes
  ending : Nat → Bytes
  shorter : ∀ raw expanded unused, decompress raw = .ok (some (expanded, unused)) →
    unused.length < raw.length

/-- An exception; a call that fails may have written something, or nothing. -/
structure Failure where
  message : String
  written : Option Nat
deriving DecidableEq

structure Job where
  lock : Lock
  kind : Text
  cache : Text
  output : Text
  offline : Bool

def Job.destination (job : Job) : Text := job.output ++ '/' :: job.kind ++ "-runtime.tar".toList

def Job.temporary (job : Job) : Text := job.output ++ '/' :: job.kind ++ "-runtime.tar.tmp".toList

def Job.cached (job : Job) (package : LockedPackage) : Text := job.cache ++ '/' :: package.file

inductive Call
  | makeOutput
  | makeCache
  | openTemporary
  | exists (path : Text)
  | download (url : Text)
  | write (path : Text) (content : Bytes)
  | read (path : Text)
  | append (content : Bytes)
  | finish
  | close
  | replace
  | print (line : String)
  | unlink

abbrev Reply : Call → Type
  | .exists _ => Bool
  | .download _ | .read _ => Except Failure Bytes
  | _ => Except Failure Unit

abbrev Build : Type → Type := Script Call Reply Failure

def require (condition : Bool) (message : String) : Build Unit := Script.throwIf (!condition) ⟨message, none⟩

/-- What is computed without a call. -/
def computed {α : Type} (x : Except String α) : Build α := Script.lift (x.mapError (⟨·, none⟩))

/-- The loop of `apk_data`; each turn leaves less. -/
def apkMembers (lib : Library) : Nat → Bytes → Except String (List Bytes)
  | _, [] => .ok []
  | 0, _ :: _ => .error "unreachable"
  | fuel + 1, byte :: rest => do
    match ← lib.decompress (byte :: rest) with
    | none => .error "Incomplete APK gzip member"
    | some (expanded, unused) =>
      let members ← apkMembers lib fuel unused
      return expanded :: members

/-- As each turn leaves less, there is always enough fuel. -/
theorem apkMembers_enough (lib : Library) {fuel more : Nat} {raw : Bytes}
    (enough : raw.length ≤ fuel)
    (enough' : raw.length ≤ more) : apkMembers lib fuel raw = apkMembers lib more raw := by
  induction fuel generalizing raw more with
  | zero =>
    rw [List.eq_nil_of_length_eq_zero (Nat.le_zero.mp enough)]
    cases more <;> rfl
  | succ fuel ih =>
    cases raw with
    | nil => cases more <;> rfl
    | cons byte rest =>
      cases more with
      | zero => cases enough'
      | succ more =>
        rw [apkMembers, apkMembers]
        cases turn : lib.decompress (byte :: rest) with
        | error message => rfl
        | ok member =>
          cases member with
          | none => rfl
          | some member =>
            have less := lib.shorter _ member.1 member.2 turn
            rw [List.length_cons] at enough enough' less
            have same : apkMembers lib fuel member.2 = apkMembers lib more member.2 :=
              ih (by omega) (by omega)
            exact congrArg (· >>= fun members => .ok (member.1 :: members)) same

def apkData (lib : Library) (raw : Bytes) : Except String Bytes := do
  match ← apkMembers lib raw.length raw with
  | [_, _, data] => .ok data
  | _ => .error "Expected APK v2 signature/control/data members"

/-- `re.fullmatch(r'[A-Za-z0-9_.+-]+\.apk', name)` -/
def isPackageName (name : Text) : Bool :=
  ".apk".toList.isSuffixOf name && 4 < name.length &&
    name.all fun c => c.isAlphanum || c ∈ ['_', '.', '+', '-']

/-- One turn of the loop over a package's members. -/
def addEntry (lib : Library) (bundle : List Member) (entry : Entry) : Build (List Member) := do
  let next ← computed (addMember bundle entry.member)
  if selected entry.member then
    Script.attempt (.append (lib.encode entry)) rfl
  return next

/-- A package that is not in the cache is downloaded into it. -/
def fetch (lib : Library) (job : Job) (package : LockedPackage) : Build Unit := do
  let there ← Script.ask (.exists (job.cached package))
  if !there then do
    require (!job.offline) ("Missing cached package: " ++ String.ofList package.file)
    let raw ← Script.attempt (.download (job.lock.source ++ package.file)) rfl
    require (lib.hexdigest raw = package.sha256) ("Package hash mismatch: " ++ String.ofList package.file)
    Script.attempt (.write (job.cached package) raw) rfl

def addPackage (lib : Library) (job : Job) (bundle : List Member) (package : LockedPackage) :
    Build (List Member) := do
  require (isPackageName package.file) "Invalid package filename"
  fetch lib job package
  let raw ← Script.attempt (.read (job.cached package)) rfl
  require (lib.hexdigest raw = package.sha256) ("Package hash mismatch: " ++ String.ofList package.file)
  let data ← computed (apkData lib raw)
  let (entries, stopped) := lib.readTar data
  let bundle ← entries.foldlM (addEntry lib) bundle
  match stopped with
  | none => return bundle
  | some message => throw ⟨message, none⟩

/-- `with tarfile.open(temporary, 'w') as bundle` -/
def pack (lib : Library) (job : Job) (expected : Expected) : Build Unit := do
  Script.attempt .openTemporary rfl
  let _ ← Script.onExit (expected.packages.foldlM (addPackage lib job) []) fun ended =>
    if ended.isOk then Script.attempt .finish rfl else Script.attempt .close rfl

/-- The body of the `try`. -/
def publish (lib : Library) (job : Job) (expected : Expected) : Build Unit := do
  pack lib job expected
  let content ← Script.attempt (.read job.temporary) rfl
  let digest := lib.hexdigest content
  require (digest = expected.bundleSha256) (String.ofList job.kind ++ " bundle hash mismatch: " ++ digest)
  Script.attempt .replace rfl
  Script.attempt (.print (String.ofList job.kind ++ ": " ++ digest)) rfl

def build (lib : Library) (job : Job) : Build Unit := do
  let expected ← computed (job.lock.bundles job.kind |>.elim (.error "KeyError") .ok)
  Script.attempt .makeOutput rfl
  Script.attempt .makeCache rfl
  Script.onExit (publish lib job expected) fun _ => Script.attempt .unlink rfl

end WinBoot.UserlandBuild
