import WinBoot.ResolverRuns

/-! The reviewed package lock: what the installer asks of the resolved packages and of the files it
has of them before it bundles them. -/

namespace WinBoot.PackageLock
open Checks DepthFirst PackageResolver ResolverRuns

inductive Profile
  | minimal
  | development
deriving DecidableEq

def getA1625DevelopmentProfile (profile : Profile) : List Text :=
  let minimal := ["git".toList, "ca-certificates-bundle".toList, "openssh-client-default".toList]
  match profile with
  | .development => minimal ++ ["build-base".toList, "pkgconf".toList]
  | .minimal => minimal

structure LockEntry where
  name : Text
  version : Text
  file : Text
  sha256 : Text
deriving DecidableEq

structure Lock where
  format : Text
  apkIndexSha256 : Text
  profiles : Profile → Option (List LockEntry)

inductive InstallFailure
  | resolver (failure : Failure)
  | lockMismatch
  | propertyNotFound
  | setDiffers
  | missingFromLock (fileName : Text)
  | requestFailed (fileName : Text)
  | fileNotFound (fileName : Text)
  | sha256Mismatch (fileName : Text)
deriving DecidableEq

def indexHash : Text :=
  "BA325A020DB9BB220CF5A0A3EDF49937F6FF704B4D8F3F822CE3D176BF367798".toList

def lockFormat : Text := "a1625-alpine-v3.23-aarch64-lock-v1".toList

/-- `"$($package.Name)-$($package.Version).apk"` -/
def fileName (package : Package) : Text :=
  package.name ++ "-".toList ++ package.version ++ ".apk".toList

/-- `^[A-F0-9]{64}$` in either case; a line feed may follow. -/
def isSha256 (text : Text) : Bool :=
  let body := if text.getLast? = some '\n' then text.dropLast else text
  body.length = 64 && body.all fun c => c.isDigit || ('A' ≤ c.toUpper && c.toUpper ≤ 'F')

section Install

variable {Content : Type}

/-- Files by the key under which the file system has their names. -/
abbrev Store (Content : Type) : Type := Text → Option Content

variable (fold fileKey : Text → Text) (hash : Content → Text) (fetch : Text → Option Content)
  (sort : List Package → List Package)

def assertSha256 (store : Store Content) (file expected : Text) : Except InstallFailure Unit :=
  match store (fileKey file) with
  | none => .error (.fileNotFound file)
  | some content =>
    if fold (hash content) ≠ fold expected then .error (.sha256Mismatch file) else .ok ()

/-- `if (-not (Test-Path …)) { Invoke-WebRequest … }` -/
def download (store : Store Content) (file : Text) : Except InstallFailure (Store Content) :=
  if (store (fileKey file)).isSome then .ok store
  else match fetch file with
    | none => .error (.requestFailed file)
    | some content => .ok (Function.update store (fileKey file) (some content))

/-- One turn of the package loop: `$locked` and the files under `packages`. -/
def placePackage (expectedPackages : List LockEntry) (s : List LockEntry × Store Content)
    (package : Package) : Except InstallFailure (List LockEntry × Store Content) :=
  let file := fileName package
  match expectedPackages.filter fun entry => entry.file = file && entry.name = package.name &&
      entry.version = package.version with
  | [expected] =>
    if isSha256 expected.sha256 then do
      let store ← download fileKey fetch s.2 file
      assertSha256 fold fileKey hash store file expected.sha256
      return (s.1 ++ [⟨package.name, package.version, file, expected.sha256⟩], store)
    else .error (.missingFromLock file)
  | _ => .error (.missingFromLock file)

/-- From the resolution to the end of the package loop. -/
def placePackages (index : List Package) (profile : Profile) (packageLock : Lock)
    (store : Store Content) : Except InstallFailure (List LockEntry × Store Content) := do
  let packages ← (resolveA1625AlpinePackages fold sort index
    (getA1625DevelopmentProfile profile)).mapError .resolver
  if fold packageLock.format ≠ fold lockFormat ∨ fold packageLock.apkIndexSha256 ≠ fold indexHash then
    .error .lockMismatch
  else match packageLock.profiles profile with
    | none => .error .propertyNotFound
    | some expectedPackages =>
      if expectedPackages.length ≠ packages.length then .error .setDiffers
      else packages.foldlM (placePackage fold fileKey hash fetch expectedPackages) ([], store)

/-- `Copy-Item … -Force` -/
def copyPackage (store bundle : Store Content) (package : LockEntry) : Store Content :=
  Function.update bundle (fileKey package.file) (store (fileKey package.file))

/-- The loop that copies the locked packages, over whatever is left in `bundle-input`. -/
def copyPackages (locked : List LockEntry) (store bundle : Store Content) : Store Content :=
  locked.foldl (copyPackage fileKey store) bundle

/-- What the loop has placed for `packages`: their names, out of the lock, in files of the recorded
content. -/
structure Placed (expectedPackages : List LockEntry) (packages : List Package)
    (s : List LockEntry × Store Content) : Prop where
  resolved : s.1.map (fun entry => (entry.name, entry.version, entry.file)) =
    packages.map fun package => (package.name, package.version, fileName package)
  locked : ∀ entry ∈ s.1, entry ∈ expectedPackages
  contents : ∀ entry ∈ s.1, ∃ content, s.2 (fileKey entry.file) = some content ∧
    fold (hash content) = fold entry.sha256

/-- The bundle holds the entries of the lock, each once, and under each name the recorded content. -/
structure Deployed (entries locked : List LockEntry) (bundle : Store Content) : Prop where
  matched : locked.Perm entries
  once : locked.Nodup
  contents : ∀ entry ∈ locked, ∃ content, bundle (fileKey entry.file) = some content ∧
    fold (hash content) = fold entry.sha256

variable {fold fileKey hash fetch sort} {expectedPackages : List LockEntry} {package : Package}
  {packages : List Package} {s s' : List LockEntry × Store Content}

theorem assertSha256_ok {store : Store Content} {file expected : Text}
    (ok : assertSha256 fold fileKey hash store file expected = .ok ()) :
    ∃ content, store (fileKey file) = some content ∧ fold (hash content) = fold expected := by
  unfold assertSha256 at ok
  split at ok
  · cases ok
  · next content present =>
    split at ok
    · cases ok
    · next same => exact ⟨content, present, not_not.mp same⟩

/-- A download leaves the files that are there. -/
theorem download_ok {store store' : Store Content} {file : Text}
    (ok : download fileKey fetch store file = .ok store') {key : Text} {content : Content}
    (present : store key = some content) : store' key = some content := by
  unfold download at ok
  split at ok
  · obtain rfl := Except.ok.inj ok
    exact present
  · next absent =>
    split at ok
    · cases ok
    · obtain rfl := Except.ok.inj ok
      have other : key ≠ fileKey file := by
        rintro rfl
        simp [present] at absent
      rw [Function.update_of_ne other]
      exact present

/-- One turn: the package's one entry in the lock, and its file with the recorded content. -/
theorem placePackage_ok
    (ok : placePackage fold fileKey hash fetch expectedPackages s package = .ok s') :
    ∃ entry ∈ expectedPackages, entry.name = package.name ∧ entry.version = package.version ∧
      entry.file = fileName package ∧ s'.1 = s.1 ++ [entry] ∧
        (∀ key content, s.2 key = some content → s'.2 key = some content) ∧
          ∃ content, s'.2 (fileKey entry.file) = some content ∧
            fold (hash content) = fold entry.sha256 := by
  unfold placePackage at ok
  dsimp only at ok
  split at ok
  · next expected one =>
    have member : expected ∈ expectedPackages.filter _ := one ▸ List.mem_singleton_self expected
    obtain ⟨listed, same⟩ := List.mem_filter.mp member
    simp only [Bool.and_eq_true, decide_eq_true_eq] at same
    split at ok
    · obtain ⟨store, downloaded, ok⟩ := bind_ok.mp ok
      obtain ⟨_, asserted, ok⟩ := bind_ok.mp ok
      obtain rfl := Except.ok.inj ok
      refine ⟨expected, listed, same.1.2, same.2, same.1.1, ?_, ?_, ?_⟩
      · rw [← same.1.2, ← same.2, ← same.1.1]
      · exact fun key content => download_ok downloaded
      · rw [same.1.1]
        exact assertSha256_ok asserted
    · cases ok
  · cases ok

theorem placePackages_loop (before : List Package)
    (placed : Placed fold fileKey hash expectedPackages before s)
    (ok : packages.foldlM (placePackage fold fileKey hash fetch expectedPackages) s = .ok s') :
    Placed fold fileKey hash expectedPackages (before ++ packages) s' := by
  induction packages generalizing before s with
  | nil =>
    obtain rfl := Except.ok.inj ok
    rwa [List.append_nil]
  | cons package packages ih =>
    rw [List.foldlM_cons] at ok
    obtain ⟨middle, turned, rest⟩ := bind_ok.mp ok
    obtain ⟨entry, listed, name, version, file, more, kept, content⟩ := placePackage_ok turned
    have turn : Placed fold fileKey hash expectedPackages (before ++ [package]) middle := by
      refine ⟨?_, fun other member => ?_, fun other member => ?_⟩
      · rw [more, List.map_append, List.map_append, placed.resolved, List.map_singleton,
          List.map_singleton, name, version, file]
      · rw [more] at member
        obtain old | new := List.mem_append.mp member
        · exact placed.locked other old
        · exact List.mem_singleton.mp new ▸ listed
      · rw [more] at member
        obtain old | new := List.mem_append.mp member
        · obtain ⟨c, present, same⟩ := placed.contents other old
          exact ⟨c, kept _ _ present, same⟩
        · exact List.mem_singleton.mp new ▸ content
    simpa using ih (before ++ [package]) turn rest

/-- Copied files are those of the store, whatever lay in the bundle. -/
theorem copyPackages_copied {locked : List LockEntry} {files bundle : Store Content} {key : Text}
    (copied : key ∈ locked.map fun entry => fileKey entry.file) :
    copyPackages fileKey locked files bundle key = files key := by
  have kept (locked : List LockEntry) (bundle : Store Content) (same : bundle key = files key) :
      copyPackages fileKey locked files bundle key = files key := by
    induction locked generalizing bundle with
    | nil => exact same
    | cons entry locked ih =>
      apply ih
      by_cases here : key = fileKey entry.file
      · rw [here, copyPackage, Function.update_self]
      · rw [copyPackage, Function.update_of_ne here, same]
  induction locked generalizing bundle with
  | nil => cases copied
  | cons entry locked ih =>
    obtain rfl | later := List.mem_cons.mp copied
    · apply kept locked
      rw [copyPackage, Function.update_self]
    · exact ih later

/-- Equal in number, without repetition and out of the lock: the placed are all of the lock. -/
theorem Placed.deployed {files bundle : Store Content} {locked : List LockEntry}
    (placed : Placed fold fileKey hash expectedPackages packages (locked, files))
    (once : (packages.map fun p => fold p.name).Nodup)
    (count : expectedPackages.length = packages.length) :
    Deployed fold fileKey hash expectedPackages locked (copyPackages fileKey locked files bundle) := by
  have names : locked.map (fun entry => fold entry.name) = packages.map fun p => fold p.name := by
    have first := congrArg (List.map fun part => fold part.1) placed.resolved
    simpa only [List.map_map, Function.comp_def] using first
  have distinct : locked.Nodup := .of_map _ (names ▸ once)
  have number : locked.length = packages.length := by
    simpa only [List.length_map] using congrArg List.length names
  refine ⟨?_, distinct, fun entry member => ?_⟩
  · have within : locked.Subperm expectedPackages :=
      List.subperm_of_subset distinct fun entry member => placed.locked entry member
    exact within.perm_of_length_le (by rw [count, number])
  · obtain ⟨content, present, same⟩ := placed.contents entry member
    refine ⟨content, ?_, same⟩
    rw [copyPackages_copied (List.mem_map.mpr ⟨entry, member, rfl⟩)]
    exact present

end Install

section Minimal

def minimalIndex : List Package :=
  [⟨"git".toList, "2.52.0-r0".toList, ["ca-certificates-bundle".toList], []⟩,
    ⟨"ca-certificates-bundle".toList, "20260611-r0".toList, [], []⟩,
    ⟨"openssh-client-default".toList, "10.2_p1-r0".toList, [], []⟩]

def minimalEntries : List LockEntry :=
  [⟨"ca-certificates-bundle".toList, "20260611-r0".toList,
      "ca-certificates-bundle-20260611-r0.apk".toList,
      "9CC6938C1950BFA84D15AEB61BD6DEE294B0B856804F36252796E340975C264E".toList⟩,
    ⟨"git".toList, "2.52.0-r0".toList, "git-2.52.0-r0.apk".toList,
      "7C9D69EA4DB366C8337789CA8B334BDE338B9B064AE25BAEBAD6872781E906FC".toList⟩,
    ⟨"openssh-client-default".toList, "10.2_p1-r0".toList,
      "openssh-client-default-10.2_p1-r0.apk".toList,
      "C221EFC67CAE60FC325EBCE7CEA2DE68DBCC159478E668AA5C7074C13AE6D520".toList⟩]

def minimalLock : Lock where
  format := lockFormat
  apkIndexSha256 := indexHash
  profiles profile := if profile = .minimal then some minimalEntries else none

/-- The published files stand for themselves, with the hashes they are pinned by. -/
def publishedHash (file : Text) : Text :=
  match minimalEntries.find? fun entry => entry.file = file with
  | some entry => entry.sha256
  | none => []

def published (file : Text) : Option Text :=
  if minimalEntries.any fun entry => entry.file = file then some file else none

/-- One of the files was there before. -/
def cachedGit : Store Text := Function.update (fun _ => none) "git-2.52.0-r0.apk".toList
  (some "git-2.52.0-r0.apk".toList)

end Minimal

end WinBoot.PackageLock
