import WinBoot.RamEnvelope
import WinBoot.SnapshotStore

/-! The snapshot preflight and the host side of the restore, two scripts that decide whether a
snapshot can be restored. Both look for files through PowerShell, which starts from its location
and expands wildcards, and read them through .NET, which starts from the process's directory. -/

namespace WinBoot.RamPreflight
open SnapshotStore Checks

abbrev Bytes : Type := List UInt8
abbrev Name : Type := List Char

/-- A full path, the drive first. -/
abbrev Path : Type := List Name

/-- One segment of a path is followed; the drive is not left. -/
def enter (path : Path) (segment : Name) : Path :=
  if segment = ['.'] then path
  else if segment = ['.', '.'] then if path.length ≤ 1 then path else path.dropLast
  else path ++ [segment]

inductive StateDirectory
  | absolute (drive : Name) (segments : List Name)
  | relative (segments : List Name)
deriving DecidableEq

def StateDirectory.fullPath (base : Path) : StateDirectory → Path
  | absolute drive segments => segments.foldl enter [drive]
  | relative segments => segments.foldl enter base

def isWildcard (c : Char) : Bool := c = '*' || c = '?' || c = '[' || c = ']' || c.toNat = 96

/-- A path that PowerShell does not expand. -/
def Plain (path : Path) : Prop := ∀ segment ∈ path, segment.all (fun c => !isWildcard c)

/-- What the two scripts can see. `testLeaf` and `itemLength` take wildcard paths and are
arbitrary but where there is nothing to expand. -/
structure Machine where
  location : Path
  currentDirectory : Path
  readAllBytes : Path → Option Bytes
  testLeaf : Path → Bool
  itemLength : Path → Option Nat
  literalLength : Path → Option Nat
  fileHash : String → Option String
  plainLeaf : ∀ path, Plain path → (readAllBytes path).isSome → testLeaf path
  plainLength : ∀ path, Plain path → itemLength path = literalLength path

/-- `GetUnresolvedProviderPathFromPSPath` -/
def Machine.providerPath (machine : Machine) (directory : StateDirectory) : Path :=
  directory.fullPath machine.location

/-- The path .NET makes of the text. -/
def Machine.processPath (machine : Machine) (directory : StateDirectory) : Path :=
  directory.fullPath machine.currentDirectory

/-- Decryption for the current user, the envelope's JSON, and gzip. -/
structure Codec where
  sha256 : Bytes → Digest
  unprotect : Bytes → Option Bytes
  parse : Bytes → Option Tar.Envelope
  inflate : Bytes → Bytes × Bool
  splits : List Nat

inductive Failure
  | thrown (text : String)
  | system
  | refused (refusal : Tar.Refusal)
deriving DecidableEq

def require (good : Bool) (failure : Failure) : Except Failure Unit :=
  if good then .ok () else .error failure

def demand {α : Type} (failure : Failure) : Option α → Except Failure α
  | some a => .ok a
  | none => .error failure

section Scripts

variable (codec : Codec) (machine : Machine)

/-- `Get-A1625Sha256`, as text. -/
def Codec.sha256Text (bytes : Bytes) : String := String.ofList (getSha256 codec.sha256 bytes)

def getFileHashStrict (path : String) : Except Failure String :=
  demand (.thrown ("Required immutable input was not found: " ++ path)) (machine.fileHash path)

def developmentInstaller : String := "../development-tools/Install-A1625DevelopmentTools.ps1"
def runtimeInstaller : String := "../codex-runtime/Install-CodexRamRuntime.ps1"
def codexRam : String := "../codex-runtime/codex-ram"

def getRuntimeFingerprint (payloadPath runtimePath : String) : Except Failure Tar.Fingerprint := do
  let runtime ← getFileHashStrict machine runtimePath
  let development ← getFileHashStrict machine developmentInstaller
  let installer ← getFileHashStrict machine runtimeInstaller
  let codex ← getFileHashStrict machine codexRam
  let runtimeIdentity := runtime ++ ":" ++ development ++ ":" ++ installer ++ ":" ++ codex
  let payload ← getFileHashStrict machine payloadPath
  return ⟨payload, codec.sha256Text (asciiBytes runtimeIdentity.toList)⟩

/-- `Unprotect`, then `ConvertFrom-A1625RamEnvelope`. -/
def openSnapshot (cipher : Bytes) (fingerprint : Tar.Fingerprint) : Except Failure Tar.Decoded := do
  let plain ← demand .system (codec.unprotect cipher)
  let envelope ← demand .system (codec.parse plain)
  match Tar.convertFromEnvelope codec.sha256Text codec.inflate envelope codec.splits fingerprint with
  | .ok decoded => .ok decoded
  | .error refusal => .error (.refused refusal)

variable (directory : StateDirectory) (payloadPath runtimePath : String)

/-- `Test-A1625RamStateSnapshot`; its report is made of what is returned here. -/
def testRamStateSnapshot : Except Failure Tar.Decoded := do
  let here := machine.providerPath directory
  let there := machine.processPath directory
  require (machine.testLeaf (here ++ [currentName]))
    (.thrown "RAM snapshot generation pointer is missing")
  let pointer ← demand .system (machine.readAllBytes (there ++ [currentName]))
  let name := trim (asciiString pointer)
  require (matchGeneration name).isSome (.thrown "Invalid RAM snapshot generation pointer")
  require (machine.testLeaf (here ++ [name])) (.thrown "RAM snapshot generation is missing")
  let fingerprint ← getRuntimeFingerprint codec machine payloadPath runtimePath
  let length ← demand .system (machine.literalLength (here ++ [name]))
  require (length ≤ cipherLimit) (.thrown "Encrypted snapshot exceeds its size limit")
  let cipher ← demand .system (machine.readAllBytes (there ++ [name]))
  require (name = generationName codec.sha256 cipher) (.thrown "Encrypted generation hash mismatch")
  openSnapshot codec cipher fingerprint

/-- `Restore-A1625RamState` up to the first use of the network. -/
def restoreRamState : Except Failure Tar.Decoded := do
  let here := machine.providerPath directory
  let pointer ← demand .system (machine.readAllBytes (here ++ [currentName]))
  let name := trim (asciiString pointer)
  let digits ← demand (.thrown "Invalid snapshot generation pointer.") (matchGeneration name)
  let missing : Failure := .thrown "Selected encrypted snapshot is missing or exceeds 400 MiB."
  require (machine.testLeaf (here ++ [name])) missing
  let length ← demand .system (machine.itemLength (here ++ [name]))
  require (length ≤ cipherLimit) missing
  let cipher ← demand .system (machine.readAllBytes (here ++ [name]))
  require (digits.isPrefixOf (getSha256 codec.sha256 cipher))
    (.thrown "Snapshot generation filename hash mismatch.")
  let fingerprint ← getRuntimeFingerprint codec machine payloadPath runtimePath
  openSnapshot codec cipher fingerprint

/-- The preflight succeeds exactly where the restore does, with the same archive. -/
def Agrees : Prop :=
  ((∃ decoded, testRamStateSnapshot codec machine directory payloadPath runtimePath = .ok decoded) ↔
    ∃ decoded, restoreRamState codec machine directory payloadPath runtimePath = .ok decoded) ∧
  ∀ tested restored,
    testRamStateSnapshot codec machine directory payloadPath runtimePath = .ok tested →
    restoreRamState codec machine directory payloadPath runtimePath = .ok restored →
      tested.archive = restored.archive

end Scripts

/-- The directory is one and the same for PowerShell and for .NET, and is named without
wildcards. -/
structure Settled (machine : Machine) (directory : StateDirectory) : Prop where
  one : machine.processPath directory = machine.providerPath directory
  plain : Plain (machine.providerPath directory)

/-- The fixed parts of the name the pointer gives are in the letter case they are written in. -/
def WrittenName (machine : Machine) (directory : StateDirectory) : Prop :=
  ∀ pointer ∈ machine.readAllBytes (machine.providerPath directory ++ [currentName]),
    (trim (asciiString pointer)).take 6 = statePart ∧
      (trim (asciiString pointer)).drop 38 = dpapiPart

theorem demand_ok {α : Type} {failure : Failure} {answer : Option α} {a : α} :
    demand failure answer = .ok a ↔ answer = some a := by
  cases answer <;> simp [demand]

theorem require_ok {good : Bool} {failure : Failure} {u : Unit} :
    require good failure = .ok u ↔ good :=
  ite_ok

/-! Names that pass the pattern of a generation. -/

structure Matched (name digits : Name) : Prop where
  length : name.length = 44
  front : (name.take 6).map Char.toLower = statePart
  middle : (name.drop 6).take 32 = digits
  hex : digits.all isHexDigit
  tail : (name.drop 38).map Char.toLower = dpapiPart

theorem matchGeneration_some {name digits : Name} :
    matchGeneration name = some digits ↔ Matched name digits := by
  rw [matchGeneration]
  constructor
  · intro found
    split at found
    · next passed =>
      obtain rfl := Option.some.inj found
      exact ⟨passed.1, passed.2.1, rfl, passed.2.2.1, passed.2.2.2⟩
    · cases found
  · rintro ⟨length, front, rfl, hex, tail⟩
    exact if_pos ⟨length, front, hex, tail⟩

theorem Matched.parts {name digits : Name} (matched : Matched name digits) :
    name = name.take 6 ++ digits ++ name.drop 38 := by
  have rest : (name.drop 6).drop 32 = name.drop 38 := List.drop_drop ..
  rw [← matched.middle, List.append_assoc, ← rest, List.take_append_drop, List.take_append_drop]

theorem Matched.digits_length {name digits : Name} (matched : Matched name digits) :
    digits.length = 32 := by
  rw [← matched.middle, List.length_take, List.length_drop, matched.length]
  rfl

theorem not_wildcard {c : Char} (wild : isWildcard c) :
    c.toLower ∉ statePart ∧ ¬isHexDigit c ∧ c.toLower ∉ dpapiPart := by
  simp only [isWildcard, Bool.or_eq_true, decide_eq_true_eq] at wild
  have tick : c.toNat = 96 → c = Char.ofNat 96 := fun code => by rw [← code, Char.ofNat_toNat]
  obtain (((rfl | rfl) | rfl) | rfl) | code := wild
  all_goals try decide
  obtain rfl := tick code
  decide

/-- The name of a generation holds nothing that PowerShell expands. -/
theorem Matched.plain {name digits : Name} (matched : Matched name digits) :
    name.all fun c => !isWildcard c := by
  rw [List.all_eq_true]
  intro c member
  cases wild : isWildcard c with
  | false => rfl
  | true =>
    exfalso
    obtain ⟨front, hex, tail⟩ := not_wildcard wild
    rw [matched.parts, List.mem_append, List.mem_append] at member
    obtain (early | middle) | late := member
    · exact front (matched.front ▸ List.mem_map_of_mem early)
    · exact hex (List.all_eq_true.mp matched.hex c middle)
    · exact tail (matched.tail ▸ List.mem_map_of_mem late)

/-- A matching name in the written letter case is the ciphertext's own name when its digits begin
the ciphertext's digest. -/
theorem Matched.name_iff {sha256 : Bytes → Digest} {name digits : Name}
    (matched : Matched name digits) (cipher : Bytes) :
    name = generationName sha256 cipher ↔ digits.isPrefixOf (getSha256 sha256 cipher) ∧
      name.take 6 = statePart ∧ name.drop 38 = dpapiPart := by
  rw [List.isPrefixOf_iff_prefix]
  constructor
  · intro own
    have known := matchGeneration_generationName sha256 cipher
    rw [← own] at known
    have same := Option.some.inj ((matchGeneration_some.mpr matched).symm.trans known)
    have long : ((getSha256 sha256 cipher).take 32).length = 32 := same ▸ matched.digits_length
    refine ⟨same ▸ List.take_prefix .., ?_, ?_⟩
    · rw [own, generationName, List.append_assoc]
      exact List.take_left' rfl
    · rw [own, generationName]
      exact List.drop_left' (by rw [List.length_append, long]; rfl)
  · rintro ⟨begins, front, tail⟩
    have same : digits = (getSha256 sha256 cipher).take 32 := by
      rw [List.prefix_iff_eq_take.mp begins, matched.digits_length]
    have parts := matched.parts
    rw [front, tail, same] at parts
    exact parts

theorem current_not_matched : matchGeneration currentName = none := by decide

section

variable {codec : Codec} {machine : Machine} {directory : StateDirectory}
  {payloadPath runtimePath : String} {decoded : Tar.Decoded}

/-- What the preflight has found when it succeeds. -/
theorem testRamStateSnapshot_ok :
    testRamStateSnapshot codec machine directory payloadPath runtimePath = .ok decoded ↔
      machine.testLeaf (machine.providerPath directory ++ [currentName]) ∧ ∃ pointer,
        machine.readAllBytes (machine.processPath directory ++ [currentName]) = some pointer ∧
        (matchGeneration (trim (asciiString pointer))).isSome ∧
        machine.testLeaf (machine.providerPath directory ++ [trim (asciiString pointer)]) ∧
        ∃ fingerprint, getRuntimeFingerprint codec machine payloadPath runtimePath =
          .ok fingerprint ∧
        ∃ length, machine.literalLength
          (machine.providerPath directory ++ [trim (asciiString pointer)]) = some length ∧
        length ≤ cipherLimit ∧
        ∃ cipher, machine.readAllBytes
          (machine.processPath directory ++ [trim (asciiString pointer)]) = some cipher ∧
        trim (asciiString pointer) = generationName codec.sha256 cipher ∧
        openSnapshot codec cipher fingerprint = .ok decoded := by
  simp only [testRamStateSnapshot, bind_ok, demand_ok, require_ok, decide_eq_true_eq,
    exists_and_left, exists_const]

/-- What the restore has found when it succeeds. -/
theorem restoreRamState_ok :
    restoreRamState codec machine directory payloadPath runtimePath = .ok decoded ↔ ∃ pointer,
      machine.readAllBytes (machine.providerPath directory ++ [currentName]) = some pointer ∧
      ∃ digits, matchGeneration (trim (asciiString pointer)) = some digits ∧
      machine.testLeaf (machine.providerPath directory ++ [trim (asciiString pointer)]) ∧
      ∃ length, machine.itemLength
        (machine.providerPath directory ++ [trim (asciiString pointer)]) = some length ∧
      length ≤ cipherLimit ∧
      ∃ cipher, machine.readAllBytes
        (machine.providerPath directory ++ [trim (asciiString pointer)]) = some cipher ∧
      digits.isPrefixOf (getSha256 codec.sha256 cipher) ∧
      ∃ fingerprint, getRuntimeFingerprint codec machine payloadPath runtimePath =
        .ok fingerprint ∧
      openSnapshot codec cipher fingerprint = .ok decoded := by
  simp only [restoreRamState, bind_ok, demand_ok, require_ok, decide_eq_true_eq,
    exists_and_left, exists_const]

theorem Plain.append {path : Path} (plain : Plain path) {name : Name}
    (clean : name.all fun c => !isWildcard c) : Plain (path ++ [name]) := by
  intro segment member
  obtain member | member := List.mem_append.mp member
  · exact plain segment member
  · rw [List.mem_singleton.mp member]
    exact clean

/-- In a directory that both name alike, the preflight asks what the restore asks and, besides,
for the written letter case of the name. -/
theorem test_iff_restore (settled : Settled machine directory) :
    testRamStateSnapshot codec machine directory payloadPath runtimePath = .ok decoded ↔
      restoreRamState codec machine directory payloadPath runtimePath = .ok decoded ∧
        WrittenName machine directory := by
  rw [testRamStateSnapshot_ok, restoreRamState_ok, settled.one]
  have here (path : Path) (plain : Plain path) {bytes : Bytes}
      (read : machine.readAllBytes path = some bytes) : machine.testLeaf path :=
    machine.plainLeaf path plain (by rw [read]; rfl)
  constructor
  · rintro ⟨-, pointer, read, found, leaf, fingerprint, inputs, length, measured, small, cipher,
      stored, own, opened⟩
    obtain ⟨digits, found⟩ := Option.isSome_iff_exists.mp found
    have matched := matchGeneration_some.mp found
    obtain ⟨begins, front, tail⟩ := (matched.name_iff cipher).mp own
    refine ⟨⟨pointer, read, digits, found, leaf, length, ?_, small, cipher, stored, begins,
      fingerprint, inputs, opened⟩, ?_⟩
    · rw [machine.plainLength _ (settled.plain.append matched.plain), measured]
    · intro other same
      obtain rfl := Option.some.inj (read.symm.trans same)
      exact ⟨front, tail⟩
  · rintro ⟨⟨pointer, read, digits, found, leaf, length, measured, small, cipher, stored, begins,
      fingerprint, inputs, opened⟩, written⟩
    have matched := matchGeneration_some.mp found
    obtain ⟨front, tail⟩ := written pointer read
    refine ⟨here _ (settled.plain.append (by decide)) read, pointer, read, by rw [found]; rfl, leaf,
      fingerprint, inputs, length, ?_, small, cipher, stored,
      (matched.name_iff cipher).mpr ⟨begins, front, tail⟩, opened⟩
    rw [← machine.plainLength _ (settled.plain.append matched.plain), measured]

/-- The directory as a store of generations. -/
def Machine.store (machine : Machine) (directory : StateDirectory) : Store :=
  fun name => machine.readAllBytes (machine.providerPath directory ++ [name])

theorem restoreSelects_some {sha256 : Bytes → Digest} {store : Store} {name : Name}
    {cipher : Bytes} : restoreSelects sha256 store = some (name, cipher) ↔
      ∃ pointer, store currentName = some pointer ∧ name = trim (asciiString pointer) ∧
      ∃ digits, matchGeneration name = some digits ∧ store name = some cipher ∧
        cipher.length ≤ cipherLimit ∧ digits.isPrefixOf (getSha256 sha256 cipher) := by
  simp only [restoreSelects, Option.bind_eq_bind, Option.bind_eq_some_iff,
    Option.ite_none_left_eq_some, Option.ite_none_right_eq_some, Option.some.injEq, Prod.mk.injEq,
    Nat.not_lt]
  constructor
  · rintro ⟨pointer, read, digits, found, _, stored, small, begins, rfl, rfl⟩
    exact ⟨pointer, read, rfl, digits, found, stored, small, begins⟩
  · rintro ⟨pointer, read, rfl, digits, found, stored, small, begins⟩
    exact ⟨pointer, read, digits, found, cipher, stored, small, begins, rfl, rfl⟩

/-- Where lengths are those of the contents, the restore opens what the store selects. -/
theorem restoreRamState_selects (plain : Plain (machine.providerPath directory))
    (honest : ∀ path bytes, machine.readAllBytes path = some bytes →
      machine.itemLength path = some bytes.length) :
    restoreRamState codec machine directory payloadPath runtimePath = .ok decoded ↔
      ∃ name cipher, restoreSelects codec.sha256 (machine.store directory) = some (name, cipher) ∧
      ∃ fingerprint, getRuntimeFingerprint codec machine payloadPath runtimePath =
        .ok fingerprint ∧ openSnapshot codec cipher fingerprint = .ok decoded := by
  simp only [restoreRamState_ok, restoreSelects_some]
  constructor
  · rintro ⟨pointer, read, digits, found, -, length, measured, small, cipher, stored, begins, rest⟩
    obtain rfl := Option.some.inj (measured.symm.trans (honest _ _ stored))
    exact ⟨_, cipher, ⟨pointer, read, rfl, digits, found, stored, small, begins⟩, rest⟩
  · rintro ⟨_, cipher, ⟨pointer, read, rfl, digits, found, stored, small, begins⟩, rest⟩
    have clean := plain.append (matchGeneration_some.mp found).plain
    have leaf := machine.plainLeaf _ clean (Option.isSome_iff_exists.mpr ⟨cipher, stored⟩)
    exact ⟨pointer, read, digits, found, leaf, _, honest _ _ stored, small, cipher, stored, begins,
      rest⟩

theorem agrees_iff_of_settled (settled : Settled machine directory) :
    Agrees codec machine directory payloadPath runtimePath ↔ WrittenName machine directory ∨
      ∀ decoded, restoreRamState codec machine directory payloadPath runtimePath ≠ .ok decoded := by
  constructor
  · rintro ⟨succeeds, -⟩
    by_cases restorable : ∃ decoded,
        restoreRamState codec machine directory payloadPath runtimePath = .ok decoded
    · obtain ⟨decoded, tested⟩ := succeeds.mpr restorable
      exact .inl ((test_iff_restore settled).mp tested).2
    · exact .inr fun decoded restored => restorable ⟨decoded, restored⟩
  · intro condition
    have same (decoded : Tar.Decoded) :
        testRamStateSnapshot codec machine directory payloadPath runtimePath = .ok decoded ↔
          restoreRamState codec machine directory payloadPath runtimePath = .ok decoded := by
      rw [test_iff_restore settled]
      refine and_iff_left_of_imp fun restored => ?_
      exact condition.resolve_right fun never => never decoded restored
    refine ⟨exists_congr same, fun tested restored test restore => ?_⟩
    have equal := ((same tested).mp test).symm.trans restore
    rw [Except.ok.inj equal]

end

/-! Where the directory is not settled, what can be restored need not pass the preflight. -/

/-- Two machines on which the restore finds the same store. -/
structure SameStore (machine other : Machine) (directory : StateDirectory) : Prop where
  location : other.location = machine.location
  currentDirectory : other.currentDirectory = machine.currentDirectory
  files : ∀ name, other.readAllBytes (machine.providerPath directory ++ [name]) =
    machine.readAllBytes (machine.providerPath directory ++ [name])
  fileHash : other.fileHash = machine.fileHash

/-- The process's directory holds no pointer. -/
def Machine.withoutPointer (machine : Machine) (path : Path) : Machine where
  location := machine.location
  currentDirectory := machine.currentDirectory
  readAllBytes := Function.update machine.readAllBytes path none
  testLeaf := machine.testLeaf
  itemLength := machine.itemLength
  literalLength := machine.literalLength
  fileHash := machine.fileHash
  plainLeaf := by
    intro other plain found
    refine machine.plainLeaf other plain ?_
    by_cases same : other = path
    · simp [same] at found
    · rwa [Function.update_of_ne same] at found
  plainLength := machine.plainLength

/-- The expanded path of the pointer names nothing. -/
def Machine.unmatchedPointer (machine : Machine) (path : Path) (wild : ¬Plain path) : Machine where
  location := machine.location
  currentDirectory := machine.currentDirectory
  readAllBytes := machine.readAllBytes
  testLeaf := Function.update machine.testLeaf path false
  itemLength := machine.itemLength
  literalLength := machine.literalLength
  fileHash := machine.fileHash
  plainLeaf := by
    intro other plain found
    have apart : other ≠ path := fun same => wild (same ▸ plain)
    rw [Function.update_of_ne apart]
    exact machine.plainLeaf other plain found
  plainLength := machine.plainLength

section

variable {codec : Codec} {machine : Machine} {directory : StateDirectory}
  {payloadPath runtimePath : String} {decoded : Tar.Decoded}

theorem getRuntimeFingerprint_congr {other : Machine} (same : other.fileHash = machine.fileHash) :
    getRuntimeFingerprint codec other payloadPath runtimePath =
      getRuntimeFingerprint codec machine payloadPath runtimePath := by
  simp only [getRuntimeFingerprint, getFileHashStrict, same]

/-- The restore sees of the machine only its store and what PowerShell says of generations. -/
theorem SameStore.restores {other : Machine} (same : SameStore machine other directory)
    (leaf : ∀ name digits, matchGeneration name = some digits →
      other.testLeaf (machine.providerPath directory ++ [name]) =
        machine.testLeaf (machine.providerPath directory ++ [name]))
    (lengths : other.itemLength = machine.itemLength)
    (restored : restoreRamState codec machine directory payloadPath runtimePath = .ok decoded) :
    restoreRamState codec other directory payloadPath runtimePath = .ok decoded := by
  have here : other.providerPath directory = machine.providerPath directory := by
    rw [Machine.providerPath, Machine.providerPath, same.location]
  rw [restoreRamState_ok] at restored ⊢
  rw [here, lengths, getRuntimeFingerprint_congr same.fileHash]
  obtain ⟨pointer, read, digits, found, present, rest⟩ := restored
  refine ⟨pointer, by rw [same.files, read], digits, found, by rw [leaf _ _ found, present], ?_⟩
  obtain ⟨length, measured, small, cipher, stored, rest⟩ := rest
  exact ⟨length, measured, small, cipher, by rw [same.files, stored], rest⟩

theorem not_agrees
    (restored : restoreRamState codec machine directory payloadPath runtimePath = .ok decoded)
    (fails : ∀ decoded,
      testRamStateSnapshot codec machine directory payloadPath runtimePath ≠ .ok decoded) :
    ¬Agrees codec machine directory payloadPath runtimePath := by
  rintro ⟨succeeds, -⟩
  obtain ⟨tested, passed⟩ := succeeds.mpr ⟨decoded, restored⟩
  exact fails tested passed

/-- A store that can be restored through a path that is not settled can be restored just so on a
machine where the preflight fails. -/
theorem unsettled_disagrees (unsettled : ¬Settled machine directory)
    (restored : restoreRamState codec machine directory payloadPath runtimePath = .ok decoded) :
    ∃ other, SameStore machine other directory ∧
      restoreRamState codec other directory payloadPath runtimePath = .ok decoded ∧
      ¬Agrees codec other directory payloadPath runtimePath := by
  by_cases one : machine.processPath directory = machine.providerPath directory
  · have wild : ¬Plain (machine.providerPath directory ++ [currentName]) := by
      intro plain
      exact unsettled ⟨one, fun segment member => plain segment (List.mem_append_left _ member)⟩
    have same : SameStore machine (machine.unmatchedPointer _ wild) directory :=
      ⟨rfl, rfl, fun _ => rfl, rfl⟩
    have again := same.restores (fun name digits found => ?_) rfl restored
    · refine ⟨_, same, again, not_agrees again fun tested passed => ?_⟩
      have leaf := (testRamStateSnapshot_ok.mp passed).1
      simp [Machine.unmatchedPointer, Machine.providerPath] at leaf
    · refine Function.update_of_ne (fun equal => ?_) _ _
      obtain rfl := List.singleton_inj.mp (List.append_cancel_left equal)
      cases current_not_matched.symm.trans found
  · have same : SameStore machine
        (machine.withoutPointer (machine.processPath directory ++ [currentName])) directory := by
      refine ⟨rfl, rfl, fun name => Function.update_of_ne (fun equal => one ?_) _ _, rfl⟩
      exact (List.append_inj_left' equal rfl).symm
    have again := same.restores (fun _ _ _ => rfl) rfl restored
    refine ⟨_, same, again, not_agrees again fun tested passed => ?_⟩
    obtain ⟨-, pointer, read, -⟩ := testRamStateSnapshot_ok.mp passed
    simp [Machine.withoutPointer, Machine.processPath] at read

end

def sampleDigest (byte : UInt8) : Digest := ⟨List.replicate 32 byte, rfl⟩

def sampleSha256 (bytes : Bytes) : Digest :=
  if bytes = Tar.noteArchive then sampleDigest 1 else sampleDigest 2

def sampleText (byte : UInt8) : String := String.ofList (toHexString (sampleDigest byte).1)

def sampleEnvelope : Tar.Envelope where
  format := Tar.envelopeFormat
  savedAtUtc := ""
  fingerprint := ⟨"A0", sampleText 2⟩
  archiveSha256 := sampleText 1
  archiveGzipBytes := 82
  archiveEntries := 1
  expandedBytes := 2
  tarBytes := 2048
  files := [⟨Tar.ascii "run/work/note", 2, sampleText 2, 48⟩]
  archiveBase64 := Tar.noteArchive

def sampleCodec : Codec where
  sha256 := sampleSha256
  unprotect := some
  parse _ := some sampleEnvelope
  inflate := Tar.noteInflate
  splits := []

def sampleCipher : Bytes := [7]

def repo : Path := [['C', ':'], ['r', 'e', 'p', 'o']]
def windows : Path := [['C', ':'], ['w', 'i', 'n']]
def ram : Name := ['r', 'a', 'm']

def sampleRead (path : Path) : Option Bytes :=
  let name := generationName sampleSha256 sampleCipher
  if path = repo ++ [ram, currentName] then some (asciiBytes name)
  else if path = repo ++ [ram, name] then some sampleCipher
  else none

def sampleMachine : Machine where
  location := repo
  currentDirectory := windows
  readAllBytes := sampleRead
  testLeaf path := (sampleRead path).isSome
  itemLength path := (sampleRead path).map List.length
  literalLength path := (sampleRead path).map List.length
  fileHash _ := some "A0"
  plainLeaf _ _ found := found
  plainLength _ _ := rfl

end WinBoot.RamPreflight
