import WinBoot.RamPreflight
import WinBoot.RestoreEffect

/-! A snapshot from one boot of the device to another: the host's saves, any of which may fail or be
cut off, the store they leave, the host's restore and the device's. -/

namespace WinBoot.SnapshotCycle
open Checks FileTree Interaction RamPreflight RamScripts ShellProcess SnapshotStore

/-- The ways back from `Codec`. Encryption draws a seed. -/
structure Writer where
  protect : Nat → Bytes → Bytes
  serialize : Tar.Envelope → Bytes

def transportLimit : Nat := 256 * 1024 * 1024

section Save

variable (codec : Codec) (writer : Writer)

/-- One run of `Save-A1625RamState`, with what the device sent it. -/
structure Attempt where
  machine : Machine
  payloadPath : String
  runtimePath : String
  archive : Bytes
  splits : List Nat
  now : String
  seed : Nat
  /-- How many steps of the store it got to make. -/
  progress : Nat

def refuse {α : Type} : Except Tar.Refusal α → Except Failure α
  | .ok a => .ok a
  | .error refusal => .error (.refused refusal)

/-- What the save is to write, up to the encryption. -/
def Attempt.envelope (attempt : Attempt) : Except Failure Tar.Envelope := do
  require (attempt.archive.length ≤ transportLimit)
    (.thrown "Compressed snapshot exceeds the 256 MiB transport limit.")
  let details ← refuse (Tar.assertSafeTar codec.sha256Text
    (Tar.gzipOf codec.inflate attempt.archive attempt.splits))
  let fingerprint ← getRuntimeFingerprint codec attempt.machine attempt.payloadPath attempt.runtimePath
  refuse (Tar.convertToEnvelope codec.sha256Text codec.inflate attempt.archive attempt.splits
    attempt.now fingerprint details.entries)

def Attempt.cipher (attempt : Attempt) : Except Failure Bytes := do
  let envelope ← attempt.envelope codec
  let cipher := writer.protect attempt.seed (writer.serialize envelope)
  require (cipher.length ≤ cipherLimit) (.thrown "Encrypted snapshot exceeds the 400 MiB host limit.")
  return cipher

/-- The part of the run that writes to the store, if it came to that. -/
def Attempt.save (attempt : Attempt) : Option Save :=
  (attempt.cipher codec writer).toOption.map fun cipher => ⟨cipher, attempt.progress⟩

def Attempt.Completed (attempt : Attempt) : Prop :=
  ∃ save ∈ attempt.save codec writer, save.Completed codec.sha256

def saves (history : List Attempt) : List Save := history.filterMap (Attempt.save codec writer)

/-- The last attempt to get to the end of its pointer update. -/
def Latest (history : List Attempt) (attempt : Attempt) : Prop :=
  ∃ before later, history = before ++ attempt :: later ∧ attempt.Completed codec writer ∧
    ∀ other ∈ later, ¬other.Completed codec writer

end Save

variable {codec : Codec} {writer : Writer}

theorem refuse_ok {α : Type} {answer : Except Tar.Refusal α} {a : α} :
    refuse answer = .ok a ↔ answer = .ok a := by
  cases answer <;> simp [refuse]

theorem openSnapshot_ok {cipher plain : Bytes} {envelope : Tar.Envelope}
    (decrypts : codec.unprotect cipher = some plain) (parses : codec.parse plain = some envelope)
    {fingerprint : Tar.Fingerprint} {decoded : Tar.Decoded} :
    openSnapshot codec cipher fingerprint = .ok decoded ↔
      Tar.convertFromEnvelope codec.sha256Text codec.inflate envelope codec.splits fingerprint =
        .ok decoded := by
  simp only [openSnapshot, decrypts, demand, parses, bind, Except.bind]
  cases Tar.convertFromEnvelope codec.sha256Text codec.inflate envelope codec.splits fingerprint <;> simp

theorem Attempt.envelope_archive (attempt : Attempt) {envelope : Tar.Envelope}
    (written : attempt.envelope codec = .ok envelope) :
    envelope.archiveBase64 = attempt.archive := by
  simp only [Attempt.envelope, bind_ok, refuse_ok] at written
  obtain ⟨-, -, details, accepted, own, -, converted⟩ := written
  rw [Tar.convertToEnvelope_ok accepted] at converted
  obtain rfl := Except.ok.inj converted
  rfl

/-- An envelope that is written says what the archive is, under the fingerprint of its host. -/
theorem Attempt.envelope_bound {attempt : Attempt} {envelope : Tar.Envelope}
    (written : attempt.envelope codec = .ok envelope) {fingerprint : Tar.Fingerprint}
    (payload : Tar.sameText envelope.fingerprint.payloadSha256 fingerprint.payloadSha256)
    (runtime : Tar.sameText envelope.fingerprint.runtimeSha256 fingerprint.runtimeSha256) :
    ∃ details, Tar.convertFromEnvelope codec.sha256Text codec.inflate envelope codec.splits fingerprint =
      .ok ⟨envelope, attempt.archive, details⟩ := by
  simp only [Attempt.envelope, bind_ok, refuse_ok] at written
  obtain ⟨-, -, details, accepted, own, -, converted⟩ := written
  rw [Tar.convertToEnvelope_ok accepted] at converted
  obtain rfl := Except.ok.inj converted
  refine ⟨details, Tar.convertFromEnvelope_of_bound ?_ (Tar.sameText_refl _)⟩
  exact ⟨rfl, rfl, payload, runtime, Tar.sameText_refl _, rfl,
    fun cuts => Tar.assertSafeTar_splits cuts accepted, rfl, rfl, rfl, rfl⟩

theorem saves_append (history later : List Attempt) :
    saves codec writer (history ++ later) = saves codec writer history ++ saves codec writer later :=
  List.filterMap_append

theorem Latest.lastCompleted {history : List Attempt} {attempt : Attempt}
    (latest : Latest codec writer history attempt) :
    ∃ save, attempt.save codec writer = some save ∧ save ∈ saves codec writer history ∧
      lastCompleted codec.sha256 (saves codec writer history) = some save := by
  obtain ⟨before, later, rfl, ⟨save, made, completed⟩, cut⟩ := latest
  refine ⟨save, made, ?_, ?_⟩
  · exact List.mem_filterMap.mpr ⟨attempt, by simp, made⟩
  · have whole : saves codec writer (before ++ attempt :: later) =
        (saves codec writer before ++ [save]) ++ saves codec writer later := by
      rw [saves_append, List.append_assoc, saves, saves, List.filterMap_cons_some made]
      rfl
    have none : (saves codec writer later).filter (fun save => save.Completed codec.sha256) = [] := by
      refine List.filter_eq_nil_iff.mpr fun save member => ?_
      obtain ⟨other, listed, made⟩ := List.mem_filterMap.mp member
      simpa using fun done => cut other listed ⟨save, made, done⟩
    rw [whole, SnapshotStore.lastCompleted, List.filter_append, none, List.append_nil, List.filter_append]
    simp [completed]

section Cycle

variable {history : List Attempt} {attempt : Attempt} {envelope : Tar.Envelope} {machine : Machine}
  {directory : StateDirectory} {payloadPath runtimePath : String}

/-- What stands between the writing and the reading of a snapshot: encryption and the JSON of the
envelope lose nothing, and the store of the reading host is the one the saves have left. -/
structure Kept (codec : Codec) (writer : Writer) (history : List Attempt) (attempt : Attempt)
    (envelope : Tar.Envelope) (machine : Machine) (directory : StateDirectory) : Prop where
  free : CollisionFree codec.sha256 (saves codec writer history)
  decrypts : codec.unprotect (writer.protect attempt.seed (writer.serialize envelope)) =
    some (writer.serialize envelope)
  parses : codec.parse (writer.serialize envelope) = some envelope
  plain : Plain (machine.providerPath directory)
  measured : ∀ path bytes, machine.readAllBytes path = some bytes →
    machine.itemLength path = some bytes.length
  store : machine.store directory = storeAfter codec.sha256 (saves codec writer history)

theorem save_cipher (written : attempt.envelope codec = .ok envelope) {save : Save}
    (made : attempt.save codec writer = some save) :
    save.cipher = writer.protect attempt.seed (writer.serialize envelope) := by
  obtain ⟨cipher, encrypted, rfl⟩ := Option.map_eq_some_iff.mp made
  cases whole : attempt.cipher codec writer with
  | error failure =>
    rw [whole] at encrypted
    cases encrypted
  | ok bytes =>
    rw [whole] at encrypted
    obtain rfl := Option.some.inj encrypted
    simp only [Attempt.cipher, written, bind_ok, require_ok] at whole
    obtain ⟨other, same, -, -, last⟩ := whole
    obtain rfl := Except.ok.inj same
    exact (Except.ok.inj last).symm

/-- The store selects the ciphertext of the last save that got through. -/
theorem Latest.selects (latest : Latest codec writer history attempt)
    (written : attempt.envelope codec = .ok envelope)
    (free : CollisionFree codec.sha256 (saves codec writer history)) :
    ∃ name, restoreSelects codec.sha256 (storeAfter codec.sha256 (saves codec writer history)) =
      some (name, writer.protect attempt.seed (writer.serialize envelope)) := by
  obtain ⟨save, made, listed, last⟩ := latest.lastCompleted
  have inv := @storeAfter_invariant codec.sha256 (saves codec writer history)
  rw [last] at inv
  obtain ⟨bytes, member, -, named, selected⟩ := inv.restoreSelects
  obtain ⟨other, among, rfl⟩ := List.mem_map.mp member
  rw [free other among save listed named, save_cipher written made] at selected
  exact ⟨_, selected⟩

/-- The archive that a restore opens is the one of the last save that got through, and it opens one
exactly when the inputs have the fingerprint of that save, up to letter case. -/
theorem restore_opens (latest : Latest codec writer history attempt)
    (written : attempt.envelope codec = .ok envelope)
    (kept : Kept codec writer history attempt envelope machine directory) :
    (∀ decoded, restoreRamState codec machine directory payloadPath runtimePath = .ok decoded →
      decoded.archive = attempt.archive) ∧
    ((∃ decoded, restoreRamState codec machine directory payloadPath runtimePath = .ok decoded) ↔
      ∃ fingerprint, getRuntimeFingerprint codec machine payloadPath runtimePath = .ok fingerprint ∧
        Tar.sameText envelope.fingerprint.payloadSha256 fingerprint.payloadSha256 ∧
        Tar.sameText envelope.fingerprint.runtimeSha256 fingerprint.runtimeSha256) := by
  obtain ⟨name, selected⟩ := latest.selects written kept.free
  have opens (decoded : Tar.Decoded) :
      restoreRamState codec machine directory payloadPath runtimePath = .ok decoded ↔
        ∃ fingerprint, getRuntimeFingerprint codec machine payloadPath runtimePath = .ok fingerprint ∧
          Tar.convertFromEnvelope codec.sha256Text codec.inflate envelope codec.splits fingerprint =
            .ok decoded := by
    rw [restoreRamState_selects kept.plain kept.measured, kept.store, selected]
    constructor
    · rintro ⟨_, _, same, fingerprint, own, opened⟩
      obtain ⟨-, rfl⟩ := Prod.mk.inj (Option.some.inj same)
      exact ⟨fingerprint, own, (openSnapshot_ok kept.decrypts kept.parses).mp opened⟩
    · rintro ⟨fingerprint, own, converted⟩
      exact ⟨_, _, rfl, fingerprint, own, (openSnapshot_ok kept.decrypts kept.parses).mpr converted⟩
  constructor
  · intro decoded restored
    obtain ⟨fingerprint, -, converted⟩ := (opens decoded).mp restored
    have bound := (Tar.convertFromEnvelope_ok converted).1
    rw [bound.archive, attempt.envelope_archive written]
  · constructor
    · rintro ⟨decoded, restored⟩
      obtain ⟨fingerprint, own, converted⟩ := (opens decoded).mp restored
      have bound := (Tar.convertFromEnvelope_ok converted).1
      exact ⟨fingerprint, own, bound.payload, bound.runtime⟩
    · rintro ⟨fingerprint, own, payload, runtime⟩
      obtain ⟨details, converted⟩ := attempt.envelope_bound written payload runtime
      exact ⟨_, (opens _).mpr ⟨fingerprint, own, converted⟩⟩

end Cycle

/-! Two saves of one archive, the second cut off before its pointer, and a restore over another home. -/

def cycleCodec : Codec where
  sha256 bytes := if bytes = Tar.noteArchive then sampleDigest 1
    else if bytes = [7, 1] then sampleDigest 3 else sampleDigest 2
  unprotect cipher := some (cipher.take 1)
  parse _ := some sampleEnvelope
  inflate := Tar.noteInflate
  splits := []

def cycleWriter : Writer where
  protect seed plain := plain ++ [seed.toUInt8]
  serialize _ := [7]

def noteAttempt (seed progress : Nat) : Attempt :=
  ⟨sampleMachine, "payload", "runtime", Tar.noteArchive, [100], "", seed, progress⟩

def cycleHistory : List Attempt := [noteAttempt 0 100, noteAttempt 1 20]

def cycleStore : Store := storeAfter cycleCodec.sha256 (saves cycleCodec cycleWriter cycleHistory)

def cycleRead (path : Path) : Option Bytes :=
  if path.dropLast = repo ++ [ram] then cycleStore (path.getLastD []) else none

def cycleMachine : Machine where
  location := repo
  currentDirectory := windows
  readAllBytes := cycleRead
  testLeaf path := (cycleRead path).isSome
  itemLength path := (cycleRead path).map List.length
  literalLength path := (cycleRead path).map List.length
  fileHash _ := some "A0"
  plainLeaf _ _ found := found
  plainLength _ _ := rfl

theorem cycleRead_here (name : Name) : cycleRead (repo ++ [ram] ++ [name]) = cycleStore name := by
  rw [cycleRead, List.dropLast_concat, if_pos rfl, List.getLastD_concat]

theorem cycleMachine_store : cycleMachine.store (.relative [ram]) =
    storeAfter cycleCodec.sha256 (saves cycleCodec cycleWriter cycleHistory) := by
  funext name
  have here : cycleMachine.providerPath (.relative [ram]) = repo ++ [ram] := by decide
  have read : cycleMachine.readAllBytes = cycleRead := rfl
  rw [Machine.store, here, read, cycleRead_here, cycleStore]

theorem note_extracts : (Tar.extractArchive (Tar.noteInflate Tar.noteArchive).1).isSome := by
  decide +kernel

def noteDevice : RestoreState.Device := RestoreState.deviceOf note_extracts

def noteRestore : Process Command × RestoreState.State :=
  advance trapOf (RestoreState.semantics noteDevice) RestoreState.anytime RestoreState.State.can 80
    (Process.start restoreCommand, .initial none (some RestoreState.otherHome) false)

theorem note_written : (noteAttempt 0 100).envelope cycleCodec = .ok sampleEnvelope :=
  Checks.ok_of_toOption (by decide +kernel)

theorem note_saves : (noteAttempt 0 100).save cycleCodec cycleWriter = some ⟨[7, 0], 100⟩ ∧
    (noteAttempt 1 20).save cycleCodec cycleWriter = some ⟨[7, 1], 20⟩ := by
  have again : (noteAttempt 1 20).envelope cycleCodec = .ok sampleEnvelope := note_written
  constructor
  · rw [Attempt.save, Attempt.cipher, note_written]
    rfl
  · rw [Attempt.save, Attempt.cipher, again]
    rfl

theorem note_history : saves cycleCodec cycleWriter cycleHistory = [⟨[7, 0], 100⟩, ⟨[7, 1], 20⟩] := by
  simp [saves, cycleHistory, note_saves]

theorem note_latest : Latest cycleCodec cycleWriter cycleHistory (noteAttempt 0 100) := by
  refine ⟨[], [noteAttempt 1 20], rfl, ⟨_, note_saves.1, by decide +kernel⟩, ?_⟩
  intro other member
  obtain rfl := List.mem_singleton.mp member
  rintro ⟨save, made, completed⟩
  obtain rfl := Option.some.inj (note_saves.2.symm.trans made)
  exact absurd completed (by decide +kernel)

theorem note_kept : Kept cycleCodec cycleWriter cycleHistory (noteAttempt 0 100) sampleEnvelope
    cycleMachine (.relative [ram]) where
  free := by
    rw [note_history]
    unfold CollisionFree
    decide
  decrypts := rfl
  parses := rfl
  plain := by
    unfold Plain
    decide
  measured _ _ read := congrArg (Option.map List.length) read
  store := cycleMachine_store

theorem note_restores : (restoreRamState cycleCodec cycleMachine (.relative [ram]) "payload"
    "runtime").toOption.isSome := by
  decide +kernel

end WinBoot.SnapshotCycle
