import WinBoot.TarAccounting

/-! The snapshot envelope: what is written beside the archive and what is checked again when it
is read. JSON and base64 lose nothing, so an envelope is its fields and the archive in it is its
bytes; the digest and the decompressor are arbitrary. -/

namespace WinBoot.Tar

open Checks

structure Fingerprint where
  payloadSha256 : String
  runtimeSha256 : String
deriving DecidableEq

structure Envelope where
  format : String
  savedAtUtc : String
  fingerprint : Fingerprint
  archiveSha256 : String
  archiveGzipBytes : Int
  archiveEntries : Int
  expandedBytes : Int
  tarBytes : Int
  files : List (TarFile String)
  archiveBase64 : Bytes
deriving DecidableEq

structure Decoded where
  envelope : Envelope
  archive : Bytes
  details : Details String
deriving DecidableEq

def envelopeFormat : String := "a1625-ram-state-envelope-v2"

/-- Texts are compared without regard to letter case. -/
def sameText (a b : String) : Bool := a.toList.map Char.toLower = b.toList.map Char.toLower

theorem sameText_refl (a : String) : sameText a a := by simp [sameText]

section

variable (sha256 : Bytes → String) (inflate : Bytes → Bytes × Bool)

def gzipOf (archive : Bytes) (splits : List Nat) : Gzip :=
  ⟨archive.length, (inflate archive).1, (inflate archive).2, splits⟩

def convertToEnvelope (archive : Bytes) (splits : List Nat) (now : String)
    (fingerprint : Fingerprint) (entries : Int) : Except Refusal Envelope := do
  let details ← assertSafeTar sha256 (gzipOf inflate archive splits)
  require (entries = details.entries) (.thrown "Archive entry count mismatch" [])
  return {
    format := envelopeFormat
    savedAtUtc := now
    fingerprint
    archiveSha256 := sha256 archive
    archiveGzipBytes := archive.length
    archiveEntries := entries
    expandedBytes := details.expandedBytes
    tarBytes := details.tarBytes
    files := details.files
    archiveBase64 := archive }

def convertFromEnvelope (envelope : Envelope) (splits : List Nat) (fingerprint : Fingerprint) :
    Except Refusal Decoded := do
  require (sameText envelope.format envelopeFormat &&
      sameText envelope.fingerprint.payloadSha256 fingerprint.payloadSha256 &&
      sameText envelope.fingerprint.runtimeSha256 fingerprint.runtimeSha256)
    (.thrown "Snapshot envelope does not match immutable inputs" [])
  let archive := envelope.archiveBase64
  require (sameText (sha256 archive) envelope.archiveSha256 &&
      (archive.length : Int) = envelope.archiveGzipBytes)
    (.thrown "Snapshot archive hash or size mismatch" [])
  let details ← assertSafeTar sha256 (gzipOf inflate archive splits)
  require ((details.entries : Int) = envelope.archiveEntries &&
      (details.expandedBytes : Int) = envelope.expandedBytes &&
      (details.tarBytes : Int) = envelope.tarBytes && details.files = envelope.files)
    (.thrown "Snapshot file manifest mismatch" [])
  return ⟨envelope, archive, details⟩

variable {sha256 inflate}

/-- The report does not depend on how the decompressor cuts the stream. -/
theorem assertSafeTar_splits {archive : Bytes} {splits : List Nat} (others : List Nat)
    {details : Details String}
    (accepted : assertSafeTar sha256 (gzipOf inflate archive splits) = .ok details) :
    assertSafeTar sha256 (gzipOf inflate archive others) = .ok details :=
  have ⟨small, sound, run⟩ := assertSafeTar_ok.mp accepted
  assertSafeTar_ok.mpr ⟨small, sound, run⟩

theorem convertToEnvelope_ok {archive : Bytes} {splits : List Nat} {details : Details String}
    (accepted : assertSafeTar sha256 (gzipOf inflate archive splits) = .ok details)
    (now : String) (fingerprint : Fingerprint) :
    convertToEnvelope sha256 inflate archive splits now fingerprint details.entries =
      .ok ⟨envelopeFormat, now, fingerprint, sha256 archive, archive.length, details.entries,
        details.expandedBytes, details.tarBytes, details.files, archive⟩ := by
  simp [convertToEnvelope, accepted, require, bind, Except.bind, pure, Except.pure]

/-- What an accepted envelope has been checked for. -/
structure Bound (sha256 : Bytes → String) (inflate : Bytes → Bytes × Bool) (envelope : Envelope)
    (fingerprint : Fingerprint) (decoded : Decoded) : Prop where
  read : decoded.envelope = envelope
  archive : decoded.archive = envelope.archiveBase64
  payload : sameText envelope.fingerprint.payloadSha256 fingerprint.payloadSha256
  runtime : sameText envelope.fingerprint.runtimeSha256 fingerprint.runtimeSha256
  hash : sameText (sha256 decoded.archive) envelope.archiveSha256
  length : (decoded.archive.length : Int) = envelope.archiveGzipBytes
  revalidated : ∀ splits,
    assertSafeTar sha256 (gzipOf inflate decoded.archive splits) = .ok decoded.details
  entries : (decoded.details.entries : Int) = envelope.archiveEntries
  expanded : (decoded.details.expandedBytes : Int) = envelope.expandedBytes
  tar : (decoded.details.tarBytes : Int) = envelope.tarBytes
  files : decoded.details.files = envelope.files

theorem convertFromEnvelope_ok {envelope : Envelope} {splits : List Nat}
    {fingerprint : Fingerprint} {decoded : Decoded}
    (ok : convertFromEnvelope sha256 inflate envelope splits fingerprint = .ok decoded) :
    Bound sha256 inflate envelope fingerprint decoded ∧ sameText envelope.format envelopeFormat := by
  simp only [convertFromEnvelope, bind_ok, require_ok, Bool.and_eq_true, decide_eq_true_eq] at ok
  obtain ⟨-, ⟨⟨format, payload⟩, runtime⟩, -, ⟨hash, length⟩, details, accepted, -,
    ⟨⟨⟨entries, expanded⟩, tar⟩, files⟩, last⟩ := ok
  obtain rfl := Except.ok.inj last
  exact ⟨⟨rfl, rfl, payload, runtime, hash, length,
    fun others => assertSafeTar_splits others accepted, entries, expanded, tar, files⟩, format⟩

/-- An envelope that was written is read back under its own fingerprint. -/
theorem convertFromEnvelope_of_bound {envelope : Envelope} {splits : List Nat}
    {fingerprint : Fingerprint} {decoded : Decoded}
    (bound : Bound sha256 inflate envelope fingerprint decoded)
    (format : sameText envelope.format envelopeFormat) :
    convertFromEnvelope sha256 inflate envelope splits fingerprint = .ok decoded := by
  obtain ⟨read, archive, details⟩ := decoded
  obtain rfl : read = envelope := bound.read
  obtain rfl : archive = read.archiveBase64 := bound.archive
  simp only [convertFromEnvelope, bind_ok, require_ok, Bool.and_eq_true, decide_eq_true_eq]
  exact ⟨(), ⟨⟨format, bound.payload⟩, bound.runtime⟩, (), ⟨bound.hash, bound.length⟩, details,
    bound.revalidated splits, (), ⟨⟨⟨bound.entries, bound.expanded⟩, bound.tar⟩, bound.files⟩, rfl⟩

/-- A fingerprint that differs in more than letter case is refused. -/
theorem convertFromEnvelope_mismatch {envelope : Envelope} {fingerprint : Fingerprint}
    (differs : ¬sameText envelope.fingerprint.payloadSha256 fingerprint.payloadSha256 ∨
      ¬sameText envelope.fingerprint.runtimeSha256 fingerprint.runtimeSha256)
    (splits : List Nat) : convertFromEnvelope sha256 inflate envelope splits fingerprint =
      .error (.thrown "Snapshot envelope does not match immutable inputs" []) := by
  rw [convertFromEnvelope, require, if_neg]
  · rfl
  · rw [Bool.and_eq_true, Bool.and_eq_true]
    rintro ⟨⟨-, payload⟩, runtime⟩
    exact differs.elim (fun other => other payload) fun other => other runtime

end

def noteArchive : Bytes :=
  [31, 139, 8, 0, 0, 0, 0, 0, 2, 3, 43, 42, 205, 211, 47, 207, 47, 202, 214, 207, 203, 47, 73,
    101, 160, 13, 48, 0, 2, 51, 19, 19, 172, 226, 16, 96, 132, 196, 54, 0, 178, 205, 13, 12,
    141, 25, 20, 12, 24, 232, 0, 74, 139, 75, 18, 139, 24, 70, 44, 200, 200, 100, 24, 5, 163,
    96, 20, 140, 130, 81, 48, 2, 1, 0, 210, 168, 197, 231, 0, 8, 0, 0]

def noteInflate (archive : Bytes) : Bytes × Bool :=
  if archive = noteArchive then (encodeTar [note], false) else ([], true)

def noteSha256 (bytes : Bytes) : String :=
  if bytes = noteArchive then "9FC91713BF2B69B4B59832A1D594558E7D605930F0FA96747FBCC5B21E35CC14"
  else if bytes = ascii "hi" then "8F434346648F6B96DF89DDA901C5176B10A6D83961DD3C1AC88B59B2DC327AA4"
  else ""

def noteFingerprint : Fingerprint := ⟨"A0", "B1"⟩

def lowerEnvelope : Envelope where
  format := envelopeFormat
  savedAtUtc := ""
  fingerprint := noteFingerprint
  archiveSha256 := "9fc91713bf2b69b4b59832a1d594558e7d605930f0fa96747fbcc5b21e35cc14"
  archiveGzipBytes := 82
  archiveEntries := 1
  expandedBytes := 2
  tarBytes := 2048
  files := [⟨ascii "run/work/note", 2,
    "8F434346648F6B96DF89DDA901C5176B10A6D83961DD3C1AC88B59B2DC327AA4", 48⟩]
  archiveBase64 := noteArchive

end WinBoot.Tar
