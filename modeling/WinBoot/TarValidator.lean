import WinBoot.TarFormat

/-! The snapshot validator: a gzip stream is read block by block, every header is checked and
every entry's data is consumed before the next header. A read delivers at least one byte and at
most what was asked for; `splits` says how the decompressor cuts the stream, and `damaged` that
it ends in an error instead of an end of data. -/

namespace WinBoot.Tar

open PaddedField

/-- A thrown text is followed by the entry's name where the message ends in one. -/
inductive Refusal where
  | thrown (text : String) (name : Bytes)
  | decoderFallback
  | format
  | invalidData
deriving DecidableEq

def refuse {α : Type} (text : String) (name : Bytes) : Except Refusal α :=
  .error (.thrown text name)

def require (good : Bool) (refusal : Refusal) : Except Refusal Unit :=
  if good then .ok () else .error refusal

/-! ### The stream -/

structure GzipStream where
  pending : Bytes
  splits : List Nat
  damaged : Bool

def GzipStream.read (gzip : GzipStream) (count : Nat) : Except Refusal (Bytes × GzipStream) :=
  if gzip.pending.isEmpty then
    if gzip.damaged then .error .invalidData else .ok ([], gzip)
  else
    let n := min count (max 1 (gzip.splits.headD count))
    .ok (gzip.pending.take n, ⟨gzip.pending.drop n, gzip.splits.tail, gzip.damaged⟩)

/-- Reads until the header is full; each turn reads a byte at least, so 512 turns are enough. -/
def fillHeader : Nat → Bytes → GzipStream → Except Refusal (Bytes × GzipStream)
  | 0, header, gzip => .ok (header, gzip)
  | turns + 1, header, gzip =>
    if header.length < 512 then do
      let (chunk, gzip) ← gzip.read (512 - header.length)
      if chunk.length = 0 then refuse "Truncated tar header" []
      else fillHeader turns (header ++ chunk) gzip
    else .ok (header, gzip)

/-- Consumes what follows the first zero block; `tailBytes` counts it. -/
def drainTail : Nat → Nat → GzipStream → Except Refusal Nat
  | 0, tailBytes, _ => .ok tailBytes
  | turns + 1, tailBytes, gzip => do
    let (tail, gzip) ← gzip.read 8192
    if tail.length = 0 then .ok tailBytes
    else if 1048576 < tailBytes + tail.length then refuse "Excessive tar trailer" []
    else if !tail.all isNul then refuse "Nonzero data after tar terminator" []
    else drainTail turns (tailBytes + tail.length) gzip

def readTail (gzip : GzipStream) : Except Refusal Nat := do
  let tailBytes ← drainTail (gzip.pending.length + 1) 0 gzip
  if tailBytes < 512 ∨ tailBytes % 512 ≠ 0 then refuse "Truncated tar terminator" []
  else .ok tailBytes

/-- Reads `skip` bytes, of which the first `remaining` are the entry's content. -/
def readData (name : Bytes) : Nat → Nat → Nat → Bytes → GzipStream →
    Except Refusal (Bytes × GzipStream)
  | 0, _, _, content, gzip => .ok (content, gzip)
  | turns + 1, skip, remaining, content, gzip =>
    if 0 < skip then do
      let (buffer, gzip) ← gzip.read (min 8192 skip)
      if buffer.length = 0 then refuse "Truncated tar data for " name
      else
        let dataCount := min remaining buffer.length
        readData name turns (skip - buffer.length) (remaining - dataCount)
          (content ++ buffer.take dataCount) gzip
    else .ok (content, gzip)

/-! ### Texts in a header -/

/-- ASCII decoding replaces a byte from 0x80 on by a question mark. -/
def asciiText (field : Bytes) : Bytes := field.map fun b => if b < 128 then b else 63

/-- The end anchor of a pattern also matches before a final line feed. -/
def anchoredText (text : Bytes) : Bytes := if text.getLast? = some 10 then text.dropLast else text

def octalPlus (text : Bytes) : Bool := !(anchoredText text).isEmpty && (anchoredText text).all isOctal
def octalStar (text : Bytes) : Bool := (anchoredText text).all isOctal

def toInt64 (text : Bytes) : Except Refusal Nat :=
  if text.all isOctal then .ok (octalValue text) else .error .format

/-- An empty size field is zero. -/
def toSize (sizeText : Bytes) : Except Refusal Nat :=
  if sizeText.isEmpty then .ok 0 else toInt64 sizeText

/-- A numeric field without the NULs and spaces around it. -/
def fieldText (field : Bytes) : Bytes := strip isBlank (asciiText field)

/-- `more` continuation bytes are due, the first of them between `low` and `high`. -/
def strictUtf8 (more : Nat) (low high : UInt8) : Bytes → Bool
  | [] => more = 0
  | b :: rest =>
    match more with
    | more + 1 => low ≤ b && b ≤ high && strictUtf8 more 0x80 0xBF rest
    | 0 =>
      if b < 0x80 then strictUtf8 0 0x80 0xBF rest
      else if b < 0xC2 then false
      else if b < 0xE0 then strictUtf8 1 0x80 0xBF rest
      else if b = 0xE0 then strictUtf8 2 0xA0 0xBF rest
      else if b = 0xED then strictUtf8 2 0x80 0x9F rest
      else if b < 0xF0 then strictUtf8 2 0x80 0xBF rest
      else if b = 0xF0 then strictUtf8 3 0x90 0xBF rest
      else if b < 0xF4 then strictUtf8 3 0x80 0xBF rest
      else if b = 0xF4 then strictUtf8 3 0x80 0x8F rest
      else false

def validUtf8 (text : Bytes) : Bool := strictUtf8 0 0x80 0xBF text

def getString (text : Bytes) : Except Refusal Bytes :=
  if validUtf8 text then .ok text else .error .decoderFallback

def ascii (text : String) : Bytes := text.toList.map fun c => c.toNat.toUInt8

/-! ### Archive paths -/

def workPath : Bytes := ascii "run/work"

def codexPaths : List Bytes :=
  ["auth.json", "config.toml", ".ssh/config", ".ssh/known_hosts", ".ssh/id_ed25519",
    ".ssh/id_ed25519.pub", ".gitconfig"].map fun name => ascii "run/codex-home/" ++ ascii name

def isUnsafe (b : UInt8) : Bool := b = 92 || b ≤ 31 || b = 127

def segments (path : Bytes) : List Bytes := path.splitOn 47

def hasDotSegment (path : Bytes) : Bool :=
  (segments path).any fun segment => segment = [46] || segment = [46, 46]

def testArchivePath (path : Bytes) : Bool :=
  if path.any isUnsafe || hasDotSegment path || decide ([47, 47] <:+: path) then false
  else path = workPath || (workPath ++ [47]).isPrefixOf path || codexPaths.contains path

/-- A path without its trailing slashes. -/
def trimEnd (path : Bytes) : Bytes := path.rdropWhile (· == 47)

/-! ### Entries -/

def headerSum (header : Bytes) : Nat :=
  ((header.take 148).map UInt8.toNat).sum + 8 * 32 + ((header.drop 156).map UInt8.toNat).sum

structure Member where
  name : Bytes
  type : UInt8
  size : Nat
deriving DecidableEq

/-- Everything checked in one header, in the validator's order. -/
def inspectHeader (seen : List Bytes) (expanded : Nat) (header : Bytes) :
    Except Refusal Member := do
  let checksumText := fieldText (checksumField header)
  require (octalPlus checksumText) (.thrown "Invalid tar checksum field" [])
  let expected ← toInt64 checksumText
  require (headerSum header = expected) (.thrown "Tar header checksum mismatch" [])
  let base ← getString (nameField header)
  let dir ← getString (prefixField header)
  let name := joinPath (strip isNul dir) (strip isNul base)
  let type := typeByte header
  let sizeText := fieldText (sizeField header)
  require (octalStar sizeText) (.thrown "Invalid tar size for " name)
  let size ← toSize sizeText
  require (!name.isEmpty && testArchivePath name) (.thrown "Archive path is not allowlisted: " name)
  require (!seen.contains (trimEnd name)) (.thrown "Duplicate tar entry: " name)
  let modeText := fieldText (modeField header)
  require (octalPlus modeText) (.thrown "Unsafe tar permissions: " name)
  let mode ← toInt64 modeText
  require (mode &&& 0xE00 = 0) (.thrown "Unsafe tar permissions: " name)
  require (type = 0 || type = 48 || type = 53) (.thrown "Unsafe tar entry type for " name)
  require (!(type = 53 && size ≠ 0)) (.thrown "Directory contains data: " name)
  require (size ≤ 67108864) (.thrown "Tar entry exceeds 64 MiB: " name)
  require (expanded + size ≤ 536870912) (.thrown "Tar expanded size exceeds 512 MiB" [])
  return ⟨name, type, size⟩

variable {D : Type}

structure TarFile (D : Type) where
  path : Bytes
  bytes : Nat
  sha256 : D
  type : UInt8
deriving DecidableEq

structure Details (D : Type) where
  entries : Nat
  expandedBytes : Nat
  tarBytes : Nat
  files : List (TarFile D)
deriving DecidableEq

structure Progress (D : Type) extends Details D where
  seen : List Bytes

def Progress.start : Progress D := ⟨⟨0, 0, 0, []⟩, []⟩

def Progress.add (sha256 : Bytes → D) (progress : Progress D) (member : Member)
    (content : Bytes) : Progress D where
  entries := progress.entries + 1
  expandedBytes := progress.expandedBytes + member.size
  tarBytes := progress.tarBytes + 512 + padded member.size
  files := progress.files ++ [⟨member.name, member.size, sha256 content, member.type⟩]
  seen := trimEnd member.name :: progress.seen

section

variable (sha256 : Bytes → D) (progress : Progress D) (member : Member) (content : Bytes)

@[simp] theorem Progress.add_entries :
    (progress.add sha256 member content).entries = progress.entries + 1 := rfl

@[simp] theorem Progress.add_expandedBytes :
    (progress.add sha256 member content).expandedBytes =
      progress.expandedBytes + member.size := rfl

@[simp] theorem Progress.add_tarBytes :
    (progress.add sha256 member content).tarBytes =
      progress.tarBytes + 512 + padded member.size := rfl

@[simp] theorem Progress.add_files :
    (progress.add sha256 member content).files =
      progress.files ++ [⟨member.name, member.size, sha256 content, member.type⟩] := rfl

@[simp] theorem Progress.add_seen :
    (progress.add sha256 member content).seen = trimEnd member.name :: progress.seen := rfl

end

def readEntry (sha256 : Bytes → D) (header : Bytes) (progress : Progress D) (gzip : GzipStream) :
    Except Refusal (Progress D × GzipStream) := do
  let member ← inspectHeader progress.seen progress.expandedBytes header
  let skip := padded member.size
  let (content, gzip) ← readData member.name skip skip member.size [] gzip
  return (progress.add sha256 member content, gzip)

/-- `room` more entries are allowed: it is 4096 less the entries read so far. -/
def archiveLoop (sha256 : Bytes → D) : Nat → Progress D → GzipStream →
    Except Refusal (Progress D)
  | room, progress, gzip => do
    let (header, gzip) ← fillHeader 512 [] gzip
    if header.all isNul then
      let tailBytes ← readTail gzip
      return { progress with tarBytes := progress.tarBytes + 512 + tailBytes }
    else
      let (progress, gzip) ← readEntry sha256 header progress gzip
      match room with
      | 0 => refuse "Archive has too many entries" []
      | room + 1 => archiveLoop sha256 room progress gzip

/-- A compressed archive: its own length and what decompressing it delivers. -/
structure Gzip where
  compressedLength : Nat
  data : Bytes
  damaged : Bool
  splits : List Nat

def Gzip.stream (gzip : Gzip) : GzipStream := ⟨gzip.data, gzip.splits, gzip.damaged⟩

def assertSafeTar (sha256 : Bytes → D) (gzip : Gzip) : Except Refusal (Details D) := do
  require (gzip.compressedLength ≤ 268435456) (.thrown "Compressed snapshot exceeds 256 MiB" [])
  let progress ← archiveLoop sha256 4096 .start gzip.stream
  require (progress.entries ≠ 0) (.thrown "Archive has no entries" [])
  return progress.toDetails

end WinBoot.Tar
