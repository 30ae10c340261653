import Mathlib.Algebra.Order.Ring.Nat
import Mathlib.Data.List.Basic
import Mathlib.Tactic.Common
import WinBoot.Interaction

/-! The upload session of the PongoOS uploader. The USB device and the libusb calls are the
environment; the payload file is what its successive reads deliver until end of file, with no
relation to the length seen at validation. A bulk transfer may accept any part of what it is
given, whatever code it returns. -/

namespace WinBoot.PongoUpload
open Interaction

def maxUploadSize : Nat := 128 * 1024 * 1024
def uploadChunkSize : Nat := 1024 * 1024

structure Metadata where
  isFile : Bool
  len : Nat

def validatePayload (metadata : Except String Metadata) : Except String Nat :=
  match metadata with
  | .error error => .error s!"cannot read payload metadata: {error}"
  | .ok metadata =>
    if !metadata.isFile then .error "payload is not a regular file"
    else
      let size := metadata.len
      if size = 0 then .error "payload is empty"
      else if size > maxUploadSize then
        .error s!"payload is larger than PongoOS limit ({maxUploadSize} bytes)"
      else if size > 2 ^ 32 - 1 then
        .error "payload size does not fit the PongoOS 32-bit length field"
      else .ok size

theorem validatePayload_size {metadata : Except String Metadata} {size : Nat}
    (h : validatePayload metadata = .ok size) : 0 < size ∧ size < 2 ^ 32 := by
  unfold validatePayload at h
  split at h
  · cases h
  · dsimp only at h
    split_ifs at h
    cases h
    omega

/-- One successful `read` into the upload buffer: at least one byte, at most the buffer. -/
def Chunk : Type := {bytes : List UInt8 // 0 < bytes.length ∧ bytes.length ≤ uploadChunkSize}

/-- `File::open`, then the results of successive reads; a read after the last one finds the
end of the file. -/
structure PayloadFile where
  openError : Option String
  reads : List (Except String Chunk)

inductive UsbCall where
  | control (request : UInt8) (data : List UInt8)
  | bulk (endpoint : UInt8) (data : List UInt8)

/-- libusb writes a count between zero and the requested length to `transferred`. -/
structure BulkResult (requested : Nat) where
  code : Int
  transferred : Fin (requested + 1)

abbrev UsbAnswer : UsbCall → Type
  | .control _ _ => Int
  | .bulk _ data => BulkResult data.length

abbrev Usb := Prog UsbCall UsbAnswer
abbrev UsbEvent := Event UsbCall UsbAnswer

/-- What `libusb_error_name` gives for a code. -/
inductive ErrorName where
  | null
  | notUtf8
  | text (name : String)

structure LibUsb where
  errorName : Int → ErrorName

def LibUsb.error (usb : LibUsb) (operation : String) (code : Int) : String :=
  let name := match usb.errorName code with
    | .null => "unknown"
    | .notUtf8 => "invalid-error-name"
    | .text name => name
  s!"{operation} failed: {name} ({code})"

def control (usb : LibUsb) (request : UInt8) (data : List UInt8) :
    Usb (Except String Unit) := do
  let result : Int ← Prog.call (UsbCall.control request data)
  if result < 0 then
    return .error (usb.error "libusb_control_transfer" result)
  if result ≠ data.length then
    return .error s!"short control transfer: {result}/{data.length} bytes"
  return .ok ()

/-- `(size as u32).to_le_bytes()` -/
def toLeBytes (size : Nat) : List UInt8 :=
  [UInt8.ofNat size, UInt8.ofNat (size / 2 ^ 8), UInt8.ofNat (size / 2 ^ 16),
    UInt8.ofNat (size / 2 ^ 24)]

def ofLeBytes (bytes : List UInt8) : Nat :=
  bytes.foldr (fun b n => b.toNat + 256 * n) 0

theorem ofLeBytes_toLeBytes (size : Nat) : ofLeBytes (toLeBytes size) = size % 2 ^ 32 := by
  simp only [ofLeBytes, toLeBytes, List.foldr_cons, List.foldr_nil, UInt8.toNat_ofNat']
  omega

/-- The inner loop: offer `buffer[offset..count]` until all of it has been accepted. -/
def sendLoop (usb : LibUsb) (buffer : List UInt8) (count offset total : Nat) :
    Usb (Except String Nat) :=
  if offset < count then
    .ask (.bulk 0x02 ((buffer.take count).drop offset)) fun answer : BulkResult _ =>
      if answer.code ≠ 0 then
        .done (.error (usb.error "libusb_bulk_transfer(0x02)" answer.code))
      else if answer.transferred.val = 0 then
        .done (.error "bulk transfer made no progress")
      else
        sendLoop usb buffer count (offset + answer.transferred.val)
          (total + answer.transferred.val)
  else .done (.ok total)
termination_by count - offset

/-- The outer loop. A read overwrites the front of the buffer and leaves the rest. -/
def readLoop (usb : LibUsb) : List (Except String Chunk) → List UInt8 → Nat →
    Usb (Except String Nat)
  | [], _, total => .done (.ok total)
  | .error error :: _, _, _ => .done (.error s!"payload read failed: {error}")
  | .ok chunk :: reads, buffer, total => do
    let count := chunk.1.length
    let buffer := chunk.1 ++ buffer.drop count
    match ← sendLoop usb buffer count 0 total with
    | .error error => return .error error
    | .ok total => readLoop usb reads buffer total

/-- `b"bootm\n"` -/
def bootCommand : List UInt8 := [98, 111, 111, 116, 109, 10]

def upload (usb : LibUsb) (payload : PayloadFile) (size : Nat) : Usb (Except String Unit) := do
  match ← control usb 1 (toLeBytes size) with
  | .error error => return .error error
  | .ok () =>
    match payload.openError with
    | some error => return .error s!"cannot open payload: {error}"
    | none =>
      let buffer := List.replicate uploadChunkSize 0
      match ← readLoop usb payload.reads buffer 0 with
      | .error error => return .error error
      | .ok total =>
        if total ≠ size then
          return .error s!"payload length changed while reading: {total}/{size}"
        control usb 3 bootCommand

/-- The bytes the device took from one transfer. -/
def acceptedBy : UsbEvent → List UInt8
  | ⟨.control _ _, _⟩ => []
  | ⟨.bulk _ data, answer⟩ => data.take (BulkResult.transferred answer).val

/-- Everything the bulk endpoint accepted, in order. -/
def accepted (trace : List UsbEvent) : List UInt8 := trace.flatMap acceptedBy

def IsControl (request : UInt8) (data : List UInt8) (event : UsbEvent) : Prop :=
  event.1 = .control request data

/-- The request that makes PongoOS run what it has received. -/
abbrev IsBoot : UsbEvent → Prop := IsControl 3 bootCommand

def IsBulk (event : UsbEvent) : Prop := ∃ data, event.1 = .bulk 0x02 data

@[simp] theorem accepted_nil : accepted [] = [] := rfl

@[simp] theorem accepted_append (s t : List UsbEvent) :
    accepted (s ++ t) = accepted s ++ accepted t := List.flatMap_append

@[simp] theorem accepted_cons (e : UsbEvent) (t : List UsbEvent) :
    accepted (e :: t) = acceptedBy e ++ accepted t := List.flatMap_cons

theorem acceptedBy_control {request : UInt8} {data : List UInt8} {e : UsbEvent}
    (h : IsControl request data e) : acceptedBy e = [] := by
  obtain ⟨c, r⟩ := e
  cases h
  rfl

theorem not_isBoot_of_isBulk {e : UsbEvent} (h : IsBulk e) : ¬ IsBoot e := by
  obtain ⟨data, h⟩ := h
  simp [IsBoot, IsControl, h]

theorem control_runs {usb : LibUsb} {request : UInt8} {data : List UInt8} {t : List UsbEvent}
    {result : Except String Unit} (run : (control usb request data).Runs t result) :
    ∃ e, t = [e] ∧ IsControl request data e := by
  unfold control at run
  obtain ⟨t₁, t₂, answer, rfl, h₁, h₂⟩ := (Prog.runs_bind ..).mp run
  rw [Prog.runs_call] at h₁
  subst h₁
  refine ⟨⟨.control request data, answer⟩, ?_, rfl⟩
  have ht : t₂ = [] := by
    split_ifs at h₂ <;> exact h₂.1
  rw [ht, List.append_nil]

/-- One pass of the inner loop accepts exactly the rest of the chunk, or fails. -/
theorem sendLoop_runs {usb : LibUsb} {buffer : List UInt8} {count : Nat}
    (room : count ≤ buffer.length) (offset total : Nat) (bound : offset ≤ count)
    {t : List UsbEvent} {result : Except String Nat}
    (run : (sendLoop usb buffer count offset total).Runs t result) :
    (∀ e ∈ t, IsBulk e) ∧
      ∀ total', result = .ok total' →
        accepted t = (buffer.take count).drop offset ∧ total' = total + (count - offset) := by
  induction hk : count - offset using Nat.strongRecOn generalizing offset total t with
  | ind k ih =>
    rw [sendLoop] at run
    split_ifs at run with more
    · obtain ⟨answer, rest, rfl, next⟩ := (Prog.runs_ask ..).mp run
      have taken : answer.transferred.val < count - offset + 1 := by
        have length : ((buffer.take count).drop offset).length = count - offset := by
          rw [List.length_drop, List.length_take, Nat.min_eq_left room]
        exact length ▸ answer.transferred.isLt
      have bulk : IsBulk ⟨.bulk 0x02 ((buffer.take count).drop offset), answer⟩ := ⟨_, rfl⟩
      split_ifs at next with failed stuck
      · obtain ⟨rfl, rfl⟩ := next
        exact ⟨by simpa using bulk, by simp⟩
      · obtain ⟨rfl, rfl⟩ := next
        exact ⟨by simpa using bulk, by simp⟩
      · have step := ih (count - (offset + answer.transferred.val)) (by omega)
          (offset + answer.transferred.val) (total + answer.transferred.val) (by omega) next rfl
        refine ⟨by simpa using ⟨bulk, step.1⟩, fun total' ok => ?_⟩
        obtain ⟨sent, sum⟩ := step.2 total' ok
        refine ⟨?_, by omega⟩
        rw [accepted_cons, sent, ← List.drop_drop]
        exact List.take_append_drop ..
    · obtain ⟨rfl, rfl⟩ := run
      refine ⟨by simp, fun total' ok => ?_⟩
      cases ok
      refine ⟨?_, by omega⟩
      rw [accepted_nil, List.drop_eq_nil_of_le]
      rw [List.length_take]
      omega

/-- All that the successive reads delivered. -/
def delivered (reads : List (Except String Chunk)) : List UInt8 :=
  reads.flatMap fun read => match read with
    | .error _ => []
    | .ok chunk => chunk.1

/-- Short reads and short transfers compose to the identity on the stream. -/
theorem readLoop_runs {usb : LibUsb} (reads : List (Except String Chunk)) (buffer : List UInt8)
    (total : Nat) {t : List UsbEvent} {result : Except String Nat}
    (run : (readLoop usb reads buffer total).Runs t result) :
    (∀ e ∈ t, IsBulk e) ∧
      ∀ total', result = .ok total' →
        (∀ read ∈ reads, ∃ chunk, read = .ok chunk) ∧ accepted t = delivered reads ∧
          total' = total + (delivered reads).length := by
  induction reads generalizing buffer total t with
  | nil =>
    obtain ⟨rfl, rfl⟩ := run
    exact ⟨by simp, fun total' ok => by cases ok; simp [delivered]⟩
  | cons read reads ih =>
    cases read with
    | error error =>
      obtain ⟨rfl, rfl⟩ := run
      exact ⟨by simp, by simp⟩
    | ok chunk =>
      obtain ⟨t₁, t₂, sent, rfl, run₁, run₂⟩ := (Prog.runs_bind ..).mp run
      have first := sendLoop_runs (by simp) 0 total (Nat.zero_le _) run₁
      cases sent with
      | error error =>
        obtain ⟨rfl, rfl⟩ := run₂
        exact ⟨by simpa using first.1, by simp⟩
      | ok total₁ =>
        obtain ⟨sent, sum⟩ := first.2 total₁ rfl
        have rest := ih _ _ run₂
        refine ⟨fun e he => ?_, fun total' ok => ?_⟩
        · rcases List.mem_append.mp he with he | he
          · exact first.1 e he
          · exact rest.1 e he
        · obtain ⟨good, tail, count⟩ := rest.2 total' ok
          refine ⟨by simpa using good, ?_, ?_⟩
          · rw [accepted_append, sent, tail]
            simp [delivered]
          · simp only [delivered, List.flatMap_cons, List.length_append] at count ⊢
            omega

/-- What must have happened for the boot request to have been issued. -/
structure BootGate (payload : PayloadFile) (trace : List UsbEvent) : Prop where
  last : ∃ front boot, trace = front ++ [boot] ∧ IsBoot boot ∧ ∀ e ∈ front, ¬ IsBoot e
  wholeFile : payload.openError = none ∧ ∀ read ∈ payload.reads, ∃ chunk, read = .ok chunk
  exact : accepted trace = delivered payload.reads
  announced : ∃ announce rest length, trace = announce :: rest ∧ IsControl 1 length announce ∧
    length.length = 4 ∧ ofLeBytes length = (accepted trace).length

theorem control_run_boot {usb : LibUsb} {payload : PayloadFile} {size : Nat} {t : List UsbEvent}
    {result : Except String Unit} (run : (upload usb payload size).Runs t result)
    (fits : size < 2 ^ 32) :
    (BootGate payload t ∨ ∀ e ∈ t, ¬ IsBoot e) ∧
      ((∀ e ∈ t, ¬ IsBoot e) → ∃ error, result = .error error) := by
  unfold upload at run
  obtain ⟨t₁, t', announced, rfl, run₁, run'⟩ := (Prog.runs_bind ..).mp run
  obtain ⟨announce, rfl, hannounce⟩ := control_runs run₁
  have notBoot : ¬ IsBoot announce := by
    simp only [IsBoot, IsControl] at hannounce ⊢
    simp [hannounce]
  cases announced with
  | error error =>
    obtain ⟨rfl, rfl⟩ := run'
    exact ⟨.inr (by simpa using notBoot), by simp⟩
  | ok _ =>
    cases opened : payload.openError with
    | some error =>
      simp only [opened] at run'
      obtain ⟨rfl, rfl⟩ := run'
      exact ⟨.inr (by simpa using notBoot), by simp⟩
    | none =>
      simp only [opened] at run'
      obtain ⟨t₂, t₃, total, rfl, run₂, run₃⟩ := (Prog.runs_bind ..).mp run'
      have body := readLoop_runs payload.reads _ 0 run₂
      have quiet : ∀ e ∈ [announce] ++ t₂, ¬ IsBoot e := by
        intro e he
        rcases List.mem_append.mp he with he | he
        · rwa [List.mem_singleton.mp he]
        · exact not_isBoot_of_isBulk (body.1 e he)
      cases total with
      | error error =>
        obtain ⟨rfl, rfl⟩ := run₃
        exact ⟨.inr (by simpa using quiet), by simp⟩
      | ok total =>
        obtain ⟨good, exact, count⟩ := body.2 total rfl
        by_cases whole : total = size
        · simp only [whole, ne_eq, not_true_eq_false, if_false] at run₃
          obtain ⟨boot, rfl, hboot⟩ := control_runs run₃
          have sent : accepted ([announce] ++ (t₂ ++ [boot])) = delivered payload.reads := by
            simp [acceptedBy_control hannounce, acceptedBy_control hboot, exact]
          refine ⟨.inl ⟨⟨[announce] ++ t₂, boot, by simp, hboot, quiet⟩, ⟨opened, good⟩, sent,
            announce, t₂ ++ [boot], toLeBytes size, rfl, hannounce, rfl, ?_⟩, ?_⟩
          · rw [sent, ofLeBytes_toLeBytes, Nat.mod_eq_of_lt fits]
            omega
          · intro none
            exact absurd hboot (none boot (by simp))
        · simp only [ne_eq, whole, not_false_eq_true, if_true] at run₃
          obtain ⟨rfl, rfl⟩ := run₃
          exact ⟨.inr (by simpa using quiet), by simp⟩

/-- The boot request is issued at most once, as the last transfer, and only after the device
has accepted the file exactly; without it the upload reports an error. -/
theorem upload_boots_exact_payload (usb : LibUsb) (payload : PayloadFile)
    {metadata : Except String Metadata} {size : Nat}
    (valid : validatePayload metadata = .ok size) {t : List UsbEvent}
    {result : Except String Unit} (run : (upload usb payload size).Runs t result) :
    ((∃ e ∈ t, IsBoot e) → BootGate payload t) ∧
      (¬ BootGate payload t → (∀ e ∈ t, ¬ IsBoot e) ∧ ∃ error, result = .error error) := by
  obtain ⟨gate, silent⟩ := control_run_boot run (validatePayload_size valid).2
  constructor
  · rintro ⟨e, he, hboot⟩
    exact gate.resolve_right fun none => none e he hboot
  · intro closed
    have none := gate.resolve_left closed
    exact ⟨none, silent none⟩

def smallPayload : PayloadFile :=
  ⟨none, [.ok ⟨[1, 2], by decide⟩, .ok ⟨[3], by decide⟩]⟩

def smallTrace : List UsbEvent :=
  [⟨.control 1 [3, 0, 0, 0], (4 : Int)⟩, ⟨.bulk 2 [1, 2], ⟨0, 1⟩⟩, ⟨.bulk 2 [2], ⟨0, 1⟩⟩,
    ⟨.bulk 2 [3], ⟨0, 1⟩⟩, ⟨.control 3 bootCommand, (6 : Int)⟩]

theorem smallTrace_runs :
    (upload ⟨fun _ => .null⟩ smallPayload 3).Runs smallTrace (.ok ()) := by
  have firstChunk (buffer : List UInt8) : (sendLoop ⟨fun _ => .null⟩ ([1, 2] ++ buffer) 2 0 0).Runs
      [⟨.bulk 2 [1, 2], ⟨0, 1⟩⟩, ⟨.bulk 2 [2], ⟨0, 1⟩⟩] (.ok 2) := by
    rw [sendLoop]
    refine ⟨⟨0, 1⟩, _, rfl, ?_⟩
    change (sendLoop _ _ 2 1 1).Runs _ _
    rw [sendLoop]
    refine ⟨⟨0, 1⟩, _, rfl, ?_⟩
    change (sendLoop _ _ 2 2 2).Runs _ _
    rw [sendLoop]
    exact ⟨rfl, rfl⟩
  have secondChunk (buffer : List UInt8) : (sendLoop ⟨fun _ => .null⟩ ([3] ++ buffer) 1 0 2).Runs
      [⟨.bulk 2 [3], ⟨0, 1⟩⟩] (.ok 3) := by
    rw [sendLoop]
    refine ⟨⟨0, 1⟩, _, rfl, ?_⟩
    change (sendLoop _ _ 1 1 3).Runs _ _
    rw [sendLoop]
    exact ⟨rfl, rfl⟩
  have body : (readLoop ⟨fun _ => .null⟩ smallPayload.reads
      (List.replicate uploadChunkSize 0) 0).Runs (smallTrace.drop 1 |>.take 3) (.ok 3) :=
    (Prog.runs_bind ..).mpr ⟨_, [⟨.bulk 2 [3], ⟨0, 1⟩⟩], .ok 2, rfl, firstChunk _,
      (Prog.runs_bind ..).mpr ⟨_, [], .ok 3, rfl, secondChunk _, rfl, rfl⟩⟩
  exact (Prog.runs_bind ..).mpr ⟨_, smallTrace.drop 1, .ok (), rfl, ⟨4, [], rfl, rfl, rfl⟩,
    (Prog.runs_bind ..).mpr ⟨_, _, .ok 3, rfl, body, 6, [], rfl, rfl, rfl⟩⟩

theorem upload_boots_small_payload : BootGate smallPayload smallTrace :=
  (upload_boots_exact_payload ⟨fun _ => .null⟩ smallPayload
    (show validatePayload (.ok ⟨true, 3⟩) = .ok 3 from rfl) smallTrace_runs).1
    ⟨_, List.mem_of_getLast? rfl, rfl⟩

end WinBoot.PongoUpload
