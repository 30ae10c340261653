import WinBoot.SshUpload
import WinBoot.WriteHistory
import WinBoot.Checks

/-! The login of the device that is kept encrypted on the host: what `Save-A1625CodexState.ps1` stores of
it, and what `Restore-A1625CodexState.ps1` makes of that on the device. -/

namespace WinBoot.CodexState
open Checks SnapshotStore SshUpload Transitions
open WriteHistory (Write)

abbrev Bytes : Type := List UInt8

/-! ### On the device -/

/-- The commands of the script, each at its start, and `cat` with its file open. -/
inductive Place
  | mkdir
  | chmodHome
  | openNext
  | cat
  | chmodNext
  | mv
  | loginStatus
  | echo
  | done (code : Int)
deriving DecidableEq

/-- `auth.json.next` and `auth.json` in `/run/codex-home`. -/
structure Device where
  next : Option Bytes
  auth : Option Bytes
  place : Place

namespace Device

def take (device : Device) (bytes : Bytes) : Option Device :=
  match device.place with
  | .cat => some { device with next := device.next.map (· ++ bytes) }
  | _ => none

def atEnd (device : Device) : Option Device :=
  match device.place with
  | .cat => some { device with place := .chmodNext }
  | _ => none

/-- Under `set -e` a command that fails ends the script. -/
def own (device : Device) (ok : Bool) : Option Device :=
  match device.place, ok with
  | .done _, _ => none
  | _, false => some { device with place := .done 1 }
  | .mkdir, true => some { device with place := .chmodHome }
  | .chmodHome, true => some { device with place := .openNext }
  | .openNext, true => some { device with next := some [], place := .cat }
  | .cat, true => none
  | .chmodNext, true => some { device with place := .mv }
  | .mv, true => some { device with next := none, auth := device.next, place := .loginStatus }
  | .loginStatus, true => some { device with place := .echo }
  | .echo, true => some { device with place := .done 0 }

def exit (device : Device) : Option (Int × List Char) :=
  match device.place with
  | .done code => some (code, if code = 0 then "restored_and_verified\n".toList else [])
  | _ => none

end Device

/-- The script on a device with these files. -/
def script (next auth : Option Bytes) : Remote Device Bool where
  start := ⟨next, auth, .mkdir⟩
  take := Device.take
  atEnd := Device.atEnd
  own := Device.own
  exit := Device.exit
  stopped := by
    rintro ⟨next, auth, place⟩ past
    cases place with
    | done code => exact ⟨fun _ => rfl, rfl, fun ok => by cases ok <;> rfl⟩
    | _ => cases past

section Script

variable {next auth : Option Bytes}

/-- What has been read of the input, by the place in the script. -/
inductive Stage (auth : Option Bytes) (device : Device) : Bytes → Bool → Prop
  | before (place : device.place = .mkdir ∨ device.place = .chmodHome ∨ device.place = .openNext)
      (kept : device.auth = auth) : Stage auth device [] false
  | reading {bytes : Bytes} (place : device.place = .cat) (read : device.next = some bytes)
      (kept : device.auth = auth) : Stage auth device bytes false
  | ready {bytes : Bytes} (place : device.place = .chmodNext ∨ device.place = .mv)
      (read : device.next = some bytes) (kept : device.auth = auth) : Stage auth device bytes true
  | placed {bytes : Bytes} (place : device.place = .loginStatus ∨ device.place = .echo ∨
      ∃ code, device.place = .done code) (moved : device.auth = some bytes) : Stage auth device bytes true
  | failed {bytes : Bytes} {ended : Bool} (place : device.place = .done 1)
      (kept : device.auth = auth) : Stage auth device bytes ended

theorem Stage.fails {device : Device} {bytes : Bytes} {ended : Bool} (stage : Stage auth device bytes ended) :
    Stage auth { device with place := .done 1 } bytes ended := by
  cases stage with
  | before _ kept | reading _ _ kept | ready _ _ kept | failed _ kept => exact .failed rfl kept
  | placed _ moved => exact .placed (.inr (.inr ⟨1, rfl⟩)) moved

theorem stage_of_fed {device : Device} {bytes : Bytes} {ended : Bool}
    (fed : Fed (script next auth) device bytes ended) : Stage auth device bytes ended := by
  induction fed with
  | start => exact .before (.inl rfl) rfl
  | @take device after bytes more _ taken stage =>
    obtain ⟨file, held, place⟩ := device
    cases place with
    | cat =>
      obtain rfl := Option.some.inj taken
      cases stage with
      | reading _ read kept =>
        obtain rfl : file = some bytes := read
        exact .reading rfl rfl kept
      | before place _ => simp at place
      | failed place _ => cases place
    | _ => cases taken
  | @atEnd device after bytes ended _ read stage =>
    obtain ⟨file, held, place⟩ := device
    cases place with
    | cat =>
      obtain rfl := Option.some.inj read
      cases stage with
      | reading _ read kept => exact .ready (.inl rfl) read kept
      | before place _ => simp at place
      | ready place _ _ => simp at place
      | placed place _ => simp at place
      | failed place _ => cases place
    | _ => cases read
  | @own device after bytes ended ok _ done stage =>
    obtain ⟨file, held, place⟩ := device
    cases ok with
    | false =>
      cases place with
      | done code => cases done
      | _ =>
        obtain rfl := Option.some.inj done
        exact stage.fails
    | true =>
      cases place with
      | cat | done code => cases done
      | mkdir | chmodHome =>
        obtain rfl := Option.some.inj done
        cases stage with
        | before _ kept => exact .before (by simp) kept
        | reading place _ _ => cases place
        | ready place _ _ | placed place _ => simp at place
        | failed place _ => cases place
      | openNext =>
        obtain rfl := Option.some.inj done
        cases stage with
        | before _ kept => exact .reading rfl rfl kept
        | reading place _ _ => cases place
        | ready place _ _ | placed place _ => simp at place
        | failed place _ => cases place
      | chmodNext =>
        obtain rfl := Option.some.inj done
        cases stage with
        | ready _ read kept => exact .ready (.inr rfl) read kept
        | before place _ | placed place _ => simp at place
        | reading place _ _ => cases place
        | failed place _ => cases place
      | mv =>
        obtain rfl := Option.some.inj done
        cases stage with
        | ready _ read kept => exact .placed (.inl rfl) read
        | before place _ | placed place _ => simp at place
        | reading place _ _ => cases place
        | failed place _ => cases place
      | loginStatus | echo =>
        obtain rfl := Option.some.inj done
        cases stage with
        | placed _ moved => exact .placed (by simp) moved
        | before place _ | ready place _ _ => simp at place
        | reading place _ _ => cases place
        | failed place _ => cases place

theorem Stage.auth_cases {device : Device} {bytes : Bytes} {ended : Bool}
    (stage : Stage auth device bytes ended) :
    device.auth = auth ∨ device.auth = some bytes ∧ ended = true := by
  cases stage with
  | before _ kept | reading _ _ kept | ready _ _ kept | failed _ kept => exact .inl kept
  | placed _ moved => exact .inr ⟨moved, rfl⟩

theorem Stage.auth_done {device : Device} {bytes : Bytes} {ended : Bool}
    (stage : Stage auth device bytes ended) (done : device.place = .done 0) :
    device.auth = some bytes ∧ ended = true := by
  cases stage with
  | placed _ moved => exact ⟨moved, rfl⟩
  | before place _ | ready place _ _ => simp [done] at place
  | reading place _ _ => simp [done] at place
  | failed place _ => simp [done] at place

/-- What a restore leaves of `auth.json` at any moment, whatever becomes of the host, the connection and
the device: it is as it was, or it has the payload, or, only if the connection is broken, a beginning of
it. If the upload returns, it has the payload. -/
theorem upload_auth {payload : Bytes} {s : State Device}
    (reach : Reach (step (script next auth)) (fun _ _ => True) (started (script next auth) payload) s) :
    (s.remote.auth = auth ∨ ∃ bytes, s.remote.auth = some bytes ∧ bytes <+: payload ∧
      (s.linked → bytes = payload)) ∧
    ∀ reply, s.point = .returned reply → s.remote.auth = some payload := by
  obtain ⟨⟨bytes, ended, fed, within, whole⟩, returned, -⟩ := upload_exact reach
  constructor
  · refine (stage_of_fed fed).auth_cases.imp_right ?_
    rintro ⟨placed, rfl⟩
    exact ⟨bytes, placed, within, whole rfl⟩
  · intro reply place
    obtain ⟨read, past, output, fed, exit, -, -, all⟩ := returned reply place
    have done : s.remote.place = .done 0 := by
      change Device.exit s.remote = _ at exit
      rw [Device.exit] at exit
      split at exit
      case h_1 code placed =>
        rw [placed, (Prod.mk.inj (Option.some.inj exit)).1]
      case h_2 => cases exit
    obtain ⟨placed, rfl⟩ := (stage_of_fed fed).auth_done done
    rw [placed, all rfl]

end Script

/-! ### On the host -/

/-- The encryption of the host, which draws a seed, and its JSON. -/
structure Host where
  isJson : Bytes → Bool
  protect : ℕ → Bytes → Bytes
  unprotect : Bytes → Option Bytes

variable (host : Host)

def isAuth (plain : Bytes) : Bool :=
  32 ≤ plain.length && plain.length ≤ 1024 * 1024 && host.isJson plain

def stateName : List Char := "codex-auth.dpapi".toList

/-- One run of `Save-A1625CodexState.ps1`: what the download returned, if it did, and how many steps of
the writing it got to make. -/
structure Attempt where
  downloaded : Option Bytes
  seed : ℕ
  progress : ℕ

/-- What it writes, if it comes to that. -/
def Attempt.write (attempt : Attempt) : Option (Write (List Char) UInt8) := do
  let plain ← attempt.downloaded
  if isAuth host plain then return ⟨stateName, host.protect attempt.seed plain, attempt.progress⟩ else none

def storeAfter (store : Store) (history : List Attempt) : Store :=
  WriteHistory.storeAfter nextName previousName (Attempt.write host) store history

/-- The last save to get to the end. -/
abbrev Latest (history : List Attempt) (attempt : Attempt) : Prop :=
  WriteHistory.Latest nextName previousName (Attempt.write host) history stateName attempt

/-- What `Restore-A1625CodexState.ps1` sends, if it comes to that. -/
def payload (store : Store) : Option Bytes := do
  let cipher ← store stateName
  let plain ← host.unprotect cipher
  if isAuth host plain then return plain else none

/-- `Restore-A1625CodexState.ps1` ends without an error. -/
def Restored (s : State Device) : Prop :=
  ∃ reply, s.point = .returned reply ∧ reply.map Char.toLower = "restored_and_verified".toList

variable {host}

theorem Attempt.write_some {attempt : Attempt} {write : Write (List Char) UInt8}
    (made : write ∈ attempt.write host) :
    ∃ plain, attempt.downloaded = some plain ∧ isAuth host plain ∧
      write = ⟨stateName, host.protect attempt.seed plain, attempt.progress⟩ := by
  obtain ⟨plain, downloaded, rest⟩ := Option.bind_eq_some_iff.mp made
  split at rest
  case isFalse => cases rest
  case isTrue good => exact ⟨plain, downloaded, good, (Option.some.inj rest).symm⟩

theorem history_apart (history : List Attempt) :
    WriteHistory.Apart nextName previousName (Attempt.write host) history stateName := by
  intro other listed w made
  obtain ⟨plain, -, -, rfl⟩ := Attempt.write_some made
  exact ⟨(next_ne_path _).symm, (previous_ne_path _).symm, next_ne_path _⟩

theorem storeAfter_latest {history : List Attempt} {attempt : Attempt}
    (latest : Latest host history attempt) (store : Store) :
    ∃ plain, attempt.downloaded = some plain ∧ isAuth host plain ∧
      storeAfter host store history stateName = some (host.protect attempt.seed plain) := by
  obtain ⟨w, made, held⟩ := WriteHistory.storeAfter_latest (history_apart history) latest store
  obtain ⟨plain, downloaded, good, rfl⟩ := Attempt.write_some made
  exact ⟨plain, downloaded, good, held⟩

/-- What is sent after any saves, each refused or cut off anywhere, is the login that the last of them
to get to the end has downloaded, and nothing if none has. On the device it is put in place as a whole
unless the connection is broken, and it is in place if the script ends without an error. -/
theorem login_survives (lossless : ∀ seed plain, host.unprotect (host.protect seed plain) = some plain)
    {history : List Attempt} {sent : Bytes}
    (sending : payload host (storeAfter host (fun _ => none) history) = some sent)
    {next auth : Option Bytes} {s : State Device}
    (reach : Reach (step (script next auth)) (fun _ _ => True) (started (script next auth) sent) s) :
    (∃ attempt ∈ history, Latest host history attempt ∧ attempt.downloaded = some sent) ∧
    (s.remote.auth = auth ∨ s.remote.auth = some sent ∨ s.linked = false) ∧
    (Restored s → s.remote.auth = some sent) := by
  obtain ⟨moments, returned⟩ := upload_auth reach
  refine ⟨?_, ?_, ?_⟩
  · have last : (∀ a ∈ history, ∀ w ∈ Attempt.write host a, w.path = stateName →
        ¬w.Completed nextName previousName) ∨ ∃ a ∈ history, Latest host history a :=
      WriteHistory.none_or_latest history stateName
    obtain cut | ⟨attempt, listed, latest⟩ := last
    · have empty : storeAfter host (fun _ => none) history stateName = none :=
        WriteHistory.storeAfter_other (history_apart history) cut _
      rw [payload, empty] at sending
      cases sending
    · obtain ⟨plain, downloaded, good, held⟩ := storeAfter_latest latest fun _ => none
      rw [payload, held] at sending
      simp only [Option.bind_eq_bind, Option.bind_some, lossless, good, if_true] at sending
      obtain rfl := Option.some.inj sending
      exact ⟨attempt, listed, latest, downloaded⟩
  · obtain kept | ⟨bytes, placed, -, whole⟩ := moments
    · exact .inl kept
    · cases linked : s.linked with
      | false => exact .inr (.inr rfl)
      | true => exact .inr (.inl (whole linked ▸ placed))
  · rintro ⟨reply, place, -⟩
    exact returned reply place

section Sample

def plainHost : Host where
  isJson bytes := bytes.head? = some 0x7b && bytes.getLast? = some 0x7d
  protect seed plain := UInt8.ofNat seed :: plain
  unprotect cipher := some (cipher.drop 1)

def sampleLogin : Bytes := 0x7b :: List.replicate 30 0x20 ++ [0x7d]

def sampleSaves : List Attempt := [⟨some sampleLogin, 1, 40⟩, ⟨some sampleLogin, 2, 20⟩, ⟨none, 3, 40⟩]

/-- The whole of a restore, with the payload in two parts. -/
def sampleMoves : List (Move Bool) :=
  [.own true, .own true, .own true, .send 20, .forward 20, .receive 20, .send 20, .finishWrite,
    .forward 20, .poll false, .poll false, .forwardEnd, .receive 20, .receiveEnd, .own true, .own true,
    .own true, .own true, .answer [], .poll false, .poll false, .poll false]

def sampleEnd : State Device :=
  (play (step (script none none)) (fun _ _ => True) sampleMoves
    (started (script none none) sampleLogin)).getD (started (script none none) sampleLogin)

theorem sample_reach : Reach (step (script none none)) (fun _ _ => True)
    (started (script none none) sampleLogin) sampleEnd := by
  have played : play (step (script none none)) (fun _ _ => True) sampleMoves
      (started (script none none) sampleLogin) = some sampleEnd := by rfl
  exact Reach.start.play played

theorem login_survives_sample : sampleEnd.remote.auth = some sampleLogin := by
  have restored : Restored sampleEnd := ⟨"restored_and_verified".toList, by decide, by decide⟩
  have sending : payload plainHost (storeAfter plainHost (fun _ => none) sampleSaves) = some sampleLogin := by
    decide +kernel
  exact (login_survives (fun _ _ => rfl) sending sample_reach).2.2 restored

theorem upload_exact_sample : sampleEnd.remote.auth = some sampleLogin ∧
    ∃ bytes ended, Fed (script none none) sampleEnd.remote bytes ended ∧ bytes <+: sampleLogin ∧
      (ended → sampleEnd.linked → bytes = sampleLogin) :=
  ⟨by decide, (upload_exact sample_reach).1⟩

/-- A connection that is lost while `cat` reads: what has arrived is put in place. -/
example : (play (step (script none none)) (fun _ _ => True)
    [.own true, .own true, .own true, .send 20, .forward 20, .receive 5, .lose 3, .receive 3, .receiveEnd,
      .own true, .own true] (started (script none none) sampleLogin)).map (·.remote.auth) =
    some (some (sampleLogin.take 8)) := by
  decide

end Sample

end WinBoot.CodexState
