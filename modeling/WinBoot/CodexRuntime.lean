import Mathlib.Logic.Function.Basic
import WinBoot.Transitions

/-! The script that `Install-CodexRamRuntime.ps1` runs on the device. It fetches everything over plain
HTTP, so that what arrives is anyone's, and may be cut off anywhere and be run again. -/

namespace WinBoot.CodexRuntime
open Transitions

abbrev Bytes : Type := List UInt8

inductive Archive
  | codex
  | codeModeHost
  | bwrap
deriving DecidableEq

namespace Archive

def index : Archive → ℕ
  | codex => 0
  | codeModeHost => 1
  | bwrap => 2

end Archive

/-- What `wget` is called for. -/
inductive Download
  | archive (archive : Archive)
  | certificates
  | launcher
deriving DecidableEq

/-- SHA-256 in lower-case digits, the member of an archive that is wanted of it, and the digest of the
launcher, which the host has put into the script. -/
structure Pins where
  sha256 : Bytes → String
  member : Archive → Bytes → Option Bytes
  launcherHash : String

def Pins.of (pins : Pins) : Download → String
  | .archive .codex => "b65f964600972a948b898f4782e316a741a1b81c044622aa6bdf37ca4525debc"
  | .archive .codeModeHost => "21c4a1afb132a5cf69aa1ac4262d50728ea73894f6fada11364e64c4887343f3"
  | .archive .bwrap => "b1428c448e5a4af6e0c1346873daabb70d5943355a7c8460f02038a56a5806f3"
  | .certificates => "b8d837841b88bfaa1a0fa827cbca8e2576418dd47c9fc4bb7f1f9d89c83111b9"
  | .launcher => pins.launcherHash

/-- The command that comes next, or one that is under way. The first is all up to the first `wget`. -/
inductive Place
  | prepare
  | fetch (download : Download)
  | receive (download : Download)
  | check (download : Download)
  | unpack (archive : Archive)
  | mv (archive : Archive)
  | rm (archive : Archive)
  | linkCertificates
  | chmod
  | linkLauncher
  | runLauncher
  | runBwrap
  | free
  | done (code : Int)
deriving DecidableEq

/-- Each download where `wget` puts it, each member under its own name and under the one it is moved to,
the mode of the launcher, the link to it in `/usr/bin`, and the command. -/
structure Device where
  fetched : Download → Option Bytes
  unpacked : Archive → Option Bytes
  binary : Archive → Option Bytes
  executable : Bool
  link : Bool
  place : Place

/-- The device has just been booted. -/
def booted : Device := ⟨fun _ => none, fun _ => none, fun _ => none, false, false, .prepare⟩

/-- A command ends well or not, `wget` is sent bytes, `tar` has written so much of a member, and a script
that was cut off or has ended is run once more. -/
inductive Move
  | ok
  | fail
  | data (bytes : Bytes)
  | part (n : ℕ)
  | again

variable (pins : Pins)

def afterCheck : Download → Place
  | .archive archive => .unpack archive
  | .certificates => .linkCertificates
  | .launcher => .chmod

def afterRm : Archive → Place
  | .codex => .fetch (.archive .codeModeHost)
  | .codeModeHost => .fetch (.archive .bwrap)
  | .bwrap => .fetch .certificates

/-- What an archive that was fetched has for a member. -/
def held (device : Device) (archive : Archive) : Option Bytes :=
  (device.fetched (.archive archive)).bind (pins.member archive)

def succeed (device : Device) : Option Device :=
  match device.place with
  | .prepare => some { device with place := .fetch (.archive .codex) }
  | .fetch download =>
    some { device with
      fetched := Function.update device.fetched download (some [])
      place := .receive download }
  | .receive download => some { device with place := .check download }
  | .check download =>
    some { device with
      place :=
        if (device.fetched download).map pins.sha256 = some (pins.of download) then afterCheck download
        else .done 1 }
  | .unpack archive =>
    (held pins device archive).map fun content =>
      { device with
        unpacked := Function.update device.unpacked archive (some content)
        place := .mv archive }
  | .mv archive =>
    some { device with
      binary := Function.update device.binary archive (device.unpacked archive)
      unpacked := Function.update device.unpacked archive none
      place := .rm archive }
  | .rm archive =>
    some { device with
      fetched := Function.update device.fetched (.archive archive) none
      place := afterRm archive }
  | .linkCertificates => some { device with place := .fetch .launcher }
  | .chmod => some { device with executable := true, place := .linkLauncher }
  | .linkLauncher => some { device with link := true, place := .runLauncher }
  | .runLauncher => some { device with place := .runBwrap }
  | .runBwrap => some { device with place := .free }
  | .free => some { device with place := .done 0 }
  | .done _ => none

def step (device : Device) : Move → Option Device
  | .ok => succeed pins device
  | .fail =>
    match device.place with
    | .done _ => none
    | _ => some { device with place := .done 1 }
  | .data bytes =>
    match device.place with
    | .receive download =>
      some { device with
        fetched := Function.update device.fetched download ((device.fetched download).map (· ++ bytes)) }
    | _ => none
  | .part n =>
    match device.place with
    | .unpack archive =>
      (held pins device archive).map fun content =>
        { device with unpacked := Function.update device.unpacked archive (some (content.take n)) }
    | _ => none
  | .again => some { device with place := .prepare }

/-- A file is what an archive with the right digest has. -/
def Verified (archive : Archive) (content : Bytes) : Prop :=
  ∃ bytes, pins.sha256 bytes = pins.of (.archive archive) ∧ pins.member archive bytes = some content

/-- A download has the right digest. -/
def Matches (device : Device) (download : Download) : Prop :=
  ∃ bytes, device.fetched download = some bytes ∧ pins.sha256 bytes = pins.of download

namespace Place

/-- How many archives this run has installed. -/
def installed : Place → ℕ
  | .prepare => 0
  | .fetch (.archive archive) | .receive (.archive archive) | .check (.archive archive)
  | .unpack archive | .mv archive => archive.index
  | .rm archive => archive.index + 1
  | .done code => if code = 0 then 3 else 0
  | _ => 3

/-- Which downloads are known to be good and kept. -/
def good : Place → Download → Bool
  | .unpack archive, .archive other => archive = other
  | .linkCertificates, .certificates | .fetch .launcher, .certificates
  | .receive .launcher, .certificates | .check .launcher, .certificates => true
  | .chmod, .certificates | .linkLauncher, .certificates | .runLauncher, .certificates
  | .runBwrap, .certificates | .free, .certificates => true
  | .chmod, .launcher | .linkLauncher, .launcher | .runLauncher, .launcher | .runBwrap, .launcher
  | .free, .launcher => true
  | .done code, .certificates | .done code, .launcher => code = 0
  | _, _ => false

end Place

structure Sound (device : Device) : Prop where
  binary : ∀ archive content, device.binary archive = some content → Verified pins archive content
  installed : ∀ archive : Archive, archive.index < device.place.installed → (device.binary archive).isSome
  good : ∀ download, device.place.good download → Matches pins device download
  unpacked : ∀ archive, device.place = .mv archive →
    ∃ content, device.unpacked archive = some content ∧ Verified pins archive content
  link : device.link → ∀ archive, (device.binary archive).isSome

variable {pins} {device device' : Device}

theorem booted_sound : Sound pins booted where
  binary := nofun
  installed := fun archive before => absurd before (Nat.not_lt_zero _)
  good := fun download kept => by cases download <;> cases kept
  unpacked := nofun
  link := nofun

/-- A move of the place alone. -/
theorem Sound.placed (sound : Sound pins device) {place : Place}
    (installed : place.installed ≤ device.place.installed)
    (good : ∀ download, place.good download → device.place.good download ∨ Matches pins device download)
    (unpacked : ∀ archive, place ≠ .mv archive) : Sound pins { device with place := place } where
  binary := sound.binary
  installed := fun archive before => sound.installed archive (Nat.lt_of_lt_of_le before installed)
  good := fun download kept => (good download kept).elim (sound.good download) id
  unpacked := fun archive same => absurd same (unpacked archive)
  link := sound.link

/-- A file that is written to, which is none that is known to be good. -/
theorem Sound.writes (sound : Sound pins device) {place : Place} {written : Download}
    {content : Option Bytes} (installed : place.installed ≤ device.place.installed)
    (good : ∀ download, place.good download → download ≠ written ∧ device.place.good download)
    (unpacked : ∀ archive, place ≠ .mv archive) :
    Sound pins { device with
      fetched := Function.update device.fetched written content
      place := place } where
  binary := sound.binary
  installed := fun archive before => sound.installed archive (Nat.lt_of_lt_of_le before installed)
  good := by
    intro download kept
    obtain ⟨other, before⟩ := good download kept
    obtain ⟨bytes, fetched, digest⟩ := sound.good download before
    exact ⟨bytes, (Function.update_of_ne other ..).trans fetched, digest⟩
  unpacked := fun archive same => absurd same (unpacked archive)
  link := sound.link

theorem Archive.index_lt (archive : Archive) : archive.index < 3 := by cases archive <;> decide

theorem Archive.index_inj {archive other : Archive} (same : archive.index = other.index) :
    archive = other := by
  cases archive <;> cases other <;> first | rfl | cases same

/-- The member of an archive that was checked is what it has to be. -/
theorem Sound.held (sound : Sound pins device) {archive : Archive} {content : Bytes}
    (place : device.place = .unpack archive) (member : held pins device archive = some content) :
    Verified pins archive content := by
  obtain ⟨bytes, fetched, digest⟩ := sound.good (.archive archive) (by simp [place, Place.good])
  rw [CodexRuntime.held, fetched, Option.bind_some] at member
  exact ⟨bytes, digest, member⟩

theorem check_sound (sound : Sound pins device) {download : Download}
    (place : device.place = .check download) (moved : succeed pins device = some device') :
    Sound pins device' := by
  rw [succeed, place] at moved
  obtain rfl := Option.some.inj moved
  split
  case isFalse =>
    exact sound.placed (Nat.zero_le _) (fun download kept => by cases download <;> cases kept) (by simp)
  case isTrue digest =>
    obtain ⟨bytes, fetched, same⟩ := Option.map_eq_some_iff.mp digest
    refine sound.placed ?_ (fun other kept => ?_) ?_
    · rw [place]
      cases download <;> exact Nat.le_refl _
    · by_cases here : other = download
      · exact .inr ⟨bytes, here ▸ fetched, here ▸ same⟩
      · left
        rw [place]
        cases download <;> cases other <;>
          simp_all [afterCheck, Place.good]
    · cases download <;> exact nofun

theorem unpack_sound (sound : Sound pins device) {archive : Archive}
    (place : device.place = .unpack archive) (moved : succeed pins device = some device') :
    Sound pins device' := by
  rw [succeed, place] at moved
  obtain ⟨content, member, rfl⟩ := Option.map_eq_some_iff.mp moved
  have verified := sound.held place member
  refine ⟨sound.binary, fun other before => sound.installed other (by rw [place]; exact before),
    (fun download kept => by cases download <;> cases kept), fun other same => ?_, sound.link⟩
  obtain rfl := Place.mv.inj same
  exact ⟨content, Function.update_self .., verified⟩

theorem mv_sound (sound : Sound pins device) {archive : Archive}
    (place : device.place = .mv archive) (moved : succeed pins device = some device') :
    Sound pins device' := by
  rw [succeed, place] at moved
  obtain rfl := Option.some.inj moved
  obtain ⟨content, unpacked, verified⟩ := sound.unpacked archive place
  have moved (other : Archive) : (Function.update device.binary archive (device.unpacked archive)) other =
      if other = archive then some content else device.binary other := by
    rw [Function.update_apply, unpacked]
  have kept (other : Archive) (some : other ≠ archive → (device.binary other).isSome) :
      ((Function.update device.binary archive (device.unpacked archive)) other).isSome := by
    rw [moved]
    split
    case isTrue => rfl
    case isFalse apart => exact some apart
  refine ⟨fun other found held => ?_, fun other before => ?_,
    (fun download kept => by cases download <;> cases kept), nofun, fun link other => ?_⟩
  · have held := (moved other).symm.trans held
    split at held
    case isTrue same =>
      obtain rfl := Option.some.inj held
      exact same ▸ verified
    case isFalse => exact sound.binary other found held
  · refine kept other fun apart => sound.installed other ?_
    rw [place]
    exact Nat.lt_of_le_of_ne (Nat.le_of_lt_succ before) fun same => apart (Archive.index_inj same)
  · exact kept other fun _ => sound.link link other

theorem succeed_sound (sound : Sound pins device) (moved : succeed pins device = some device') :
    Sound pins device' := by
  cases place : device.place with
  | check download => exact check_sound sound place moved
  | unpack archive => exact unpack_sound sound place moved
  | mv archive => exact mv_sound sound place moved
  | fetch download =>
    rw [succeed, place] at moved
    obtain rfl := Option.some.inj moved
    refine sound.writes ?_ (fun other kept => ?_) nofun
    · rw [place]
      cases download <;> exact Nat.le_refl _
    · rw [place]
      cases download <;> cases other <;> first | exact ⟨nofun, rfl⟩ | cases kept
  | rm archive =>
    rw [succeed, place] at moved
    obtain rfl := Option.some.inj moved
    refine sound.writes ?_ (fun other kept => ?_) ?_
    · rw [place]
      cases archive <;> exact Nat.le_refl _
    · cases archive <;> cases other <;> cases kept
    · cases archive <;> exact nofun
  | prepare =>
    rw [succeed, place] at moved
    obtain rfl := Option.some.inj moved
    exact sound.placed (Nat.zero_le _) (fun other kept => by cases other <;> cases kept) nofun
  | receive download =>
    rw [succeed, place] at moved
    obtain rfl := Option.some.inj moved
    refine sound.placed ?_ (fun other kept => .inl ?_) nofun
    · rw [place]
      cases download <;> exact Nat.le_refl _
    · rw [place]
      cases download <;> cases other <;> first | rfl | cases kept
  | linkCertificates | runLauncher | runBwrap | free =>
    rw [succeed, place] at moved
    obtain rfl := Option.some.inj moved
    refine sound.placed (by rw [place]; exact Nat.le_refl _) (fun other kept => .inl ?_) nofun
    rw [place]
    cases other <;> first | rfl | cases kept
  | chmod =>
    rw [succeed, place] at moved
    obtain rfl := Option.some.inj moved
    have placed : Sound pins { device with place := .linkLauncher } := by
      refine sound.placed (by rw [place]; exact Nat.le_refl _) (fun other kept => .inl ?_) nofun
      rw [place]
      cases other <;> first | rfl | cases kept
    exact { placed with }
  | linkLauncher =>
    rw [succeed, place] at moved
    obtain rfl := Option.some.inj moved
    have placed : Sound pins { device with place := .runLauncher } := by
      refine sound.placed (by rw [place]; exact Nat.le_refl _) (fun other kept => .inl ?_) nofun
      rw [place]
      cases other <;> first | rfl | cases kept
    exact { placed with link := fun _ archive => placed.installed archive archive.index_lt }
  | done code =>
    rw [succeed, place] at moved
    cases moved

theorem fail_sound (sound : Sound pins device) (moved : step pins device .fail = some device') :
    Sound pins device' := by
  have failed : Sound pins { device with place := .done 1 } :=
    sound.placed (Nat.zero_le _) (fun download kept => by cases download <;> cases kept) nofun
  rw [step] at moved
  split at moved
  case h_1 => cases moved
  case h_2 => exact Option.some.inj moved ▸ failed

theorem data_sound (sound : Sound pins device) {bytes : Bytes}
    (moved : step pins device (.data bytes) = some device') : Sound pins device' := by
  rw [step] at moved
  split at moved
  case h_2 => cases moved
  case h_1 download place =>
    obtain rfl := Option.some.inj moved
    refine sound.writes (Nat.le_refl _) (fun other kept => ⟨?_, kept⟩) (by simp [place])
    rintro rfl
    rw [place] at kept
    cases other <;> cases kept

theorem part_sound (sound : Sound pins device) {n : ℕ}
    (moved : step pins device (.part n) = some device') : Sound pins device' := by
  rw [step] at moved
  split at moved
  case h_2 => cases moved
  case h_1 archive place =>
    obtain ⟨content, -, rfl⟩ := Option.map_eq_some_iff.mp moved
    exact ⟨sound.binary, sound.installed, sound.good, by simp [place], sound.link⟩

theorem step_sound (sound : Sound pins device) {move : Move} (moved : step pins device move = some device') :
    Sound pins device' := by
  cases move with
  | ok => exact succeed_sound sound moved
  | fail => exact fail_sound sound moved
  | data bytes => exact data_sound sound moved
  | part n => exact part_sound sound moved
  | again =>
    obtain rfl := Option.some.inj moved
    exact sound.placed (Nat.zero_le _) (fun download kept => by cases download <;> cases kept) nofun

/-- Whatever the network sends and wherever any of the runs is cut off: a binary in place is what an
archive with the right digest has, `/usr/bin/codex` is there only with all of them, what the script
itself runs has the right digest, and a run that ends well has all of it in place. -/
theorem runtime_verified (reach : Reach (step pins) (fun _ _ => True) booted device) :
    (∀ archive content, device.binary archive = some content → Verified pins archive content) ∧
    (device.link → ∀ archive, (device.binary archive).isSome) ∧
    (device.place = .runLauncher → Matches pins device .launcher) ∧
    (device.place = .runBwrap → ∃ content, device.binary .bwrap = some content ∧
      Verified pins .bwrap content) ∧
    (device.place = .done 0 → (∀ archive, ∃ content, device.binary archive = some content ∧
      Verified pins archive content) ∧ Matches pins device .certificates ∧
      Matches pins device .launcher) := by
  have sound : Sound pins device :=
    reach.invariant booted_sound fun _ _ _ sound _ moved => step_sound sound moved
  have there {archive : Archive} (some : (device.binary archive).isSome) :
      ∃ content, device.binary archive = .some content ∧ Verified pins archive content := by
    obtain ⟨content, held⟩ := Option.isSome_iff_exists.mp some
    exact ⟨content, held, sound.binary archive content held⟩
  refine ⟨sound.binary, sound.link, fun place => sound.good .launcher (by rw [place]; rfl), fun place => ?_,
    fun place => ⟨fun archive => ?_, sound.good .certificates (by rw [place]; rfl),
      sound.good .launcher (by rw [place]; rfl)⟩⟩
  · exact there (sound.installed .bwrap (by rw [place]; decide))
  · exact there (sound.installed archive (by rw [place]; exact archive.index_lt))

section Sample

/-- Digests of the only bytes that the sample sends. -/
def samplePins : Pins where
  sha256 bytes :=
    if bytes = [1] then "b65f964600972a948b898f4782e316a741a1b81c044622aa6bdf37ca4525debc"
    else if bytes = [2] then "21c4a1afb132a5cf69aa1ac4262d50728ea73894f6fada11364e64c4887343f3"
    else if bytes = [3] then "b1428c448e5a4af6e0c1346873daabb70d5943355a7c8460f02038a56a5806f3"
    else if bytes = [4] then "b8d837841b88bfaa1a0fa827cbca8e2576418dd47c9fc4bb7f1f9d89c83111b9"
    else if bytes = [5] then "launcher" else ""
  member _ bytes := some (bytes ++ bytes)
  launcherHash := "launcher"

/-- A run that is sent something else for the second archive, and one that is not. -/
def sampleMoves : List Move :=
  [.ok, .ok, .data [1], .ok, .ok, .part 1, .ok, .ok, .ok, .ok, .data [9], .ok, .ok, .again,
    .ok, .ok, .data [1], .ok, .ok, .ok, .ok, .ok, .ok, .data [2], .ok, .ok, .ok, .ok, .ok,
    .ok, .data [3], .ok, .ok, .ok, .ok, .ok, .ok, .data [4], .ok, .ok, .ok, .ok, .data [5], .ok, .ok,
    .ok, .ok, .ok, .ok, .ok]

def sampleEnd : Device :=
  (play (step samplePins) (fun _ _ => True) sampleMoves booted).getD booted

theorem runtime_verified_sample :
    sampleEnd.place = .done 0 ∧ Matches samplePins sampleEnd .launcher := by
  have played : play (step samplePins) (fun _ _ => True) sampleMoves booted = some sampleEnd := rfl
  have done : sampleEnd.place = .done 0 := rfl
  exact ⟨done, ((runtime_verified (Reach.start.play played)).2.2.2.2 done).2.2⟩

end Sample

end WinBoot.CodexRuntime
