import WinBoot.SshUpload

/-! `Send-RuntimeArchive`, which puts a runtime in place on the device, and the test by which
`Connect-A1625Wifi.ps1` decides whether one is there. Any run may be cut off anywhere. -/

namespace WinBoot.RuntimeStaging
open SshUpload Transitions

abbrev Bytes : Type := List UInt8
abbrev Name : Type := List Char

structure Entry where
  executable : Bool
  content : Bytes
deriving DecidableEq

abbrev Tree : Type := Name → Option Entry

def remove (tree : Tree) (name : Name) : Tree := fun other => if other = name then none else tree other

/-- `tar -xf -`: what it has made of so much of its input, whether it has seen the end of the archive in
it, behind which it reads no more, and whether it takes the end of the input for the end of the archive. -/
structure Tar where
  extracted : Bytes → Tree
  finished : Bytes → Bool
  acceptsEnd : Bytes → Bool
  nothing : extracted [] = fun _ => none
  behind : ∀ bytes more, finished bytes → bytes <+: more → extracted more = extracted bytes

/-- `test -x`, which no entry is needed to fail. -/
structure TestX where
  runs : Tree → Name → Bool
  needs : ∀ tree name other, runs (remove tree name) other → runs tree other

inductive Place
  | rmNext
  | mkdirNext
  | tar
  | testRequired
  | rmDirectory
  | mv
  | done (code : Int)
deriving DecidableEq

/-- A removal takes one entry at a time, in any order. -/
inductive Choice
  | ok
  | fail
  | remove (name : Name)

/-- The directory and the one that is made beside it. -/
structure Device where
  next : Option Tree
  directory : Option Tree
  read : Bytes
  place : Place

section Script

variable (tar : Tar) (testX : TestX) (required : Name)

namespace Device

def take (device : Device) (bytes : Bytes) : Option Device :=
  match device.place with
  | .tar =>
    some { device with
      read := device.read ++ bytes
      next := some (tar.extracted (device.read ++ bytes)) }
  | _ => none

def atEnd (device : Device) : Option Device :=
  match device.place with
  | .tar => some { device with place := if tar.acceptsEnd device.read then .testRequired else .done 1 }
  | _ => none

/-- Under `set -e` a command that fails ends the script. -/
def own (device : Device) (choice : Choice) : Option Device :=
  match device.place, choice with
  | .done _, _ => none
  | _, .fail => some { device with place := .done 1 }
  | .rmNext, .remove name => some { device with next := device.next.map (remove · name) }
  | .rmDirectory, .remove name => some { device with directory := device.directory.map (remove · name) }
  | _, .remove _ => none
  | .rmNext, .ok => some { device with next := none, place := .mkdirNext }
  | .mkdirNext, .ok => some { device with next := some fun _ => none, place := .tar }
  | .tar, .ok => if tar.finished device.read then some { device with place := .testRequired } else none
  | .testRequired, .ok =>
    some { device with place :=
      if device.next.any (testX.runs · required) then .rmDirectory else .done 1 }
  | .rmDirectory, .ok => some { device with directory := none, place := .mv }
  | .mv, .ok => some { device with next := none, directory := device.next, place := .done 0 }

def exit (device : Device) : Option (Int × List Char) :=
  match device.place with
  | .done code => some (code, [])
  | _ => none

end Device

/-- The script on a device with these directories. -/
def script (next directory : Option Tree) : Remote Device Choice where
  start := ⟨next, directory, [], .rmNext⟩
  take := Device.take tar
  atEnd := Device.atEnd tar
  own := Device.own tar testX required
  exit := Device.exit
  stopped := by
    rintro ⟨next, directory, read, place⟩ past
    cases place with
    | done code => exact ⟨fun _ => rfl, rfl, fun choice => by cases choice <;> rfl⟩
    | _ => cases past

/-- All that `Connect-A1625Wifi.ps1` looks for is there. -/
def Passes (gate : List Name) (directory : Option Tree) : Prop :=
  ∃ tree, directory = some tree ∧ ∀ name ∈ gate, testX.runs tree name

/-- A directory after some of its entries were removed, or all of it. -/
inductive Remains (before : Option Tree) : Option Tree → Prop
  | all : Remains before before
  | less {tree : Tree} (name : Name) : Remains before (some tree) →
    Remains before (some (remove tree name))
  | gone : Remains before none

/-- `tar` has come to an end of its own on so much of its input. -/
def Accepts (bytes : Bytes) (ended : Bool) : Prop :=
  tar.finished bytes ∨ ended ∧ tar.acceptsEnd bytes

/-- What the place in the script says. -/
inductive Stage (before : Option Tree) (device : Device) : Bytes → Bool → Prop
  | clearing (place : device.place = .rmNext ∨ device.place = .mkdirNext) (read : device.read = [])
      (kept : device.directory = before) : Stage before device [] false
  | reading {bytes : Bytes} (place : device.place = .tar) (read : device.read = bytes)
      (made : device.next = some (tar.extracted bytes)) (kept : device.directory = before) :
      Stage before device bytes false
  | ready {bytes : Bytes} {ended : Bool}
      (place : device.place = .testRequired ∨ device.place = .rmDirectory ∨ device.place = .mv)
      (made : device.next = some (tar.extracted bytes)) (accepted : Accepts tar bytes ended)
      (remains : Remains before device.directory) : Stage before device bytes ended
  | placed {bytes : Bytes} {ended : Bool} (place : device.place = .done 0)
      (moved : device.directory = some (tar.extracted bytes)) (accepted : Accepts tar bytes ended) :
      Stage before device bytes ended
  | failed {bytes : Bytes} {ended : Bool} (place : device.place = .done 1)
      (remains : Remains before device.directory) : Stage before device bytes ended

end Script

section Stages

variable {tar : Tar} {testX : TestX} {required : Name} {gate : List Name} {next before after : Option Tree}

theorem Remains.removed (remains : Remains before after) (name : Name) :
    Remains before (after.map (remove · name)) := by
  cases after with
  | none => exact .gone
  | some tree => exact .less name remains

theorem passes_single {directory : Option Tree} (found : directory.any (testX.runs · required)) :
    Passes testX [required] directory := by
  cases directory with
  | none => cases found
  | some tree =>
    refine ⟨tree, rfl, fun name listed => ?_⟩
    obtain rfl := List.mem_singleton.mp listed
    exact found

/-- What a test misses, it misses in what remains. -/
theorem Remains.misses (remains : Remains before after) (missed : ¬Passes testX gate before) :
    ¬Passes testX gate after := by
  induction remains with
  | all => exact missed
  | less name _ ih =>
    rintro ⟨tree, same, all⟩
    obtain rfl := Option.some.inj same
    exact ih ⟨_, rfl, fun other listed => testX.needs _ name other (all other listed)⟩
  | gone =>
    rintro ⟨tree, same, -⟩
    cases same

theorem Stage.fails {device : Device} {bytes : Bytes} {ended : Bool}
    (stage : Stage tar before device bytes ended) (running : ∀ code, device.place ≠ .done code) :
    Stage tar before { device with place := .done 1 } bytes ended := by
  cases stage with
  | clearing _ _ kept | reading _ _ _ kept => exact .failed rfl (kept ▸ .all)
  | ready _ _ _ remains => exact .failed rfl remains
  | placed place _ _ | failed place _ => exact absurd place (running _)

theorem take_stage {device device' : Device} {bytes more : Bytes}
    (stage : Stage tar before device bytes false) (taken : device.take tar more = some device') :
    Stage tar before device' (bytes ++ more) false := by
  obtain ⟨file, directory, read, place⟩ := device
  cases place with
  | tar =>
    obtain rfl := Option.some.inj taken
    cases stage with
    | reading _ same _ kept =>
      obtain rfl : read = bytes := same
      exact .reading rfl rfl rfl kept
    | clearing place _ _ | ready place _ _ _ => simp at place
    | placed place _ _ | failed place _ => cases place
  | _ => cases taken

theorem atEnd_stage {device device' : Device} {bytes : Bytes} {ended : Bool}
    (stage : Stage tar before device bytes ended) (taken : device.atEnd tar = some device') :
    Stage tar before device' bytes true := by
  obtain ⟨file, directory, read, place⟩ := device
  cases place with
  | tar =>
    obtain rfl := Option.some.inj taken
    cases stage with
    | reading _ same made kept =>
      obtain rfl : read = bytes := same
      cases good : tar.acceptsEnd read with
      | false => exact .failed rfl (kept ▸ .all)
      | true => exact .ready (.inl rfl) made (.inr ⟨rfl, good⟩) (kept ▸ .all)
    | clearing place _ _ | ready place _ _ _ => simp at place
    | placed place _ _ | failed place _ => cases place
  | _ => cases taken

theorem ok_stage {device device' : Device} {bytes : Bytes} {ended : Bool}
    (stage : Stage tar before device bytes ended)
    (done : device.own tar testX required .ok = some device') :
    Stage tar before device' bytes ended := by
  obtain ⟨file, directory, read, place⟩ := device
  cases stage with
  | clearing place empty kept =>
    obtain rfl | rfl : _ ∨ _ := place
    · obtain rfl := Option.some.inj done
      exact .clearing (.inr rfl) empty kept
    · obtain rfl := Option.some.inj done
      exact .reading rfl empty (by rw [tar.nothing]) kept
  | reading place same made kept =>
    obtain rfl : _ = Place.tar := place
    obtain rfl : read = bytes := same
    change (if tar.finished read then _ else none) = _ at done
    split at done
    case isFalse => cases done
    case isTrue finished =>
      obtain rfl := Option.some.inj done
      exact .ready (.inl rfl) made (.inl finished) (kept ▸ .all)
  | ready place made accepted remains =>
    obtain rfl | rfl | rfl : _ ∨ _ ∨ _ := place
    · obtain rfl := Option.some.inj done
      cases found : file.any (testX.runs · required) with
      | false => exact .failed rfl remains
      | true => exact .ready (.inr (.inl rfl)) made accepted remains
    · obtain rfl := Option.some.inj done
      exact .ready (.inr (.inr rfl)) made accepted .gone
    · obtain rfl := Option.some.inj done
      exact .placed rfl made accepted
  | placed place _ _ | failed place _ =>
    obtain rfl : _ = Place.done _ := place
    cases done

theorem remove_stage {device device' : Device} {bytes : Bytes} {ended : Bool} {name : Name}
    (stage : Stage tar before device bytes ended)
    (done : device.own tar testX required (.remove name) = some device') :
    Stage tar before device' bytes ended := by
  obtain ⟨file, directory, read, place⟩ := device
  cases place with
  | rmNext =>
    obtain rfl := Option.some.inj done
    cases stage with
    | clearing place empty kept => exact .clearing place empty kept
    | ready place _ _ _ => simp at place
    | reading place _ _ _ | placed place _ _ | failed place _ => cases place
  | rmDirectory =>
    obtain rfl := Option.some.inj done
    cases stage with
    | ready place made accepted remains => exact .ready place made accepted (remains.removed name)
    | clearing place _ _ => simp at place
    | reading place _ _ _ | placed place _ _ | failed place _ => cases place
  | _ => cases done

theorem stage_of_fed {device : Device} {bytes : Bytes} {ended : Bool}
    (fed : Fed (script tar testX required next before) device bytes ended) :
    Stage tar before device bytes ended := by
  induction fed with
  | start => exact .clearing (.inl rfl) rfl rfl
  | take _ taken stage => exact take_stage stage taken
  | atEnd _ read stage => exact atEnd_stage stage read
  | @own device after bytes ended choice _ done stage =>
    cases choice with
    | ok => exact ok_stage stage done
    | remove name => exact remove_stage stage done
    | fail =>
      obtain ⟨file, directory, read, place⟩ := device
      cases place with
      | done code => cases done
      | _ =>
        obtain rfl := Option.some.inj done
        exact stage.fails (by simp)

end Stages

section Sessions

variable {tar : Tar} {testX : TestX} {required : Name} {gate : List Name} {archive : Bytes}
  {next before directory : Option Tree} {s : State Device}

/-- What `tar` has taken for the archive makes what the archive makes, unless the connection is broken. -/
theorem Accepts.whole {bytes : Bytes} {ended : Bool} (accepted : Accepts tar bytes ended)
    (within : bytes <+: archive) (whole : ended → bytes = archive) :
    tar.extracted bytes = tar.extracted archive := by
  obtain finished | ⟨past, -⟩ := accepted
  · exact (tar.behind bytes archive finished within).symm
  · rw [whole past]

/-- At every moment of a run the directory is what is left of the one before, or what `tar` has made of a
beginning of the archive that it took for one, and of all of the archive unless the connection is broken. -/
theorem session_directory (reach : Reach (step (script tar testX required next before)) (fun _ _ => True)
    (started (script tar testX required next before) archive) s) :
    Remains before s.remote.directory ∨ ∃ bytes, s.remote.directory = some (tar.extracted bytes) ∧
      bytes <+: archive ∧ (s.linked → tar.extracted bytes = tar.extracted archive) := by
  obtain ⟨⟨bytes, ended, fed, within, whole⟩, -, -⟩ := upload_exact reach
  cases stage_of_fed fed with
  | clearing _ _ kept | reading _ _ _ kept => exact .inl (kept ▸ .all)
  | ready _ _ _ remains | failed _ remains => exact .inl remains
  | placed _ moved accepted =>
    exact .inr ⟨bytes, moved, within, fun linked => accepted.whole within fun past => whole past linked⟩

/-- A run that returns leaves what `tar` makes of the archive. -/
theorem session_returned (reach : Reach (step (script tar testX required next before)) (fun _ _ => True)
    (started (script tar testX required next before) archive) s) {reply : List Char}
    (returned : s.point = .returned reply) : s.remote.directory = some (tar.extracted archive) := by
  obtain ⟨-, answered, -⟩ := upload_exact reach
  obtain ⟨bytes, ended, output, fed, exit, -, within, whole⟩ := answered reply returned
  have done : s.remote.place = .done 0 := by
    change Device.exit s.remote = _ at exit
    rw [Device.exit] at exit
    split at exit
    case h_1 code placed =>
      rw [placed, (Prod.mk.inj (Option.some.inj exit)).1]
    case h_2 => cases exit
  cases stage_of_fed fed with
  | placed _ moved accepted => rw [moved, accepted.whole within whole]
  | clearing place _ _ | ready place _ _ _ => simp [done] at place
  | reading place _ _ _ | failed place _ => simp [done] at place

/-- The directory after some runs of `Connect-A1625Wifi.ps1`, which sends the archive when its test
fails. Each ends anywhere, and the next starts when the script of the last has ended. -/
inductive Staged (tar : Tar) (testX : TestX) (required : Name) (gate : List Name) (archive : Bytes)
    (unbroken : Bool) : Option Tree → Prop
  | boot : Staged tar testX required gate archive unbroken none
  | session {next before : Option Tree} {s : State Device} :
    Staged tar testX required gate archive unbroken before → ¬Passes testX gate before →
    Reach (step (script tar testX required next before)) (fun _ _ => True)
      (started (script tar testX required next before) archive) s → (unbroken → s.linked) →
    Staged tar testX required gate archive unbroken s.remote.directory

/-- One header, of an empty executable. -/
def sampleHeader : Bytes :=
  let field (width : ℕ) (text : String) : Bytes :=
    (text.toList.map fun c => UInt8.ofNat c.toNat) ++ List.replicate (width - text.length) 0
  field 100 "sbin/wpa_supplicant" ++ field 8 "0000755" ++ field 8 "0000000" ++ field 8 "0000000" ++
    field 12 "00000000000" ++ field 12 "00000000000" ++ field 8 "0011505" ++ field 101 "0" ++
    field 255 "ustar"

def sampleArchive : Bytes := sampleHeader ++ List.replicate 1024 0

def sampleName : Name := "sbin/wpa_supplicant".toList

theorem sampleHeader_length : sampleHeader.length = 512 := by decide +kernel

def sampleTar : Tar where
  extracted bytes := fun name =>
    if bytes.take 512 = sampleHeader ∧ name = sampleName then some ⟨true, []⟩ else none
  finished bytes := sampleArchive.isPrefixOf bytes
  acceptsEnd bytes := bytes.length % 512 = 0
  nothing := by
    have other : ([] : Bytes) ≠ sampleHeader := by
      intro same
      have length := sampleHeader_length
      rw [← same] at length
      cases length
    simp [other]
  behind bytes more finished begins := by
    obtain ⟨rest, rfl⟩ := List.isPrefixOf_iff_prefix.mp finished
    obtain ⟨behind, rfl⟩ := begins
    have head (rest : Bytes) : (sampleArchive ++ rest).take 512 = sampleHeader := by
      rw [sampleArchive, List.append_assoc, ← sampleHeader_length, List.take_left]
    funext name
    rw [List.append_assoc, head, head]

def sampleTestX : TestX where
  runs tree name := (tree name).any Entry.executable
  needs tree name other := by
    unfold remove
    split
    case isTrue => exact nofun
    case isFalse => exact id

/-- The whole of a run, with the archive in two parts. -/
def sampleMoves : List (Move Choice) :=
  [.own .ok, .own .ok, .send 600, .forward 600, .receive 600, .send 936, .finishWrite, .forward 936,
    .receive 936, .own .ok, .own .ok, .own .ok, .own .ok, .poll false, .poll false, .forwardEnd,
    .answer [], .poll false, .poll false, .poll false]

def sampleScript : Remote Device Choice := script sampleTar sampleTestX sampleName none none

def sampleEnd : State Device :=
  (play (step sampleScript) (fun _ _ => True) sampleMoves (started sampleScript sampleArchive)).getD
    (started sampleScript sampleArchive)

theorem sample_played :
    play (step sampleScript) (fun _ _ => True) sampleMoves (started sampleScript sampleArchive) =
      some sampleEnd ∧ sampleEnd.linked = true ∧
        sampleEnd.remote.directory.any (sampleTestX.runs · sampleName) = true := by
  have plays : (play (step sampleScript) (fun _ _ => True) sampleMoves
      (started sampleScript sampleArchive)).any (fun s =>
        s.linked && s.remote.directory.any (sampleTestX.runs · sampleName)) = true := by
    decide +kernel
  obtain ⟨s, played, ends⟩ := (Option.any_eq_true _ _).mp plays
  have same : sampleEnd = s := by
    rw [sampleEnd, played, Option.getD_some]
  rw [same]
  exact ⟨played, (Bool.and_eq_true _ _).mp ends⟩

end Sessions

end WinBoot.RuntimeStaging
