import WinBoot.Pipe
import WinBoot.Transitions

/-! `Invoke-A1625SshDownload`: a child whose output a task copies into memory, and the loop that waits
for the child, each taking its steps when it likes. -/

namespace WinBoot.SshDownload
open Transitions

/-- `CopyToAsync` -/
inductive CopyTask
  | running
  | finished
  | faulted
deriving DecidableEq

/-- The statement that comes next. An error of its own has no text here. -/
inductive Point
  | waitForExit
  | checkLimits
  | kill
  | waitKilled
  | getResult
  | checkLength
  | readErrors
  | checkExitCode
  | returned (bytes : List UInt8)
  | threw (message : Option String)
deriving DecidableEq

/-- The child with its two pipes; what is taken of the first is in memory. -/
structure State where
  stdout : Pipe UInt8
  stderr : Pipe Char
  exitCode : Option Int
  copyTask : CopyTask
  point : Point

/-- The child, or one that it has started, writes and closes its pipes when it likes. A statement is told
whether the deadline has passed, and any may raise an error. -/
inductive Move
  | write (bytes : List UInt8)
  | complain (text : List Char)
  | closeOutput
  | closeErrors
  | exit (code : Int)
  | copy (n : ℕ)
  | finishCopy
  | faultCopy
  | poll (late : Bool)
  | raise

/-- The process has just been started. -/
def started : State := ⟨.fresh, .fresh, none, .running, .waitForExit⟩

def limitMessage : String :=
  "SSH download exceeded its size/time limit or the output stream failed."

def sizeMessage : String := "SSH download exceeded its size limit."

def exitMessage (code : Int) (stderr : List Char) : String :=
  "SSH download failed with exit code " ++ toString code ++ ": " ++ String.ofList stderr

variable (maxBytes : ℕ)

def exceeds (s : State) (late : Bool) : Bool :=
  maxBytes < s.stdout.taken.length || s.copyTask = .faulted || late

def checkExitCode (s : State) : Option Point :=
  match s.exitCode with
  | none => none
  | some code =>
    if code = 0 then some (.returned s.stdout.taken)
    else some (.threw (some (exitMessage code s.stderr.written)))

def poll (s : State) (late : Bool) : Option State :=
  match s.point with
  | .waitForExit =>
    some { s with point := if s.exitCode.isSome then .getResult else .checkLimits }
  | .checkLimits =>
    some { s with point := if exceeds maxBytes s late then .kill else .waitForExit }
  | .kill =>
    some { s with
      point := .waitKilled
      exitCode := s.exitCode.or (some (-1))
      stdout := s.stdout.close
      stderr := s.stderr.close }
  | .waitKilled => some { s with point := .threw (some limitMessage) }
  | .getResult =>
    match s.copyTask with
    | .running => none
    | .finished => some { s with point := .checkLength }
    | .faulted => some { s with point := .threw none }
  | .checkLength =>
    some { s with point :=
      if maxBytes < s.stdout.taken.length then .threw (some sizeMessage) else .readErrors }
  | .readErrors => if s.stderr.isOpen then none else some { s with point := .checkExitCode }
  | .checkExitCode => (checkExitCode s).map fun point => { s with point := point }
  | .returned _ | .threw _ => none

def raise (s : State) : Option State :=
  match s.point with
  | .returned _ | .threw _ => none
  | _ => some { s with point := .threw none }

def step (s : State) : Move → Option State
  | .write bytes => if s.stdout.isOpen then some { s with stdout := s.stdout.write bytes } else none
  | .complain text =>
      if s.stderr.isOpen then some { s with stderr := s.stderr.write text } else none
  | .closeOutput => some { s with stdout := s.stdout.close }
  | .closeErrors => some { s with stderr := s.stderr.close }
  | .exit code => if s.exitCode = none then some { s with exitCode := some code } else none
  | .copy n => if s.copyTask = .running then some { s with stdout := s.stdout.take n } else none
  | .finishCopy =>
    if s.copyTask = .running ∧ s.stdout.ended then some { s with copyTask := .finished } else none
  | .faultCopy => if s.copyTask = .running then some { s with copyTask := .faulted } else none
  | .poll late => poll maxBytes s late
  | .raise => raise s

/-- A pass of the loop that ends the child. -/
def Stops (made : State × Move) : Prop :=
  made.1.point = .checkLimits ∧ ∃ late, made.2 = .poll late ∧ exceeds maxBytes made.1 late

/-- What the text of an error says. -/
inductive Reason (history : List (State × Move)) (s : State) : String → Prop
  | limit (stopped : ∃ made ∈ history, Stops maxBytes made) : Reason history s limitMessage
  | size (large : maxBytes < s.stdout.written.length) : Reason history s sizeMessage
  | exit {code : Int} (exited : s.exitCode = some code) (failed : code ≠ 0)
      (heard : s.stderr.isOpen = false) : Reason history s (exitMessage code s.stderr.written)

/-! ### The places of the function -/

namespace Point

/-- The child has been seen to have ended. -/
def exited : Point → Bool
  | .waitForExit | .checkLimits | .kill | .threw none => false
  | _ => true

/-- The copy has been waited for. -/
def copied : Point → Bool
  | .checkLength | .readErrors | .checkExitCode | .returned _ => true
  | _ => false

/-- The size has been checked. -/
def fits : Point → Bool
  | .readErrors | .checkExitCode | .returned _ => true
  | _ => false

/-- The other pipe has been read to its end. -/
def heard : Point → Bool
  | .checkExitCode | .returned _ => true
  | _ => false

end Point

/-- What the place that is next says of the child and of the copy. -/
structure Sound (history : List (State × Move)) (s : State) : Prop where
  ended : s.copyTask = .finished → s.stdout.ended
  exited : s.point.exited → s.exitCode.isSome
  copied : s.point.copied → s.copyTask = .finished
  fits : s.point.fits → s.stdout.taken.length ≤ maxBytes
  heard : s.point.heard → s.stderr.isOpen = false
  stopped : s.point = .kill ∨ s.point = .waitKilled → ∃ made ∈ history, Stops maxBytes made
  returned : ∀ bytes, s.point = .returned bytes → s.exitCode = some 0 ∧ bytes = s.stdout.taken
  threw : ∀ message, s.point = .threw (some message) → Reason maxBytes history s message

/-- What a step of the child or of the copy leaves to the function. -/
structure Carries (s s' : State) : Prop where
  point : s'.point = s.point
  exitCode : ∀ code, s.exitCode = some code → s'.exitCode = some code
  stdout : s.stdout.ended → s'.stdout = s.stdout
  written : s.stdout.written <+: s'.stdout.written
  stderr : s.stderr.isOpen = false → s'.stderr = s.stderr
  copyTask : s.copyTask = .finished → s'.copyTask = .finished
  ended : s'.copyTask = .finished → s.copyTask = .finished ∨ s'.stdout.ended

variable {maxBytes} {history : List (State × Move)} {s s' : State} {move : Move}

theorem step_carries (moved : step maxBytes s move = some s') :
    Carries s s' ∨ (∃ late, move = .poll late) ∨ move = .raise := by
  cases move with
  | poll late => exact .inr (.inl ⟨late, rfl⟩)
  | raise => exact .inr (.inr rfl)
  | write bytes =>
    left
    rw [step] at moved
    split at moved
    case isFalse => cases moved
    case isTrue isOpen =>
      obtain rfl := Option.some.inj moved
      exact ⟨rfl, fun _ => id, fun ended => absurd (Pipe.ended_iff.mp ended).1 (by simp [isOpen]),
        by simp, fun _ => rfl, id, .inl⟩
  | complain text =>
    left
    rw [step] at moved
    split at moved
    case isFalse => cases moved
    case isTrue isOpen =>
      obtain rfl := Option.some.inj moved
      exact ⟨rfl, fun _ => id, fun _ => rfl, List.prefix_rfl,
        fun closed => absurd closed (by simp [isOpen]), id, .inl⟩
  | closeOutput =>
    obtain rfl := Option.some.inj moved
    exact .inl ⟨rfl, fun _ => id, fun ended => Pipe.close_of_closed (Pipe.ended_iff.mp ended).1,
      List.prefix_rfl, fun _ => rfl, id, .inl⟩
  | closeErrors =>
    obtain rfl := Option.some.inj moved
    exact .inl ⟨rfl, fun _ => id, fun _ => rfl, List.prefix_rfl, Pipe.close_of_closed, id, .inl⟩
  | exit code =>
    left
    rw [step] at moved
    split at moved
    case isFalse => cases moved
    case isTrue none =>
      obtain rfl := Option.some.inj moved
      exact ⟨rfl, fun _ some => absurd (none.symm.trans some) (by simp), fun _ => rfl, List.prefix_rfl,
        fun _ => rfl, id, .inl⟩
  | copy n =>
    left
    rw [step] at moved
    split at moved
    case isFalse => cases moved
    case isTrue running =>
      obtain rfl := Option.some.inj moved
      exact ⟨rfl, fun _ => id, fun ended => Pipe.take_of_ended ended n, by simp, fun _ => rfl, id,
        .inl⟩
  | finishCopy =>
    left
    rw [step] at moved
    split at moved
    case isFalse => cases moved
    case isTrue done =>
      obtain rfl := Option.some.inj moved
      exact ⟨rfl, fun _ => id, fun _ => rfl, List.prefix_rfl, fun _ => rfl, fun _ => rfl,
        fun _ => .inr done.2⟩
  | faultCopy =>
    left
    rw [step] at moved
    split at moved
    case isFalse => cases moved
    case isTrue running =>
      obtain rfl := Option.some.inj moved
      exact ⟨rfl, fun _ => id, fun _ => rfl, List.prefix_rfl, fun _ => rfl,
        fun finished => absurd (running.symm.trans finished) (by simp), fun finished => by cases finished⟩

theorem Sound.carried (sound : Sound maxBytes history s) (carries : Carries s s')
    (made : State × Move) :
    Sound maxBytes (history ++ [made]) s' := by
  have done (place : s.point.copied) : s'.stdout = s.stdout :=
    carries.stdout (sound.ended (sound.copied place))
  have copied (point : Point) : point.fits → point.copied := by cases point <;> simp [Point.fits, Point.copied]
  refine ⟨fun finished => ?_, ?_, ?_, ?_, ?_, ?_, ?_, ?_⟩
  · obtain before | now := carries.ended finished
    · rw [carries.stdout (sound.ended before)]
      exact sound.ended before
    · exact now
  · rw [carries.point]
    intro place
    obtain ⟨code, exited⟩ := Option.isSome_iff_exists.mp (sound.exited place)
    rw [carries.exitCode code exited]
    rfl
  · rw [carries.point]
    exact fun place => carries.copyTask (sound.copied place)
  · rw [carries.point]
    intro place
    rw [done (copied _ place)]
    exact sound.fits place
  · rw [carries.point]
    intro place
    rw [carries.stderr (sound.heard place)]
    exact sound.heard place
  · rw [carries.point]
    intro place
    obtain ⟨stop, listed, stops⟩ := sound.stopped place
    exact ⟨stop, List.mem_append_left _ listed, stops⟩
  · rw [carries.point]
    intro bytes place
    obtain ⟨exited, taken⟩ := sound.returned bytes place
    refine ⟨carries.exitCode 0 exited, taken.trans ?_⟩
    rw [done (by rw [place]; rfl)]
  · rw [carries.point]
    intro message place
    cases sound.threw message place with
    | limit stopped =>
      obtain ⟨stop, listed, stops⟩ := stopped
      exact .limit ⟨stop, List.mem_append_left _ listed, stops⟩
    | size large => exact .size (Nat.lt_of_lt_of_le large carries.written.length_le)
    | exit exited failed heard =>
      rw [← carries.stderr heard]
      exact .exit (carries.exitCode _ exited) failed (by rw [carries.stderr heard]; exact heard)

/-- A statement that is left for one which says no more than what is known. -/
theorem Sound.at_point (sound : Sound maxBytes history s) (made : State × Move) {point : Point}
    (exited : point.exited → s.exitCode.isSome) (copied : point.copied → s.copyTask = .finished)
    (fits : point.fits → s.stdout.taken.length ≤ maxBytes)
    (heard : point.heard → s.stderr.isOpen = false)
    (stopped : point = .kill ∨ point = .waitKilled → ∃ made' ∈ history ++ [made], Stops maxBytes made')
    (returned : ∀ bytes, point = .returned bytes → s.exitCode = some 0 ∧ bytes = s.stdout.taken)
    (threw : ∀ message, point = .threw (some message) →
      Reason maxBytes (history ++ [made]) { s with point := point } message) :
    Sound maxBytes (history ++ [made]) { s with point := point } :=
  ⟨sound.ended, exited, copied, fits, heard, stopped, returned, threw⟩

theorem raise_sound (sound : Sound maxBytes history s) (moved : raise s = some s') :
    Sound maxBytes (history ++ [(s, .raise)]) s' := by
  have silent : Sound maxBytes (history ++ [(s, .raise)]) { s with point := .threw none } :=
    sound.at_point _ nofun nofun nofun nofun (by simp) nofun nofun
  rw [raise] at moved
  split at moved
  case h_3 => exact Option.some.inj moved ▸ silent
  all_goals cases moved

theorem poll_sound (sound : Sound maxBytes history s) {late : Bool}
    (moved : poll maxBytes s late = some s') :
    Sound maxBytes (history ++ [(s, .poll late)]) s' := by
  have quiet {point : Point} (next : point = .waitForExit ∨ point = .checkLimits) :
      Sound maxBytes (history ++ [(s, .poll late)]) { s with point := point } := by
    obtain rfl | rfl := next <;>
      exact sound.at_point _ nofun nofun nofun nofun (by simp) nofun nofun
  have failed {message : String} (exited : s.exitCode.isSome)
      (reason : Reason maxBytes (history ++ [(s, .poll late)]) { s with point := .threw (some message) }
        message) :
      Sound maxBytes (history ++ [(s, .poll late)]) { s with point := .threw (some message) } := by
    refine sound.at_point _ (fun _ => exited) nofun nofun nofun (by simp) nofun fun other same => ?_
    obtain rfl := Option.some.inj (Point.threw.inj same)
    exact reason
  rw [poll] at moved
  cases point : s.point with
  | returned bytes | threw message =>
    rw [point] at moved
    cases moved
  | waitForExit =>
    rw [point] at moved
    obtain rfl := Option.some.inj moved
    split
    case isTrue exited => exact sound.at_point _ (fun _ => exited) nofun nofun nofun (by simp) nofun nofun
    case isFalse => exact quiet (.inr rfl)
  | checkLimits =>
    rw [point] at moved
    obtain rfl := Option.some.inj moved
    split
    case isTrue past =>
      refine sound.at_point _ nofun nofun nofun nofun (fun _ => ?_) nofun nofun
      exact ⟨_, List.mem_append_right _ (.head _), point, late, rfl, past⟩
    case isFalse => exact quiet (.inl rfl)
  | kill =>
    rw [point] at moved
    obtain rfl := Option.some.inj moved
    obtain ⟨stop, listed, stops⟩ := sound.stopped (.inl point)
    refine ⟨fun finished => ?_, fun _ => ?_, nofun, nofun, nofun,
      fun _ => ⟨stop, List.mem_append_left _ listed, stops⟩, nofun, nofun⟩
    · have ended := sound.ended finished
      rw [Pipe.close_of_closed (Pipe.ended_iff.mp ended).1]
      exact ended
    · cases code : s.exitCode <;> simp
  | waitKilled =>
    rw [point] at moved
    obtain rfl := Option.some.inj moved
    obtain ⟨stop, listed, stops⟩ := sound.stopped (.inr point)
    exact failed (sound.exited (by rw [point]; rfl))
      (.limit ⟨stop, List.mem_append_left _ listed, stops⟩)
  | getResult =>
    rw [point] at moved
    have exited : s.exitCode.isSome := sound.exited (by rw [point]; rfl)
    cases task : s.copyTask with
    | running =>
      simp only [task] at moved
      cases moved
    | finished =>
      simp only [task] at moved
      obtain rfl := Option.some.inj moved
      rw [← task]
      exact sound.at_point _ (fun _ => exited) (fun _ => task) nofun nofun (by simp) nofun nofun
    | faulted =>
      simp only [task] at moved
      obtain rfl := Option.some.inj moved
      rw [← task]
      exact sound.at_point _ nofun nofun nofun nofun (by simp) nofun nofun
  | checkLength =>
    rw [point] at moved
    obtain rfl := Option.some.inj moved
    have exited : s.exitCode.isSome := sound.exited (by rw [point]; rfl)
    have copied : s.copyTask = .finished := sound.copied (by rw [point]; rfl)
    split
    case isTrue large =>
      refine failed exited (.size ?_)
      rwa [← Pipe.taken_of_ended (sound.ended copied)]
    case isFalse small =>
      exact sound.at_point _ (fun _ => exited) (fun _ => copied)
        (fun _ => Nat.not_lt.mp small) nofun
        (by simp) nofun nofun
  | readErrors =>
    rw [point] at moved
    have exited : s.exitCode.isSome := sound.exited (by rw [point]; rfl)
    dsimp only at moved
    split at moved
    case isTrue => cases moved
    case isFalse heard =>
      obtain rfl := Option.some.inj moved
      exact sound.at_point _ (fun _ => exited) (fun _ => sound.copied (by rw [point]; rfl))
        (fun _ => sound.fits (by rw [point]; rfl)) (fun _ => by simpa using heard) (by simp) nofun nofun
  | checkExitCode =>
    rw [point] at moved
    have heard : s.stderr.isOpen = false := sound.heard (by rw [point]; rfl)
    obtain ⟨next, checked, rfl⟩ := Option.map_eq_some_iff.mp moved
    rw [checkExitCode] at checked
    split at checked
    case h_1 => cases checked
    case h_2 code exited =>
      split at checked
      case isTrue zero =>
        obtain rfl := Option.some.inj checked
        refine sound.at_point _ (fun _ => by rw [exited]; rfl)
          (fun _ => sound.copied (by rw [point]; rfl))
          (fun _ => sound.fits (by rw [point]; rfl)) (fun _ => heard) (by simp) (fun bytes same => ?_) nofun
        exact ⟨zero ▸ exited, (Point.returned.inj same).symm⟩
      case isFalse nonzero =>
        obtain rfl := Option.some.inj checked
        exact failed (by rw [exited]; rfl) (.exit exited nonzero heard)

theorem step_sound (sound : Sound maxBytes history s) (moved : step maxBytes s move = some s') :
    Sound maxBytes (history ++ [(s, move)]) s' := by
  obtain carries | ⟨late, rfl⟩ | rfl := step_carries moved
  · exact sound.carried carries _
  · exact poll_sound sound moved
  · exact raise_sound sound moved

theorem started_sound : Sound maxBytes [] started :=
  ⟨nofun, nofun, nofun, nofun, nofun, by simp [started], nofun, nofun⟩

/-- The child writes on between the passes of the loop and after its last. -/
def sampleMoves : List Move :=
  [.write [1, 2], .poll false, .copy 1, .poll false, .write [3], .exit 0, .poll false, .copy 2,
    .closeErrors, .closeOutput, .finishCopy, .poll false, .poll false, .poll false, .poll false]

def sampleHistory : List (State × Move) :=
  ((record (step 1024) sampleMoves [] started).getD ([], started)).1

def sampleEnd : State := ((record (step 1024) sampleMoves [] started).getD ([], started)).2

theorem sample_run : Made (step 1024) started sampleHistory sampleEnd :=
  have recorded : record (step 1024) sampleMoves [] started = some (sampleHistory, sampleEnd) := rfl
  Made.record .start recorded

end WinBoot.SshDownload
