import WinBoot.Pipe
import WinBoot.SnapshotStore
import WinBoot.Transitions

/-! `Invoke-A1625SshUpload`: the bytes go from the function through the ssh child and a connection that
may be lost to a command on the device, each taking its steps when it likes. -/

namespace WinBoot.SshUpload
open Transitions

/-- A command that reads its input. It is told what becomes of what it does itself, and takes no step
once it has ended with a code and an output. -/
structure Remote (ρ κ : Type) where
  start : ρ
  take : ρ → List UInt8 → Option ρ
  atEnd : ρ → Option ρ
  own : ρ → κ → Option ρ
  exit : ρ → Option (Int × List Char)
  stopped : ∀ r, (exit r).isSome → (∀ bytes, take r bytes = none) ∧ atEnd r = none ∧ ∀ k, own r k = none

section Remote

variable {ρ κ : Type} (remote : Remote ρ κ)

/-- The command has read so many bytes, and perhaps the end of its input. -/
inductive Fed : ρ → List UInt8 → Bool → Prop
  | start : Fed remote.start [] false
  | take {r r' : ρ} {bytes more : List UInt8} : Fed r bytes false → remote.take r more = some r' →
    Fed r' (bytes ++ more) false
  | atEnd {r r' : ρ} {bytes : List UInt8} {ended : Bool} : Fed r bytes ended →
    remote.atEnd r = some r' → Fed r' bytes true
  | own {r r' : ρ} {bytes : List UInt8} {ended : Bool} {k : κ} : Fed r bytes ended →
    remote.own r k = some r' → Fed r' bytes ended

end Remote

/-- `WriteAsync` -/
inductive WriteTask
  | running
  | finished
  | faulted
deriving DecidableEq

/-- The statement that comes next. An error of its own has no text here. -/
inductive Point
  | waitWritten
  | kill (message : String)
  | waitKilled (message : String)
  | closeInput
  | waitForExit
  | readOutput
  | checkExitCode
  | returned (reply : List Char)
  | threw (message : Option String)
deriving DecidableEq

/-- What is written goes through the input of the child and through the connection, which is broken or
has all that the child has taken. -/
structure State (ρ : Type) where
  unsent : List UInt8
  writeTask : WriteTask
  stdin : Pipe UInt8
  wire : Pipe UInt8
  linked : Bool
  remote : ρ
  stdout : List Char
  stderr : List Char
  exitCode : Option Int
  point : Point

/-- The connection may be lost at any time, with all but so much of what is under way, and the child may
give up. A statement is told whether its time is over, and any may raise an error. -/
inductive Move (κ : Type)
  | send (n : ℕ)
  | finishWrite
  | faultWrite
  | forward (n : ℕ)
  | forwardEnd
  | lose (n : ℕ)
  | receive (n : ℕ)
  | receiveEnd
  | own (k : κ)
  | answer (stderr : List Char)
  | giveUp (stderr : List Char)
  | poll (late : Bool)
  | raise

def writeMessage : String := "SSH upload timed out while writing."

def waitMessage : String := "SSH upload timed out waiting for the remote command."

def exitMessage (code : Int) (stderr : List Char) : String :=
  "SSH upload failed with exit code " ++ toString code ++ ": " ++ String.ofList stderr

section Steps

variable {ρ κ : Type} (remote : Remote ρ κ)

/-- The process has just been started. -/
def started (payload : List UInt8) : State ρ where
  unsent := payload
  writeTask := .running
  stdin := .fresh
  wire := .fresh
  linked := true
  remote := remote.start
  stdout := []
  stderr := []
  exitCode := none
  point := .waitWritten

def checkExitCode (s : State ρ) : Option Point :=
  match s.exitCode with
  | none => none
  | some code =>
    if code = 0 then some (.returned (SnapshotStore.trim s.stdout))
    else some (.threw (some (exitMessage code s.stderr)))

def poll (s : State ρ) (late : Bool) : Option (State ρ) :=
  match s.point with
  | .waitWritten =>
    match s.writeTask with
    | .running => if late then some { s with point := .kill writeMessage } else none
    | .finished => some { s with point := .closeInput }
    | .faulted => some { s with point := .threw none }
  | .kill message =>
    some { s with
      point := .waitKilled message
      exitCode := s.exitCode.or (some (-1))
      wire := s.wire.close
      linked := false }
  | .waitKilled message => some { s with point := .threw (some message) }
  | .closeInput => some { s with point := .waitForExit, stdin := s.stdin.close }
  | .waitForExit =>
    if s.exitCode.isSome then some { s with point := .readOutput }
    else if late then some { s with point := .kill waitMessage }
    else none
  | .readOutput => some { s with point := .checkExitCode }
  | .checkExitCode => (checkExitCode s).map fun point => { s with point := point }
  | .returned _ | .threw _ => none

def raise (s : State ρ) : Option (State ρ) :=
  match s.point with
  | .returned _ | .threw _ => none
  | _ => some { s with point := .threw none }

def step (s : State ρ) : Move κ → Option (State ρ)
  | .send n =>
    if s.writeTask = .running then
      some { s with unsent := s.unsent.drop n, stdin := s.stdin.write (s.unsent.take n) }
    else none
  | .finishWrite =>
    if s.writeTask = .running ∧ s.unsent = [] then some { s with writeTask := .finished } else none
  | .faultWrite => if s.writeTask = .running then some { s with writeTask := .faulted } else none
  | .forward n =>
    if s.linked ∧ s.wire.isOpen ∧ s.exitCode = none then
      some { s with stdin := s.stdin.take n, wire := s.wire.write (s.stdin.flight.take n) }
    else none
  | .forwardEnd =>
    if s.linked ∧ s.stdin.ended ∧ s.exitCode = none then some { s with wire := s.wire.close } else none
  | .lose n => some { s with wire := s.wire.cut n, linked := false }
  | .receive n =>
    if s.wire.flight.take n = [] then none
    else (remote.take s.remote (s.wire.flight.take n)).map fun r =>
      { s with remote := r, wire := s.wire.take n }
  | .receiveEnd =>
    if s.wire.ended then (remote.atEnd s.remote).map fun r => { s with remote := r } else none
  | .own k => (remote.own s.remote k).map fun r => { s with remote := r }
  | .answer stderr =>
    if s.linked ∧ s.exitCode = none then
      (remote.exit s.remote).map fun result =>
        { s with exitCode := some result.1, stdout := result.2, stderr := stderr }
    else none
  | .giveUp stderr =>
    if s.exitCode = none then
      some { s with exitCode := some 255, stderr := stderr, wire := s.wire.close, linked := false }
    else none
  | .poll late => poll s late
  | .raise => raise s

end Steps

/-- The child has been seen to have ended. -/
def Point.exited : Point → Bool
  | .waitKilled _ | .readOutput | .checkExitCode | .returned _ | .threw (some _) => true
  | _ => false

section Runs

variable {ρ κ : Type} (remote : Remote ρ κ) (payload : List UInt8)

/-- The command has read what has been taken from the connection, its end only at the end. -/
def Reads (s : State ρ) (ended : Bool) : Prop :=
  Fed remote s.remote s.wire.taken ended ∧ (ended → s.wire.ended)

/-- Only a connection that is broken can have lost anything of the payload. -/
structure Sound (s : State ρ) : Prop where
  split : s.stdin.written ++ s.unsent = payload
  sent : s.writeTask = .finished → s.unsent = []
  closed : s.stdin.isOpen = false → s.unsent = []
  forwarded : s.linked → s.wire.written = s.stdin.taken
  within : s.wire.written <+: payload
  complete : s.linked → s.wire.isOpen = false → s.wire.written = payload
  reads : ∃ ended, Reads remote s ended
  answered : s.exitCode = some 0 → remote.exit s.remote = some (0, s.stdout) ∧
    ∃ ended, Fed remote s.remote s.wire.taken ended ∧ (ended → s.wire.taken = payload)
  exited : s.point.exited → s.exitCode.isSome
  closing : s.point = .closeInput → s.writeTask = .finished
  returned : ∀ reply, s.point = .returned reply →
    s.exitCode = some 0 ∧ reply = SnapshotStore.trim s.stdout

variable {remote payload} {s s' : State ρ} {move : Move κ}

theorem Sound.whole (sound : Sound remote payload s) (linked : s.linked) (ended : s.wire.ended) :
    s.wire.taken = payload := by
  rw [Pipe.taken_of_ended ended]
  exact sound.complete linked (Pipe.ended_iff.mp ended).1

theorem Sound.unanswered (sound : Sound remote payload s)
    (running : (remote.exit s.remote).isSome → False) : s.exitCode ≠ some 0 := by
  intro zero
  refine running ?_
  rw [(sound.answered zero).1]
  rfl

theorem exit_none_of_step {r r' : ρ}
    (stepped : (∃ bytes, remote.take r bytes = some r') ∨ remote.atEnd r = some r' ∨
      ∃ k, remote.own r k = some r') : (remote.exit r).isSome → False := by
  intro past
  obtain ⟨take, atEnd, own⟩ := remote.stopped r past
  obtain ⟨bytes, taken⟩ | read | ⟨k, done⟩ := stepped
  · rw [take] at taken
    cases taken
  · rw [atEnd] at read
    cases read
  · rw [own] at done
    cases done

theorem send_sound (sound : Sound remote payload s) {n : ℕ}
    (moved : step remote s (.send n) = some s') : Sound remote payload s' := by
  rw [step] at moved
  split at moved
  case isFalse => cases moved
  case isTrue running =>
    obtain rfl := Option.some.inj moved
    have rest (none : s.unsent = []) : s.unsent.drop n = [] := by rw [none, List.drop_nil]
    exact { sound with
      split := by simp [← sound.split]
      sent := fun finished => rest (sound.sent finished)
      closed := fun closed => rest (sound.closed closed) }

theorem forward_sound (sound : Sound remote payload s) {n : ℕ}
    (moved : step remote s (.forward n) = some s') : Sound remote payload s' := by
  rw [step] at moved
  split at moved
  case isFalse => cases moved
  case isTrue can =>
    obtain rfl := Option.some.inj moved
    obtain ⟨linked, isOpen, running⟩ := can
    have written : (s.wire.write (s.stdin.flight.take n)).written = (s.stdin.take n).taken := by
      rw [Pipe.written_write, sound.forwarded linked]
      rfl
    exact { sound with
      split := by rw [Pipe.written_take, sound.split]
      forwarded := fun _ => written
      within := by
        refine written ▸ Pipe.taken_prefix.trans ?_
        rw [Pipe.written_take, ← sound.split]
        exact List.prefix_append _ _
      complete := fun _ closed => absurd (isOpen.symm.trans closed) (by simp)
      reads := by
        obtain ⟨ended, fed, atEnd⟩ := sound.reads
        refine ⟨ended, fed, fun past => ?_⟩
        have closed := (Pipe.ended_iff.mp (atEnd past)).1
        exact absurd (isOpen.symm.trans closed) (by simp)
      answered := fun zero => absurd (running.symm.trans zero) (by simp) }

theorem forwardEnd_sound (sound : Sound remote payload s)
    (moved : step remote s .forwardEnd = some s') : Sound remote payload s' := by
  rw [step] at moved
  split at moved
  case isFalse => cases moved
  case isTrue can =>
    obtain rfl := Option.some.inj moved
    obtain ⟨linked, past, running⟩ := can
    exact { sound with
      complete := fun _ _ => by
        have none := sound.closed (Pipe.ended_iff.mp past).1
        have split := sound.split
        rw [none, List.append_nil] at split
        rw [Pipe.written_close, sound.forwarded linked, Pipe.taken_of_ended past, split]
      reads := by
        obtain ⟨ended, fed, atEnd⟩ := sound.reads
        refine ⟨ended, fed, fun past => ?_⟩
        rw [Pipe.close_of_closed (Pipe.ended_iff.mp (atEnd past)).1]
        exact atEnd past }

/-- The connection is broken, with what the device has taken from it as it was. -/
theorem Sound.broken (sound : Sound remote payload s) {wire : Pipe UInt8}
    (taken : wire.taken = s.wire.taken) (within : wire.written <+: s.wire.written)
    (ended : s.wire.ended → wire.ended) :
    Sound remote payload { s with wire := wire, linked := false } :=
  { sound with
    forwarded := nofun
    within := within.trans sound.within
    complete := nofun
    reads := by
      obtain ⟨past, fed, atEnd⟩ := sound.reads
      refine ⟨past, ?_, fun read => ended (atEnd read)⟩
      rw [taken]
      exact fed
    answered := fun zero => by
      obtain ⟨exit, past, fed, whole⟩ := sound.answered zero
      refine ⟨exit, past, ?_⟩
      rw [taken]
      exact ⟨fed, whole⟩ }

theorem Sound.lost (sound : Sound remote payload s) (n : ℕ) :
    Sound remote payload { s with wire := s.wire.cut n, linked := false } := by
  refine sound.broken rfl (Pipe.written_cut n) fun ended => ?_
  obtain ⟨-, none⟩ := Pipe.ended_iff.mp ended
  simp [Pipe.ended_iff, Pipe.cut, none]

theorem Sound.hungUp (sound : Sound remote payload s) :
    Sound remote payload { s with wire := s.wire.close, linked := false } := by
  refine sound.broken rfl List.prefix_rfl fun ended => ?_
  rw [Pipe.close_of_closed (Pipe.ended_iff.mp ended).1]
  exact ended

/-- The command takes a step, on what it has read so far. -/
theorem Sound.worked (sound : Sound remote payload s) {r : ρ} {wire : Pipe UInt8}
    (open_eq : wire.isOpen = s.wire.isOpen) (written : wire.written = s.wire.written)
    (running : (remote.exit s.remote).isSome → False)
    (reads : ∃ ended, Reads remote { s with remote := r, wire := wire } ended) :
    Sound remote payload { s with remote := r, wire := wire } :=
  { sound with
    forwarded := fun linked => written.trans (sound.forwarded linked)
    within := by
      rw [written]
      exact sound.within
    complete := fun linked closed => written.trans (sound.complete linked (open_eq ▸ closed))
    reads := reads
    answered := fun zero => absurd zero (sound.unanswered running) }

theorem receive_sound (sound : Sound remote payload s) {n : ℕ}
    (moved : step remote s (.receive n) = some s') : Sound remote payload s' := by
  rw [step] at moved
  split at moved
  case isTrue => cases moved
  case isFalse some =>
    obtain ⟨r, taken, rfl⟩ := Option.map_eq_some_iff.mp moved
    obtain ⟨ended, fed, atEnd⟩ := sound.reads
    cases ended with
    | true =>
      obtain ⟨-, none⟩ := Pipe.ended_iff.mp (atEnd rfl)
      exact absurd (by simp [none]) some
    | false =>
      exact sound.worked rfl (Pipe.written_take n) (exit_none_of_step (.inl ⟨_, taken⟩))
        ⟨false, fed.take taken, nofun⟩

theorem receiveEnd_sound (sound : Sound remote payload s)
    (moved : step remote s .receiveEnd = some s') : Sound remote payload s' := by
  rw [step] at moved
  split at moved
  case isFalse => cases moved
  case isTrue past =>
    obtain ⟨r, read, rfl⟩ := Option.map_eq_some_iff.mp moved
    obtain ⟨ended, fed, -⟩ := sound.reads
    exact sound.worked rfl rfl (exit_none_of_step (.inr (.inl read))) ⟨true, fed.atEnd read, fun _ => past⟩

theorem own_sound (sound : Sound remote payload s) {k : κ}
    (moved : step remote s (.own k) = some s') : Sound remote payload s' := by
  obtain ⟨r, done, rfl⟩ := Option.map_eq_some_iff.mp moved
  obtain ⟨ended, fed, atEnd⟩ := sound.reads
  exact sound.worked rfl rfl (exit_none_of_step (.inr (.inr ⟨k, done⟩))) ⟨ended, fed.own done, atEnd⟩

theorem answer_sound (sound : Sound remote payload s) {stderr : List Char}
    (moved : step remote s (.answer stderr) = some s') : Sound remote payload s' := by
  rw [step] at moved
  split at moved
  case isFalse => cases moved
  case isTrue can =>
    obtain ⟨result, exit, rfl⟩ := Option.map_eq_some_iff.mp moved
    obtain ⟨linked, running⟩ := can
    exact { sound with
      answered := fun zero => by
        obtain ⟨code, output⟩ := result
        obtain rfl := Option.some.inj zero
        obtain ⟨ended, fed, atEnd⟩ := sound.reads
        exact ⟨exit, ended, fed, fun past => sound.whole linked (atEnd past)⟩
      exited := fun _ => rfl
      returned := fun reply place => absurd (running.symm.trans (sound.returned reply place).1) (by simp) }

theorem giveUp_sound (sound : Sound remote payload s) {stderr : List Char}
    (moved : step remote s (.giveUp stderr) = some s') : Sound remote payload s' := by
  rw [step] at moved
  split at moved
  case isFalse => cases moved
  case isTrue running =>
    obtain rfl := Option.some.inj moved
    exact { sound.hungUp with
      answered := nofun
      exited := fun _ => rfl
      returned := fun reply place => absurd (running.symm.trans (sound.returned reply place).1) (by simp) }

theorem raise_sound (sound : Sound remote payload s)
    (moved : step remote s .raise = some s') : Sound remote payload s' := by
  rw [step, raise] at moved
  split at moved
  case h_3 =>
    obtain rfl := Option.some.inj moved
    exact { sound with exited := nofun, closing := nofun, returned := nofun }
  all_goals cases moved

theorem poll_sound (sound : Sound remote payload s) {late : Bool}
    (moved : step remote s (.poll late) = some s') : Sound remote payload s' := by
  have early {point : Point} (exited : point.exited = false)
      (closing : point = .closeInput → s.writeTask = .finished) :
      Sound remote payload { s with point := point } :=
    { sound with
      exited := fun no => by
        change point.exited = true at no
        rw [exited] at no
        cases no
      closing := closing
      returned := fun reply place => by
        change point = .returned reply at place
        rw [place] at exited
        cases exited }
  have past {point : Point} (exited : s.exitCode.isSome) (closing : point ≠ .closeInput)
      (returned : ∀ reply, point = .returned reply →
        s.exitCode = some 0 ∧ reply = SnapshotStore.trim s.stdout) :
      Sound remote payload { s with point := point } :=
    { sound with exited := fun _ => exited, closing := fun no => absurd no closing, returned := returned }
  rw [step, poll] at moved
  cases point : s.point with
  | returned reply | threw message =>
    rw [point] at moved
    cases moved
  | waitWritten =>
    simp only [point] at moved
    cases task : s.writeTask with
    | running =>
      simp only [task] at moved
      split at moved
      case isFalse => cases moved
      case isTrue =>
        obtain rfl := Option.some.inj moved
        exact task ▸ early rfl nofun
    | finished =>
      simp only [task] at moved
      obtain rfl := Option.some.inj moved
      exact task ▸ early rfl fun _ => task
    | faulted =>
      simp only [task] at moved
      obtain rfl := Option.some.inj moved
      exact task ▸ early rfl nofun
  | kill message =>
    rw [point] at moved
    obtain rfl := Option.some.inj moved
    have code : s.exitCode.or (some (-1)) = some 0 → s.exitCode = some 0 := by
      cases s.exitCode <;> simp
    exact { sound.hungUp with
      answered := fun zero => sound.hungUp.answered (code zero)
      exited := fun _ => by cases known : s.exitCode <;> simp
      closing := nofun
      returned := nofun }
  | waitKilled message =>
    rw [point] at moved
    obtain rfl := Option.some.inj moved
    exact past (sound.exited (by rw [point]; rfl)) nofun nofun
  | closeInput =>
    rw [point] at moved
    obtain rfl := Option.some.inj moved
    exact { sound with
      closed := fun _ => sound.sent (sound.closing point)
      exited := nofun
      closing := nofun
      returned := nofun }
  | waitForExit =>
    simp only [point] at moved
    split at moved
    case isTrue exited =>
      obtain rfl := Option.some.inj moved
      exact past exited nofun nofun
    case isFalse =>
      split at moved
      case isFalse => cases moved
      case isTrue =>
        obtain rfl := Option.some.inj moved
        exact early rfl nofun
  | readOutput =>
    rw [point] at moved
    obtain rfl := Option.some.inj moved
    exact past (sound.exited (by rw [point]; rfl)) nofun nofun
  | checkExitCode =>
    rw [point] at moved
    obtain ⟨next, checked, rfl⟩ := Option.map_eq_some_iff.mp moved
    rw [checkExitCode] at checked
    split at checked
    case h_1 => cases checked
    case h_2 code exited =>
      have known : s.exitCode.isSome := by rw [exited]; rfl
      split at checked
      case isTrue zero =>
        obtain rfl := Option.some.inj checked
        exact past known nofun fun reply same => ⟨zero ▸ exited, (Point.returned.inj same).symm⟩
      case isFalse =>
        obtain rfl := Option.some.inj checked
        exact past known nofun nofun

theorem step_sound (sound : Sound remote payload s) (moved : step remote s move = some s') :
    Sound remote payload s' := by
  cases move with
  | send n => exact send_sound sound moved
  | finishWrite =>
    rw [step] at moved
    split at moved
    case isFalse => cases moved
    case isTrue done =>
      obtain rfl := Option.some.inj moved
      exact { sound with sent := fun _ => done.2, closing := fun _ => rfl }
  | faultWrite =>
    rw [step] at moved
    split at moved
    case isFalse => cases moved
    case isTrue running =>
      obtain rfl := Option.some.inj moved
      exact { sound with
        sent := nofun
        closing := fun place => absurd (running.symm.trans (sound.closing place)) (by simp) }
  | forward n => exact forward_sound sound moved
  | forwardEnd => exact forwardEnd_sound sound moved
  | lose n => exact Option.some.inj moved ▸ sound.lost n
  | receive n => exact receive_sound sound moved
  | receiveEnd => exact receiveEnd_sound sound moved
  | own k => exact own_sound sound moved
  | answer stderr => exact answer_sound sound moved
  | giveUp stderr => exact giveUp_sound sound moved
  | poll late => exact poll_sound sound moved
  | raise => exact raise_sound sound moved

theorem started_sound : Sound remote payload (started remote payload) where
  split := rfl
  sent := nofun
  closed := nofun
  forwarded := fun _ => rfl
  within := List.nil_prefix
  complete := nofun
  reads := ⟨false, .start, nofun⟩
  answered := nofun
  exited := nofun
  closing := nofun
  returned := nofun

/-- In whatever order the function, the child, the connection and the command take their steps: what
the command has read is a beginning of the payload, and all of it once it has seen the end of its input
past a connection that is whole. A reply that is returned is the one of a command that has ended with 0
and, if it has seen the end of its input, has read the payload. And an error with a text is one of a
child that has ended. -/
theorem upload_exact
    (reach : Reach (step remote) (fun _ _ => True) (started remote payload) s) :
    (∃ bytes ended, Fed remote s.remote bytes ended ∧ bytes <+: payload ∧
      (ended → s.linked → bytes = payload)) ∧
    (∀ reply, s.point = .returned reply → ∃ bytes ended output, Fed remote s.remote bytes ended ∧
      remote.exit s.remote = some (0, output) ∧ reply = SnapshotStore.trim output ∧
      bytes <+: payload ∧ (ended → bytes = payload)) ∧
    (∀ message, s.point = .threw (some message) → s.exitCode.isSome) := by
  have sound : Sound remote payload s :=
    reach.invariant started_sound fun _ _ _ sound _ moved => step_sound sound moved
  have within : s.wire.taken <+: payload := Pipe.taken_prefix.trans sound.within
  refine ⟨?_, fun reply place => ?_, fun message place => sound.exited (by rw [place]; rfl)⟩
  · obtain ⟨ended, fed, atEnd⟩ := sound.reads
    exact ⟨_, ended, fed, within, fun past linked => sound.whole linked (atEnd past)⟩
  · obtain ⟨zero, same⟩ := sound.returned reply place
    obtain ⟨exit, ended, fed, whole⟩ := sound.answered zero
    exact ⟨_, ended, s.stdout, fed, exit, same, within, whole⟩

end Runs

end WinBoot.SshUpload
