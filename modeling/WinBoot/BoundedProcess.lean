import WinBoot.Interleaving
import WinBoot.Transitions

/-! A child process whose two logs are read while it runs: what the polls of `Invoke-BoundedProcess`
see of what the child writes, in whatever order the two take their steps. -/

namespace WinBoot.BoundedProcess
open Transitions Interleaving

/-- A character that is one byte of a log. -/
abbrev Ascii := {c : Char // c.toNat < 128}

abbrev Text := List Ascii

inductive Stream
  | stdout
  | stderr
deriving DecidableEq

instance : Fintype Stream := ⟨{.stdout, .stderr}, by intro stream; cases stream <;> simp⟩

structure Call where
  filePath : String
  timeoutSeconds : Int
  stopOnPattern : String
  logRoot : String
  stamp : String

def Call.stdoutPath (call : Call) : String := call.logRoot ++ "\\" ++ call.stamp ++ ".stdout.log"

def Call.stderrPath (call : Call) : String := call.logRoot ++ "\\" ++ call.stamp ++ ".stderr.log"

structure BoundedResult where
  exitCode : Int
  matched : Bool
  output : Text
  stdoutLog : String
  stderrLog : String
deriving DecidableEq

/-- The statement of `Invoke-BoundedProcess` that comes next. An error of its own has no text here. -/
inductive Point
  | checkExited
  | read (stream : Stream)
  | testPattern
  | stopProcess
  | waitForExit
  | kill
  | waitAgain
  | checkDeadline
  | sleep
  | drain (stream : Stream)
  | report
  | returned (result : BoundedResult)
  | threw (message : Option String)
deriving DecidableEq

/-- The child with its logs, and the variables of `Invoke-BoundedProcess`. -/
structure State where
  exitCode : Option Int
  file : Stream → Option Text
  point : Point
  offset : Stream → Nat
  allText : Text
  matched : Bool
  timedOut : Bool
  raised : Bool

/-- The child writes and exits when it likes. A statement is told whether the deadline has passed, and any
may raise an error. -/
inductive Move
  | write (stream : Stream) (text : Text)
  | exit (code : Int)
  | poll (late : Bool)
  | raise

def getLogDelta (file : Option Text) (offset : Nat) : Text × Nat :=
  match file with
  | none => ([], offset)
  | some text => if text.length ≤ offset then ([], offset) else (text.drop offset, text.length)

namespace State

/-- The process has just been started. -/
def started : State where
  exitCode := none
  file := fun _ => none
  point := .checkExited
  offset := fun _ => 0
  allText := []
  matched := false
  timedOut := false
  raised := false

def written (s : State) (stream : Stream) : Text := (s.file stream).getD []

def unread (s : State) (stream : Stream) : Text := (s.written stream).drop (s.offset stream)

def write (s : State) (stream : Stream) (text : Text) : State :=
  { s with file := Function.update s.file stream (some (s.written stream ++ text)) }

def collect (s : State) (stream : Stream) (next : Point) : State :=
  let delta := getLogDelta (s.file stream) (s.offset stream)
  { s with
    allText := s.allText ++ delta.1
    offset := Function.update s.offset stream delta.2
    point := next }

/-- An error inside `try` leads to the `finally` block, one behind it to the caller. -/
def raise (s : State) : Option State :=
  match s.point with
  | .drain _ | .report => some { s with point := .threw none }
  | .returned _ | .threw _ => none
  | _ => some { s with raised := true, point := .drain .stdout }

end State

section Steps

/-! `-match`, which fails on what is no regular expression. -/

variable (isMatch : Text → String → Option Bool) (call : Call)

def report (s : State) : Point :=
  match s.exitCode with
  | none => .threw (some ("Tracked child process did not exit: " ++ call.filePath))
  | some code =>
    if s.timedOut then .threw (some ("Process timed out after " ++ toString call.timeoutSeconds ++
      " seconds: " ++ call.filePath))
    else .returned ⟨code, s.matched, s.allText, call.stdoutPath, call.stderrPath⟩

def testPattern (s : State) : Option State :=
  if call.stopOnPattern = "" then some { s with point := .checkDeadline }
  else match isMatch s.allText call.stopOnPattern with
    | none => s.raise
    | some true => some { s with matched := true, point := .stopProcess }
    | some false => some { s with point := .checkDeadline }

def poll (s : State) (late : Bool) : Option State :=
  match s.point with
  | .checkExited =>
    some { s with point := if s.exitCode.isSome then .drain .stdout else .read .stdout }
  | .read .stdout => some (s.collect .stdout (.read .stderr))
  | .read .stderr => some (s.collect .stderr .testPattern)
  | .testPattern => testPattern isMatch call s
  | .checkDeadline =>
    some (if late then { s with timedOut := true, point := .stopProcess } else { s with point := .sleep })
  | .sleep => some { s with point := .checkExited }
  | .stopProcess => some { s with point := .waitForExit }
  | .waitForExit => some { s with point := if s.exitCode.isSome then .drain .stdout else .kill }
  | .kill => some { s with point := .waitAgain }
  | .waitAgain => some { s with point := .drain .stdout }
  | .drain .stdout => some (s.collect .stdout (.drain .stderr))
  | .drain .stderr => some (s.collect .stderr (if s.raised then .threw none else .report))
  | .report => some { s with point := report call s }
  | .returned _ | .threw _ => none

def step (s : State) : Move → Option State
  | .write stream text => if s.exitCode = none then some (s.write stream text) else none
  | .exit code => if s.exitCode = none then some { s with exitCode := some code } else none
  | .poll late => poll isMatch call s late
  | .raise => s.raise

/-- The pattern is given and occurs in a text. -/
def Stops (text : Text) : Prop := call.stopOnPattern ≠ "" ∧ isMatch text call.stopOnPattern = some true

/-- The output has every character of both logs once and in its order, and `Matched` says whether the
pattern occurs in it. -/
structure Consistent (s : State) (result : BoundedResult) : Prop where
  complete : Interleaves s.written result.output
  matched : result.matched = true ↔ Stops isMatch call result.output

/-- The last read of the log is over. -/
def Point.closed : Point → Stream → Bool
  | .drain .stderr, .stdout => true
  | .report, _ | .returned _, _ | .threw _, _ => true
  | _, _ => false

/-- The last read of the log is over, and no error has been thrown. -/
def Point.drained : Point → Stream → Bool
  | .drain .stderr, .stdout => true
  | .report, _ | .returned _, _ => true
  | _, _ => false

/-! A step of a run is a move with the state that it is made in. -/

/-- A polling pass finds the pattern in what has been read. -/
def Notices (made : State × Move) : Prop :=
  (∃ late, made.2 = .poll late) ∧ made.1.point = .testPattern ∧ Stops isMatch call made.1.allText

/-- The child writes to a log after the last read of it. -/
def WritesLate (stream : Stream) (made : State × Move) : Prop :=
  ∃ text, made.2 = .write stream text ∧ text ≠ [] ∧ made.1.point.closed stream

/-- The `finally` block reads the second log. -/
def ReadsLast (made : State × Move) : Prop :=
  (∃ late, made.2 = .poll late) ∧ made.1.point = .drain .stderr

/-- No log is written to after its last read, and a polling pass has seen the pattern if and only if it
occurs in the text that the last read completes. -/
structure Timely (history : List (State × Move)) : Prop where
  written : ∀ made ∈ history, ∀ stream, ¬WritesLate stream made
  settled : ∀ last ∈ history, ReadsLast last →
    ((∃ made ∈ history, Notices isMatch call made) ↔
      Stops isMatch call (last.1.allText ++ last.1.unread .stderr))

end Steps

/-! ### What a move does -/

theorem getLogDelta_text (file : Option Text) (offset : Nat) :
    (getLogDelta file offset).1 = (file.getD []).drop offset := by
  cases file with
  | none => simp [getLogDelta]
  | some text =>
    simp only [getLogDelta, Option.getD_some]
    split
    · next short => exact (List.drop_eq_nil_of_le short).symm
    · rfl

theorem getLogDelta_offset (file : Option Text) (offset : Nat)
    (within : offset ≤ (file.getD []).length) :
    (getLogDelta file offset).2 = (file.getD []).length := by
  cases file with
  | none => simpa [getLogDelta] using within
  | some text =>
    simp only [getLogDelta, Option.getD_some] at within ⊢
    split <;> omega

namespace State

variable {s s' : State} {stream other : Stream} {text : Text} {next : Point}

theorem written_write : (s.write stream text).written stream = s.written stream ++ text := by
  simp [written, write]

theorem written_write_of_ne (ne : other ≠ stream) :
    (s.write stream text).written other = s.written other := by
  simp [written, write, ne]

theorem allText_collect : (s.collect stream next).allText = s.allText ++ s.unread stream := by
  rw [collect, unread, written, getLogDelta_text]

theorem offset_collect (within : s.offset stream ≤ (s.written stream).length) :
    (s.collect stream next).offset stream = (s.written stream).length := by
  simp only [collect, Function.update_self]
  exact getLogDelta_offset _ _ within

theorem offset_collect_of_ne (ne : other ≠ stream) :
    (s.collect stream next).offset other = s.offset other := by
  simp [collect, ne]

@[simp] theorem written_collect : (s.collect stream next).written = s.written := rfl

@[simp] theorem point_collect : (s.collect stream next).point = next := rfl

@[simp] theorem matched_collect : (s.collect stream next).matched = s.matched := rfl

/-- What a call returns is what its variables hold. -/
def Reported (s : State) : Prop :=
  ∀ result, s.point = .returned result → result.matched = s.matched ∧ result.output = s.allText

/-- What a statement that neither reads nor finds the pattern leaves as it is. -/
structure Quiet (s s' : State) : Prop where
  file : s'.file = s.file
  offset : s'.offset = s.offset
  allText : s'.allText = s.allText
  matched : s'.matched = s.matched
  closed : ∀ stream, s.point.closed stream → s'.point.closed stream
  drained : ∀ stream, s'.point.drained stream → s.point.drained stream
  reported : s.Reported → s'.Reported

theorem Quiet.written (quiet : Quiet s s') : s'.written = s.written := by
  funext stream
  rw [State.written, quiet.file, State.written]

end State

/-- The log that is read next, and the statement behind the read. -/
def State.reads (s : State) : Option (Stream × Point) :=
  match s.point with
  | .read .stdout => some (.stdout, .read .stderr)
  | .read .stderr => some (.stderr, .testPattern)
  | .drain .stdout => some (.stdout, .drain .stderr)
  | .drain .stderr => some (.stderr, if s.raised then .threw none else .report)
  | _ => none

section Runs

variable {isMatch : Text → String → Option Bool} {call : Call}

/-- The kinds of moves. -/
inductive Effect (isMatch : Text → String → Option Bool) (call : Call) (s s' : State) : Move → Prop
  | write (stream : Stream) (text : Text) (left : s' = s.write stream text) :
    Effect isMatch call s s' (.write stream text)
  | read (late : Bool) (stream : Stream) (next : Point) (reads : s.reads = some (stream, next))
    (left : s' = s.collect stream next) : Effect isMatch call s s' (.poll late)
  | notice (late : Bool) (point : s.point = .testPattern) (stops : Stops isMatch call s.allText)
    (left : s' = { s with matched := true, point := .stopProcess }) : Effect isMatch call s s' (.poll late)
  | quiet (move : Move) (unwritten : ∀ stream text, move ≠ .write stream text)
    (unread : ¬ReadsLast (s, move)) (unnoticed : ¬Notices isMatch call (s, move)) (quiet : s.Quiet s') :
    Effect isMatch call s s' move

variable {s s' : State} {move : Move}

/-- A move of the point alone. -/
theorem quiet_at {point : Point} (closed : ∀ stream, s.point.closed stream → point.closed stream)
    (drained : ∀ stream, point.drained stream → s.point.drained stream)
    (reported : State.Reported { s with point := point }) : s.Quiet { s with point := point } :=
  ⟨rfl, rfl, rfl, rfl, closed, drained, fun _ => reported⟩

theorem raise_quiet (raised : s.raise = some s') : s.Quiet s' := by
  unfold State.raise at raised
  cases point : s.point with
  | drain stream =>
    rw [point] at raised
    cases raised
    exact quiet_at (fun _ _ => rfl) (fun _ none => by cases none) (fun _ other => by cases other)
  | report =>
    rw [point] at raised
    cases raised
    exact quiet_at (fun _ _ => rfl) (fun _ none => by cases none) (fun _ other => by cases other)
  | returned result =>
    rw [point] at raised
    cases raised
  | threw message =>
    rw [point] at raised
    cases raised
  | _ =>
    rw [point] at raised
    cases raised
    exact ⟨rfl, rfl, rfl, rfl, fun _ closed => by simp [Point.closed, point] at closed,
      (fun _ drained => by cases drained), fun _ _ other => by cases other⟩

theorem testPattern_effect (point : s.point = .testPattern) (late : Bool)
    (moved : testPattern isMatch call s = some s') : Effect isMatch call s s' (.poll late) := by
  have unread : ¬ReadsLast (s, Move.poll late) := by simp [ReadsLast, point]
  have quiet : s.Quiet { s with point := .checkDeadline } :=
    quiet_at (fun _ closed => by simp [Point.closed, point] at closed) (fun _ drained => by cases drained)
      (fun _ other => by cases other)
  unfold testPattern at moved
  split at moved
  · next absent =>
    cases moved
    exact .quiet _ (by simp) unread (by simp [Notices, Stops, absent]) quiet
  · next given =>
    split at moved
    · next failed =>
        exact .quiet _ (by simp) unread (by simp [Notices, Stops, failed]) (raise_quiet moved)
    · next found =>
      cases moved
      exact .notice late point ⟨given, found⟩ rfl
    · next missed =>
      cases moved
      exact .quiet _ (by simp) unread (by simp [Notices, Stops, missed]) quiet

theorem report_closed {stream : Stream} : (report call s).closed stream := by
  unfold report
  split
  · rfl
  · split <;> rfl

theorem report_reported : State.Reported { s with point := report call s } := by
  intro result returned
  change report call s = .returned result at returned
  unfold report at returned
  split at returned
  · cases returned
  · split at returned
    · cases returned
    · cases returned
      exact ⟨rfl, rfl⟩

theorem poll_effect (late : Bool) (moved : poll isMatch call s late = some s') :
    Effect isMatch call s s' (.poll late) := by
  have read {stream : Stream} {next : Point} (reads : s.reads = some (stream, next))
      (left : some (s.collect stream next) = some s') : Effect isMatch call s s' (.poll late) :=
    .read late stream next reads (Option.some.inj left).symm
  have quiet {point : Point} (here : s.point = point) (untested : point ≠ .testPattern)
      (unread : point ≠ .drain .stderr) (same : s.Quiet s') : Effect isMatch call s s' (.poll late) :=
    .quiet _ (by simp) (by simpa [ReadsLast, here] using unread) (by simp [Notices, here, untested]) same
  unfold poll at moved
  cases point : s.point with
  | testPattern =>
    rw [point] at moved
    exact testPattern_effect point late moved
  | read stream | drain stream =>
    rw [point] at moved
    cases stream with
    | stdout | stderr => exact read (by simp [State.reads, point]) moved
  | stopProcess | kill | waitAgain | sleep =>
    rw [point] at moved
    cases moved
    exact quiet point (by simp) (by simp)
      (quiet_at (fun _ closed => by simp [Point.closed, point] at closed)
      (fun _ drained => by cases drained) (fun _ other => by cases other))
  | checkExited | waitForExit =>
    rw [point] at moved
    cases moved
    refine quiet point (by simp) (by simp)
      (quiet_at (fun _ closed => by simp [Point.closed, point] at closed) (fun _ drained => ?_)
        (fun _ other => ?_))
    · cases exited : s.exitCode <;> simp [exited, Point.drained] at drained
    · cases exited : s.exitCode <;> simp [exited] at other
  | checkDeadline =>
    rw [point] at moved
    have opened {stream : Stream} (closed : s.point.closed stream) : False := by
      simp [Point.closed, point] at closed
    refine quiet point (by simp) (by simp) ?_
    cases late with
    | false =>
      cases moved
      exact quiet_at (fun _ closed => (opened closed).elim) (fun _ drained => by cases drained)
        (fun _ other => by cases other)
    | true =>
      cases moved
      exact ⟨rfl, rfl, rfl, rfl, fun _ closed => (opened closed).elim, (fun _ drained => by cases drained),
        fun _ _ other => by cases other⟩
  | report =>
    rw [point] at moved
    cases moved
    exact quiet point (by simp) (by simp)
      (quiet_at (fun _ _ => report_closed) (fun _ _ => by rw [point]; rfl) report_reported)
  | returned result | threw message =>
    rw [point] at moved
    cases moved

theorem step_effect (moved : step isMatch call s move = some s') :
    Effect isMatch call s s' move := by
  cases move with
  | write stream text =>
    simp only [step] at moved
    split at moved
    · cases moved
      exact .write stream text rfl
    · cases moved
  | exit code =>
    simp only [step] at moved
    split at moved
    · cases moved
      exact .quiet _ (by simp) (by simp [ReadsLast]) (by simp [Notices])
        ⟨rfl, rfl, rfl, rfl, fun _ closed => closed, fun _ drained => drained,
          fun reported => reported⟩
    · cases moved
  | poll late => exact poll_effect late moved
  | raise => exact .quiet _ (by simp) (by simp [ReadsLast]) (by simp [Notices]) (raise_quiet moved)

theorem drained_closed {point : Point} {stream : Stream} (drained : point.drained stream) :
    point.closed stream := by
  cases point with
  | drain log => cases log <;> cases stream <;> first | rfl | cases drained
  | report => rfl
  | returned _ => rfl
  | _ => cases drained

theorem reads_cases {stream : Stream} {next : Point} (reads : s.reads = some (stream, next)) :
    (s.point = .read stream ∧ ∀ other, next.closed other = false ∧ next.drained other = false) ∨
      (s.point = .drain .stdout ∧ stream = .stdout ∧ next = .drain .stderr) ∨
      (s.point = .drain .stderr ∧ stream = .stderr ∧ (next = .threw none ∨ next = .report)) := by
  unfold State.reads at reads
  cases point : s.point with
  | read log =>
    cases log <;> rw [point] at reads <;> cases reads <;> exact .inl ⟨rfl, fun _ => ⟨rfl, rfl⟩⟩
  | drain log =>
    cases log with
    | stdout =>
      rw [point] at reads
      cases reads
      exact .inr (.inl ⟨rfl, rfl, rfl⟩)
    | stderr =>
      rw [point] at reads
      cases reads
      refine .inr (.inr ⟨rfl, rfl, ?_⟩)
      cases s.raised
      · exact .inr rfl
      · exact .inl rfl
  | _ =>
    rw [point] at reads
    cases reads

/-! ### What has been read -/

structure Collected (s : State) : Prop where
  text : Interleaves (fun stream => (s.written stream).take (s.offset stream)) s.allText
  within : ∀ stream, s.offset stream ≤ (s.written stream).length

theorem Collected.write (collected : Collected s) (stream : Stream) (text : Text) :
    Collected (s.write stream text) := by
  have begins (other : Stream) : s.written other <+: (s.write stream text).written other := by
    obtain rfl | ne := eq_or_ne other stream
    · exact State.written_write ▸ List.prefix_append _ _
    · rw [State.written_write_of_ne ne]
  refine ⟨?_, fun other => (collected.within other).trans (begins other).length_le⟩
  have same : (fun other => ((s.write stream text).written other).take (s.offset other)) =
      fun other => (s.written other).take (s.offset other) := by
    funext other
    obtain ⟨rest, rest_eq⟩ := begins other
    rw [← rest_eq, List.take_append_of_le_length (collected.within other)]
  exact same.symm ▸ collected.text

theorem Collected.collect (collected : Collected s) (stream : Stream) (next : Point) :
    Collected (s.collect stream next) := by
  constructor
  · rw [State.allText_collect]
    refine collected.text.append stream _ ?_ fun other ne => ?_
    · rw [State.offset_collect (collected.within stream), State.written_collect, List.take_length]
      exact (List.take_append_drop _ _).symm
    · rw [State.offset_collect_of_ne ne, State.written_collect]
  · intro other
    obtain rfl | ne := eq_or_ne other stream
    · rw [State.offset_collect (collected.within other), State.written_collect]
    · rw [State.offset_collect_of_ne ne, State.written_collect]
      exact collected.within other

theorem Collected.effect (collected : Collected s) (effect : Effect isMatch call s s' move) :
    Collected s' := by
  cases effect with
  | write stream text left => exact left ▸ collected.write stream text
  | read late stream next reads left => exact left ▸ collected.collect stream next
  | notice late point stops left => exact left ▸ ⟨collected.text, collected.within⟩
  | quiet _ unwritten unread unnoticed quiet =>
    constructor
    · rw [quiet.written, quiet.offset, quiet.allText]
      exact collected.text
    · rw [quiet.written, quiet.offset]
      exact collected.within

/-! ### The last reads -/

variable {history : List (State × Move)}

theorem exists_snoc {P : State × Move → Prop} :
    (∃ made ∈ history ++ [(s, move)], P made) ↔ (∃ made ∈ history, P made) ∨ P (s, move) := by
  simp only [List.mem_append, List.mem_singleton, or_and_right, exists_or, exists_eq_left]

/-- A log that is written to after its last read is never read to its end, any other is. The text is
complete when the second log has been read for the last time. -/
structure Closing (history : List (State × Move)) (s : State) : Prop where
  late : ∀ stream, (∃ made ∈ history, WritesLate stream made) →
    s.point.closed stream ∧ s.offset stream < (s.written stream).length
  full : ∀ stream, s.point.drained stream → (¬∃ made ∈ history, WritesLate stream made) →
    s.offset stream = (s.written stream).length
  last : ∀ made ∈ history, ReadsLast made →
    s.point.closed .stderr ∧ s.allText = made.1.allText ++ made.1.unread .stderr
  done : s.point.drained .stderr → ∃ made ∈ history, ReadsLast made

theorem started_closing : Closing [] .started where
  late := by simp
  full := by simp [Point.drained, State.started]
  last := by simp
  done := by simp [Point.drained, State.started]

theorem Closing.write (closing : Closing history s) (collected : Collected s) (stream : Stream)
    (text : Text) :
    Closing (history ++ [(s, .write stream text)]) (s.write stream text) where
  late log := by
    rw [exists_snoc]
    rintro (before | ⟨text', same, nonempty, closed⟩)
    · have ⟨closed, short⟩ := closing.late log before
      refine ⟨closed, short.trans_le ?_⟩
      obtain rfl | ne := eq_or_ne log stream
      · simp [State.written_write]
      · rw [State.written_write_of_ne ne]
    · cases same
      refine ⟨closed, (collected.within stream).trans_lt ?_⟩
      have : 0 < text.length := List.length_pos_iff.mpr nonempty
      simp only [State.written_write, List.length_append]
      omega
  full log drained := by
    rw [exists_snoc, not_or]
    rintro ⟨before, timely⟩
    have read : s.offset log = (s.written log).length := closing.full log drained before
    obtain rfl | ne := eq_or_ne log stream
    · have empty : text = [] := by
        by_contra nonempty
        exact timely ⟨text, rfl, nonempty, drained_closed drained⟩
      rw [State.written_write, empty, List.append_nil]
      exact read
    · rw [State.written_write_of_ne ne]
      exact read
  last made member reads := by
    obtain before | rfl := List.mem_append.mp member |>.imp_right List.mem_singleton.mp
    · exact closing.last made before reads
    · simp [ReadsLast] at reads
  done drained := exists_snoc.mpr (.inl (closing.done drained))

/-- No last read is over yet, and the statement makes none of the second log. -/
theorem Closing.opened (closing : Closing history s) (late : Bool)
    (opened : ∀ stream, s.point.closed stream = false) (unread : s.point ≠ .drain .stderr)
    (full : ∀ stream, s'.point.drained stream → s'.offset stream = (s'.written stream).length)
    (undone : s'.point.drained .stderr = false) : Closing (history ++ [(s, .poll late)]) s' where
  late log := by
    rw [exists_snoc, or_iff_left (by simp [WritesLate])]
    intro before
    exact absurd (closing.late log before).1 (by simp [opened])
  full log drained _ := full log drained
  last made member reads := by
    obtain before | rfl := List.mem_append.mp member |>.imp_right List.mem_singleton.mp
    · exact absurd (closing.last made before reads).1 (by simp [opened])
    · exact absurd reads.2 unread
  done drained := by
    rw [undone] at drained
    cases drained

theorem Closing.read (closing : Closing history s) (collected : Collected s) (late : Bool)
    {stream : Stream}
    {next : Point} (reads : s.reads = some (stream, next)) :
    Closing (history ++ [(s, .poll late)]) (s.collect stream next) := by
  have whole : (s.collect stream next).offset stream = (s.written stream).length :=
    State.offset_collect (collected.within stream)
  obtain ⟨point, nowhere⟩ | ⟨point, rfl, rfl⟩ | ⟨point, rfl, ended⟩ := reads_cases reads
  · refine closing.opened late (fun log => by rw [point]; rfl) (by simp [point])
      (fun log drained => ?_) ?_
    · exact absurd drained (by simp [nowhere])
    · exact (nowhere .stderr).2
  · refine closing.opened late (fun log => by rw [point]; rfl) (by simp [point])
      (fun log drained => ?_) rfl
    cases log with
    | stdout => exact whole
    | stderr => cases drained
  · have unwritten (log : Stream) : ¬WritesLate log (s, Move.poll late) := by simp [WritesLate]
    have stdout : (s.collect .stderr next).offset .stdout = s.offset .stdout :=
      State.offset_collect_of_ne (by simp)
    have closed : next.closed .stderr ∧ next.closed .stdout := by
      obtain rfl | rfl := ended <;> exact ⟨rfl, rfl⟩
    have opened : s.point.closed .stderr = false := by rw [point]; rfl
    refine ⟨fun log => ?_, fun log drained => ?_, fun made member reads => ?_, fun _ => ?_⟩
    · rw [exists_snoc, or_iff_left (unwritten log)]
      intro before
      have ⟨closedBefore, short⟩ := closing.late log before
      cases log with
      | stdout => exact ⟨closed.2, stdout ▸ short⟩
      | stderr => exact absurd closedBefore (by simp [opened])
    · rw [exists_snoc, or_iff_left (unwritten log)]
      intro before
      cases log with
      | stdout => exact stdout.trans (closing.full .stdout (by rw [point]; rfl) before)
      | stderr => exact whole
    · obtain before | rfl := List.mem_append.mp member |>.imp_right List.mem_singleton.mp
      · exact absurd (closing.last made before reads).1 (by simp [opened])
      · exact ⟨closed.1, State.allText_collect⟩
    · exact exists_snoc.mpr (.inr ⟨⟨late, rfl⟩, point⟩)

theorem Closing.quiet (closing : Closing history s)
    (unwritten : ∀ stream text, move ≠ .write stream text)
    (unread : ¬ReadsLast (s, move)) (quiet : s.Quiet s') : Closing (history ++ [(s, move)]) s' where
  late log := by
    rw [exists_snoc, or_iff_left fun ⟨text, same, _⟩ => unwritten log text same]
    intro before
    have ⟨closed, short⟩ := closing.late log before
    exact ⟨quiet.closed log closed, by rwa [quiet.offset, quiet.written]⟩
  full log drained := by
    rw [exists_snoc, or_iff_left fun ⟨text, same, _⟩ => unwritten log text same, quiet.offset, quiet.written]
    exact closing.full log (quiet.drained log drained)
  last made member reads := by
    obtain before | rfl := List.mem_append.mp member |>.imp_right List.mem_singleton.mp
    · have ⟨closed, text⟩ := closing.last made before reads
      exact ⟨quiet.closed _ closed, quiet.allText.trans text⟩
    · exact absurd reads unread
  done drained := exists_snoc.mpr (.inl (closing.done (quiet.drained _ drained)))

theorem Closing.effect (closing : Closing history s) (collected : Collected s)
    (effect : Effect isMatch call s s' move) : Closing (history ++ [(s, move)]) s' := by
  cases effect with
  | write stream text left => exact left ▸ closing.write collected stream text
  | read late stream next reads left => exact left ▸ closing.read collected late reads
  | notice late point stops left =>
    subst left
    exact closing.opened late (fun log => by rw [point]; rfl) (by simp [point])
      (fun _ drained => by cases drained) rfl
  | quiet _ unwritten unread unnoticed quiet => exact closing.quiet unwritten unread quiet

/-! ### The result -/

/-- `matched` is set by the passes that find the pattern. -/
theorem matched_effect (effect : Effect isMatch call s s' move)
    (before : s.matched = true ↔ ∃ made ∈ history, Notices isMatch call made) :
    s'.matched = true ↔ ∃ made ∈ history ++ [(s, move)], Notices isMatch call made := by
  rw [exists_snoc, ← before]
  cases effect with
  | write stream text left => simp [left, Notices, State.write]
  | read late stream next reads left =>
    have elsewhere : s.point ≠ .testPattern := by
      obtain ⟨point, _⟩ | ⟨point, _⟩ | ⟨point, _⟩ := reads_cases reads <;> simp [point]
    simp [left, Notices, elsewhere]
  | notice late point stops left => simp [left, Notices, point, stops]
  | quiet _ unwritten unread unnoticed quiet => rw [quiet.matched, or_iff_left unnoticed]

theorem reported_effect (effect : Effect isMatch call s s' move) (reported : s.Reported) :
    s'.Reported := by
  cases effect with
  | write stream text left => exact left ▸ reported
  | read late stream next reads left =>
    intro result returned
    rw [left, State.point_collect] at returned
    obtain ⟨_, nowhere⟩ | ⟨_, _, rfl⟩ | ⟨_, _, rfl | rfl⟩ := reads_cases reads
    · exact absurd (nowhere .stderr).2 (by simp [returned, Point.drained])
    · cases returned
    · cases returned
    · cases returned
  | notice late point stops left =>
    intro result returned
    rw [left] at returned
    cases returned
  | quiet _ unwritten unread unnoticed quiet => exact quiet.reported reported

structure Followed (isMatch : Text → String → Option Bool) (call : Call)
    (history : List (State × Move))
    (s : State) : Prop where
  collected : Collected s
  closing : Closing history s
  matched : s.matched = true ↔ ∃ made ∈ history, Notices isMatch call made
  reported : s.Reported

theorem started_followed : Followed isMatch call [] .started where
  collected := ⟨Interleaves.nil, fun _ => Nat.le_refl 0⟩
  closing := started_closing
  matched := by simp [State.started]
  reported _ other := by cases other

theorem followed (run : Made (step isMatch call) .started history s) :
    Followed isMatch call history s := by
  refine run.invariant started_followed fun history s move s' before moved => ?_
  have effect : Effect isMatch call s s' move := step_effect moved
  exact ⟨before.collected.effect effect, before.closing.effect before.collected effect,
    matched_effect effect before.matched, reported_effect effect before.reported⟩

theorem complete_iff (collected : Collected s) (closing : Closing history s)
    (drained : ∀ stream, s.point.drained stream) :
    Interleaves s.written s.allText ↔ ∀ made ∈ history, ∀ stream, ¬WritesLate stream made := by
  constructor
  · intro complete made member stream late
    have whole : (s.written stream).take (s.offset stream) = s.written stream :=
      congrFun (collected.text.eq_of_isPrefix complete fun _ => List.take_prefix _ _) stream
    have short : s.offset stream < (s.written stream).length :=
      (closing.late stream ⟨made, member, late⟩).2
    have : (s.written stream).length ≤ s.offset stream := List.take_eq_self_iff _ |>.mp whole
    omega
  · intro timely
    have whole : (fun stream => (s.written stream).take (s.offset stream)) = s.written := by
      funext stream
      rw [closing.full stream (drained stream) fun ⟨made, member, late⟩ => timely made member stream late]
      exact List.take_length
    exact whole ▸ collected.text

theorem allText_effect (effect : Effect isMatch call s s' move) : s.allText <+: s'.allText := by
  cases effect with
  | write stream text left => exact left ▸ List.prefix_rfl
  | read late stream next reads left =>
    rw [left, State.allText_collect]
    exact List.prefix_append _ _
  | notice late point stops left => exact left ▸ List.prefix_rfl
  | quiet _ unwritten unread unnoticed quiet => exact quiet.allText ▸ List.prefix_rfl

theorem allText_grows (run : Made (step isMatch call) .started history s) :
    ∀ made ∈ history, made.1.allText <+: s.allText := by
  induction run with
  | start => simp
  | move _ moved ih =>
    intro made member
    have grows := allText_effect (step_effect moved)
    obtain before | rfl := List.mem_append.mp member |>.imp_right List.mem_singleton.mp
    · exact (ih made before).trans grows
    · exact grows

/-- A match that is reported is there in every run, if more text does not undo one. -/
theorem matched_occurs {result : BoundedResult} (run : Made (step isMatch call) .started history s)
    (returned : s.point = .returned result)
    (persists : ∀ text more, Stops isMatch call text → Stops isMatch call (text ++ more))
    (reported : result.matched = true) : Stops isMatch call result.output := by
  have facts := followed run
  have ⟨matched_eq, output_eq⟩ := facts.reported result returned
  obtain ⟨made, member, notices⟩ := facts.matched.mp (matched_eq ▸ reported)
  obtain ⟨more, whole⟩ := allText_grows run made member
  rw [output_eq, ← whole]
  exact persists _ more notices.2.2

end Runs

/-! ### The checkm8 stage -/

def identityFailure : String := "Failed to read DFU USB serial string descriptor|check callback rejected it"

def handoffPattern : String := "TRIGGER_HANDOFF|" ++ identityFailure

/-- The tests of the checkm8 stage on what its call returns. -/
def checkHandoff (isMatch : Text → String → Option Bool) (result : BoundedResult) :
    Except String Unit :=
  let logs := " Logs: " ++ result.stdoutLog ++ ", " ++ result.stderrLog
  if isMatch result.output identityFailure = some true then
    .error ("DFU identity could not be verified during checkm8. Re-enter DFU before retrying." ++ logs)
  else if result.matched = false ∨ isMatch result.output "TRIGGER_HANDOFF" ≠ some true ∨
      isMatch result.output "Stage 0 succeeded" ≠ some true then
    .error ("checkm8 did not reach the verified YOLO handoff." ++ logs)
  else .ok ()

/-- With a consistent result, the stage is judged by what its process has written. -/
theorem checkHandoff_consistent {isMatch : Text → String → Option Bool} {call : Call} {s : State}
    {result : BoundedResult} (pattern : call.stopOnPattern = handoffPattern)
    (alternative : ∀ text, isMatch text "TRIGGER_HANDOFF" = some true → isMatch text handoffPattern = some true)
    (consistent : Consistent isMatch call s result) :
    checkHandoff isMatch result = .ok () ↔ isMatch result.output identityFailure ≠ some true ∧
      isMatch result.output "TRIGGER_HANDOFF" = some true ∧
      isMatch result.output "Stage 0 succeeded" = some true := by
  have seen (handoff : isMatch result.output "TRIGGER_HANDOFF" = some true) : result.matched = true := by
    refine consistent.matched.mpr ⟨?_, pattern ▸ alternative _ handoff⟩
    rw [pattern]
    decide
  by_cases failure : isMatch result.output identityFailure = some true
  · simp [checkHandoff, failure]
  · by_cases handoff : isMatch result.output "TRIGGER_HANDOFF" = some true
    · by_cases stage : isMatch result.output "Stage 0 succeeded" = some true
      · simp [checkHandoff, failure, handoff, stage, seen handoff]
      · simp [checkHandoff, failure, stage]
    · simp [checkHandoff, failure, handoff]

/-- `-match` for a pattern that is a choice of literal texts. -/
def matchLiterals (text : Text) (pattern : String) : Option Bool :=
  let folded := text.map fun c => c.val.toLower
  some ((pattern.toList.splitOn '|').any fun literal => decide (literal.map Char.toLower <:+: folded))

instance (call : Call) (text : Text) : Decidable (Stops matchLiterals call text) :=
  inferInstanceAs (Decidable (_ ∧ _))

def ascii (text : String) : Text :=
  text.toList.filterMap fun c => if small : c.toNat < 128 then some ⟨c, small⟩ else none

def handoffCall : Call := ⟨"openra1n", 120, handoffPattern, "logs", "stamp"⟩

def handoffText : Text := ascii "Stage 0 succeeded TRIGGER_HANDOFF"

/-- The process writes its last words and exits while the poll sleeps. -/
def lastWords : List Move :=
  List.replicate 5 (.poll false) ++ [.write .stdout handoffText, .exit 0] ++ List.replicate 5 (.poll false)

def unmatched : BoundedResult :=
  ⟨0, false, handoffText, handoffCall.stdoutPath, handoffCall.stderrPath⟩

/-- The process writes its last words, is told to stop and exits. -/
def caughtWords : List Move :=
  [.write .stdout handoffText] ++ List.replicate 5 (.poll false) ++ [.exit (-1)] ++
    List.replicate 4 (.poll false)

end WinBoot.BoundedProcess
