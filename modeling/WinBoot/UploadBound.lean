import WinBoot.PongoUpload

/-! How much an upload sends when the file changes under it. The loops send what the reads deliver;
their total is compared with the announced length only behind them. -/

namespace WinBoot.PongoUpload
open Interaction

/-- What the reads deliver up to the first that fails. -/
def readable : List (Except String Chunk) → List UInt8
  | [] => []
  | .error _ :: _ => []
  | .ok chunk :: reads => chunk.1 ++ readable reads

/-- The length in the first control request. -/
def announced : List UsbEvent → Nat
  | ⟨.control _ data, _⟩ :: _ => ofLeBytes data
  | _ => 0

/-- At every moment. -/
def WithinAnnounced (trace : List UsbEvent) : Prop :=
  ∀ sent rest, trace = sent ++ rest → (accepted sent).length ≤ announced trace

section Most

variable {usb : LibUsb} {t : List UsbEvent}

/-- Whatever happens, the device takes a front part of the rest of the chunk. -/
theorem sendLoop_front {buffer : List UInt8} {count : Nat} (offset total : Nat)
    {result : Except String Nat}
    (run : (sendLoop usb buffer count offset total).Runs t result) :
    accepted t <+: (buffer.take count).drop offset := by
  induction left : count - offset using Nat.strongRecOn generalizing offset total t with
  | ind k ih =>
    rw [sendLoop] at run
    split_ifs at run with more
    · obtain ⟨answer, rest, rfl, next⟩ := (Prog.runs_ask ..).mp run
      have first : acceptedBy ⟨.bulk 0x02 ((buffer.take count).drop offset), answer⟩ =
          ((buffer.take count).drop offset).take answer.transferred.val := rfl
      rw [accepted_cons, first]
      split_ifs at next with failed stuck
      · obtain ⟨rfl, -⟩ := next
        rw [accepted_nil, List.append_nil]
        exact List.take_prefix ..
      · obtain ⟨rfl, -⟩ := next
        rw [accepted_nil, List.append_nil]
        exact List.take_prefix ..
      · have later := ih (count - (offset + answer.transferred.val)) (by omega)
          (offset + answer.transferred.val) (total + answer.transferred.val) next rfl
        rw [← List.drop_drop] at later
        have whole := (List.prefix_append_right_inj
          (((buffer.take count).drop offset).take answer.transferred.val)).mpr later
        rwa [List.take_append_drop] at whole
    · obtain ⟨rfl, -⟩ := run
      exact List.nil_prefix

theorem readLoop_front (reads : List (Except String Chunk)) (buffer : List UInt8) (total : Nat)
    {result : Except String Nat} (run : (readLoop usb reads buffer total).Runs t result) :
    accepted t <+: readable reads := by
  induction reads generalizing buffer total t with
  | nil =>
    obtain ⟨rfl, -⟩ := run
    exact List.nil_prefix
  | cons read reads ih =>
    cases read with
    | error error =>
      obtain ⟨rfl, -⟩ := run
      exact List.nil_prefix
    | ok chunk =>
      obtain ⟨t₁, t₂, sent, rfl, run₁, run₂⟩ := (Prog.runs_bind ..).mp run
      have front := sendLoop_front 0 total run₁
      rw [List.drop_zero, List.take_left] at front
      cases sent with
      | error error =>
        obtain ⟨rfl, -⟩ := run₂
        rw [List.append_nil]
        exact front.trans (List.prefix_append ..)
      | ok total₁ =>
        obtain ⟨whole, -⟩ := (sendLoop_runs (by simp) 0 total (Nat.zero_le _) run₁).2 total₁ rfl
        rw [List.drop_zero, List.take_left] at whole
        rw [accepted_append, whole]
        exact (List.prefix_append_right_inj _).mpr (ih _ _ run₂)

theorem upload_front {payload : PayloadFile} {size : Nat} {result : Except String Unit}
    (run : (upload usb payload size).Runs t result) :
    announced t = size % 2 ^ 32 ∧ accepted t <+: readable payload.reads ∧
      (payload.openError ≠ none → accepted t = []) := by
  obtain ⟨t₁, t', ready, rfl, run₁, run'⟩ := (Prog.runs_bind ..).mp run
  obtain ⟨⟨_, answer⟩, rfl, rfl⟩ := control_runs run₁
  refine ⟨ofLeBytes_toLeBytes size, ?_⟩
  change accepted t' <+: _ ∧ (_ → accepted t' = [])
  cases ready with
  | error error =>
    obtain ⟨rfl, -⟩ := run'
    exact ⟨List.nil_prefix, fun _ => rfl⟩
  | ok =>
    cases opened : payload.openError with
    | some error =>
      simp only [opened] at run'
      obtain ⟨rfl, -⟩ := run'
      exact ⟨List.nil_prefix, fun _ => rfl⟩
    | none =>
      simp only [opened] at run'
      obtain ⟨t₂, t₃, total, rfl, run₂, run₃⟩ := (Prog.runs_bind ..).mp run'
      refine ⟨?_, fun failed => absurd rfl failed⟩
      have silent : accepted t₃ = [] := by
        cases total with
        | error error =>
          obtain ⟨rfl, -⟩ := run₃
          rfl
        | ok total =>
          dsimp only at run₃
          split_ifs at run₃ with changed
          · obtain ⟨rfl, -⟩ := run₃
            rfl
          · obtain ⟨boot, rfl, asked⟩ := control_runs run₃
            rw [accepted_cons, acceptedBy_control asked]
            rfl
      rw [accepted_append, silent, List.append_nil]
      exact readLoop_front _ _ _ run₂

end Most

section Whole

variable (usb : LibUsb)

/-- The device may take a chunk at once. -/
theorem sendLoop_whole (chunk : Chunk) (behind : List UInt8) (total : Nat) :
    ∃ t, (sendLoop usb (chunk.1 ++ behind) chunk.1.length 0 total).Runs t
      (.ok (total + chunk.1.length)) := by
  have some : 0 < chunk.1.length := chunk.2.1
  have offered : (((chunk.1 ++ behind).take chunk.1.length).drop 0).length = chunk.1.length := by
    rw [List.drop_zero, List.take_left]
  rw [sendLoop, if_pos some]
  refine ⟨_, ⟨0, Fin.last _⟩, [], rfl, ?_⟩
  dsimp only
  rw [if_neg (by decide), Fin.val_last, offered, if_neg (Nat.ne_of_gt some), sendLoop,
    if_neg (by omega)]
  exact ⟨rfl, rfl⟩

theorem readLoop_whole (reads : List (Except String Chunk)) (buffer : List UInt8) (total : Nat) :
    ∃ t result, (readLoop usb reads buffer total).Runs t result ∧ accepted t = readable reads := by
  induction reads generalizing buffer total with
  | nil => exact ⟨[], _, ⟨rfl, rfl⟩, rfl⟩
  | cons read reads ih =>
    cases read with
    | error error => exact ⟨[], _, ⟨rfl, rfl⟩, rfl⟩
    | ok chunk =>
      obtain ⟨t₁, run₁⟩ := sendLoop_whole usb chunk (buffer.drop chunk.1.length) total
      obtain ⟨t₂, result, run₂, rest⟩ := ih (chunk.1 ++ buffer.drop chunk.1.length)
        (total + chunk.1.length)
      obtain ⟨sent, -⟩ := (sendLoop_runs (by simp) 0 total (Nat.zero_le _) run₁).2 _ rfl
      rw [List.drop_zero, List.take_left] at sent
      refine ⟨t₁ ++ t₂, result, (Prog.runs_bind ..).mpr ⟨t₁, t₂, _, rfl, run₁, run₂⟩, ?_⟩
      rw [accepted_append, sent, rest]
      rfl

theorem upload_whole {payload : PayloadFile} (size : Nat) (opened : payload.openError = none) :
    ∃ t result, (upload usb payload size).Runs t result ∧ accepted t = readable payload.reads := by
  obtain ⟨t, total, run, sent⟩ :=
    readLoop_whole usb payload.reads (List.replicate uploadChunkSize 0) 0
  have announce : (control usb 1 (toLeBytes size)).Runs
      [⟨.control 1 (toLeBytes size), (4 : Int)⟩] (.ok ()) := ⟨4, [], rfl, rfl, rfl⟩
  have boot : (control usb 3 bootCommand).Runs [⟨.control 3 bootCommand, (6 : Int)⟩] (.ok ()) :=
    ⟨6, [], rfl, rfl, rfl⟩
  have rest : ∃ t' result, accepted t' = readable payload.reads ∧
      (upload usb payload size).Runs (⟨.control 1 (toLeBytes size), (4 : Int)⟩ :: t') result := by
    simp only [upload, opened]
    cases total with
    | error error =>
      refine ⟨t ++ [], .error error, by rw [List.append_nil, sent], ?_⟩
      exact (Prog.runs_bind ..).mpr ⟨_, _, .ok (), rfl, announce,
        (Prog.runs_bind ..).mpr ⟨t, [], .error error, rfl, run, rfl, rfl⟩⟩
    | ok total =>
      by_cases whole : total = size
      · refine ⟨t ++ [⟨.control 3 bootCommand, (6 : Int)⟩], .ok (), ?_, ?_⟩
        · rw [accepted_append, sent]
          exact List.append_nil _
        · refine (Prog.runs_bind ..).mpr ⟨_, _, .ok (), rfl, announce,
            (Prog.runs_bind ..).mpr ⟨t, _, .ok total, rfl, run, ?_⟩⟩
          simpa only [whole, ne_eq, not_true_eq_false, if_false] using boot
      · refine ⟨t ++ [], .error s!"payload length changed while reading: {total}/{size}",
          by rw [List.append_nil, sent], (Prog.runs_bind ..).mpr
          ⟨_, _, .ok (), rfl, announce, (Prog.runs_bind ..).mpr ⟨t, [], .ok total, rfl, run, ?_⟩⟩⟩
        simp only [ne_eq, whole, not_false_eq_true, if_true]
        exact ⟨rfl, rfl⟩
  obtain ⟨t', result, sent, run⟩ := rest
  exact ⟨_, result, run, sent⟩

end Whole

/-- Every upload stays within the announced length, whatever the device takes of each transfer,
exactly where the file still has no more than that. -/
theorem upload_within_announced_iff (usb : LibUsb) (payload : PayloadFile)
    {metadata : Except String Metadata} {size : Nat}
    (valid : validatePayload metadata = .ok size) :
    (∀ t result, (upload usb payload size).Runs t result → WithinAnnounced t) ↔
      (payload.openError = none → (readable payload.reads).length ≤ size) := by
  have fits : size % 2 ^ 32 = size := Nat.mod_eq_of_lt (validatePayload_size valid).2
  constructor
  · intro within opened
    obtain ⟨t, result, run, sent⟩ := upload_whole usb size opened
    have whole := within t result run t [] (List.append_nil t).symm
    rwa [sent, (upload_front run).1, fits] at whole
  · rintro short t result run sent rest rfl
    obtain ⟨length, front, unopened⟩ := upload_front run
    rw [length, fits]
    rw [accepted_append] at front unopened
    cases opened : payload.openError with
    | none =>
      have all := ((List.prefix_append ..).trans front).length_le
      exact all.trans (short opened)
    | some error =>
      rw [(List.append_eq_nil_iff.mp (unopened (by simp [opened]))).1]
      exact Nat.zero_le _

theorem smallPayload_within : (readable smallPayload.reads).length = 3 ∧
    ∀ t result, (upload ⟨fun _ => .null⟩ smallPayload 3).Runs t result → WithinAnnounced t :=
  ⟨rfl, (upload_within_announced_iff ⟨fun _ => .null⟩ smallPayload
    (show validatePayload (.ok ⟨true, 3⟩) = .ok 3 from rfl)).mpr fun _ => by decide⟩

/-- The file had two bytes when its length was taken. -/
def grownPayload : PayloadFile := ⟨none, [.ok ⟨[1, 2, 3], by decide⟩]⟩

theorem grownPayload_overruns : validatePayload (.ok ⟨true, 2⟩) = .ok 2 ∧
    ∃ t result, (upload ⟨fun _ => .null⟩ grownPayload 2).Runs t result ∧ ¬WithinAnnounced t := by
  refine ⟨rfl, ?_⟩
  obtain ⟨t, result, run, sent⟩ := upload_whole ⟨fun _ => .null⟩ 2
    (show grownPayload.openError = none from rfl)
  refine ⟨t, result, run, fun within => ?_⟩
  have whole := within t [] (List.append_nil t).symm
  rw [sent, (upload_front run).1] at whole
  exact absurd whole (by decide)

end WinBoot.PongoUpload
