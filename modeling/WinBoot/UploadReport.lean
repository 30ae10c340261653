import WinBoot.BootGate
import WinBoot.UploadBound
import WinBoot.UsbSession

/-! What the restore command can tell from the uploader it has started: its exit status and its
output against what the device has seen. -/

namespace WinBoot.UploadReport
open Interaction PongoUpload UploadArguments UsbSession

/-- The device has taken the whole boot request. -/
def Booted (seen : List UsbEvent) : Prop :=
  (⟨.control 3 bootCommand, (bootCommand.length : Int)⟩ : UsbEvent) ∈ seen

theorem control_ok_iff {usb : LibUsb} {request : UInt8} {data : List UInt8} {t : List UsbEvent}
    {result : Except String Unit} (run : (control usb request data).Runs t result) :
    ∃ answer : Int, t = [⟨.control request data, answer⟩] ∧
      (result = .ok () ↔ answer = data.length) := by
  obtain ⟨t₁, t₂, answer, rfl, asked, rest⟩ := (Prog.runs_bind ..).mp run
  rw [Prog.runs_call] at asked
  subst asked
  refine ⟨answer, ?_⟩
  split_ifs at rest with negative short
  · obtain ⟨rfl, rfl⟩ := rest
    have differ : answer ≠ data.length := by omega
    exact ⟨rfl, by simp [differ]⟩
  · obtain ⟨rfl, rfl⟩ := rest
    exact ⟨rfl, by simp [short]⟩
  · obtain ⟨rfl, rfl⟩ := rest
    exact ⟨rfl, by simpa using short⟩

theorem not_booted {seen : List UsbEvent} (none : ∀ e ∈ seen, ¬ IsBoot e) : ¬ Booted seen :=
  fun booted => none _ booted rfl

theorem booted_concat {seen : List UsbEvent} (none : ∀ e ∈ seen, ¬ IsBoot e) {answer : Int} :
    Booted (seen ++ [⟨.control 3 bootCommand, answer⟩]) ↔ answer = bootCommand.length := by
  have before := not_booted none
  unfold Booted at before ⊢
  rw [List.mem_append, or_iff_right before, List.mem_singleton, Sigma.mk.injEq, heq_eq_eq]
  exact ⟨fun same => same.2.symm, fun same => ⟨rfl, same.symm⟩⟩

/-- An upload succeeds when the boot request has gone through, and only then. -/
theorem upload_ok_iff {usb : LibUsb} {payload : PayloadFile} {size : Nat} {t : List UsbEvent}
    {result : Except String Unit} (run : (PongoUpload.upload usb payload size).Runs t result) :
    result = .ok () ↔ Booted t := by
  obtain ⟨t₁, t', announced, rfl, run₁, run'⟩ := (Prog.runs_bind ..).mp run
  obtain ⟨answer, rfl, -⟩ := control_ok_iff run₁
  have announce : ¬ IsBoot ⟨.control 1 (toLeBytes size), answer⟩ := by simp [IsBoot, IsControl]
  cases announced with
  | error error =>
    obtain ⟨rfl, rfl⟩ := run'
    simpa using not_booted (by simpa using announce)
  | ok =>
    cases opened : payload.openError with
    | some error =>
      simp only [opened] at run'
      obtain ⟨rfl, rfl⟩ := run'
      simpa using not_booted (by simpa using announce)
    | none =>
      simp only [opened] at run'
      obtain ⟨t₂, t₃, total, rfl, run₂, run₃⟩ := (Prog.runs_bind ..).mp run'
      have quiet : ∀ e ∈ (⟨.control 1 (toLeBytes size), answer⟩ : UsbEvent) :: t₂, ¬ IsBoot e := by
        rintro e (_ | ⟨_, member⟩)
        · exact announce
        · exact not_isBoot_of_isBulk ((readLoop_runs _ _ 0 run₂).1 e member)
      cases total with
      | error error =>
        obtain ⟨rfl, rfl⟩ := run₃
        simpa using not_booted quiet
      | ok total =>
        dsimp only at run₃
        split_ifs at run₃ with changed
        · obtain ⟨rfl, rfl⟩ := run₃
          simpa using not_booted quiet
        · obtain ⟨last, rfl, ok⟩ := control_ok_iff run₃
          rw [ok, ← List.append_assoc]
          exact (booted_concat quiet).symm

/-- What the command looks for in the output. -/
def bootmSent : String := "sent bootm to PongoOS"

theorem contains_of_append (culture : BootGate.Culture) {text pattern : String}
    {front behind : List Char}
    (whole : text.toList = front ++ pattern.toList ++ behind) :
    BootGate.contains culture text pattern = true := by
  refine List.any_eq_true.mpr ⟨pattern.toList ++ behind, ?_, ?_⟩
  · rw [List.mem_tails, whole, List.append_assoc]
    exact List.suffix_append ..
  · simp

theorem contains_uploaded (culture : BootGate.Culture) (size : Nat) :
    BootGate.contains culture (uploaded size ++ "") bootmSent = true := by
  have whole : (uploaded size ++ "").toList =
      ("Uploaded ".toList ++ (toString size).toList ++ " bytes and ".toList) ++ bootmSent.toList ++
        ".\n".toList := by
    have ending : " bytes and sent bootm to PongoOS.\n".toList =
        " bytes and ".toList ++ (bootmSent.toList ++ ".\n".toList) := by decide
    have spelled : (uploaded size ++ "").toList = "Uploaded ".toList ++ ((toString size).toList ++
        " bytes and sent bootm to PongoOS.\n".toList) := by
      simp only [uploaded, String.toList_append, List.append_assoc, String.toList_empty,
        List.append_nil]
      rfl
    rw [spelled, ending]
    simp only [List.append_assoc]
  exact contains_of_append culture whole

/-- The process as the restore command gets to see it. One of the two streams is empty. -/
def processResult (stdoutLog stderrLog : String) (outcome : Outcome) : BootGate.ProcessResult :=
  ⟨outcome.exitCode, false, outcome.stdout ++ outcome.stderr, stdoutLog, stderrLog⟩

/-- The test behind the uploader's call in `bootLinux`. -/
def accepts (culture : BootGate.Culture) (boot : BootGate.ProcessResult) : Bool :=
  boot.exitCode = 0 && BootGate.contains culture boot.output bootmSent

theorem not_accepts_error (culture : BootGate.Culture) (stdoutLog stderrLog error : String) :
    accepts culture (processResult stdoutLog stderrLog (report (.error error))) = false := rfl

theorem accepts_report (culture : BootGate.Culture) (stdoutLog stderrLog : String) (size : Nat)
    (sent : Except String Unit) :
    accepts culture (processResult stdoutLog stderrLog (report (sent.map fun _ => uploaded size))) =
      true ↔ sent = .ok () := by
  cases sent with
  | error error => exact iff_of_false Bool.false_ne_true nofun
  | ok => exact iff_of_true (contains_uploaded culture size) rfl

/-- With any command line that asks for an upload, the restore command goes on to wait for Linux
exactly when the device has taken the boot request, and then the device has the whole file. -/
theorem reported_iff_booted (culture : BootGate.Culture) (usb : LibUsb)
    (files : String → PayloadFile) (words : List String) (stdoutLog stderrLog : String)
    {t : List HostEvent} {outcome : Outcome}
    (ran : (main usb files ("upload" :: words)).Runs t outcome) :
    (accepts culture (processResult stdoutLog stderrLog outcome) = true ↔ Booted (transfers t)) ∧
      (Booted (transfers t) → ∃ payload size, Confirmed ("upload" :: words) t payload size ∧
        PongoUpload.BootGate (files payload) (transfers t) ∧
        (accepted (transfers t)).length = size) := by
  obtain ⟨result, rfl, silent | ⟨payload, size, confirmed, decided⟩⟩ :=
    main_every usb files ("upload" :: words) t outcome ran
  · have none : ¬ Booted (transfers t) := by
      rw [silent.1]
      exact List.not_mem_nil
    refine ⟨?_, fun booted => absurd booted none⟩
    cases result with
    | error error => simp [not_accepts_error, none]
    | ok stdout =>
      obtain ⟨command, parsed, other⟩ := silent.2 stdout rfl
      obtain ⟨-, libusb, -, -, -, rfl⟩ := parseArgs_upload.mp parsed
      exact absurd rfl (other _ libusb)
  · obtain ⟨libusb, parsed⟩ := confirmed.command
    obtain ⟨metadata, -, valid⟩ := confirmed.checked
    obtain ⟨quiet, error, rfl⟩ | ⟨sent, run, rfl⟩ := decided
    · have none : ¬ Booted (transfers t) := by rw [quiet]; exact List.not_mem_nil
      exact ⟨by simp [not_accepts_error, none], fun booted => absurd booted none⟩
    · refine ⟨(accepts_report culture stdoutLog stderrLog size sent).trans (upload_ok_iff run),
        fun booted => ?_⟩
      have gate := (upload_boots_exact_payload usb (files payload) valid run).1 ⟨_, booted, rfl⟩
      refine ⟨payload, size, confirmed, gate, ?_⟩
      obtain ⟨announce, rest, length, whole, asked, -, same⟩ := gate.announced
      obtain ⟨first, -⟩ := upload_front run
      obtain ⟨call, answer⟩ := announce
      obtain rfl := asked
      rw [whole, Nat.mod_eq_of_lt (validatePayload_size valid).2] at first
      exact same.symm.trans first

theorem reported_iff_booted_sample :
    (accepts .invariant (processResult "out.log" "err.log" ⟨0, uploaded 3, ""⟩) = true ↔
      Booted (transfers sampleTrace)) ∧
      (Booted (transfers sampleTrace) → ∃ payload size, Confirmed sampleArgs sampleTrace payload size ∧
        PongoUpload.BootGate smallPayload (transfers sampleTrace) ∧
        (accepted (transfers sampleTrace)).length = size) :=
  reported_iff_booted .invariant ⟨fun _ => .null⟩ (fun _ => smallPayload) sampleArgs.tail "out.log"
    "err.log" sample_runs

end WinBoot.UploadReport
