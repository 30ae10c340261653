import WinBoot.ScanRuns

/-! The write guard of the bounded scan. `Permitted` says once which stores the guard lets
through; what the guard monitor demands of every store follows from it, over any sequence of
guarded writes and over every run of the whole scan with its restoring writes. -/

namespace WinBoot.WriteGuard
open Interaction KernelCalls PciScan PciHost ConfigSpace ConfigStorage SavedControls
  GuardRules ScanRuns

@[simp] abbrev masterBit : Nat := 8 * 0x04 + 2
@[simp] abbrev busResetBit : Nat := 8 * 0x3e + 6
@[simp] abbrev endpointRomBit : Nat := 8 * 0x30
@[simp] abbrev rootRomBit : Nat := 8 * 0x38

/-- A store that reaches one of the three bus-number bytes sets all three as the scan does. -/
def KeepsBusNumbers (store : Store) : Prop :=
  store.offset < 0x1b → 0x18 < store.offset + store.size →
    store.offset = 0x18 ∧ store.size = 4 ∧
      (store.value &&& 0xffffff = 0x010100 ∨ store.value &&& 0xffffff = 0)

def SafeStore (firmware : Bool) : Window → Store → Prop
  | .root, store => (store.Sets masterBit → firmware = true) ∧ ¬ store.Sets busResetBit ∧
      ¬ store.Sets rootRomBit ∧ KeepsBusNumbers store
  | .endpoint, store => (store.Sets masterBit → firmware = true) ∧ ¬ store.Sets endpointRomBit
  | _, _ => False

structure GuardState where
  firmware : Bool
  rejected : Bool

def GuardState.initial : GuardState := ⟨false, false⟩

/-- Follows the firmware phase and the rejections, and demands safe stores. -/
def guard : Monitor Call Answer GuardState where
  admits _ _ := True
  allows state event := ∀ target ∈ storeOf event.1, SafeStore state.firmware target.1 target.2
  next state event := match event.1 with
    | .activateFirmware => { state with firmware := true }
    | .rejectScan => { state with rejected := true }
    | _ => state

section Permitted

variable {scan : Scan} {bus offset size : Nat} {value : U32}
  (permitted : Permitted scan bus offset size value) (shaped : ControlsShaped scan)
include permitted shaped

/-- A permitted store that sets a bit covers it, and the written value has it set. -/
theorem permitted_sets {bit : Nat} (sets : (storeSized offset size value).Sets bit) :
    8 * offset ≤ bit ∧ bit < 8 * (offset + size) ∧ value.getLsbD (bit - 8 * offset) = true := by
  obtain ⟨covered, set⟩ := sets
  rw [storeSized_bit (permitted.width shaped) covered] at set
  rw [storeSized_covers (permitted.width shaped)] at covered
  exact ⟨covered.1, covered.2, set⟩

theorem permitted_master (sets : (storeSized offset size value).Sets masterBit) :
    scan.firmwareActive = true := by
  obtain ⟨low, high, set⟩ := permitted_sets permitted shaped sets
  simp only [masterBit] at low high
  cases permitted with
  | command quiet =>
    obtain quiet | active := quiet
    · exact absurd set (getLsbD_of_and_eq_zero quiet (by decide : commandMaster.getLsbD 2 = true))
    · exact active
  | bar first => omega
  | control saved =>
    have := (shaped _ saved).place
    omega
  | _ => simp at low high

theorem permitted_bridgeQuiet : ¬ (storeSized offset size value).Sets busResetBit := by
  intro sets
  obtain ⟨low, high, set⟩ := permitted_sets permitted shaped sets
  simp only [busResetBit] at low high
  cases permitted with
  | bridgeControl quiet =>
    exact absurd set (getLsbD_of_and_eq_zero quiet (by decide : bridgeCtlBusReset.getLsbD 6 = true))
  | bar _ last => split_ifs at last <;> omega
  | control saved =>
    have := (shaped _ saved).place
    omega
  | _ => simp at low high

theorem permitted_rootRomQuiet : bus = 0 → ¬ (storeSized offset size value).Sets rootRomBit := by
  rintro root sets
  obtain ⟨low, high, set⟩ := permitted_sets permitted shaped sets
  simp only [rootRomBit] at low high
  cases permitted with
  | rootRom disabled =>
    exact absurd set (getLsbD_of_and_eq_zero disabled (by decide : romAddressEnable.getLsbD 0 = true))
  | bar _ last => split_ifs at last <;> omega
  | control saved =>
    have := (shaped _ saved).place
    omega
  | _ => simp at low high

theorem permitted_endpointRomQuiet :
    bus ≠ 0 → ¬ (storeSized offset size value).Sets endpointRomBit := by
  rintro endpoint sets
  obtain ⟨low, high, set⟩ := permitted_sets permitted shaped sets
  simp only [endpointRomBit] at low high
  cases permitted with
  | endpointRom _ disabled =>
    exact absurd set (getLsbD_of_and_eq_zero disabled (by decide : romAddressEnable.getLsbD 0 = true))
  | bar _ last => split_ifs at last; omega
  | control saved =>
    have := (shaped _ saved).place
    omega
  | _ => simp at low high

theorem permitted_keepsBusNumbers : bus = 0 → KeepsBusNumbers (storeSized offset size value) := by
  have width := permitted.width shaped
  have size_eq : (storeSized offset size value).size = size := by
    obtain rfl | rfl := width <;> rfl
  have offset_eq : (storeSized offset size value).offset = offset := by
    obtain rfl | rfl := width <;> rfl
  intro root low high
  rw [offset_eq] at low
  rw [offset_eq, size_eq] at high
  cases permitted with
  | busNumbers valid => exact ⟨rfl, rfl, valid⟩
  | bar _ last =>
    simp only [root, ne_eq, not_true_eq_false, if_false] at last
    omega
  | control saved =>
    have := (shaped _ saved).place
    omega
  | _ => simp at low high root

theorem permitted_safe {cfg : Window} (config : bus = 0 ∧ cfg = .root ∨ bus = 1 ∧ cfg = .endpoint) :
    SafeStore scan.firmwareActive cfg (storeSized offset size value) := by
  obtain ⟨root, rfl⟩ | ⟨endpoint, rfl⟩ := config
  · exact ⟨permitted_master permitted shaped, permitted_bridgeQuiet permitted shaped,
      permitted_rootRomQuiet permitted shaped root, permitted_keepsBusNumbers permitted shaped root⟩
  · exact ⟨permitted_master permitted shaped, permitted_endpointRomQuiet permitted shaped (by omega)⟩

end Permitted

/-- The monitor's state is what the scan records, and the controls are where they may be. -/
structure Guarded (state : GuardState) (scan : Scan) : Prop where
  firmware : state.firmware = scan.firmwareActive
  rejected : state.rejected = scan.rejected
  shaped : ControlsShaped scan

theorem writeSized_safe {cfg : Window} {offset size : Nat} {value : U32} {state : GuardState}
    (safe : SafeStore state.firmware cfg (storeSized offset size value)) :
    (writeSized cfg offset size value).Safe guard (fun after _ => after = state) state := by
  unfold writeSized storeSized at *
  split_ifs at safe ⊢ <;> simpa [query, guard, storeOf] using safe

theorem rejectScan_safe {state : GuardState} {scan : Scan} (guarded : Guarded state scan) :
    (rejectScan scan).Safe guard
      (fun after scan' => Guarded after scan' ∧ scan'.rejected = true) state := by
  obtain ⟨firmware, _, shaped⟩ := guarded
  simp only [rejectScan, query, Prog.safe_bind, Prog.safe_call, Prog.safe_pure]
  exact fun _ _ => ⟨by simp [guard, storeOf], ⟨firmware, rfl, shaped⟩, trivial⟩

theorem activateFirmware_safe {state : GuardState} {scan : Scan} (guarded : Guarded state scan) :
    (activateFirmware scan).Safe guard (fun after scan' => Guarded after scan') state := by
  obtain ⟨_, rejected, shaped⟩ := guarded
  simp only [activateFirmware, query, Prog.safe_bind, Prog.safe_call, Prog.safe_pure]
  exact fun _ _ => ⟨by simp [guard, storeOf], ⟨rfl, rejected, shaped⟩⟩

theorem scanWrite_safe {state : GuardState} {scan : Scan} (guarded : Guarded state scan)
    (write : ConfigWrite) :
    (scanWrite scan write).Safe guard (fun after result => Guarded after result.2) state := by
  refine scanWrite_rule guarded ?_ fun cfg offset size value config permitted => ?_
  · exact (rejectScan_safe guarded).mono guard fun _ _ both => both.1
  · have safe := permitted_safe permitted guarded.shaped config
    rw [← guarded.firmware] at safe
    refine (writeSized_safe safe).mono guard ?_
    rintro _ _ rfl
    exact guarded

theorem guard_inert {c : Call} (state : GuardState) (r : Answer c) (quiet : inert c = true) :
    guard.allows state ⟨c, r⟩ ∧ guard.next state ⟨c, r⟩ = state := by
  cases c <;> first | contradiction | exact ⟨by simp [guard, storeOf], rfl⟩

theorem guard_scanCall {c : Call} (state : GuardState) (r : Answer c) (quiet : scanCall c = true) :
    guard.allows state ⟨c, r⟩ ∧ guard.next state ⟨c, r⟩ = state :=
  guard_inert state r (by cases c <;> first | contradiction | rfl)

theorem guard_reading (state : GuardState) : Reading guard state fun _ _ _ _ => True where
  readb _ value _ _ := guard_inert state value rfl
  readw _ value _ _ := ⟨(guard_inert state value rfl).1, rfl, trivial⟩
  readl _ value _ _ := ⟨(guard_inert state value rfl).1, rfl, trivial⟩

theorem guard_invariant : ScanInvariant guard Guarded where
  call r _ quiet _ := guard_scanCall _ r quiet
  count _ guarded := ⟨guarded.firmware, guarded.rejected, guarded.shaped⟩
  write write guarded := scanWrite_safe guarded write
  reject guarded := (rejectScan_safe guarded).mono guard fun _ _ both => both.1
  activate guarded _ := activateFirmware_safe guarded

/-- A restoring write is one that the guard would permit. -/
theorem restore_safe {state : GuardState} {scan : Scan} (guarded : Guarded state scan) :
    RestoringStores guard state scan := by
  intro bus offset size cfg value config permitted
  have safe := permitted_safe permitted guarded.shaped config
  rw [← guarded.firmware] at safe
  exact writeSized_safe safe

/-- A run in which the scan was rejected ends with an error. -/
def Reported (after : GuardState) (ret : Int) : Prop := after.rejected = true → ret ≠ 0

/-- The state in which the scan proper starts, once the controls are saved. -/
theorem guarded_of_saved {options : ScanOptions} {scan : Scan}
    (saved : Saved (fun _ _ _ _ => True) (newScan options) scan) : Guarded .initial scan :=
  ⟨by rw [saved.same]; rfl, by rw [saved.same]; rfl, saved.shaped⟩

theorem guard_proof (options : ScanOptions) :
    ScanProof guard Guarded .initial (fun _ _ _ _ => True) options Reported where
  invariant := guard_invariant
  inert state r quiet _ := guard_inert state r quiet
  reading := guard_reading _
  saves := by
    refine (scanSaveControls_safe (guard_reading _) rfl).mono guard ?_
    rintro _ result ⟨rfl, saved⟩
    exact ⟨rfl, fun ok => guarded_of_saved (saved ok).1⟩
  restore ret guarded entered := by
    refine (restoreConfig_safe (restore_safe guarded) (guard_reading _) guarded.shaped entered
      ret).mono guard ?_
    rintro _ ret rfl rejected
    rw [guarded.rejected] at rejected
    rw [if_pos rejected]
    decide
  untouched _ rejected := by cases rejected
  cleanup failed _ _ := failed

theorem next_rejected (state : GuardState) (event : KernelEvent) :
    (guard.next state event).rejected = true ↔
      state.rejected = true ∨ event = ⟨.rejectScan, ()⟩ := by
  obtain ⟨c, r⟩ := event
  cases c <;> simp [guard]

theorem after_rejected (state : GuardState) (t : List KernelEvent) :
    (guard.after state t).rejected = true ↔
      state.rejected = true ∨ ⟨.rejectScan, ()⟩ ∈ t := by
  induction t generalizing state with
  | nil => simp
  | cons event t ih =>
    rw [Monitor.after_cons, ih, next_rejected, List.mem_cons, or_assoc]
    exact or_congr_right (or_congr_left eq_comm)

/-- What is refused stores nothing, and what the guard refuses rejects the scan for good. -/
def RefusesWrites (scan : Scan) : Prop :=
  ∀ write t ret after, (scanWrite scan write).Runs t (ret, after) →
    (ret ≠ pcibiosSuccessful → ∀ event ∈ t, storeOf event.1 = none) ∧
    (ret = pcibiosSetFailed → after.rejected = true ∧
      ∀ begins steps u last, (guardSteps begins after steps).Runs u last → last.rejected = true)

theorem refusesWrites_of_guarded {state : GuardState} {scan : Scan} (guarded : Guarded state scan) :
    RefusesWrites scan := by
  intro write t ret after run
  refine ⟨fun failed => ?_, fun refused => ?_⟩
  · obtain ⟨_, rfl, rfl, rfl⟩ | ⟨rfl, rfl, rfl⟩ | ⟨rfl, _⟩ := scanWrite_runs run
    · simp
    · simp [storeOf]
    · contradiction
  · obtain ⟨_, rfl, _⟩ | ⟨_, rfl, rfl⟩ | ⟨rfl, _⟩ := scanWrite_runs run
    · contradiction
    · refine ⟨rfl, fun begins steps u last more => ?_⟩
      have rejected : Guarded { state with rejected := true } { scan with rejected := true } :=
        ⟨guarded.firmware, rfl, guarded.shaped⟩
      have safe : (guardSteps begins { scan with rejected := true } steps).Safe guard Guarded _ :=
        guardSteps_safe guard_invariant rejected (fun held _ => activateFirmware_safe held) steps
      obtain ⟨_, final⟩ := Prog.safe_runs guard safe more
        (guard.admits_of_forall (fun _ _ => trivial) _ _)
      rw [← final.rejected]
      exact (after_rejected _ _).mpr (.inl rfl)
    · contradiction

/-- The guard over any sequence of writes after a successful save of the controls, and over
every run of the whole scan. -/
theorem config_write_guard_safe (options : ScanOptions) :
    (∀ t₀ saved, (scanSaveControls (newScan options)).Runs t₀ (0, saved) →
      ∀ begins steps t scan, (guardSteps begins saved steps).Runs t scan →
        guard.Allows .initial t ∧ (scan.rejected = true ↔ ⟨.rejectScan, ()⟩ ∈ t) ∧
          RefusesWrites scan) ∧
    ∀ t ret, (pciScan options).Runs t ret →
      guard.Allows .initial t ∧ (⟨.rejectScan, ()⟩ ∈ t → ret ≠ 0) := by
  refine ⟨fun t₀ saved save begins steps t scan run => ?_, fun t ret run => ?_⟩
  · have reading := scanSaveControls_safe (guard_reading .initial)
      (show (newScan options).controls = [] from rfl)
    obtain ⟨_, _, recorded⟩ := Prog.safe_runs guard reading save (guard.admits_of_forall (fun _ _ => trivial) _ _)
    have guarded := guarded_of_saved (recorded rfl).1
    obtain ⟨allowed, final⟩ := Prog.safe_runs guard (guardSteps_safe guard_invariant guarded (fun held _ => activateFirmware_safe held) steps) run
      (guard.admits_of_forall (fun _ _ => trivial) _ _)
    refine ⟨allowed, ?_, refusesWrites_of_guarded final⟩
    rw [← final.rejected, after_rejected]
    simp [GuardState.initial]
  · obtain ⟨allowed, reported⟩ := Prog.safe_runs guard (pciScan_safe (guard_proof options)) run (guard.admits_of_forall (fun _ _ => trivial) _ _)
    exact ⟨allowed, fun rejected => reported ((after_rejected _ _).mpr (.inr rejected))⟩

def sampleOptions : ScanOptions := ⟨true, true, true, true, 0, false⟩

def sampleSave : List KernelEvent × Int × Scan :=
  execOn (sampleDevice 0xac) (scanSaveControls (newScan sampleOptions))

/-- A bus-master write to the endpoint, before the firmware phase and in it. -/
def sampleSteps : List GuardStep :=
  [.write ⟨1, 0, 4, 2, 6⟩, .activate, .write ⟨1, 0, 4, 2, 6⟩]

theorem config_write_guard_bounds_firmware :
    sampleSave.2.1 = 0 ∧ guard.Allows .initial (execOn (sampleDevice 0xac)
      (guardSteps firmwareMayBegin sampleSave.2.2 sampleSteps)).1 := by
  have save : sampleSave.2.1 = 0 := by decide +kernel
  have result : sampleSave.2 = (0, sampleSave.2.2) := Prod.ext save rfl
  have saved : (scanSaveControls (newScan sampleOptions)).Runs sampleSave.1
      (0, sampleSave.2.2) := by
    rw [← result]
    exact Prog.exec_runs _ _
  have run := Prog.exec_runs (fun _ => readAnswer (sampleDevice 0xac))
    (guardSteps firmwareMayBegin sampleSave.2.2 sampleSteps)
  exact ⟨save, ((config_write_guard_safe sampleOptions).1 _ _ saved _ _ _ _ run).1⟩

end WinBoot.WriteGuard
