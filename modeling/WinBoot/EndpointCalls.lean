import WinBoot.EndpointProbe

/-! Calls made behind the trained link. Whatever the endpoint answers, looking at it leaves the
power rail, the reset line and the port's link control alone. -/

namespace WinBoot.EndpointCalls
open Interaction Interaction.Prog KernelCalls PciScan PciHost EndpointProbe

/-- Calls that are made neither to a register map, nor to the reset line, nor to the port. -/
def aside : Call → Bool
  | .regmapRead .. | .regmapReadBypassed .. | .regmapWrite .. | .regmapUpdateBits ..
  | .gpiodDirectionOutputRaw _ | .readl .port _ | .writel .port .. | .writew .port .. => false
  | _ => true

abbrev Aside {α : Type} (p : Kernel α) : Prop := p.Makes fun c => aside c = true

variable {window : Window} (config : isConfig window = true)

include config in
theorem aside_config (offset : Nat) :
    aside (.readl window offset) = true ∧ (∀ value, aside (.writel window offset value) = true) ∧
      ∀ value, aside (.writew window offset value) = true := by
  cases window <;> first | exact ⟨rfl, fun _ => rfl, fun _ => rfl⟩ | cases config

include config in
theorem readlIs_aside (offset : Nat) (value : U32) : Aside (readlIs window offset value) :=
  ⟨(aside_config config offset).1, fun _ => trivial⟩

theorem readwIs_aside (window : Window) (offset : Nat) (value : U16) :
    Aside (readwIs window offset value) := ⟨rfl, fun _ => trivial⟩

include config in
theorem readSized_aside (offset size : Nat) : Aside (readSized window offset size) :=
  Makes.ite (fun _ => ⟨rfl, fun _ => trivial⟩) fun _ => ⟨(aside_config config offset).1, fun _ => trivial⟩

include config in
theorem writeSized_aside (offset size : Nat) (value : U32) :
    Aside (writeSized window offset size value) :=
  Makes.ite (fun _ => ⟨(aside_config config offset).2.2 _, fun _ => trivial⟩)
    fun _ => ⟨(aside_config config offset).2.1 _, fun _ => trivial⟩

theorem busWindow_config (bus : Nat) : isConfig (busWindow bus) = true := by
  unfold busWindow
  split <;> rfl

section Writes

theorem scanConfig_config {busNumber devfn : Nat} {cfg : Window}
    (found : scanConfig busNumber devfn = some cfg) : isConfig cfg = true := by
  unfold scanConfig at found
  split at found
  · obtain rfl := Option.some.inj found
    rfl
  split at found
  · obtain rfl := Option.some.inj found
    rfl
  · cases found

theorem scanWrite_aside (scan : Scan) (write : ConfigWrite) : Aside (scanWrite scan write) := by
  unfold scanWrite
  split
  · trivial
  · next cfg found =>
    refine Makes.ite (fun _ => ⟨rfl, fun _ => trivial⟩) fun _ => ?_
    exact Makes.bind (writeSized_aside (scanConfig_config found) _ _ _) fun _ => trivial

theorem scanWrites_aside (scan : Scan) (writes : List ConfigWrite) :
    Aside (scanWrites scan writes) := by
  induction writes generalizing scan with
  | nil => trivial
  | cons write writes ih => exact Makes.bind (scanWrite_aside scan write) fun _ => ih _

theorem rejectUnless_aside (passed : Bool) (scan : Scan) : Aside (rejectUnless passed scan) :=
  Makes.ite (fun _ => trivial) fun _ => ⟨rfl, fun _ => trivial⟩

theorem writesUnder_aside {α : Type} {c : Call} {scan : Scan} {writes : Answer c → List ConfigWrite}
    {f : Answer c → Scan → Kernel α} (quiet : aside c = true) (rest : ∀ r scan, Aside (f r scan)) :
    Aside (query c >>= fun r => scanWrites scan (writes r) >>= f r) :=
  Makes.call quiet fun r => Makes.bind (scanWrites_aside scan (writes r)) (rest r)

end Writes

section Identify

theorem scanEndpointMsi_aside (scan : Scan) : Aside (scanEndpointMsi scan) := by
  refine writesUnder_aside rfl fun answer scan => ?_
  refine Makes.ite (fun _ => trivial) fun _ => ?_
  refine Makes.call rfl fun data => Makes.call rfl fun flags => ?_
  refine Makes.bind (allOf_makes ?_) fun verified => ?_
  · have high : Aside (if scan.msi64 then readlIs .endpoint (scan.msiCap + pciMsiAddressHi) 0
        else pure true) :=
      Makes.ite (fun _ => readlIs_aside rfl _ _) fun _ => trivial
    simp only [List.mem_cons, List.not_mem_nil, or_false, forall_eq_or_imp, forall_eq]
    exact ⟨trivial, readlIs_aside rfl _ _, high, readwIs_aside _ _ _⟩
  exact writesUnder_aside rfl fun _ scan => Makes.call rfl fun _ => trivial

theorem identifyIommu_aside (scan : Scan) : Aside (identifyIommu scan) := by
  refine Makes.call rfl fun translated => Makes.ite (fun _ => ⟨rfl, fun _ => trivial⟩) fun _ => ?_
  refine Makes.call rfl fun reserved => Makes.call rfl fun mapped => ?_
  refine Makes.ite (fun _ => ⟨rfl, fun _ => trivial⟩) fun _ => ?_
  refine Makes.bind (allOf_makes ?_) fun enabled => ?_
  · simp only [List.mem_cons, List.not_mem_nil, or_false, forall_eq_or_imp, forall_eq]
    exact ⟨trivial, rfl, fun _ => trivial⟩
  exact Makes.bind (rejectUnless_aside _ _) fun _ => ⟨rfl, fun _ => trivial⟩

theorem identifyBar_aside (scan : Scan) (bar : Nat) : Aside (identifyBar scan bar) :=
  Makes.call rfl fun _ => rejectUnless_aside _ _

theorem scanIdentify_aside (dev : PciDevice) (scan : Scan) : Aside (scanIdentify dev scan) := by
  refine Makes.bind (rejectUnless_aside _ _) fun scan => ?_
  refine Makes.bind (allOf_makes ?_) fun quiet => ?_
  · simp only [List.mem_cons, List.not_mem_nil, or_false, forall_eq_or_imp, forall_eq]
    exact ⟨trivial, Makes.call rfl fun _ => trivial⟩
  refine Makes.bind (rejectUnless_aside _ _) fun scan => ?_
  refine Makes.bind (onlyIf_makes (identifyIommu_aside scan)) fun identified => ?_
  refine Makes.ite (fun _ => trivial) fun _ => ?_
  refine Makes.bind (onlyIf_makes ?_) fun scan => ?_
  · exact Makes.bind (scanEndpointMsi_aside _) fun _ => rejectUnless_aside _ _
  refine Makes.bind (onlyIf_makes ?_) fun _ => trivial
  exact Makes.bind (identifyBar_aside _ _) fun _ => identifyBar_aside _ _

theorem walkBus_aside (devs : List PciDevice) (scan : Scan) : Aside (walkBus devs scan) := by
  induction devs generalizing scan with
  | nil => trivial
  | cons dev devs ih =>
    refine Makes.bind (scanIdentify_aside dev scan) fun identified => ?_
    exact Makes.ite (fun _ => trivial) fun _ => ih _

theorem faultPoll_aside (attempts : Nat) : Aside (faultPoll attempts) := by
  induction attempts with
  | zero => trivial
  | succ attempts ih => exact Makes.call rfl fun _ => Makes.ite (fun _ => trivial) fun _ => ih

theorem scanFaultTables_aside : Aside scanFaultTables := by
  refine Makes.call rfl fun mapped => Makes.ite (fun _ => trivial) fun _ => ?_
  exact Makes.bind (faultPoll_aside _) fun _ => ⟨rfl, fun _ => trivial⟩

theorem holdWifi_aside (scan : Scan) : Aside (holdWifi scan) := by
  refine Makes.ite (fun _ => trivial) fun _ => Makes.call rfl fun _ => ?_
  refine Makes.ite (fun _ => trivial) fun _ => Makes.call rfl fun mapped => ?_
  refine Makes.ite (fun _ => trivial) fun _ => ?_
  exact writesUnder_aside rfl fun _ _ => ⟨rfl, fun _ => trivial⟩

theorem firmwareObservation_aside (scan : Scan) : Aside (firmwareObservation scan) := by
  refine writesUnder_aside rfl fun _ scan => writesUnder_aside rfl fun _ scan => ?_
  refine Makes.ite (fun _ => trivial) fun _ => Makes.bind scanFaultTables_aside fun ret => ?_
  exact Makes.ite (fun _ => trivial) fun _ => holdWifi_aside _

theorem scanFirmware_aside (scan : Scan) : Aside (scanFirmware scan) := by
  refine Makes.call rfl fun found => Makes.ite (fun _ => trivial) fun _ => ?_
  refine Makes.call rfl fun slot => Makes.ite (fun _ => trivial) fun _ => ?_
  refine Makes.call rfl fun ret => Makes.ite (fun _ => trivial) fun _ => ?_
  refine Makes.call rfl fun _ => Makes.bind (firmwareObservation_aside _) fun observed => ?_
  refine writesUnder_aside rfl fun _ scan => Makes.call rfl fun mapped => ?_
  refine Makes.bind (onlyIf_makes ⟨rfl, fun _ => trivial⟩) fun _ => ?_
  exact writesUnder_aside rfl fun _ _ => trivial

end Identify

section Controls

theorem scanCapFrom_aside (cfg : Window) (id count pos : Nat) :
    Aside (scanCapFrom cfg id count pos) := by
  induction count generalizing pos with
  | zero => trivial
  | succ count ih =>
    refine Makes.ite (fun _ => trivial) fun _ => Makes.ite (fun _ => trivial) fun _ => ?_
    refine Makes.call rfl fun _ => Makes.ite (fun _ => trivial) fun _ => ?_
    exact Makes.call rfl fun _ => ih _

theorem scanCap_aside (cfg : Window) (id : Nat) : Aside (scanCap cfg id) :=
  Makes.call rfl fun _ => scanCapFrom_aside ..

theorem scanExtcapFrom_aside {cfg : Window} (config : isConfig cfg = true) (id count pos : Nat) :
    Aside (scanExtcapFrom cfg id count pos) := by
  induction count generalizing pos with
  | zero => trivial
  | succ count ih =>
    refine Makes.ite (fun _ => trivial) fun _ => Makes.ite (fun _ => trivial) fun _ => ?_
    refine Makes.call (aside_config config _).1 fun _ => ?_
    exact Makes.ite (fun _ => trivial) fun _ => Makes.ite (fun _ => trivial) fun _ => ih _

theorem scanSaveControl_aside (scan : Scan) (bus offset size : Nat) (mask : U32) :
    Aside (scanSaveControl scan bus offset size mask) :=
  Makes.bind (readSized_aside (busWindow_config bus) _ _) fun _ => trivial

theorem scanSaveBusControls_aside (scan : Scan) (bus : Nat) :
    Aside (scanSaveBusControls scan bus) := by
  refine Makes.bind (scanCap_aside _ _) fun pm => Makes.bind (scanCap_aside _ _) fun exp => ?_
  refine Makes.bind (scanExtcapFrom_aside (busWindow_config bus) _ _ _) fun l1ss => ?_
  refine Makes.ite (fun _ => trivial) fun _ => Makes.call rfl fun control => ?_
  refine Makes.ite (fun _ => trivial) fun _ => ?_
  refine Makes.bind (scanSaveControl_aside ..) fun _ =>
    Makes.bind (scanSaveControl_aside ..) fun _ => ?_
  refine Makes.bind (scanSaveControl_aside ..) fun _ =>
    Makes.bind (scanSaveControl_aside ..) fun _ => ?_
  exact Makes.bind (scanSaveControl_aside ..) fun _ => trivial

theorem scanSaveMemoryWindows_aside (scan : Scan) : Aside (scanSaveMemoryWindows scan) := by
  refine Makes.bind (scanSaveControl_aside ..) fun _ =>
    Makes.bind (scanSaveControl_aside ..) fun _ => ?_
  refine Makes.ite (fun _ => trivial) fun _ => Makes.bind (scanSaveControl_aside ..) fun _ => ?_
  refine Makes.bind (scanSaveControl_aside ..) fun _ =>
    Makes.bind (scanSaveControl_aside ..) fun _ => ?_
  exact scanSaveControl_aside ..

theorem scanSaveMsi_aside (scan : Scan) : Aside (scanSaveMsi scan) := by
  refine Makes.ite (fun _ => trivial) fun _ => Makes.bind (scanCap_aside _ _) fun msiCap => ?_
  refine Makes.ite (fun _ => trivial) fun _ => Makes.call rfl fun flags => ?_
  refine Makes.ite (fun _ => trivial) fun _ => ?_
  refine Makes.bind (scanSaveControl_aside ..) fun _ =>
    Makes.bind (scanSaveControl_aside ..) fun _ => ?_
  refine Makes.bind (onlyIf_makes (scanSaveControl_aside ..)) fun _ => ?_
  refine Makes.bind (scanSaveControl_aside ..) fun _ => ?_
  exact Makes.bind (onlyIf_makes (scanSaveControl_aside ..)) fun _ => trivial

theorem scanSaveFirmware_aside (scan : Scan) : Aside (scanSaveFirmware scan) := by
  refine Makes.ite (fun _ => trivial) fun _ => Makes.bind (scanSaveControl_aside ..) fun _ => ?_
  refine Makes.bind (scanSaveControl_aside ..) fun _ =>
    Makes.bind (scanSaveControl_aside ..) fun _ => ?_
  exact Makes.bind (scanSaveControl_aside ..) fun _ => scanSaveControl_aside ..

theorem scanSaveControls_aside (scan : Scan) : Aside (scanSaveControls scan) := by
  refine Makes.bind (scanSaveBusControls_aside _ _) fun _ =>
    Makes.ite (fun _ => trivial) fun _ => ?_
  refine Makes.bind (scanSaveBusControls_aside _ _) fun _ =>
    Makes.ite (fun _ => trivial) fun _ => ?_
  refine Makes.bind (scanSaveMemoryWindows_aside _) fun _ =>
    Makes.bind (scanSaveMsi_aside _) fun _ => ?_
  exact Makes.ite (fun _ => trivial) fun _ => Makes.bind (scanSaveFirmware_aside _) fun _ => trivial

theorem restoreControls_aside (controls : List ScanControl) (ret : Int) :
    Aside (restoreControls controls ret) := by
  induction controls generalizing ret with
  | nil => trivial
  | cons control controls ih =>
    have config := busWindow_config control.bus
    refine Makes.bind (writeSized_aside config _ _ _) fun _ => ?_
    exact Makes.bind (readSized_aside config _ _) fun _ => ih _

theorem readBars_aside {cfg : Window} (config : isConfig cfg = true) (offsets : List Nat) :
    Aside (readBars cfg offsets) := by
  induction offsets with
  | nil => trivial
  | cons offset offsets ih =>
    exact Makes.call (aside_config config _).1 fun _ => Makes.bind ih fun _ => trivial

theorem restoreBars_aside {cfg : Window} (config : isConfig cfg = true) (bars : List (Nat × U32))
    (ret : Int) : Aside (restoreBars cfg bars ret) := by
  induction bars generalizing ret with
  | nil => trivial
  | cons bar bars ih =>
    refine Makes.call ((aside_config config _).2.1 _) fun _ => ?_
    exact Makes.bind (readlIs_aside config _ _) fun _ => ih _

end Controls

section Host

theorem scanEntry_aside : Aside scanEntry := by
  refine Makes.call rfl fun found => Makes.ite (fun _ => trivial) fun _ => ?_
  refine Makes.bind (allOf_makes ?_) fun known => Makes.ite (fun _ => trivial) fun _ => ?_
  · simp only [List.mem_cons, List.not_mem_nil, or_false, forall_eq_or_imp, forall_eq]
    exact ⟨readlIs_aside rfl _ _, readlIs_aside rfl _ _⟩
  refine Makes.call rfl fun _ => Makes.call rfl fun _ => Makes.ite (fun _ => trivial) fun _ => ?_
  refine Makes.call rfl fun _ => Makes.call rfl fun _ => Makes.ite (fun _ => trivial) fun _ => ?_
  refine Makes.bind (readBars_aside rfl _) fun _ => Makes.bind (readBars_aside rfl _) fun _ => ?_
  exact Makes.call rfl fun _ => Makes.call rfl fun _ =>
    Makes.ite (fun _ => trivial) fun _ => trivial

theorem restoreConfig_aside (scan : Scan) (entry : EntryState) (ret : Int) :
    Aside (restoreConfig scan entry ret) := by
  refine Makes.bind (restoreControls_aside _ _) fun ret => Makes.call rfl fun _ =>
    Makes.call rfl fun _ => ?_
  refine Makes.bind (restoreBars_aside rfl _ _) fun ret =>
    Makes.bind (restoreBars_aside rfl _ _) fun ret => ?_
  refine Makes.call rfl fun _ => Makes.call rfl fun _ => Makes.call rfl fun _ =>
    Makes.call rfl fun _ => ?_
  refine Makes.bind (allOf_makes ?_) fun _ => trivial
  simp only [List.mem_cons, List.not_mem_nil, or_false, forall_eq_or_imp, forall_eq]
  exact ⟨readwIs_aside _ _ _, readwIs_aside _ _ _, readlIs_aside rfl _ _, readlIs_aside rfl _ _,
    readlIs_aside rfl _ _, readwIs_aside _ _ _⟩

theorem scanBus_aside (scan : Scan) : Aside (scanBus scan) := by
  refine writesUnder_aside rfl fun answer scan => Makes.ite (fun _ => trivial) fun _ => ?_
  refine Makes.bind (onlyIf_makes (Makes.call rfl fun _ => scanWrites_aside _ _)) fun scan => ?_
  refine Makes.call rfl fun devs => Makes.bind (walkBus_aside _ _) fun scan => ?_
  refine Makes.ite (fun _ => trivial) fun _ => Makes.ite (fun _ => trivial) fun _ => ?_
  exact Makes.bind (scanFirmware_aside _) fun _ => trivial

theorem scanHost_aside (scan : Scan) (entry : EntryState) : Aside (scanHost scan entry) := by
  refine Makes.call rfl fun allocated => Makes.ite (fun _ => trivial) fun _ =>
    Makes.call rfl fun _ => ?_
  refine Makes.bind (onlyIf_makes ⟨rfl, fun _ => trivial⟩) fun requested => ?_
  refine Makes.ite (fun _ => ?_) fun _ => ?_
  · exact Makes.call rfl fun _ => Makes.call rfl fun _ => Makes.call rfl fun _ => trivial
  refine Makes.bind (scanBus_aside _) fun scanned => Makes.call rfl fun _ => ?_
  refine Makes.bind (onlyIf_makes (Makes.call rfl fun _ => scanWrites_aside _ _)) fun scan => ?_
  refine Makes.call rfl fun _ =>
    Makes.bind (onlyIf_makes ⟨rfl, fun _ => trivial⟩) fun released => ?_
  exact Makes.bind (restoreConfig_aside _ _ _) fun ret => Makes.call rfl fun _ => trivial

theorem scanUnderParent_aside (scan : Scan) (entry : EntryState) :
    Aside (scanUnderParent scan entry) := by
  refine Makes.call rfl fun parent => Makes.ite (fun _ => trivial) fun _ => ?_
  exact Makes.bind (scanHost_aside _ _) fun ret => Makes.call rfl fun _ => trivial

theorem addProps_aside (changes : Changeset) (names : List String) :
    Aside (addProps changes names) := by
  induction names with
  | nil => trivial
  | cons name names ih => exact Makes.call rfl fun _ => andThen_makes ih

theorem pciNodeCreate_aside : Aside pciNodeCreate := by
  refine Makes.call rfl fun _ => Makes.ite (fun _ => trivial) fun _ => ?_
  refine Makes.call rfl fun _ => Makes.ite (fun _ => trivial) fun _ => ?_
  refine Makes.call rfl fun _ => Makes.ite (fun _ => trivial) fun _ => ?_
  refine Makes.bind (addProps_aside _ _) fun _ => Makes.ite (fun _ => trivial) fun _ => ?_
  exact Makes.call rfl fun _ => trivial

theorem pciNodeRemove_aside (node : PciNode) : Aside (pciNodeRemove node) := by
  refine Makes.bind (onlyIf_makes ⟨rfl, fun _ => trivial⟩) fun _ => ?_
  refine Makes.bind (onlyIf_makes ⟨rfl, fun _ => trivial⟩) fun _ => ?_
  refine Makes.bind (onlyIf_makes ⟨rfl, fun _ => trivial⟩) fun _ => ?_
  exact Makes.call rfl fun _ => trivial

theorem pciScan_aside (options : ScanOptions) : Aside (pciScan options) := by
  refine Makes.bind scanEntry_aside fun entry => ?_
  cases entry with
  | error ret => trivial
  | ok entry =>
    refine Makes.bind (scanSaveControls_aside _) fun saved =>
      Makes.ite (fun _ => trivial) fun _ => ?_
    refine Makes.ite (fun _ => ?_) fun _ => ?_
    · exact Makes.bind (scanUnderParent_aside _ _) fun ret => Makes.call rfl fun _ => trivial
    refine Makes.bind pciNodeCreate_aside fun created => ?_
    refine Makes.bind (onlyIf_makes (scanUnderParent_aside _ _)) fun ret => ?_
    exact Makes.bind (pciNodeRemove_aside _) fun cleanup => Makes.call rfl fun _ => trivial

end Host

section Chip

theorem sizeChipBar_aside (entry : ChipEntry) : Aside (sizeChipBar entry) := by
  refine Makes.call rfl fun _ => Makes.call rfl fun _ => Makes.call rfl fun _ => ?_
  refine Makes.call rfl fun _ => Makes.call rfl fun _ => Makes.call rfl fun _ => allOf_makes ?_
  simp only [List.mem_cons, List.not_mem_nil, or_false, forall_eq_or_imp, forall_eq]
  exact ⟨readlIs_aside rfl _ _, readlIs_aside rfl _ _, trivial⟩

theorem walkErom_aside (offset components pcie words : Nat) :
    Aside (walkErom offset components pcie words) := by
  induction words generalizing offset components pcie with
  | zero => trivial
  | succ words ih =>
    refine Makes.ite (fun _ => trivial) fun _ => Makes.call rfl fun first => ?_
    refine Makes.ite (fun _ => trivial) fun _ => Makes.ite (fun _ => trivial) fun _ => ?_
    refine Makes.ite (fun _ => ih _ _ _) fun _ => ?_
    refine Makes.ite (fun _ => trivial) fun _ => Makes.call rfl fun second => ?_
    exact Makes.ite (fun _ => trivial) fun _ => ih _ _ _

theorem inspectEromAt_aside (pointer : U32) : Aside (inspectEromAt pointer) := by
  refine Makes.ite (fun _ => trivial) fun _ => Makes.call rfl fun _ => ?_
  refine Makes.bind (readlIs_aside rfl _ _) fun held => Makes.ite (fun _ => trivial) fun _ => ?_
  refine Makes.bind (walkErom_aside _ _ _ _) fun walked => ?_
  split <;> trivial

theorem writeChecked_aside {window : Window} (config : isConfig window = true) (offset size : Nat)
    (value : U32) : Aside (writeChecked window offset size value) :=
  Makes.bind (writeSized_aside config _ _ _) fun _ => Makes.bind (readSized_aside config _ _)
    fun _ => trivial

theorem readChip_aside (o : ModuleOptions) : Aside (readChip o) := by
  refine Makes.bind (allOf_makes ?_) fun decoding => Makes.ite (fun _ => trivial) fun _ => ?_
  · simp only [List.mem_cons, List.not_mem_nil, or_false, forall_eq_or_imp, forall_eq]
    exact ⟨writeChecked_aside rfl _ _ _, writeChecked_aside rfl _ _ _, writeChecked_aside rfl _ _ _,
      writeChecked_aside rfl _ _ _, writeChecked_aside rfl _ _ _⟩
  refine Makes.call rfl fun _ => Makes.ite (fun _ => trivial) fun _ => Makes.call rfl fun _ => ?_
  refine Makes.ite (fun _ => trivial) fun _ => Makes.ite (fun _ => trivial) fun _ => ?_
  exact inspectEromAt_aside _

theorem restoreChip_aside (entry : ChipEntry) (ret : Int) : Aside (restoreChip entry ret) := by
  refine Makes.call rfl fun _ => Makes.call rfl fun _ => Makes.call rfl fun _ => ?_
  refine Makes.call rfl fun _ => Makes.call rfl fun _ => Makes.call rfl fun _ => ?_
  refine Makes.bind (allOf_makes ?_) fun same => trivial
  simp only [List.mem_cons, List.not_mem_nil, or_false, forall_eq_or_imp, forall_eq]
  exact ⟨readwIs_aside _ _ _, readwIs_aside _ _ _, readlIs_aside rfl _ _, readlIs_aside rfl _ _,
    readlIs_aside rfl _ _, readlIs_aside rfl _ _⟩

theorem useChip_aside (o : ModuleOptions) (entry : ChipEntry) : Aside (useChip o entry) := by
  refine Makes.bind (sizeChipBar_aside entry) fun sized => ?_
  refine Makes.bind (onlyIf_makes ⟨rfl, fun _ => trivial⟩) fun mapped => ?_
  refine Makes.bind (onlyIf_makes (readChip_aside o)) fun ret => ?_
  refine Makes.bind (restoreChip_aside entry ret) fun ret => ?_
  exact Makes.bind (onlyIf_makes ⟨rfl, fun _ => trivial⟩) fun _ => trivial

theorem snapshotChip_aside (o : ModuleOptions) : Aside (snapshotChip o) := by
  refine Makes.call rfl fun owned => Makes.ite (fun _ => trivial) fun _ => ?_
  refine Makes.call rfl fun low => Makes.call rfl fun high => Makes.call rfl fun chip => ?_
  refine Makes.call rfl fun mem => Makes.call rfl fun rcCommand =>
    Makes.call rfl fun epCommand => ?_
  refine Makes.bind (allOf_makes ?_) fun known => ?_
  · simp only [List.mem_cons, List.not_mem_nil, or_false, forall_eq_or_imp, forall_eq]
    exact ⟨readlIs_aside rfl _ _, readlIs_aside rfl _ _, trivial⟩
  refine Makes.bind (onlyIf_makes (useChip_aside o _)) fun ret => ?_
  exact Makes.call rfl fun _ => trivial

end Chip

section Endpoint

variable (o : ModuleOptions) (parents : ScanParents)

theorem readOffsets_aside {window : Window} (config : isConfig window = true) (offsets : List Nat) :
    Aside (PciePhy.readOffsets window offsets) := by
  induction offsets with
  | nil => trivial
  | cons offset offsets ih =>
    exact Makes.call (aside_config config offset).1 fun _ =>
      Makes.ite (fun _ => trivial) fun _ => ih

theorem checkEndpoint_aside : Aside checkEndpoint := by
  refine Makes.call rfl fun _ => Makes.ite (fun _ => trivial) fun _ => ?_
  refine Makes.call rfl fun _ => Makes.ite (fun _ => trivial) fun _ => ?_
  refine Makes.call rfl fun _ => Makes.ite (fun _ => trivial) fun _ => ?_
  refine Makes.call rfl fun _ => Makes.ite (fun _ => trivial) fun _ => ?_
  refine Makes.bind (readOffsets_aside rfl _) fun ret => Makes.ite (fun _ => trivial) fun _ => ?_
  exact Makes.call rfl fun _ => Makes.call rfl fun _ => trivial

theorem observeEndpoint_aside : Aside (observeEndpoint o parents) := by
  refine Makes.bind checkEndpoint_aside fun ret => ?_
  refine Makes.bind (andThen_makes (onlyIf_makes (snapshotChip_aside o))) fun ret => ?_
  exact andThen_makes (onlyIf_makes (pciScan_aside _))

theorem holdBusNumbers_aside (buses : U32) {observe : Kernel Int} (quiet : Aside observe) :
    Aside (holdBusNumbers buses observe) := by
  refine Makes.call rfl fun _ => Makes.call rfl fun _ => ?_
  refine Makes.bind (readlIs_aside rfl _ _) fun held =>
    Makes.bind (onlyIf_makes quiet) fun ret => ?_
  refine Makes.call rfl fun _ => Makes.call rfl fun accessible => ?_
  refine Makes.bind (onlyIf_makes ?_) fun ret => Makes.call rfl fun _ => trivial
  exact Makes.call rfl fun _ => Makes.bind (readlIs_aside rfl _ _) fun _ => trivial

theorem routeEndpoint_aside : Aside (routeEndpoint o parents) := by
  refine Makes.bind (allOf_makes ?_) fun known => Makes.ite (fun _ => trivial) fun _ => ?_
  · simp only [List.mem_cons, List.not_mem_nil, or_false, forall_eq_or_imp, forall_eq]
    exact ⟨readlIs_aside rfl _ _, readlIs_aside rfl _ _⟩
  refine Makes.call rfl fun buses => Makes.ite (fun _ => trivial) fun _ => ?_
  refine Makes.ite (fun _ => ?_) fun _ => observeEndpoint_aside o parents
  exact holdBusNumbers_aside _ (observeEndpoint_aside o parents)

theorem snapshotEndpoint_aside : Aside (snapshotEndpoint o parents) := by
  refine Makes.call rfl fun _ => Makes.ite (fun _ => trivial) fun _ =>
    Makes.call rfl fun owned => ?_
  refine Makes.bind (onlyIf_makes ?_) fun ret => Makes.call rfl fun _ => trivial
  refine Makes.call rfl fun rc => Makes.call rfl fun ep => ?_
  refine Makes.bind (onlyIf_makes (routeEndpoint_aside o parents)) fun ret => ?_
  refine Makes.bind (onlyIf_makes ⟨rfl, fun _ => trivial⟩) fun _ => ?_
  refine Makes.bind (onlyIf_makes ⟨rfl, fun _ => trivial⟩) fun _ => ?_
  exact Makes.call rfl fun _ => trivial

end Endpoint

end WinBoot.EndpointCalls
