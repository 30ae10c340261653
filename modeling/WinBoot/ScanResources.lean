import WinBoot.WindowResources
import WinBoot.ScanRuns

/-! The resources of the bounded PCI scan: the bus, the host bridge, its parent and the memory
window, with the mappings and interrupt vectors that are taken while the bus stands. -/

namespace WinBoot.ScanResources
open Interaction KernelCalls PciScan PciHost ResourceLedger KernelLedger WindowResources

section Save

variable {owned : List Resource} {cfg : Window} (here : mapped cfg ∈ owned)
include here

theorem scanCapFrom_still (id count pos : Nat) : Still owned (scanCapFrom cfg id count pos) := by
  induction count generalizing pos with
  | zero => trivial
  | succ count ih =>
    refine Prog.Makes.ite (fun _ => trivial) fun _ => Prog.Makes.ite (fun _ => trivial) fun _ => ?_
    refine Prog.Makes.call (still_access rfl rfl here) fun found => ?_
    refine Prog.Makes.ite (fun _ => trivial) fun _ => ?_
    exact Prog.Makes.call (still_access rfl rfl here) fun next => ih _

theorem scanCap_still (id : Nat) : Still owned (scanCap cfg id) :=
  Prog.Makes.call (still_access rfl rfl here) fun _ => scanCapFrom_still here _ _ _

theorem scanExtcapFrom_still (id count pos : Nat) :
    Still owned (scanExtcapFrom cfg id count pos) := by
  induction count generalizing pos with
  | zero => trivial
  | succ count ih =>
    refine Prog.Makes.ite (fun _ => trivial) fun _ => Prog.Makes.ite (fun _ => trivial) fun _ => ?_
    refine Prog.Makes.call (still_access rfl rfl here) fun header => ?_
    exact Prog.Makes.ite (fun _ => trivial) fun _ => Prog.Makes.ite (fun _ => trivial) fun _ => ih _

theorem scanExtcap_still (id : Nat) : Still owned (scanExtcap cfg id) :=
  scanExtcapFrom_still here _ _ _

end Save

theorem busWindow_mapped (bus : Nat) : mapped (busWindow bus) ∈ configs := by
  unfold busWindow
  split_ifs <;> decide

theorem scanSaveControl_still (scan : Scan) (bus offset size : Nat) (mask : U32) :
    Still configs (scanSaveControl scan bus offset size mask) :=
  Prog.Makes.bind (readSized_still (busWindow_mapped bus) _ _) fun _ => trivial

theorem scanSaveBusControls_still (scan : Scan) (bus : Nat) :
    Still configs (scanSaveBusControls scan bus) := by
  have here := busWindow_mapped bus
  refine Prog.Makes.bind (scanCap_still here _) fun pm => ?_
  refine Prog.Makes.bind (scanCap_still here _) fun exp => ?_
  refine Prog.Makes.bind (scanExtcap_still here _) fun l1ss => ?_
  refine Prog.Makes.ite (fun _ => trivial) fun _ => ?_
  refine Prog.Makes.call (still_access rfl rfl here) fun control => ?_
  refine Prog.Makes.ite (fun _ => trivial) fun _ => ?_
  refine Prog.Makes.bind (scanSaveControl_still _ _ _ _ _) fun _ => ?_
  refine Prog.Makes.bind (scanSaveControl_still _ _ _ _ _) fun _ => ?_
  refine Prog.Makes.bind (scanSaveControl_still _ _ _ _ _) fun _ => ?_
  refine Prog.Makes.bind (scanSaveControl_still _ _ _ _ _) fun _ => ?_
  exact Prog.Makes.bind (scanSaveControl_still _ _ _ _ _) fun _ => trivial

theorem scanSaveMemoryWindows_still (scan : Scan) : Still configs (scanSaveMemoryWindows scan) := by
  refine Prog.Makes.bind (scanSaveControl_still _ _ _ _ _) fun _ => ?_
  refine Prog.Makes.bind (scanSaveControl_still _ _ _ _ _) fun _ => ?_
  refine Prog.Makes.ite (fun _ => trivial) fun _ => ?_
  refine Prog.Makes.bind (scanSaveControl_still _ _ _ _ _) fun _ => ?_
  refine Prog.Makes.bind (scanSaveControl_still _ _ _ _ _) fun _ => ?_
  exact Prog.Makes.bind (scanSaveControl_still _ _ _ _ _) fun _ => scanSaveControl_still _ _ _ _ _

theorem scanSaveMsi_still (scan : Scan) : Still configs (scanSaveMsi scan) := by
  refine Prog.Makes.ite (fun _ => trivial) fun _ => ?_
  refine Prog.Makes.bind (scanCap_still (by decide) _) fun msiCap => ?_
  refine Prog.Makes.ite (fun _ => trivial) fun _ => Prog.Makes.call rfl fun flags => ?_
  refine Prog.Makes.ite (fun _ => trivial) fun _ => ?_
  refine Prog.Makes.bind (scanSaveControl_still _ _ _ _ _) fun _ => ?_
  refine Prog.Makes.bind (scanSaveControl_still _ _ _ _ _) fun _ => ?_
  refine Prog.Makes.bind (onlyIf_makes (scanSaveControl_still _ _ _ _ _)) fun _ => ?_
  refine Prog.Makes.bind (scanSaveControl_still _ _ _ _ _) fun _ => ?_
  exact Prog.Makes.bind (onlyIf_makes (scanSaveControl_still _ _ _ _ _)) fun _ => trivial

theorem scanSaveFirmware_still (scan : Scan) : Still configs (scanSaveFirmware scan) := by
  refine Prog.Makes.ite (fun _ => trivial) fun _ => ?_
  refine Prog.Makes.bind (scanSaveControl_still _ _ _ _ _) fun _ => ?_
  refine Prog.Makes.bind (scanSaveControl_still _ _ _ _ _) fun _ => ?_
  refine Prog.Makes.bind (scanSaveControl_still _ _ _ _ _) fun _ => ?_
  exact Prog.Makes.bind (scanSaveControl_still _ _ _ _ _) fun _ => scanSaveControl_still _ _ _ _ _

theorem scanSaveControls_still (scan : Scan) : Still configs (scanSaveControls scan) := by
  refine Prog.Makes.bind (scanSaveBusControls_still _ _) fun _ => ?_
  refine Prog.Makes.ite (fun _ => trivial) fun _ => ?_
  refine Prog.Makes.bind (scanSaveBusControls_still _ _) fun _ => ?_
  refine Prog.Makes.ite (fun _ => trivial) fun _ => ?_
  refine Prog.Makes.bind (scanSaveMemoryWindows_still _) fun _ => ?_
  refine Prog.Makes.bind (scanSaveMsi_still _) fun _ => Prog.Makes.ite (fun _ => trivial) fun _ => ?_
  exact Prog.Makes.bind (scanSaveFirmware_still _) fun _ => trivial

/-! ### On the scanned bus -/

theorem rejectScan_still (scan : Scan) : Still [] (rejectScan scan) :=
  Prog.Makes.call rfl fun _ => trivial

theorem rejectUnless_still (passed : Bool) (scan : Scan) : Still [] (rejectUnless passed scan) :=
  Prog.Makes.ite (fun _ => trivial) fun _ => rejectScan_still scan

theorem scanConfig_mapped {busNumber devfn : Nat} {cfg : Window}
    (config : scanConfig busNumber devfn = some cfg) : mapped cfg ∈ configs := by
  unfold scanConfig at config
  split_ifs at config <;> cases config <;> decide

theorem scanWrite_still (scan : Scan) (write : ConfigWrite) :
    Still configs (scanWrite scan write) := by
  unfold scanWrite
  split
  · trivial
  · next cfg config =>
    dsimp only
    refine Prog.Makes.ite (fun _ => ?_) fun _ => ?_
    · exact Prog.Makes.bind ((rejectScan_still scan).weaken (List.nil_subset _)) fun _ => trivial
    · exact Prog.Makes.bind (writeSized_still (scanConfig_mapped config) _ _ _) fun _ => trivial

theorem scanWrites_still (scan : Scan) (writes : List ConfigWrite) :
    Still configs (scanWrites scan writes) := by
  induction writes generalizing scan with
  | nil => trivial
  | cons write writes ih => exact Prog.Makes.bind (scanWrite_still scan write) fun result => ih _

/-- What stands while the bus is scanned. -/
abbrev busNeeds : List Resource := [mapped .root, mapped .endpoint, .rootBus]

section Bus

variable {α : Type} {owned frees : List Resource} {scan : Scan}

/-- A call of the PCI core with the writes it makes. -/
theorem writes_kept {c : Call} {writes : Answer c → List ConfigWrite}
    {f : Answer c → Scan → Kernel α} (quiet : still (owned ++ busNeeds) c = true)
    (rest : ∀ r scan', Kept owned busNeeds frees (f r scan')) :
    Kept owned busNeeds frees (query c >>= fun r => scanWrites scan (writes r) >>= f r) :=
  leaves_call quiet fun r => leaves_still (scanWrites_still scan (writes r))
    (List.subset_append_of_subset_right _ (by decide)) (rest r)

theorem rejectUnless_kept {passed : Bool} {needs : List Resource} {f : Scan → Kernel α}
    (rest : ∀ scan', Kept owned needs frees (f scan')) :
    Kept owned needs frees (rejectUnless passed scan >>= f) :=
  leaves_still (rejectUnless_still passed scan) (List.nil_subset _) rest

theorem scanEndpointMsi_kept (scan : Scan) : Kept [] busNeeds [.vectors] (scanEndpointMsi scan) := by
  unfold scanEndpointMsi
  refine Leaves.take .vectors (fun _ => rfl) (fun _ => rfl) (by decide) rfl (by decide) (by decide)
    (fun answer granted => ?_) fun answer refused => ?_
  · refine leaves_still (scanWrites_still scan _) (by decide) fun scan => ?_
    rw [if_neg (Int.not_lt.mpr granted)]
    refine leaves_call rfl fun data => leaves_call rfl fun flags => ?_
    have verify (routed : Bool) : Still configs (allOf [pure routed,
        readlIs .endpoint (scan.msiCap + pciMsiAddressLo) 0xbffff000,
        if scan.msi64 then readlIs .endpoint (scan.msiCap + pciMsiAddressHi) 0 else pure true,
        readwIs .endpoint (scan.msiCap + if scan.msi64 then pciMsiData64 else pciMsiData32) 8]) := by
      refine allOf_makes ?_
      simp only [List.mem_cons, List.not_mem_nil, or_false, forall_eq_or_imp, forall_eq]
      refine ⟨trivial, readlIs_still (by decide) _ _, ?_, readwIs_still (by decide) _ _⟩
      exact Prog.Makes.ite (fun _ => readlIs_still (by decide) _ _) fun _ => trivial
    refine leaves_still (verify _) (by decide) fun verified => ?_
    refine Leaves.give .vectors (fun _ => rfl) (fun _ => rfl) (by decide) nofun (by decide)
      fun writes => ?_
    refine leaves_still (scanWrites_still scan _) (by decide) fun scan => ?_
    exact leaves_call rfl fun flags => Leaves.done rfl
  · refine leaves_still (scanWrites_still scan _) (by decide) fun scan => ?_
    rw [if_pos (Int.not_le.mp refused)]
    exact Leaves.done rfl

theorem identifyIommu_kept (scan : Scan) : Kept [] busNeeds [mapped .dart] (identifyIommu scan) := by
  have reject (result : Bool) : Kept [] busNeeds [mapped .dart] (do
      let scan ← rejectScan scan
      return (result, scan)) :=
    leaves_still (rejectScan_still scan) (List.nil_subset _) fun _ => Leaves.done rfl
  refine leaves_call rfl fun translated => Leaves.ite (fun _ => reject false) fun _ => ?_
  refine leaves_call rfl fun reserved => ioremap_kept (by decide) (by decide) ?_ (reject true)
  have check : Still [mapped .dart] (allOf [pure reserved, readlIs .dart 0xc 0x80]) := by
    refine allOf_makes ?_
    simp only [List.mem_cons, List.not_mem_nil, or_false, forall_eq_or_imp, forall_eq]
    exact ⟨trivial, readlIs_still (by decide) _ _⟩
  refine leaves_still check (by decide) fun enabled => rejectUnless_kept fun scan => ?_
  exact iounmap_kept (by decide) (Leaves.done rfl)

theorem identifyBar_still (scan : Scan) (bar : Nat) : Still [] (identifyBar scan bar) :=
  Prog.Makes.call rfl fun _ => rejectUnless_still _ _

theorem scanIdentify_kept (dev : PciDevice) (scan : Scan) :
    Kept [] busNeeds [mapped .dart, .vectors] (scanIdentify dev scan) := by
  unfold scanIdentify
  refine rejectUnless_kept fun scan => ?_
  have quiet (window : Window) (here : mapped window ∈ configs) (bound : Bool) :
      Still configs (allOf [pure bound, do
        let command ← query (.readw window pciCommand)
        return command.setWidth 32 &&& commandMaster = 0]) := by
    refine allOf_makes ?_
    simp only [List.mem_cons, List.not_mem_nil, or_false, forall_eq_or_imp, forall_eq]
    exact ⟨trivial, Prog.Makes.call (still_access rfl rfl here) fun _ => trivial⟩
  refine leaves_still (quiet _ ?_ _) (by decide) fun quiet => rejectUnless_kept fun scan => ?_
  · split_ifs <;> decide
  refine Leaves.tidy (Kept.onlyIf fun _ => identifyIommu_kept scan) (by decide) (by decide)
    (by decide) fun result => Leaves.ite (fun _ => Leaves.done rfl) fun _ => ?_
  have msi (scan : Scan) : Kept [] busNeeds [.vectors] (do
      let result ← scanEndpointMsi scan
      rejectUnless (result.1 = 0) result.2) :=
    Leaves.tidy (scanEndpointMsi_kept scan) (by decide) (by decide) (by decide) fun result =>
      Kept.of_still ((rejectUnless_still _ _).weaken (List.nil_subset _))
  refine Leaves.tidy (Kept.onlyIf fun _ => msi _) (by decide) (by decide) (by decide) fun scan => ?_
  have bars : Still [] (do
      let scan ← identifyBar scan 0
      identifyBar scan 2) :=
    Prog.Makes.bind (identifyBar_still _ _) fun _ => identifyBar_still _ _
  exact leaves_still (onlyIf_makes bars) (List.nil_subset _) fun scan => Leaves.done rfl

theorem walkBus_kept (devs : List PciDevice) (scan : Scan) :
    Kept [] busNeeds [mapped .dart, .vectors] (walkBus devs scan) := by
  induction devs generalizing scan with
  | nil => exact Leaves.done rfl
  | cons dev devs ih =>
    refine Leaves.tidy (scanIdentify_kept dev scan) (by decide) (by decide) (by decide) fun result => ?_
    exact Leaves.ite (fun _ => Leaves.done rfl) fun _ => ih _

theorem faultPoll_still (attempts : Nat) : Still [mapped .dart] (faultPoll attempts) := by
  induction attempts with
  | zero => trivial
  | succ attempt ih =>
    exact Prog.Makes.call rfl fun error => Prog.Makes.ite (fun _ => trivial) fun _ => ih

theorem scanFaultTables_kept : Kept [] [] [mapped .dart] scanFaultTables := by
  refine ioremap_kept (by decide) (by decide) ?_ (Leaves.done rfl)
  refine leaves_still (faultPoll_still 2000) (by decide) fun _ => ?_
  exact iounmap_kept (by decide) (Leaves.done rfl)

theorem holdWifi_kept (scan : Scan) : Kept [] busNeeds [mapped .dart] (holdWifi scan) := by
  refine Leaves.ite (fun _ => Leaves.done rfl) fun _ => leaves_call rfl fun netdev => ?_
  refine Leaves.ite (fun _ => Leaves.done rfl) fun _ => ?_
  refine ioremap_kept (by decide) (by decide) ?_ (Leaves.done rfl)
  refine writes_kept rfl fun answer scan => ?_
  exact iounmap_kept (by decide) (Leaves.done rfl)

theorem firmwareObservation_kept (scan : Scan) :
    Kept [] busNeeds [mapped .dart] (firmwareObservation scan) := by
  refine writes_kept (by decide) fun _ scan => writes_kept (by decide) fun answer scan => ?_
  refine Leaves.ite (fun _ => Leaves.done rfl) fun _ => ?_
  refine Leaves.tidy scanFaultTables_kept (by decide) (by decide) (by decide) fun ret => ?_
  exact Leaves.ite (fun _ => Leaves.done rfl) fun _ => holdWifi_kept scan

theorem scanFirmware_kept (scan : Scan) :
    Kept [] busNeeds [mapped .dart] (scanFirmware scan) := by
  refine leaves_call rfl fun found => Leaves.ite (fun _ => Leaves.done rfl) fun _ => ?_
  refine leaves_call (by decide) fun slot => Leaves.ite (fun _ => Leaves.done rfl) fun _ => ?_
  refine leaves_call (by decide) fun ret => Leaves.ite (fun _ => Leaves.done rfl) fun _ => ?_
  refine leaves_call rfl fun _ => ?_
  refine Leaves.tidy (firmwareObservation_kept _) (by decide) (by decide) (by decide) fun result => ?_
  refine writes_kept (by decide) fun _ scan => ?_
  have finish (ret : Int) : Kept [] busNeeds [mapped .dart] (do
      let writes ← query .pciClearMaster
      let scan ← scanWrites scan writes
      return (if ret < 0 then ret else 0, scan)) :=
    writes_kept (by decide) fun _ scan => Leaves.done rfl
  refine ioremap_kept (by decide) (by decide) ?_ (finish _)
  exact iounmap_kept (by decide) (finish _)

end Bus

/-! ### From the host bridge to the whole scan -/

/-- The options of the scan stay as they are. -/
theorem assigns_invariant (assigns : Bool) :
    ScanRuns.ScanInvariant (Monitor.only fun _ : Call => True)
      fun (_ : Unit) scan => scan.assignMemory = assigns where
  call _ _ _ _ := ⟨trivial, rfl⟩
  count _ same := same
  write write same := by
    unfold scanWrite
    split
    · exact same
    · dsimp only
      split_ifs
      · exact fun _ _ => ⟨trivial, same⟩
      · refine Prog.Safe.bind _ (Prog.safe_of_allows _ (fun _ _ => trivial) _ _) fun _ _ _ => same
  reject same _ _ := ⟨trivial, same⟩
  activate same _ _ _ := ⟨trivial, same⟩

theorem scanBus_assigns (scan : Scan) :
    (scanBus scan).Yields (fun _ => True) fun result =>
      result.2.2.assignMemory = scan.assignMemory := by
  have safe : (scanBus scan).Safe (Monitor.only fun _ => True) (fun _ result =>
      result.2.2.assignMemory = scan.assignMemory) () :=
    ScanRuns.scanBus_safe (assigns_invariant scan.assignMemory) rfl
  exact safe.onlyYields

/-- The scan of the bus leaves the bus to remove, if there is one. -/
theorem scanBus_leaves (scan : Scan) :
    Leaves accounts [] (.hostBridge :: configs) [.rootBus, mapped .dart, .vectors]
      (fun result rest => rest = if result.2.1 then [.rootBus] else []) (scanBus scan) := by
  refine Leaves.takePromised .rootBus (fun _ _ honest => honest) (fun _ => rfl) (fun _ => rfl)
    (by decide) rfl (by decide) (by decide) (fun answer _ granted => ?_) fun answer promise refused => ?_
  · obtain ⟨ret, bus, writes⟩ := answer
    obtain rfl : bus = true := granted
    refine leaves_still (scanWrites_still scan _) (by decide) fun scan => ?_
    refine Leaves.ite (fun _ => Leaves.done rfl) fun _ => ?_
    have assign : Kept [] busNeeds [] (do
        let writes ← query .pciAssignResources
        scanWrites scan writes) :=
      leaves_call rfl fun writes => Kept.of_still ((scanWrites_still scan writes).weaken (by decide))
    refine Leaves.tidy (Kept.onlyIf fun _ => assign) (by decide) (by decide) (by decide) fun scan => ?_
    refine leaves_call rfl fun devs => ?_
    refine Leaves.tidy (walkBus_kept devs scan) (by decide) (by decide) (by decide) fun scan => ?_
    refine Leaves.ite (fun _ => Leaves.done rfl) fun _ => ?_
    refine Leaves.ite (fun _ => Leaves.done rfl) fun _ => ?_
    exact Leaves.tidy (scanFirmware_kept scan) (by decide) (by decide) (by decide) fun _ =>
      Leaves.done rfl
  · obtain ⟨ret, bus, writes⟩ := answer
    obtain rfl : bus = false := Bool.eq_false_iff.mpr refused
    have failed : ret ≠ 0 := fun zero => refused (promise zero)
    refine leaves_still (scanWrites_still scan _) (by decide) fun scan => ?_
    simp only [ne_eq, failed, not_false_eq_true, if_true]
    exact Leaves.done rfl

/-! ### The restored configuration space -/

theorem restoreControls_still (controls : List ScanControl) (ret : Int) :
    Still configs (restoreControls controls ret) := by
  induction controls generalizing ret with
  | nil => trivial
  | cons control controls ih =>
    refine Prog.Makes.bind (writeSized_still (busWindow_mapped _) _ _ _) fun _ => ?_
    exact Prog.Makes.bind (readSized_still (busWindow_mapped _) _ _) fun _ => ih _

section Bars

variable {cfg : Window} (here : mapped cfg ∈ configs)
include here

theorem restoreBars_still (bars : List (Nat × U32)) (ret : Int) :
    Still configs (restoreBars cfg bars ret) := by
  induction bars generalizing ret with
  | nil => trivial
  | cons bar bars ih =>
    refine Prog.Makes.call (still_access rfl rfl here) fun _ => ?_
    exact Prog.Makes.bind (readlIs_still here _ _) fun _ => ih _

theorem readBars_still (offsets : List Nat) : Still configs (readBars cfg offsets) := by
  induction offsets with
  | nil => trivial
  | cons offset offsets ih =>
    refine Prog.Makes.call (still_access rfl rfl here) fun _ => ?_
    exact Prog.Makes.bind ih fun _ => trivial

end Bars

theorem restoreConfig_still (scan : Scan) (entry : EntryState) (ret : Int) :
    Still configs (restoreConfig scan entry ret) := by
  refine Prog.Makes.bind (restoreControls_still _ _) fun _ => ?_
  refine Prog.Makes.call rfl fun _ => Prog.Makes.call rfl fun _ => ?_
  refine Prog.Makes.bind (restoreBars_still (by decide) _ _) fun _ => ?_
  refine Prog.Makes.bind (restoreBars_still (by decide) _ _) fun _ => ?_
  refine Prog.Makes.call rfl fun _ => Prog.Makes.call rfl fun _ => ?_
  refine Prog.Makes.call rfl fun _ => Prog.Makes.call rfl fun _ => ?_
  refine Prog.Makes.bind (allOf_makes ?_) fun _ => trivial
  simp only [List.mem_cons, List.not_mem_nil, or_false, forall_eq_or_imp, forall_eq]
  exact ⟨readwIs_still (by decide) _ _, readwIs_still (by decide) _ _, readlIs_still (by decide) _ _,
    readlIs_still (by decide) _ _, readlIs_still (by decide) _ _, readwIs_still (by decide) _ _⟩

theorem scanEntry_still : Still configs scanEntry := by
  refine Prog.Makes.call rfl fun found => Prog.Makes.ite (fun _ => trivial) fun _ => ?_
  refine Prog.Makes.bind (allOf_makes ?_) fun known => Prog.Makes.ite (fun _ => trivial) fun _ => ?_
  · simp only [List.mem_cons, List.not_mem_nil, or_false, forall_eq_or_imp, forall_eq]
    exact ⟨readlIs_still (by decide) _ _, readlIs_still (by decide) _ _⟩
  refine Prog.Makes.call rfl fun rcCommand => Prog.Makes.call rfl fun epCommand => ?_
  refine Prog.Makes.ite (fun _ => trivial) fun _ => ?_
  refine Prog.Makes.call rfl fun control => Prog.Makes.call rfl fun busNumbers => ?_
  refine Prog.Makes.ite (fun _ => trivial) fun _ => ?_
  refine Prog.Makes.bind (readBars_still (by decide) _) fun rcBars => ?_
  refine Prog.Makes.bind (readBars_still (by decide) _) fun epBars => ?_
  refine Prog.Makes.call rfl fun rcRom => Prog.Makes.call rfl fun epRom => ?_
  exact Prog.Makes.ite (fun _ => trivial) fun _ => trivial

abbrev hostFrees : List Resource :=
  [.hostBridge, .memoryWindow, .rootBus, mapped .dart, .vectors]

/-- What is owned around the scan of the bus. -/
def hostOwned (assignMemory : Bool) : List Resource :=
  if assignMemory then [.memoryWindow, .hostBridge] else [.hostBridge]

/-- The end of `scanHost`, from the bridge on. -/
def giveHost (scan : Scan) (entry : EntryState) (ret : Int) : Kernel Int := do
  query .pciFreeHostBridge
  let released ← onlyIf scan.assignMemory 0 (query .releaseResource)
  let ret ← restoreConfig scan entry (if released ≠ 0 then eio else ret)
  query (.release .pciHost)
  return if scan.rejected then eio else ret

def removeHost (scan : Scan) (entry : EntryState) (ret : Int) (bus : Bool) : Kernel Int := do
  query (.teardown .pciHost)
  let scan ← onlyIf bus scan do
    let writes ← query .pciRemoveRootBus
    scanWrites scan writes
  giveHost scan entry ret

def holdHost (scan : Scan) (entry : EntryState) : Kernel Int := do
  let (ret, bus, scan) ← scanBus scan
  removeHost scan entry ret bus

theorem scanHost_parts (scan : Scan) (entry : EntryState) : scanHost scan entry = (do
    if !(← query .pciAllocHostBridge) then return enomem
    query (.acquire .pciHost)
    let requested ← onlyIf scan.assignMemory 0 (query .requestResource)
    if requested ≠ 0 then
      query (.teardown .pciHost)
      query .pciFreeHostBridge
      query (.release .pciHost)
      return requested
    holdHost scan entry) := rfl

section Remove

variable (scan : Scan) (entry : EntryState) (ret : Int)

theorem giveHost_kept : Kept (hostOwned scan.assignMemory) (.rootDevice :: configs) hostFrees
    (giveHost scan entry ret) := by
  have finish (ret : Int) : Kept [] (.rootDevice :: configs) hostFrees (do
      let ret ← restoreConfig scan entry ret
      query (.release .pciHost)
      return if scan.rejected then eio else ret) := by
    refine leaves_still (restoreConfig_still _ _ _) (by decide) fun ret => ?_
    exact leaves_call rfl fun _ => Leaves.done rfl
  unfold giveHost
  cases scan.assignMemory with
  | false =>
    exact Leaves.give .hostBridge (fun _ => rfl) (fun _ => rfl) (by decide) (by decide) (by decide)
      fun _ => finish _
  | true =>
    refine Leaves.give .hostBridge (fun _ => rfl) (fun _ => rfl) (by decide) (by decide) (by decide)
      fun _ => ?_
    exact Leaves.give .memoryWindow (fun _ => rfl) (fun _ => rfl) (by decide) nofun (by decide)
      fun _ => finish _

theorem scanWrites_assigns (writes : List ConfigWrite) :
    (scanWrites scan writes).Yields (fun _ => True) fun scan' =>
      scan'.assignMemory = scan.assignMemory := by
  have safe : (scanWrites scan writes).Safe (Monitor.only fun _ => True) (fun _ scan' =>
      scan'.assignMemory = scan.assignMemory) () :=
    ScanRuns.scanWrites_safe (assigns_invariant scan.assignMemory) rfl writes
  exact safe.onlyYields

theorem removeHost_bare : Kept (hostOwned scan.assignMemory) (.rootDevice :: configs) hostFrees
    (removeHost scan entry ret false) :=
  leaves_call rfl fun _ => giveHost_kept scan entry ret

/-- The bus goes first, then the bridge, then the window. -/
theorem removeHost_kept :
    Kept (.rootBus :: hostOwned scan.assignMemory) (.rootDevice :: configs) hostFrees
      (removeHost scan entry ret true) := by
  refine leaves_call rfl fun _ => Leaves.give .rootBus (fun _ => rfl) (fun _ => rfl) ?_ nofun (.head _)
    fun writes => ?_
  · cases scan.assignMemory <;> decide
  have rest : (Resource.rootBus :: hostOwned scan.assignMemory).filter (· ≠ .rootBus) =
      [] ++ hostOwned scan.assignMemory := by
    cases scan.assignMemory <;> decide
  rw [rest]
  refine Leaves.bindYields (Kept.of_still (scanWrites_still scan writes))
    (scanWrites_assigns scan writes) ?_ (List.nil_subset _) nofun ?_
  · exact List.subset_append_of_subset_right _ (by decide)
  · rintro scan' _ assigns rfl
    rw [← assigns]
    exact giveHost_kept scan' entry ret

theorem holdHost_kept :
    Kept (hostOwned scan.assignMemory) (.rootDevice :: configs) hostFrees (holdHost scan entry) := by
  refine Leaves.bindYields (scanBus_leaves scan) (scanBus_assigns scan) ?_ (by decide) ?_ ?_
  · cases scan.assignMemory <;> decide
  · cases scan.assignMemory <;> decide
  · rintro ⟨ret, bus, scan'⟩ _ assigns rfl
    rw [← assigns]
    cases bus with
    | false => exact removeHost_bare scan' entry ret
    | true => exact removeHost_kept scan' entry ret

theorem scanHost_kept : Kept [] (.rootDevice :: configs) hostFrees (scanHost scan entry) := by
  have hold := holdHost_kept scan entry
  rw [scanHost_parts]
  refine Leaves.take .hostBridge (fun _ => rfl) (fun _ => rfl) (by decide) rfl (by decide) (by decide)
    (fun allocated granted => ?_) fun allocated refused => ?_
  · obtain rfl : allocated = true := granted
    refine leaves_call rfl fun _ => ?_
    cases assigns : scan.assignMemory with
    | false =>
      rw [assigns] at hold
      exact hold
    | true =>
      rw [assigns] at hold
      refine Leaves.take .memoryWindow (fun _ => rfl) (fun _ => rfl) (by decide) rfl (by decide)
        (by decide) (fun requested granted => ?_) fun requested refused => ?_
      · rw [if_neg (not_not.mpr granted)]
        exact hold
      · rw [if_pos refused]
        refine leaves_call rfl fun _ => Leaves.give .hostBridge (fun _ => rfl) (fun _ => rfl) (by decide)
          (by decide) (by decide) fun _ => ?_
        exact leaves_call rfl fun _ => Leaves.done rfl
  · obtain rfl : allocated = false := Bool.eq_false_iff.mpr refused
    exact Leaves.done rfl

theorem scanUnderParent_kept :
    Kept [] configs (.rootDevice :: hostFrees) (scanUnderParent scan entry) := by
  refine Leaves.take .rootDevice (fun _ => rfl) (fun _ => rfl) (by decide) rfl (by decide) (by decide)
    (fun parent granted => ?_) fun parent refused => ?_
  · rw [if_neg (Int.not_lt.mpr granted)]
    refine Leaves.tidy (scanHost_kept scan entry) (by decide) (by decide) (by decide) fun ret => ?_
    exact Leaves.give .rootDevice (fun _ => rfl) (fun _ => rfl) (by decide) (by decide) (by decide)
      fun _ => Leaves.done rfl
  · rw [if_pos (Int.not_le.mp refused)]
    exact Leaves.done rfl

end Remove

theorem addProps_still (changes : Changeset) (names : List String) :
    Still [] (addProps changes names) := by
  induction names with
  | nil => trivial
  | cons name names ih => exact Prog.Makes.call rfl fun ret => andThen_makes ih

theorem pciNodeCreate_still : Still [] pciNodeCreate := by
  refine Prog.Makes.call rfl fun phandle => Prog.Makes.ite (fun _ => trivial) fun _ => ?_
  refine Prog.Makes.call rfl fun found => Prog.Makes.ite (fun _ => trivial) fun _ => ?_
  refine Prog.Makes.call rfl fun created => Prog.Makes.ite (fun _ => trivial) fun _ => ?_
  refine Prog.Makes.bind (addProps_still _ _) fun ret => Prog.Makes.ite (fun _ => trivial) fun _ => ?_
  exact Prog.Makes.call rfl fun _ => trivial

theorem onlyIfCall_still {owned : List Resource} {needed : Bool} {c : Call} {unchanged : Answer c}
    (quiet : still owned c = true) : Still owned (onlyIf needed unchanged (query c)) :=
  onlyIf_makes ⟨quiet, fun _ => trivial⟩

theorem pciNodeRemove_still (node : PciNode) : Still [] (pciNodeRemove node) := by
  refine Prog.Makes.bind (onlyIfCall_still rfl) fun ret => ?_
  refine Prog.Makes.bind (onlyIfCall_still rfl) fun detached => ?_
  refine Prog.Makes.bind (onlyIfCall_still rfl) fun cleanup => ?_
  exact Prog.Makes.call rfl fun _ => trivial

abbrev scanFrees : List Resource := .rootDevice :: hostFrees

theorem pciScan_kept (options : ScanOptions) : Kept [] configs scanFrees (pciScan options) := by
  refine leaves_still scanEntry_still (by decide) fun entered => ?_
  cases entered with
  | error ret => exact Leaves.done rfl
  | ok entry =>
    refine leaves_still (scanSaveControls_still _) (by decide) fun saved => ?_
    refine Leaves.ite (fun _ => Leaves.done rfl) fun _ => Leaves.ite (fun _ => ?_) fun _ => ?_
    · refine Leaves.tidy (scanUnderParent_kept _ _) (by decide) (by decide) (by decide) fun ret => ?_
      exact leaves_call rfl fun _ => Leaves.done rfl
    · refine leaves_still pciNodeCreate_still (by decide) fun node => ?_
      refine Leaves.tidy (Kept.onlyIf fun _ => scanUnderParent_kept _ _) (by decide) (by decide)
        (by decide) fun ret => ?_
      refine leaves_still (pciNodeRemove_still _) (by decide) fun cleanup => ?_
      exact leaves_call rfl fun _ => Leaves.done rfl

end WinBoot.ScanResources
