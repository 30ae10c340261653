import WinBoot.GuardRules

/-! Rules for runs of the bounded scan. An invariant of the scan is checked once against the
guarded write, the rejection and the beginning of the firmware phase; everything that happens on
the scanned bus then keeps it, and so does the scan up to its restoring writes. -/

namespace WinBoot.ScanRuns
open Interaction KernelCalls PciScan PciHost ConfigStorage SavedControls
  GuardRules

/-- The calls made on the scanned bus, other than stores and marks. -/
def scanCall : Call → Bool
  | .readb .. | .readw .. | .readl .. | .ioremap _ | .iounmap _ | .pciFindBus _
  | .pciScanRootBusBridge | .pciAssignResources | .pciWalkBus | .iommuDomainIsDma
  | .msiReservationPresent | .barResource _ | .pciAllocIrqVectors | .pciIrqVector
  | .pciFreeIrqVectors | .pciGetSlot | .deviceSetDriverOverride | .pciBusAddDevice | .deviceAttach
  | .netdevIsEndpoint | .holdLoop .. | .deviceReleaseDriver | .pciClearMaster
  | .pciRemoveRootBus => true
  | _ => false

/-- What `a1625_scan_firmware` and its caller check before the firmware phase. -/
def firmwareMayBegin (scan : Scan) : Bool :=
  scan.bindFirmware && scan.requireIommu && scan.msiDomain && scan.assignMemory && !scan.rejected

structure ScanInvariant {σ : Type} (m : Monitor Call Answer σ) (holds : σ → Scan → Prop) :
    Prop where
  call : ∀ {state scan c} r, holds state scan → scanCall c = true → m.admits state ⟨c, r⟩ →
    m.allows state ⟨c, r⟩ ∧ m.next state ⟨c, r⟩ = state
  count : ∀ {state scan} devices, holds state scan → holds state { scan with devices := devices }
  write : ∀ {state scan} write, holds state scan →
    (scanWrite scan write).Safe m (fun after result => holds after result.2) state
  reject : ∀ {state scan}, holds state scan → (rejectScan scan).Safe m holds state
  activate : ∀ {state scan}, holds state scan → firmwareMayBegin scan = true →
    (activateFirmware scan).Safe m holds state

theorem onlyIf_safe {σ α : Type} {m : Monitor Call Answer σ} {needed : Bool} {unchanged : α}
    {action : Kernel α} {post : σ → α → Prop} {state : σ}
    (taken : needed = true → action.Safe m post state) (skipped : post state unchanged) :
    (onlyIf needed unchanged action).Safe m post state := by
  cases needed with
  | true => exact taken rfl
  | false => exact skipped

section Bus

variable {σ : Type} {m : Monitor Call Answer σ} {holds : σ → Scan → Prop}
  (invariant : ScanInvariant m holds) {state : σ} {scan : Scan} (held : holds state scan)
include invariant held

theorem call_bind {α : Type} {c : Call} {f : Answer c → Kernel α} {post : σ → α → Prop}
    (quiet : scanCall c = true) (rest : ∀ r, (f r).Safe m post state) :
    (query c >>= f).Safe m post state := by
  refine (Prog.safe_call_bind m _ _ _ _).mpr fun r admitted => ?_
  obtain ⟨allowed, stays⟩ := invariant.call r held quiet admitted
  rw [stays]
  exact ⟨allowed, rest r⟩

theorem readlIs_held (window : Window) (offset : Nat) (value : U32) :
    (readlIs window offset value).Safe m (fun after _ => after = state) state :=
  call_bind invariant held rfl fun _ => rfl

theorem readwIs_held (window : Window) (offset : Nat) (value : U16) :
    (readwIs window offset value).Safe m (fun after _ => after = state) state :=
  call_bind invariant held rfl fun _ => rfl

theorem scanWrites_safe (writes : List ConfigWrite) :
    (scanWrites scan writes).Safe m holds state := by
  induction writes generalizing state scan with
  | nil => exact held
  | cons write writes ih =>
    refine (invariant.write write held).bind m fun after result held => ?_
    exact ih held

theorem rejectUnless_safe (passed : Bool) :
    (rejectUnless passed scan).Safe m holds state := by
  cases passed with
  | true => exact held
  | false => exact invariant.reject held

/-- A call of the PCI core with the writes it makes. -/
theorem writes_bind {α : Type} {c : Call} {writes : Answer c → List ConfigWrite}
    {f : Answer c → Scan → Kernel α} {post : σ → α → Prop} (quiet : scanCall c = true)
    (rest : ∀ r after scan', holds after scan' → (f r scan').Safe m post after) :
    (query c >>= fun r => scanWrites scan (writes r) >>= f r).Safe m post state := by
  refine call_bind invariant held quiet fun r => ?_
  exact (scanWrites_safe invariant held (writes r)).bind m fun after scan' held =>
    rest r after scan' held

theorem scanEndpointMsi_safe : (scanEndpointMsi scan).Safe m
    (fun after result => holds after result.2) state := by
  unfold scanEndpointMsi
  refine writes_bind invariant held rfl fun answer after scan held => ?_
  obtain ⟨ret, writes⟩ := answer
  by_cases failed : ret < 0
  · rw [if_pos failed]
    exact held
  rw [if_neg failed]
  refine call_bind invariant held rfl fun data => call_bind invariant held rfl fun flags => ?_
  have verify (routed : Bool) : (allOf [pure routed,
      readlIs .endpoint (scan.msiCap + pciMsiAddressLo) 0xbffff000,
      if scan.msi64 then readlIs .endpoint (scan.msiCap + pciMsiAddressHi) 0 else pure true,
      readwIs .endpoint (scan.msiCap + if scan.msi64 then pciMsiData64 else pciMsiData32) 8]).Safe
      m (fun final _ => final = after) after := by
    apply allOf_safe
    simp only [List.mem_cons, List.not_mem_nil, or_false, forall_eq_or_imp, forall_eq]
    refine ⟨rfl, readlIs_held invariant held _ _ _, ?_, readwIs_held invariant held _ _ _⟩
    split_ifs
    · exact readlIs_held invariant held _ _ _
    · rfl
  refine (verify _).bind m ?_
  rintro _ verified rfl
  refine writes_bind invariant held rfl fun writes after scan held => ?_
  exact call_bind invariant held rfl fun flags => held

theorem identifyIommu_safe : (identifyIommu scan).Safe m
    (fun after result => holds after result.2) state := by
  unfold identifyIommu
  refine call_bind invariant held rfl fun translated => ?_
  cases translated with
  | false => exact (invariant.reject held).bind m fun _ _ held => held
  | true =>
  refine call_bind invariant held rfl fun reserved => call_bind invariant held rfl fun mapped => ?_
  cases mapped with
  | false => exact (invariant.reject held).bind m fun _ _ held => held
  | true =>
  have check : (allOf [pure reserved, readlIs .dart 0xc 0x80]).Safe m
      (fun after _ => after = state) state := by
    apply allOf_safe
    simp only [List.mem_cons, List.not_mem_nil, or_false, forall_eq_or_imp, forall_eq]
    exact ⟨rfl, readlIs_held invariant held _ _ _⟩
  refine check.bind m ?_
  rintro _ enabled rfl
  refine (rejectUnless_safe invariant held enabled).bind m fun after scan held => ?_
  exact call_bind invariant held rfl fun _ => held

theorem identifyBar_safe (bar : Nat) : (identifyBar scan bar).Safe m holds state :=
  call_bind invariant held rfl fun _ => rejectUnless_safe invariant held _

theorem scanIdentify_safe (dev : PciDevice) : (scanIdentify dev scan).Safe m
    (fun after result => holds after result.2) state := by
  unfold scanIdentify
  dsimp only
  have counted := invariant.count (scan.devices + 1) held
  refine (rejectUnless_safe invariant counted _).bind m fun state scan held => ?_
  have quiet (window : Window) (bound : Bool) : (allOf [pure bound, do
      let command ← query (.readw window pciCommand)
      return command.setWidth 32 &&& commandMaster = 0]).Safe m
      (fun after _ => after = state) state := by
    apply allOf_safe
    simp only [List.mem_cons, List.not_mem_nil, or_false, forall_eq_or_imp, forall_eq]
    exact ⟨rfl, call_bind invariant held rfl fun _ => rfl⟩
  refine (quiet _ _).bind m ?_
  rintro _ quiet rfl
  refine (rejectUnless_safe invariant held _).bind m fun state scan held => ?_
  refine (onlyIf_safe (fun _ => identifyIommu_safe invariant held) held).bind m ?_
  rintro state ⟨translated, scan⟩ held
  cases translated with
  | false => exact held
  | true =>
  refine (onlyIf_safe (fun _ => ?_) held).bind m fun state scan held => ?_
  · refine (scanEndpointMsi_safe invariant held).bind m ?_
    rintro after ⟨ret, scan⟩ held
    exact rejectUnless_safe invariant held _
  refine (onlyIf_safe (fun _ => ?_) held).bind m fun state scan held => ?_
  · refine (identifyBar_safe invariant held 0).bind m fun after scan held => ?_
    exact identifyBar_safe invariant held 2
  exact held

theorem walkBus_safe (devs : List PciDevice) : (walkBus devs scan).Safe m holds state := by
  induction devs generalizing state scan with
  | nil => exact held
  | cons dev devs ih =>
    refine (scanIdentify_safe invariant held dev).bind m ?_
    rintro after ⟨ret, scan⟩ held
    dsimp only
    split_ifs
    · exact held
    · exact ih held

theorem faultPoll_safe (attempts : Nat) :
    (faultPoll attempts).Safe m (fun after _ => after = state) state := by
  induction attempts with
  | zero => rfl
  | succ attempt ih =>
    refine call_bind invariant held rfl fun error => ?_
    split_ifs
    · rfl
    · exact ih

theorem scanFaultTables_safe :
    scanFaultTables.Safe m (fun after _ => after = state) state := by
  refine call_bind invariant held rfl fun mapped => ?_
  cases mapped with
  | false => rfl
  | true =>
  refine (faultPoll_safe invariant held 2000).bind m ?_
  rintro _ _ rfl
  exact call_bind invariant held rfl fun _ => rfl

theorem holdWifi_safe : (holdWifi scan).Safe m
    (fun after result => holds after result.2) state := by
  unfold holdWifi
  split_ifs
  · exact held
  refine call_bind invariant held rfl fun netdev => ?_
  split_ifs
  · exact held
  refine call_bind invariant held rfl fun mapped => ?_
  cases mapped with
  | false => exact held
  | true =>
  refine writes_bind invariant held rfl fun answer after scan held => ?_
  exact call_bind invariant held rfl fun _ => held

theorem firmwareObservation_safe : (firmwareObservation scan).Safe m
    (fun after result => holds after result.2) state := by
  refine writes_bind invariant held rfl fun writes state scan held => ?_
  refine writes_bind invariant held rfl fun answer state scan held => ?_
  split_ifs
  · exact held
  refine (scanFaultTables_safe invariant held).bind m ?_
  rintro _ ret rfl
  split_ifs
  · exact held
  · exact holdWifi_safe invariant held

theorem scanFirmware_safe (bound : scan.bindFirmware = true) : (scanFirmware scan).Safe m
    (fun after result => holds after result.2) state := by
  refine call_bind invariant held rfl fun found => ?_
  split_ifs with unready
  · exact held
  have ready : firmwareMayBegin scan = true := by
    simp only [Bool.or_eq_true, Bool.not_eq_true', not_or, Bool.not_eq_false,
      Bool.not_eq_true] at unready
    simp [firmwareMayBegin, bound, unready]
  refine call_bind invariant held rfl fun slot => ?_
  split_ifs
  · exact held
  refine call_bind invariant held rfl fun ret => ?_
  split_ifs
  · exact held
  · exact held
  refine (invariant.activate held ready).bind m fun state scan held => ?_
  refine (firmwareObservation_safe invariant held).bind m ?_
  rintro state ⟨ret, scan⟩ held
  refine writes_bind invariant held rfl fun writes state scan held => ?_
  refine call_bind invariant held rfl fun mapped => ?_
  have unmap : (onlyIf mapped () (query (.iounmap 0x602002000))).Safe m
      (fun after _ => after = state) state :=
    onlyIf_safe (fun _ => call_bind invariant held rfl fun _ => rfl) rfl
  refine unmap.bind m ?_
  rintro _ _ rfl
  exact writes_bind invariant held rfl fun writes state scan held => held

theorem scanBus_safe : (scanBus scan).Safe m
    (fun after result => holds after result.2.2) state := by
  refine writes_bind invariant held rfl fun answer state scan held => ?_
  obtain ⟨ret, bus, writes⟩ := answer
  dsimp only
  split_ifs
  · exact held
  refine (onlyIf_safe (fun _ => ?_) held).bind m fun state scan held => ?_
  · exact call_bind invariant held rfl fun writes => scanWrites_safe invariant held writes
  refine call_bind invariant held rfl fun devs => ?_
  refine (walkBus_safe invariant held devs).bind m fun state scan held => ?_
  split_ifs with _ unbound
  · exact held
  · exact held
  refine (scanFirmware_safe invariant held (by simpa using unbound)).bind m ?_
  rintro state ⟨ret, scan⟩ held
  exact held

theorem removeBus_safe (bus : Bool) : (onlyIf bus scan do
    let writes ← query .pciRemoveRootBus
    scanWrites scan writes).Safe m holds state :=
  onlyIf_safe (fun _ => call_bind invariant held rfl fun writes =>
    scanWrites_safe invariant held writes) held

theorem guardSteps_safe {begins : Scan → Bool}
    (begun : ∀ {state scan}, holds state scan → begins scan = true →
      (activateFirmware scan).Safe m holds state) (steps : List GuardStep) :
    (guardSteps begins scan steps).Safe m holds state := by
  induction steps generalizing state scan with
  | nil => exact held
  | cons step steps ih =>
    cases step with
    | write write => exact (invariant.write write held).bind m fun after result held => ih held
    | activate =>
      refine (onlyIf_safe (begun held) held).bind m fun after scan' held => ?_
      exact ih held

end Bus

section Restore

variable {σ : Type} {m : Monitor Call Answer σ} {state : σ} {scan : Scan}

/-- Writes that the guard would permit, made outside the guard, are harmless here. -/
def RestoringStores {σ : Type} (m : Monitor Call Answer σ) (state : σ) (scan : Scan) : Prop :=
  ∀ bus offset size cfg value, bus = 0 ∧ cfg = .root ∨ bus = 1 ∧ cfg = .endpoint →
    Permitted scan bus offset size value →
      (writeSized cfg offset size value).Safe m (fun after _ => after = state) state

variable (stores : RestoringStores m state scan)
include stores

theorem restoreWritew_bind {α : Type} {bus offset : Nat} {cfg : Window} {value : U16}
    {f : Unit → Kernel α} {post : σ → α → Prop}
    (config : bus = 0 ∧ cfg = .root ∨ bus = 1 ∧ cfg = .endpoint)
    (permitted : Permitted scan bus offset 2 (value.setWidth 32))
    (rest : (f ()).Safe m post state) :
    (query (.writew cfg offset value) >>= f).Safe m post state := by
  have narrow : (value.setWidth 32).setWidth 16 = value := by
    ext i bound
    simp
  have safe := stores _ _ _ _ _ config permitted
  rw [writeSized, if_pos rfl, narrow] at safe
  exact safe.bind m fun _ _ same => same ▸ rest

theorem restoreWritel_bind {α : Type} {bus offset : Nat} {cfg : Window} {value : U32}
    {f : Unit → Kernel α} {post : σ → α → Prop}
    (config : bus = 0 ∧ cfg = .root ∨ bus = 1 ∧ cfg = .endpoint)
    (permitted : Permitted scan bus offset 4 value) (rest : (f ()).Safe m post state) :
    (query (.writel cfg offset value) >>= f).Safe m post state :=
  Prog.Safe.bind m (stores _ _ _ _ _ config permitted) fun _ _ same => same ▸ rest

variable {reads : Window → Nat → Nat → U32 → Prop} (reading : Reading m state reads)
include reading

theorem restoreControls_safe (shaped : ControlsShaped scan) {controls : List ScanControl}
    (saved : ∀ control ∈ controls, control ∈ scan.controls) (ret : Int) :
    (restoreControls controls ret).Safe m (fun after _ => after = state) state := by
  induction controls generalizing ret with
  | nil => rfl
  | cons control controls ih =>
    have member := saved control (.head _)
    have shape := shaped control member
    have config : control.bus = 0 ∧ busWindow control.bus = .root ∨
        control.bus = 1 ∧ busWindow control.bus = .endpoint :=
      shape.bus.imp (fun root => ⟨root, by rw [root]; rfl⟩) fun endpoint => ⟨endpoint, by
        rw [endpoint]; rfl⟩
    refine (stores _ _ _ _ _ config (.control member)).bind m ?_
    rintro _ _ rfl
    refine (readSized_safe reading (busWindow_config _) shape.width).bind m ?_
    rintro _ observed ⟨rfl, _⟩
    exact ih (fun control member => saved control (.tail _ member)) _

theorem restoreBars_safe {bus : Nat} {cfg : Window}
    (config : bus = 0 ∧ cfg = .root ∨ bus = 1 ∧ cfg = .endpoint)
    {bars : List (Nat × U32)} (places : ∀ bar ∈ bars, 0x10 ≤ bar.1 ∧
      bar.1 ≤ (if bus ≠ 0 then 0x24 else 0x14) ∧ bar.1 % 4 = 0) (ret : Int) :
    (restoreBars cfg bars ret).Safe m (fun after _ => after = state) state := by
  induction bars generalizing ret with
  | nil => rfl
  | cons bar bars ih =>
    obtain ⟨low, high, aligned⟩ := places bar (.head _)
    refine restoreWritel_bind stores config (.bar low high aligned) ?_
    refine (readlIs_safe reading (isConfig_of_bus config) _ _).bind m ?_
    rintro _ same rfl
    exact ih (fun bar member => places bar (.tail _ member)) _

omit stores reading in
theorem bars_placed (P : Nat → Prop) {bars : List (Nat × U32)} {offsets : List Nat}
    (places : bars.map Prod.fst = offsets) (all : ∀ offset ∈ offsets, P offset) :
    ∀ bar ∈ bars, P bar.1 :=
  fun bar member => all bar.1 (places ▸ List.mem_map.mpr ⟨bar, member, rfl⟩)

theorem restoreConfig_safe (shaped : ControlsShaped scan) {entry : EntryState}
    (entered : Entered reads entry) (ret : Int) :
    (restoreConfig scan entry ret).Safe m (fun after _ => after = state) state := by
  have root : 0 = 0 ∧ Window.root = .root ∨ 0 = 1 ∧ Window.root = .endpoint := .inl ⟨rfl, rfl⟩
  have endpoint : 1 = 0 ∧ Window.endpoint = .root ∨ 1 = 1 ∧ Window.endpoint = .endpoint :=
    .inr ⟨rfl, rfl⟩
  have rcPlaced := bars_placed
    (fun offset => 0x10 ≤ offset ∧ offset ≤ (if 0 ≠ 0 then 0x24 else 0x14) ∧ offset % 4 = 0)
    entered.rcBarOffsets (by decide)
  have epPlaced := bars_placed
    (fun offset => 0x10 ≤ offset ∧ offset ≤ (if 1 ≠ 0 then 0x24 else 0x14) ∧ offset % 4 = 0)
    entered.epBarOffsets (by decide)
  have verify : ∀ test ∈ [readwIs .root pciCommand entry.rcCommand,
      readwIs .endpoint pciCommand entry.epCommand,
      readlIs .root pciRomAddress1 entry.rcRom, readlIs .endpoint pciRomAddress entry.epRom,
      readlIs .root pciPrimaryBus entry.busNumbers, readwIs .root pciBridgeControl entry.control],
      test.Safe m (fun after _ => after = state) state := by
    simp only [List.mem_cons, List.not_mem_nil, or_false, forall_eq_or_imp, forall_eq]
    exact ⟨readwIs_safe reading rfl _ _, readwIs_safe reading rfl _ _,
      readlIs_safe reading rfl _ _, readlIs_safe reading rfl _ _,
      readlIs_safe reading rfl _ _, readwIs_safe reading rfl _ _⟩
  unfold restoreConfig
  refine (restoreControls_safe stores reading shaped
    (fun control member => List.mem_reverse.mp member) _).bind m ?_
  rintro _ ret rfl
  refine restoreWritew_bind stores endpoint (.command (.inl (by rw [entered.epCommand]; rfl))) ?_
  refine restoreWritew_bind stores root (.command (.inl (by rw [entered.rcCommand]; rfl))) ?_
  refine (restoreBars_safe stores reading root rcPlaced _).bind m ?_
  rintro _ ret rfl
  refine (restoreBars_safe stores reading endpoint epPlaced _).bind m ?_
  rintro _ ret rfl
  refine restoreWritel_bind stores root (.rootRom entered.rcRom) ?_
  refine restoreWritel_bind stores endpoint (.endpointRom (by decide) entered.epRom) ?_
  refine restoreWritel_bind stores root (.busNumbers (.inl entered.busNumbers)) ?_
  refine restoreWritew_bind stores root (.bridgeControl entered.control) ?_
  refine (allOf_safe verify).bind m ?_
  rintro _ same rfl
  rfl

end Restore

/-- Calls that neither store nor mark the firmware phase or a rejection. -/
def inert : Call → Bool
  | .writew .. | .writel .. | .activateFirmware | .rejectScan => false
  | _ => true

/-- What a monitor of the whole scan owes for its postcondition. -/
structure ScanProof {σ : Type} (m : Monitor Call Answer σ) (holds : σ → Scan → Prop) (start : σ)
    (reads : Window → Nat → Nat → U32 → Prop) (options : ScanOptions) (post : σ → Int → Prop) :
    Prop where
  invariant : ScanInvariant m holds
  inert : ∀ {c} state r, inert c = true → m.admits state ⟨c, r⟩ →
    m.allows state ⟨c, r⟩ ∧ m.next state ⟨c, r⟩ = state
  reading : Reading m start reads
  saves : (scanSaveControls (newScan options)).Safe m
    (fun after result => after = start ∧ (result.1 = 0 → holds start result.2)) start
  restore : ∀ {state scan entry} ret, holds state scan → Entered reads entry →
    (restoreConfig scan entry ret).Safe m
      (fun after ret => post after (if scan.rejected then eio else ret)) state
  untouched : ∀ ret, post start ret
  cleanup : ∀ {after ret cleanup}, cleanup ≠ 0 → post after ret → post after cleanup

section Whole

variable {σ : Type} {m : Monitor Call Answer σ} {holds : σ → Scan → Prop} {start : σ}
  {reads : Window → Nat → Nat → U32 → Prop} {options : ScanOptions} {post : σ → Int → Prop}
  (proof : ScanProof m holds start reads options post)
include proof

theorem inert_bind {α : Type} {c : Call} {f : Answer c → Kernel α} {after : σ → α → Prop}
    {state : σ} (quiet : inert c = true) (rest : ∀ r, (f r).Safe m after state) :
    (query c >>= f).Safe m after state := by
  refine (Prog.safe_call_bind m _ _ _ _).mpr fun r admitted => ?_
  obtain ⟨allowed, stays⟩ := proof.inert state r quiet admitted
  rw [stays]
  exact ⟨allowed, rest r⟩

theorem onlyIf_inert {c : Call} {needed : Bool} {unchanged : Answer c} {state : σ}
    (quiet : inert c = true) :
    (onlyIf needed unchanged (query c)).Safe m (fun after _ => after = state) state :=
  onlyIf_safe (fun _ => inert_bind proof quiet fun _ => rfl) rfl

variable {scan : Scan} {entry : EntryState} (held : holds start scan) (entered : Entered reads entry)

include held entered in
theorem scanHost_safe : (scanHost scan entry).Safe m post start := by
  refine inert_bind proof rfl fun allocated => ?_
  cases allocated with
  | false => exact proof.untouched _
  | true =>
  refine inert_bind proof rfl fun _ => ?_
  refine (onlyIf_inert proof rfl).bind m ?_
  rintro _ requested rfl
  split_ifs with refused
  · refine inert_bind proof rfl fun _ => inert_bind proof rfl fun _ => ?_
    exact inert_bind proof rfl fun _ => proof.untouched _
  refine (scanBus_safe proof.invariant held).bind m ?_
  rintro state ⟨ret, bus, scan⟩ held
  refine inert_bind proof rfl fun _ => ?_
  refine (removeBus_safe proof.invariant held bus).bind m fun state scan held => ?_
  refine inert_bind proof rfl fun _ => ?_
  refine (onlyIf_inert proof rfl).bind m ?_
  rintro _ released rfl
  refine (proof.restore _ held entered).bind m fun after ret done => ?_
  exact inert_bind proof rfl fun _ => done

include held entered in
theorem scanUnderParent_safe : (scanUnderParent scan entry).Safe m post start := by
  refine inert_bind proof rfl fun parent => ?_
  split_ifs with failed
  · exact proof.untouched _
  refine (scanHost_safe proof held entered).bind m fun after ret done => ?_
  exact inert_bind proof rfl fun _ => done

theorem addProps_safe (changes : Changeset) (names : List String) {state : σ} :
    (addProps changes names).Safe m (fun after _ => after = state) state := by
  induction names with
  | nil => rfl
  | cons name names ih =>
    refine inert_bind proof rfl fun ret => ?_
    unfold andThen
    split_ifs
    · exact ih
    · rfl

theorem pciNodeCreate_safe {state : σ} :
    pciNodeCreate.Safe m (fun after _ => after = state) state := by
  refine inert_bind proof rfl fun phandle => ?_
  split_ifs
  · rfl
  refine inert_bind proof rfl fun found => ?_
  cases found with
  | true => rfl
  | false =>
  refine inert_bind proof rfl fun created => ?_
  cases created with
  | false => rfl
  | true =>
  refine (addProps_safe proof _ _).bind m ?_
  rintro _ ret rfl
  split_ifs
  · rfl
  · exact inert_bind proof rfl fun ret => rfl

theorem pciNodeRemove_safe (node : PciNode) {state : σ} :
    (pciNodeRemove node).Safe m (fun after _ => after = state) state := by
  refine (onlyIf_inert proof rfl).bind m ?_
  rintro _ ret rfl
  refine (onlyIf_inert proof rfl).bind m ?_
  rintro _ detached rfl
  refine (onlyIf_inert proof rfl).bind m ?_
  rintro _ cleanup rfl
  exact inert_bind proof rfl fun _ => rfl

theorem pciScan_safe : (pciScan options).Safe m post start := by
  refine (scanEntry_safe proof.reading fun found => proof.inert _ found rfl).bind m ?_
  rintro _ entry ⟨rfl, entered⟩
  cases entry with
  | error ret => exact proof.untouched _
  | ok entry =>
  have entered := entered entry rfl
  refine proof.saves.bind m ?_
  rintro _ ⟨ret, scan⟩ ⟨rfl, saved⟩
  dsimp only at saved ⊢
  split_ifs with failed bare
  · exact proof.untouched _
  · have held := saved (not_not.mp failed)
    refine (scanUnderParent_safe proof held entered).bind m fun after ret done => ?_
    exact inert_bind proof rfl fun _ => done
  · have held := saved (not_not.mp failed)
    refine (pciNodeCreate_safe proof).bind m ?_
    rintro _ ⟨created, node⟩ rfl
    have scanned : (onlyIf (created = 0) created (scanUnderParent scan entry)).Safe m post _ :=
      onlyIf_safe (fun _ => scanUnderParent_safe proof held entered) (proof.untouched _)
    refine scanned.bind m fun after ret done => ?_
    refine (pciNodeRemove_safe proof node).bind m ?_
    rintro _ cleanup rfl
    refine inert_bind proof rfl fun _ => ?_
    split_ifs with failed
    · exact proof.cleanup failed done
    · exact done

end Whole

end WinBoot.ScanRuns
