import WinBoot.HostLifetimes

/-! Nested hardware lifetimes of the whole probe, for every accepted choice of options. -/

namespace WinBoot.ProbeLifetimes
open Interaction KernelCalls PciScan PciHost ConfigStorage
open EndpointProbe Nesting Lifetimes LayerLifetimes ParentLifetimes RadioLifetimes HostLifetimes

/-- What the init function's checks leave: every stage has the one around it. -/
structure Accepted (o : ModuleOptions) : Prop where
  inspectRc : o.inspectRc = true → o.preparePort = true
  inspectDart : o.inspectDart = true → o.preparePort = true
  probeMsi : o.probeMsi = true → o.preparePort = true
  probeDart : o.probeDart = true → o.inspectDart = true
  scanMsi : o.scanMsi = true → o.scanIommu = true
  scanIommu : o.scanIommu = true → o.inspectDart = true ∧ o.pulseRadio = true
  pulseRadio : o.pulseRadio = true → o.preparePort = true

theorem accepted_of_checks {o : ModuleOptions} (checked : optionsRejected o = false) :
    Accepted o := by
  simp only [optionsRejected, Bool.or_eq_false_iff, Bool.and_eq_false_iff, Bool.not_eq_false'] at checked
  constructor <;> grind

section Stages

variable {o : ModuleOptions} {held : Held Layer} {layer : Layer}

theorem observeRadio_keeps (wanted : o.pulseRadio = true)
    (inside : held.head? = some (layer, false)) (deeper : Layer.rank layer < Layer.rank .radio)
    (parents : ScanParents)
    (ready : parents.dart = true → parents.msiDomain = true →
      FirmwareHeld ((.link, false) :: (.radio, false) :: held)) :
    Keeps o held 0 (observeRadio o parents) := by
  refine radioPulse_keeps wanted inside deeper true (observeHeldRadio_keeps parents ?_)
  intro trained identified
  refine snapshotEndpoint_keeps identified rfl parents fun scans held' inner => ?_
  obtain rfl | rfl := inner
  · exact pciScan_keeps rfl (.head _) scans (by decide) _ ready
  · refine pciScan_keeps rfl (.tail _ (.head _)) scans (by decide) _ fun dart msi => ?_
    exact firmwareHeld_cons _ (ready dart msi)

/-- A stage that needs the prepared port runs inside the PHY layer. -/
theorem stage_keeps {needed : Bool} {p : Kernel Int}
    (prepares : needed = true → o.preparePort = true)
    (stage : needed = true → Keeps o [(.phy, false), (.power, false)] 0 p) :
    Keeps o (observed o [(.power, false)]) 0 (onlyIf needed 0 p) := by
  refine Keeps.onlyIf fun taken => ?_
  rw [observed, if_pos (prepares taken)]
  exact stage taken

theorem snapshotDart_keeps (resetExpected : Bool) :
    Keeps o ((layer, false) :: held) 0 (snapshotDart o resetExpected) :=
  Keeps.steady (snapshotDart_steady resetExpected) fun _ _ zero => absurd rfl zero

theorem observeReadyPhy_keeps (accepted : Accepted o) :
    Keeps o (observed o [(.power, false)]) 0 (observeReadyPhy o) := by
  have probeDart (probes : o.probeDart = true) := accepted.inspectDart (accepted.probeDart probes)
  have scanIommu (scans : o.scanIommu = true) := accepted.inspectDart (accepted.scanIommu scans).1
  have radio (scans : o.scanIommu = true) := (accepted.scanIommu scans).2
  have dart (wanted : o.probeDart = true ∨ o.scanIommu = true) : selected o .dart = true := by
    simpa [selected] using wanted
  refine Keeps.bind (stage_keeps accepted.inspectRc fun _ =>
    Keeps.steady snapshotRootPort_steady fun _ _ zero => absurd rfl zero) fun ret => ?_
  refine Keeps.bind (Keeps.andThen (stage_keeps accepted.inspectDart fun _ =>
    snapshotDart_keeps false)) fun ret => ?_
  refine Keeps.bind (Keeps.andThen (stage_keeps accepted.probeMsi fun probes =>
    withMsi_keeps (by simp [selected, probes]) rfl (Keeps.done id))) fun ret => ?_
  refine Keeps.bind (Keeps.andThen (stage_keeps probeDart fun probes =>
    withDart_keeps (dart (.inl probes)) rfl (by decide) _ ?_)) fun ret => ?_
  · cases o.mapDart with
    | true => exact dartMap_keeps
    | false => exact Keeps.done id
  refine Keeps.bind (Keeps.andThen (stage_keeps probeDart fun _ => snapshotDart_keeps true)) ?_
  intro ret
  refine Keeps.bind (Keeps.andThen (stage_keeps (fun scans => scanIommu (accepted.scanMsi scans))
    fun scans => ?_)) fun ret => ?_
  · have iommu := accepted.scanMsi scans
    refine withMsi_keeps (by simp [selected, scans]) rfl ?_
    refine withDart_keeps (dart (.inr iommu)) rfl (by decide) _ ?_
    exact observeRadio_keeps (radio iommu) rfl (by decide) _ fun _ _ => by decide
  refine Keeps.bind (Keeps.andThen (stage_keeps (fun scans => scanIommu (Bool.and_eq_true_iff.mp
    scans).1) fun scans => ?_)) fun ret => ?_
  · have iommu : o.scanIommu = true := (Bool.and_eq_true_iff.mp scans).1
    refine withDart_keeps (dart (.inr iommu)) rfl (by decide) _ ?_
    exact observeRadio_keeps (radio iommu) rfl (by decide) _ fun _ msi => absurd msi (by decide)
  refine Keeps.bind (Keeps.andThen (stage_keeps scanIommu fun _ => snapshotDart_keeps true)) ?_
  intro ret
  refine Keeps.andThen (stage_keeps (fun pulses => accepted.pulseRadio (Bool.and_eq_true_iff.mp
    pulses).1) fun pulses => ?_)
  exact observeRadio_keeps (Bool.and_eq_true_iff.mp pulses).1 rfl (by decide) _ fun dart =>
    absurd dart (by decide)

theorem observeDomains_keeps (accepted : Accepted o) : Keeps o [] 0 (observeDomains o) := by
  refine withPcieDomains_keeps o.forceActive fun cycles => ?_
  split_ifs
  · exact withPciePhy_keeps rfl _ _ (observeReadyPhy_keeps accepted)
  · exact Keeps.done id

end Stages

def marksOf (t : List KernelEvent) : List (Mark Layer) := t.filterMap fun event => markOf event.1

theorem empties_of_allows {o : ModuleOptions} {nest : Nest} {t : List KernelEvent}
    (allows : (lifetimes o).Allows nest t) (ends : ((lifetimes o).after nest t).held = []) :
    Empties Encloses nest.held (marksOf t) := by
  induction t generalizing nest with
  | nil => exact ends
  | cons event t ih =>
    have rest := ih allows.2 ends
    cases marked : markOf event.1 with
    | none => simpa [marksOf, List.filterMap_cons, lifetimes, marked] using rest
    | some mark =>
      have moved : Empties Encloses (move nest.held mark) (marksOf t) := by
        simpa [lifetimes, marked] using rest
      have cons : marksOf (event :: t) = mark :: marksOf t := by
        simp [marksOf, marked]
      rw [cons]
      exact ⟨allows.1.marks mark marked, moved⟩

/-- What the lifetimes of a run owe: the marks are well nested, only selected layers are acquired,
each call is made within its layer, the firmware phase lies within the layers that it needs and
around every store that makes the endpoint a bus master, and a failed teardown access is told. -/
structure NestedLifetimes (o : ModuleOptions) (t : List KernelEvent) (ret : Int) : Prop where
  nested : Nested Encloses none (marksOf t)
  selects : ∀ layer, ⟨.acquire layer, ()⟩ ∈ t → selected o layer = true
  calls : (lifetimes o).Allows .empty t
  firmware : ∀ t₁ t₂, t = t₁ ++ t₂ → ((lifetimes o).after .empty t₁).firmware = true →
    FirmwareHeld ((lifetimes o).after .empty t₁).held
  masters : ∀ t₁ event t₂, t = t₁ ++ event :: t₂ → ∀ store,
    storeOf event.1 = some (.endpoint, store) → store.Sets WriteGuard.masterBit →
      ((lifetimes o).after .empty t₁).firmware = true
  told : ((lifetimes o).after .empty t).failed = true → ret ≠ 0

theorem nestedLifetimes_of_keeps {o : ModuleOptions} {p : Kernel Int} (keeps : Keeps o [] 0 p)
    {t : List KernelEvent} {ret : Int} (run : p.Runs t ret) : NestedLifetimes o t ret := by
  have admitted : (lifetimes o).Admits .empty t :=
    (lifetimes o).admits_of_forall (fun _ _ => trivial) _ _
  obtain ⟨allows, kept⟩ := Prog.safe_runs _ (keeps .empty ⟨rfl, rfl, nofun⟩) run admitted
  have allowed (t₁ : List KernelEvent) (event : KernelEvent) (t₂ : List KernelEvent)
      (split : t = t₁ ++ event :: t₂) :
      Allowed o ((lifetimes o).after .empty t₁) event.1 := by
    rw [split, Monitor.allows_append] at allows
    exact allows.2.1
  refine ⟨nested_of_empties (empties_of_allows allows kept.held), fun layer member => ?_, allows,
    fun t₁ t₂ split active => ?_, fun t₁ event t₂ split store stores sets => ?_, kept.told⟩
  · obtain ⟨nest, allowed⟩ := (lifetimes o).allows_of_mem allows member
    exact allowed.selects layer rfl
  · cases t₂ with
    | nil =>
      rw [List.append_nil] at split
      rw [← split, kept.firmware] at active
      cases active
    | cons event t₂ => exact (allowed t₁ event t₂ split).firmware active
  · exact (allowed t₁ event t₂ split).masters store stores sets

/-- For every accepted choice of options and all answers of the hardware, the layers of a run of
the module are nested. -/
theorem nested_lifetimes (o : ModuleOptions) (checked : optionsRejected o = false)
    (t : List KernelEvent) (result : Int) (run : (a1625PcieDomainsInit o).Runs t result) :
    ∃ ret, (observeDomains o).Runs t ret ∧ result = initResult ret ∧ NestedLifetimes o t ret := by
  unfold a1625PcieDomainsInit at run
  rw [if_neg (by simp [checked]), Prog.runs_bind] at run
  obtain ⟨t₁, t₂, ret, rfl, observed, rfl, rfl⟩ := run
  rw [List.append_nil]
  exact ⟨ret, observed, rfl,
    nestedLifetimes_of_keeps (observeDomains_keeps (accepted_of_checks checked)) observed⟩


/-- The last store of this width to a register. -/
def lastStore (past : List KernelEvent) (window : Window) (offset size : Nat) : Option U32 :=
  past.reverse.findSome? fun event => match storeOf event.1 with
    | some (target, store) =>
      if target = window ∧ store.offset = offset ∧ store.size = size then some store.value else none
    | none => none

def lastRegmapWrite (past : List KernelEvent) (map : RegMap) : Option U32 :=
  past.reverse.findSome? fun event => match event.1 with
    | .regmapWrite target _ value => if target = map then some value else none
    | _ => none

/-- What the reset line reads as after the calls made so far. -/
def resetLine (past : List KernelEvent) : U32 :=
  (past.reverse.findSome? fun event => match event.1 with
    | .regmapWrite .gpio _ value => some value
    | .gpiodDirectionOutputRaw value => some (if value then 0x76203 else 0x76202)
    | _ => none).getD 0x76200

def layerHeld (past : List KernelEvent) (layer : Layer) : Bool :=
  (past.any fun event => markOf event.1 = some (.acquire layer)) &&
    !past.any fun event => markOf event.1 = some (.teardown layer)

/-- The nonzero words of the root port and the endpoint as the link finds them. -/
def idleWords : Window → List (Nat × U32)
  | .root => [(0x00, 0x1002106b), (0x08, 0x06040001), (0x34, 0x40), (0x40, 0x5001), (0x50, 0x10),
      (0x100, 0x1001e)]
  | .endpoint => [(0x00, 0x43a314e4), (0x08, 0x02800008), (0x34, 0x48), (0x48, 0x5801),
      (0x58, 0x0080ac05), (0xac, 0x10), (0x100, 0x1001e)]
  | _ => []

def idleRegister (window : Window) (offset : Nat) : U32 :=
  (((idleWords window).lookup (offset / 4 * 4)).getD 0) >>> (8 * (offset % 4))

/-- A board on which every step succeeds, and the driver makes the endpoint a bus master. -/
def boardAnswer (past : List KernelEvent) : (c : Call) → Answer c
  | .ofDeviceIsCompatible _ _ | .ofFindDevice _ | .devDriverBound _ | .devGetRegmap _
  | .requestMemRegion _ | .ioremap _ | .irqFindMatchingFwspec | .irqDomainAllocFwnode
  | .msiCreateParentIrqDomain | .ofChangesetCreateNode _ | .ofNodeIsDetached _
  | .ofPlatformDeviceCreate | .dartDriverBound | .pciAllocHostBridge | .pciGetSlot
  | .iommuDomainIsDma | .msiReservationPresent => true
  | .ofFindNodeByPath path => path ≠ "/soc/iommu@602002000" ∧ path ≠ "/soc/pcie@610000000"
  | .ofNodePhandle _ => 0xa1625001
  | .i2cAddr _ => 0x74
  | .regmapRead .pmgr _ => (0, if layerHeld past .power then 0xf else 0)
  | .regmapRead .pmu _ | .regmapReadBypassed .pmu _ =>
    (0, (lastRegmapWrite past .pmu).getD 0)
  | .regmapRead .gpio _ => (0, resetLine past)
  | .regmapReadBypassed .gpio reg =>
    (0, if reg = 4 * 77 then resetLine past else if reg = 4 * 63 then 0x72202
      else if lastRegmapWrite past .pmu = some 2 then 0x76220 else 0x76221)
  | .readb window offset => (idleRegister window offset).setWidth 8
  | .readw window offset =>
    ((lastStore past window offset 2).getD (idleRegister window offset)).setWidth 16
  | .readl .dart offset =>
    if layerHeld past .pciHost then if offset = 0xc then 0x80 else 0x80000000 else 0
  | .readl window offset =>
    (lastStore past window offset 4).getD (idleRegister window offset)
  | .readlPollTimeout _ _ => (0, 1)
  | .irqDomainAllocIrqs =>
    ((past.filter fun event => match event.1 with
      | .irqDomainAllocIrqs => true
      | _ => false).length + 1 : Nat)
  | .irqDomainGetIrqData irq => some ⟨irq.toNat + 7, some (0x10000 + 231 + irq.toNat)⟩
  | .ofAddressToResource => (0, 0x602002000, 0x2000)
  | .pciFindBus number => number = 1
  | .pciScanRootBusBridge => (0, true, [])
  | .pciWalkBus =>
      [⟨0, 8, 0x106b, 0x1002, 0x060400, false⟩, ⟨1, 0, 0x14e4, 0x43a3, 0x028000, false⟩]
  | .barResource bar =>
    ⟨true, true, false, 0x7c0000000, if bar = 0 then 0x7c0007fff else 0x7c03fffff⟩
  | .deviceAttach => (1, [⟨1, 0, 4, 2, 6⟩])
  | _ => default

/-- Everything up to the firmware phase. -/
def firmwareOptions : ModuleOptions :=
  { cycle := true, forceActive := true, snapshot := true, preparePort := true,
    inspectPrefix := true, testRefclk := true, inspectRc := true, inspectDart := true,
    probeDart := false, scanIommu := true, probeMsi := false, mapDart := false,
    testDmaRange := false, pulseRadio := true, trainLink := true, identifyEndpoint := true,
    identifyChip := false, inspectErom := false, scanPci := true, scanMsi := true,
    assignMemory := true, bindFirmware := true, holdSeconds := 0, holdUntilSignal := false }

def firmwareRun : List KernelEvent × Int :=
  Prog.exec boardAnswer [] (a1625PcieDomainsInit firmwareOptions)

/-- The run on the board goes through all eight layers and the firmware phase. -/
theorem nested_lifetimes_reaches_firmware :
    firmwareRun.1.any (fun event => match event.1 with
        | .activateFirmware => true
        | _ => false) = true ∧
      ∃ ret, firmwareRun.2 = initResult ret ∧ NestedLifetimes firmwareOptions firmwareRun.1 ret := by
  obtain ⟨ret, -, result, nested⟩ := nested_lifetimes firmwareOptions (by decide) firmwareRun.1
    firmwareRun.2 (Prog.exec_runs boardAnswer _)
  exact ⟨by decide +kernel, ret, result, nested⟩

end WinBoot.ProbeLifetimes
