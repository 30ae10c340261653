import WinBoot.DartLifetime
import WinBoot.MsiDomain
import WinBoot.PciePhy
import WinBoot.PowerDomains
import WinBoot.RadioPulse

/-! The probe module: its options, what it observes inside the held layers, and how the layers
are nested for each choice of options. -/

namespace WinBoot.EndpointProbe
open Interaction KernelCalls PciScan PciHost
open DartLifetime MsiDomain PciePhy PowerDomains RadioPulse

structure ModuleOptions where
  cycle : Bool
  forceActive : Bool
  snapshot : Bool
  preparePort : Bool
  inspectPrefix : Bool
  testRefclk : Bool
  inspectRc : Bool
  inspectDart : Bool
  probeDart : Bool
  scanIommu : Bool
  probeMsi : Bool
  mapDart : Bool
  testDmaRange : Bool
  pulseRadio : Bool
  trainLink : Bool
  identifyEndpoint : Bool
  identifyChip : Bool
  inspectErom : Bool
  scanPci : Bool
  scanMsi : Bool
  assignMemory : Bool
  bindFirmware : Bool
  holdSeconds : Nat
  holdUntilSignal : Bool

/-- The option checks of the module's init function, in its order; each answers `-EINVAL`. -/
def optionsRejected (o : ModuleOptions) : Bool :=
  o.snapshot && !o.cycle ||
  o.forceActive && !o.cycle ||
  o.preparePort && (!o.snapshot || !o.cycle) ||
  o.inspectPrefix && !o.preparePort ||
  o.inspectRc && !o.inspectPrefix ||
  o.testRefclk && !o.inspectPrefix ||
  o.inspectDart && !o.testRefclk ||
  o.probeDart && (!o.inspectDart || !o.forceActive || o.pulseRadio) ||
  o.mapDart && !o.probeDart ||
  o.testDmaRange && !o.mapDart && !o.scanIommu ||
  o.pulseRadio && (!o.testRefclk || !o.inspectRc || !o.forceActive) ||
  o.trainLink && !o.pulseRadio ||
  o.identifyEndpoint && !o.trainLink ||
  o.identifyChip && !o.identifyEndpoint ||
  o.inspectErom && !o.identifyChip ||
  o.scanPci && (!o.identifyEndpoint || o.identifyChip) ||
  o.scanIommu && (!o.scanPci || !o.inspectDart || o.probeDart || o.mapDart) ||
  o.scanMsi && !o.scanIommu ||
  o.assignMemory && !o.scanMsi ||
  o.bindFirmware && !o.assignMemory ||
  o.holdSeconds ≠ 0 && (!o.bindFirmware || o.holdSeconds > 3600) ||
  o.holdUntilSignal && (!o.bindFirmware || o.holdSeconds ≠ 0) ||
  o.probeMsi && (!o.testRefclk || !o.forceActive || o.pulseRadio || o.probeDart)

/-- `scan_dart` and `scan_msi_domain`, set for as long as the layer is held. -/
structure ScanParents where
  dart : Bool
  msiDomain : Bool

def dartStateOffsets : List Nat := [0x0, 0xc, 0x10, 0x40, 0x44, 0x48, 0x4c]

def readDartState (o : ModuleOptions) (resetExpected : Bool) : List Nat → Kernel Int
  | [] => return 0
  | offset :: offsets => do
    let value ← query (.readl .dart offset)
    if value = allOnes then return enodev
    if (o.probeDart || o.scanIommu) && offset = 0xc && value ≠ 0 ||
        resetExpected && offset ≥ 0x40 && value ≠ 0 then return ebusy
    readDartState o resetExpected offsets

def snapshotDart (o : ModuleOptions) (resetExpected : Bool) : Kernel Int := do
  if !(← query (.requestMemRegion 0x602002000)) then return ebusy
  let mapped ← query (.ioremap 0x602002000)
  let ret ← onlyIf mapped enomem do
    let ret ← readDartState o resetExpected dartStateOffsets
    query (.iounmap 0x602002000)
    return ret
  query (.releaseMemRegion 0x602002000)
  return ret

/-- The EROM from word `offset` on, with the components and the PCIe cores seen so far; `none`
where the walk is given up. A component takes the word after it as well. -/
def walkErom (offset components pcie : Nat) : Nat → Kernel (Option (Bool × Nat × Nat))
  | 0 => return some (false, components, pcie)
  | words + 1 => do
    if offset ≥ 0x1000 then return some (false, components, pcie)
    let first ← query (.readl .chip offset)
    if first = allOnes then return none
    if first &&& 0xf = 0xf then return some (true, components, pcie)
    if first &&& 0xfff0000f ≠ 0x4bf00001 then walkErom (offset + 4) components pcie words
    else do
      if offset + 4 ≥ 0x1000 then return none
      let second ← query (.readl .chip (offset + 4))
      if second &&& 0xf ≠ 1 then return none
      let pcie := if (first >>> 8) &&& 0xfff = 0x83c then pcie + 1 else pcie
      walkErom (offset + 8) (components + 1) pcie words

def inspectEromAt (pointer : U32) : Kernel Int := do
  if pointer ≠ 0x1810d000 then return enodev
  query (.writel .endpoint 0x80 pointer)
  if !(← readlIs .endpoint 0x80 pointer) then return enodev
  match ← walkErom 0 0 0 0x400 with
  | some (true, components, 1) => return if components ≠ 0 then 0 else enodev
  | _ => return enodev

/-- Write a configuration word and check that it holds. -/
def writeChecked (window : Window) (offset size : Nat) (value : U32) : Kernel Bool := do
  writeSized window offset size value
  return (← readSized window offset size) = value

/-- What `a1625_scan_chip` found before it wrote anything. -/
structure ChipEntry where
  low : U32
  high : U32
  window : U32
  mem : U32
  rcCommand : U16
  epCommand : U16

/-- BAR0 is sized with memory decode off. -/
def sizeChipBar (entry : ChipEntry) : Kernel Bool := do
  query (.writel .endpoint 0x10 allOnes)
  query (.writel .endpoint 0x14 allOnes)
  let maskLow ← query (.readl .endpoint 0x10)
  let maskHigh ← query (.readl .endpoint 0x14)
  query (.writel .endpoint 0x14 entry.high)
  query (.writel .endpoint 0x10 entry.low)
  let size : U64 := ~~~(maskHigh.setWidth 64 <<< 32 ||| (maskLow &&& ~~~0xf).setWidth 64) + 1
  allOf [readlIs .endpoint 0x10 entry.low, readlIs .endpoint 0x14 entry.high,
    pure (size = 0x8000)]

/-- The mapped chip: decode is enabled step by step, and the identity read. -/
def readChip (o : ModuleOptions) : Kernel Int := do
  let decoding ← allOf [writeChecked .endpoint 0x10 4 0xc0000004,
    writeChecked .root 0x20 4 0xc000c000, writeChecked .endpoint 0x80 4 0x18000000,
    writeChecked .root 4 2 2, writeChecked .endpoint 4 2 2]
  if !decoding then return eio
  let value ← query (.readl .chip 0)
  if value = allOnes ∨ value &&& 0xffff ≠ 0x4350 then return enodev
  let pointer ← query (.readl .chip 0xfc)
  if pointer = 0 ∨ pointer = allOnes ∨ pointer &&& 3 ≠ 0 then return enodev
  if !o.inspectErom then return 0
  inspectEromAt pointer

/-- Decode is disabled before the addresses are restored. -/
def restoreChip (entry : ChipEntry) (ret : Int) : Kernel Int := do
  query (.writew .endpoint 4 entry.epCommand)
  query (.writew .root 4 entry.rcCommand)
  query (.writel .endpoint 0x80 entry.window)
  query (.writel .endpoint 0x14 entry.high)
  query (.writel .endpoint 0x10 entry.low)
  query (.writel .root 0x20 entry.mem)
  let same ← allOf [readwIs .endpoint 4 entry.epCommand, readwIs .root 4 entry.rcCommand,
    readlIs .endpoint 0x80 entry.window, readlIs .endpoint 0x14 entry.high,
    readlIs .endpoint 0x10 entry.low, readlIs .root 0x20 entry.mem]
  return if same then ret else eio

def useChip (o : ModuleOptions) (entry : ChipEntry) : Kernel Int := do
  let sized ← sizeChipBar entry
  let mapped ← onlyIf sized false (query (.ioremap 0x7c0000000))
  let ret ← onlyIf mapped (if sized then enomem else eio) (readChip o)
  let ret ← restoreChip entry ret
  onlyIf mapped () (query (.iounmap 0x7c0000000))
  return ret

def snapshotChip (o : ModuleOptions) : Kernel Int := do
  if !(← query (.requestMemRegion 0x7c0000000)) then return ebusy
  let low ← query (.readl .endpoint 0x10)
  let high ← query (.readl .endpoint 0x14)
  let window ← query (.readl .endpoint 0x80)
  let mem ← query (.readl .root 0x20)
  let rcCommand ← query (.readw .root 4)
  let epCommand ← query (.readw .endpoint 4)
  let known ← allOf [readlIs .endpoint 0 0x43a314e4, readlIs .endpoint 8 0x02800008,
    pure (low = 4 ∧ high = 0 ∧ window = 0x18003000 ∧ mem = 0 ∧ rcCommand = 0 ∧ epCommand = 0)]
  let ret ← onlyIf known ebusy (useChip o ⟨low, high, window, mem, rcCommand, epCommand⟩)
  query (.releaseMemRegion 0x7c0000000)
  return ret

/-- The endpoint behind a routed bus 1, read before anything else is done to it. -/
def checkEndpoint : Kernel Int := do
  let value ← query (.readl .endpoint 0)
  if value &&& 0xffff ≠ 0x14e4 then return enodev
  let value ← query (.readl .endpoint 8)
  if value >>> 16 ≠ 0x0280 then return enodev
  let value ← query (.readl .endpoint 4)
  if value = allOnes ∨ value &&& 4 ≠ 0 then return enodev
  let value ← query (.readl .endpoint 0x2c)
  if value = allOnes then return enodev
  let ret ← readOffsets .endpoint [0x10, 0x14, 0x18, 0x1c, 0x80]
  if ret ≠ 0 then return ret
  discard <| query (.readw .root 4)
  discard <| query (.readl .root 0x20)
  return 0

def scanOptions (o : ModuleOptions) (parents : ScanParents) : ScanOptions :=
  ⟨parents.dart, parents.msiDomain, o.assignMemory, o.bindFirmware, o.holdSeconds,
    o.holdUntilSignal⟩

def observeEndpoint (o : ModuleOptions) (parents : ScanParents) : Kernel Int := do
  let ret ← checkEndpoint
  let ret ← andThen ret (onlyIf o.identifyChip 0 (snapshotChip o))
  andThen ret (onlyIf o.scanPci 0 (pciScan (scanOptions o parents)))

/-- Route bus 1 for as long as `observe` runs. -/
def holdBusNumbers (buses : U32) (observe : Kernel Int) : Kernel Int := do
  let routed := buses &&& 0xff000000 ||| 0x010100
  query (.acquire .busNumbers)
  query (.writel .root 0x18 routed)
  let held ← readlIs .root 0x18 routed
  let ret ← onlyIf held eio observe
  query (.teardown .busNumbers)
  let accessible ← query (.readl .root 0x18)
  let ret ← onlyIf (accessible ≠ allOnes) eio do
    query (.writel .root 0x18 buses)
    let same ← readlIs .root 0x18 buses
    return if same then ret else eio
  query (.release .busNumbers)
  return ret

def routeEndpoint (o : ModuleOptions) (parents : ScanParents) : Kernel Int := do
  if !(← allOf [readlIs .root 0 0x1002106b, readlIs .root 8 0x06040001]) then return enodev
  let buses ← query (.readl .root 0x18)
  if buses = allOnes ∨ buses &&& 0xffffff ≠ 0 ∧ buses &&& 0xffffff ≠ 0x010100 then
    return enodev
  if buses &&& 0xffffff = 0 then holdBusNumbers buses (observeEndpoint o parents)
  else observeEndpoint o parents

def snapshotEndpoint (o : ModuleOptions) (parents : ScanParents) : Kernel Int := do
  if !(← query (.requestMemRegion 0x610008000)) then return ebusy
  let owned ← query (.requestMemRegion 0x610100000)
  let ret ← onlyIf owned ebusy do
    let rc ← query (.ioremap 0x610008000)
    let ep ← query (.ioremap 0x610100000)
    let ret ← onlyIf (rc && ep) enomem (routeEndpoint o parents)
    onlyIf ep () (query (.iounmap 0x610100000))
    onlyIf rc () (query (.iounmap 0x610008000))
    query (.releaseMemRegion 0x610100000)
    return ret
  query (.releaseMemRegion 0x610008000)
  return ret

/-- Train the link for at most 500 ms, look at the endpoint, and stop the link again. -/
def holdLink (control : U32) (observe : Kernel Int) : Kernel Int := do
  query (.acquire .link)
  query (.writel .port 0x80 (control ||| 1))
  let started ← readlIs .port 0x80 (control ||| 1)
  let ret ← onlyIf started eio do
    let (ret, status) ← query (.readlPollTimeout .port 0x88)
    andThen (if status = allOnes then enodev else ret) observe
  query (.teardown .link)
  let status ← query (.readl .port 0x80)
  let ret ← onlyIf (status ≠ allOnes) enodev do
    query (.writel .port 0x80 control)
    let same ← readlIs .port 0x80 control
    return if same then ret else eio
  query (.release .link)
  return ret

/-- PERST is released around the link and held again, whatever happened in between. -/
def releasePerst (control : U32) (observe : Kernel Int) : Kernel Int := do
  let ret ← query (.gpiodDirectionOutputRaw true)
  let ret ← andThen ret (readEqual .gpio resetReg 0x76203)
  let ret ← andThen ret (holdLink control observe)
  let cleanup ← query (.gpiodDirectionOutputRaw false)
  let cleanup ← andThen cleanup (readEqual .gpio resetReg 0x76202)
  return if cleanup ≠ 0 then cleanup else ret

def observeHeldRadio (o : ModuleOptions) (parents : ScanParents) : Kernel Int := do
  let control ← query (.readl .port 0x80)
  if control = allOnes ∨ control &&& 1 ≠ 0 then return eio
  let status ← query (.readl .port 0x88)
  if status = allOnes ∨ status &&& 1 ≠ 0 then return eio
  if !o.trainLink then return 0
  let ret ← readEqual .gpio clkreqReg 0x76220
  if ret ≠ 0 then return ret
  releasePerst control (onlyIf o.identifyEndpoint 0 (snapshotEndpoint o parents))

def snapshotRootPort : Kernel Int := do
  if !(← query (.requestMemRegion 0x610008000)) then return ebusy
  let mapped ← query (.ioremap 0x610008000)
  let ret ← onlyIf mapped enomem do
    let value ← query (.readl .root 0)
    let known := decide (value &&& 0xffff = 0x106b)
    let bridge ← onlyIf known false do
      return (← query (.readl .root 8)) >>> 16 = 0x0604
    query (.iounmap 0x610008000)
    return if bridge then 0 else enodev
  query (.releaseMemRegion 0x610008000)
  return ret

def observeRadio (o : ModuleOptions) (parents : ScanParents) : Kernel Int :=
  radioPulse true (some (observeHeldRadio o parents))

def observeRadioWithDart (o : ModuleOptions) (msiDomain : Bool) : Kernel Int :=
  observeRadio o ⟨true, msiDomain⟩

def observePciWithMsi (o : ModuleOptions) : Kernel Int :=
  withDart (some (observeRadioWithDart o true)) o.testDmaRange

def observeReadyPhy (o : ModuleOptions) : Kernel Int := do
  let ret ← onlyIf o.inspectRc 0 snapshotRootPort
  let ret ← andThen ret (onlyIf o.inspectDart 0 (snapshotDart o false))
  let ret ← andThen ret (onlyIf o.probeMsi 0 msiProbe)
  let ret ← andThen ret (onlyIf o.probeDart 0
    (withDart (if o.mapDart then some dartMap else none) o.testDmaRange))
  let ret ← andThen ret (onlyIf o.probeDart 0 (snapshotDart o true))
  let ret ← andThen ret (onlyIf o.scanMsi 0 (withMsi (some (observePciWithMsi o))))
  let ret ← andThen ret (onlyIf (o.scanIommu && !o.scanMsi) 0
    (withDart (some (observeRadioWithDart o false)) o.testDmaRange))
  let ret ← andThen ret (onlyIf o.scanIommu 0 (snapshotDart o true))
  andThen ret (onlyIf (o.pulseRadio && !o.scanIommu) 0 (observeRadio o ⟨false, false⟩))

def snapshotRegisters (o : ModuleOptions) : Kernel Int :=
  withPciePhy o.preparePort o.inspectPrefix o.testRefclk (some (observeReadyPhy o))

/-- The probe with the options as they are. -/
def observeDomains (o : ModuleOptions) : Kernel Int :=
  withPcieDomains o.cycle o.forceActive (if o.snapshot then some (snapshotRegisters o) else none)

/-- The module never stays loaded. -/
def initResult (ret : Int) : Int := if ret ≠ 0 then ret else ecanceled

def a1625PcieDomainsInit (o : ModuleOptions) : Kernel Int := do
  if optionsRejected o then return einval
  let ret ← observeDomains o
  return initResult ret

end WinBoot.EndpointProbe
