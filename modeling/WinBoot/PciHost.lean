import WinBoot.PciScan

/-! The bounded PCI scan itself: identification of the two devices, the opt-in firmware phase,
and the host bridge lifetime with the restoring of configuration space. -/

namespace WinBoot.PciHost
open Interaction KernelCalls PciScan

structure PciNode where
  node : Bool
  applied : Bool

def pciNodeRemove (state : PciNode) : Kernel Int := do
  let ret ← onlyIf state.applied 0 (query (.ofChangesetRevert .pciNode))
  let detached ← onlyIf state.node true (query (.ofNodeIsDetached .pciNode))
  let cleanup ← onlyIf (!detached) 0 (query (.ofDetachNode .pciNode))
  query (.ofChangesetDestroy .pciNode)
  return if cleanup ≠ 0 then cleanup else ret

def addProps (changes : Changeset) : List String → Kernel Int
  | [] => return 0
  | name :: names => do
    let ret ← query (.ofChangesetAddProp changes name)
    andThen ret (addProps changes names)

def pciNodeCreate : Kernel (Int × PciNode) := do
  if (← query (.ofNodePhandle "/soc/iommu@602002000")) ≠ 0xa1625001 then
    return (einval, ⟨false, false⟩)
  if ← query (.ofFindNodeByPath "/soc/pcie@610000000") then return (ebusy, ⟨false, false⟩)
  if !(← query (.ofChangesetCreateNode .pciNode)) then return (enomem, ⟨false, false⟩)
  let ret ← addProps .pciNode ["device_type", "#address-cells", "#size-cells", "bus-range",
    "iommu-map", "iommu-map-mask"]
  if ret ≠ 0 then return (ret, ⟨true, false⟩)
  let ret ← query (.ofChangesetApply .pciNode)
  return (ret, ⟨true, ret = 0⟩)

def scanEndpointMsi (scan : Scan) : Kernel (Int × Scan) := do
  let (ret, writes) ← query .pciAllocIrqVectors
  let scan ← scanWrites scan writes
  if ret < 0 then return (ret, scan)
  let data ← query .pciIrqVector
  let flags ← query (.readw .endpoint (scan.msiCap + pciMsiFlags))
  let routed := match data with
    | some data => decide (data.hwirq = 8 ∧ data.parentHwirq = some 0x100e8 ∧
        flags &&& msiFlagsEnable ≠ 0 ∧ flags &&& msiFlagsQsize = 0)
    | none => false
  let verified ← allOf [pure routed,
    readlIs .endpoint (scan.msiCap + pciMsiAddressLo) 0xbffff000,
    if scan.msi64 then readlIs .endpoint (scan.msiCap + pciMsiAddressHi) 0 else pure true,
    readwIs .endpoint (scan.msiCap + if scan.msi64 then pciMsiData64 else pciMsiData32) 8]
  let writes ← query .pciFreeIrqVectors
  let scan ← scanWrites scan writes
  let flags ← query (.readw .endpoint (scan.msiCap + pciMsiFlags))
  return (if flags &&& msiFlagsEnable ≠ 0 then eio else if verified then 0 else eio, scan)

def rejectUnless (passed : Bool) (scan : Scan) : Kernel Scan :=
  if passed then pure scan else rejectScan scan

/-- The endpoint must sit behind a translating DMA domain with the doorbell reserved. -/
def identifyIommu (scan : Scan) : Kernel (Bool × Scan) := do
  if !(← query .iommuDomainIsDma) then
    let scan ← rejectScan scan
    return (false, scan)
  let reserved ← query .msiReservationPresent
  if !(← query (.ioremap 0x602002000)) then
    let scan ← rejectScan scan
    return (true, scan)
  let enabled ← allOf [pure reserved, readlIs .dart 0xc 0x80]
  let scan ← rejectUnless enabled scan
  query (.iounmap 0x602002000)
  return (true, scan)

def identifyBar (scan : Scan) (bar : Nat) : Kernel Scan := do
  let resource ← query (.barResource bar)
  let expected : U64 := if bar ≠ 0 then 0x400000 else 0x8000
  rejectUnless (resource.hasParent ∧ resource.isMemory ∧ !resource.isUnset ∧
    resource.last - resource.first + 1 = expected ∧
    0x7c0000000 ≤ resource.first ∧ resource.last ≤ 0x7ffffffff) scan

def scanIdentify (dev : PciDevice) (scan : Scan) : Kernel (Int × Scan) := do
  let root := decide (dev.busNumber = 0 ∧ dev.devfn = pciDevfn 1 0 ∧ dev.vendor = 0x106b ∧
    dev.device = 0x1002 ∧ dev.classCode = 0x060400)
  let radio := decide (dev.busNumber = 1 ∧ dev.devfn = 0 ∧ dev.vendor = 0x14e4 ∧
    dev.device = 0x43a3 ∧ dev.classCode = 0x028000)
  let scan := { scan with devices := scan.devices + 1 }
  let scan ← rejectUnless (root || radio) scan
  let quiet ← allOf [pure !dev.bound, do
    let command ← query (.readw (if radio then .endpoint else .root) pciCommand)
    return command.setWidth 32 &&& commandMaster = 0]
  let scan ← rejectUnless quiet scan
  let (translated, scan) ← onlyIf (radio && scan.requireIommu) (true, scan) (identifyIommu scan)
  if !translated then return (enodev, scan)
  let scan ← onlyIf (radio && scan.msiDomain && !scan.bindFirmware && !scan.rejected) scan do
    let (ret, scan) ← scanEndpointMsi scan
    rejectUnless (ret = 0) scan
  let scan ← onlyIf (radio && scan.assignMemory) scan do
    let scan ← identifyBar scan 0
    identifyBar scan 2
  return (if root || radio then 0 else enodev, scan)

/-- `pci_walk_bus` stops at the first device its callback refuses. -/
def walkBus : List PciDevice → Scan → Kernel Scan
  | [], scan => return scan
  | dev :: devs, scan => do
    let (ret, scan) ← scanIdentify dev scan
    if ret ≠ 0 then return scan
    walkBus devs scan

def faultPoll : Nat → Kernel Unit
  | 0 => return ()
  | attempt + 1 => do
    let error ← query (.readl .dart 0x10)
    if error.getLsbD 31 then return ()
    faultPoll attempt

def scanFaultTables : Kernel Int := do
  if !(← query (.ioremap 0x602002000)) then return enomem
  faultPoll 2000
  query (.iounmap 0x602002000)
  return 0

def holdWifi (scan : Scan) : Kernel (Int × Scan) := do
  if scan.holdSeconds = 0 ∧ !scan.holdUntilSignal then return (0, scan)
  if (← query .netdevIsEndpoint) ≠ some true then return (enodev, scan)
  if !(← query (.ioremap 0x602002000)) then return (enomem, scan)
  let (fault, writes) ← query (.holdLoop scan.holdSeconds scan.holdUntilSignal)
  let scan ← scanWrites scan writes
  query (.iounmap 0x602002000)
  return (if fault then eio else 0, scan)

/-- The part of the firmware phase in which the driver may be bound. -/
def firmwareObservation (scan : Scan) : Kernel (Int × Scan) := do
  let writes ← query .pciBusAddDevice
  let scan ← scanWrites scan writes
  let (ret, writes) ← query .deviceAttach
  let scan ← scanWrites scan writes
  if ret < 0 then return (ret, scan)
  let ret ← scanFaultTables
  if ret ≠ 0 then return (ret, scan)
  holdWifi scan

def scanFirmware (scan : Scan) : Kernel (Int × Scan) := do
  if !(← query (.pciFindBus 1)) || !scan.requireIommu || !scan.msiDomain ||
      !scan.assignMemory || scan.rejected then
    return (einval, scan)
  if !(← query .pciGetSlot) then return (enodev, scan)
  let ret ← query .deviceSetDriverOverride
  if ret ≠ 0 then return (if ret < 0 then ret else 0, scan)
  let scan ← activateFirmware scan
  let (ret, scan) ← firmwareObservation scan
  let writes ← query .deviceReleaseDriver
  let scan ← scanWrites scan writes
  let mapped ← query (.ioremap 0x602002000)
  onlyIf mapped () (query (.iounmap 0x602002000))
  let ret := if mapped then ret else enomem
  let writes ← query .pciClearMaster
  let scan ← scanWrites scan writes
  return (if ret < 0 then ret else 0, scan)

/-- Write the saved controls back, newest first. -/
def restoreControls : List ScanControl → Int → Kernel Int
  | [], ret => return ret
  | control :: controls, ret => do
    let cfg := busWindow control.bus
    writeSized cfg control.offset control.size control.saved
    let observed ← readSized cfg control.offset control.size
    restoreControls controls (if observed &&& control.mask ≠ control.saved then eio else ret)

def restoreBars (cfg : Window) : List (Nat × U32) → Int → Kernel Int
  | [], ret => return ret
  | (offset, value) :: bars, ret => do
    query (.writel cfg offset value)
    let same ← readlIs cfg offset value
    restoreBars cfg bars (if same then ret else eio)

def readBars (cfg : Window) : List Nat → Kernel (List (Nat × U32))
  | [] => return []
  | offset :: offsets => do
    let value ← query (.readl cfg offset)
    return (offset, value) :: (← readBars cfg offsets)

/-- The registers outside the saved controls that the scan may change, as they were on entry. -/
structure EntryState where
  rcCommand : U16
  epCommand : U16
  control : U16
  busNumbers : U32
  rcBars : List (Nat × U32)
  epBars : List (Nat × U32)
  rcRom : U32
  epRom : U32

def rcBarOffsets : List Nat := [0x10, 0x14]
def epBarOffsets : List Nat := [0x10, 0x14, 0x18, 0x1c, 0x20, 0x24]

/-- The entry checks; nothing is written. -/
def scanEntry : Kernel (Except Int EntryState) := do
  if ← query (.pciFindBus 0) then return .error ebusy
  if !(← allOf [readlIs .root 0 0x1002106b, readlIs .endpoint 0 0x43a314e4]) then
    return .error ebusy
  let rcCommand ← query (.readw .root pciCommand)
  let epCommand ← query (.readw .endpoint pciCommand)
  if rcCommand ≠ 0 ∨ epCommand ≠ 0 then return .error ebusy
  let control ← query (.readw .root pciBridgeControl)
  let busNumbers ← query (.readl .root pciPrimaryBus)
  if busNumbers &&& 0xffffff ≠ 0x010100 ∨ control.setWidth 32 &&& bridgeCtlBusReset ≠ 0 then
    return .error ebusy
  let rcBars ← readBars .root rcBarOffsets
  let epBars ← readBars .endpoint epBarOffsets
  let rcRom ← query (.readl .root pciRomAddress1)
  let epRom ← query (.readl .endpoint pciRomAddress)
  if (rcRom ||| epRom) &&& romAddressEnable ≠ 0 then return .error ebusy
  return .ok ⟨rcCommand, epCommand, control, busNumbers, rcBars, epBars, rcRom, epRom⟩

def restoreConfig (scan : Scan) (entry : EntryState) (ret : Int) : Kernel Int := do
  let ret ← restoreControls scan.controls.reverse ret
  query (.writew .endpoint pciCommand entry.epCommand)
  query (.writew .root pciCommand entry.rcCommand)
  let ret ← restoreBars .root entry.rcBars ret
  let ret ← restoreBars .endpoint entry.epBars ret
  query (.writel .root pciRomAddress1 entry.rcRom)
  query (.writel .endpoint pciRomAddress entry.epRom)
  query (.writel .root pciPrimaryBus entry.busNumbers)
  query (.writew .root pciBridgeControl entry.control)
  let same ← allOf [readwIs .root pciCommand entry.rcCommand,
    readwIs .endpoint pciCommand entry.epCommand,
    readlIs .root pciRomAddress1 entry.rcRom, readlIs .endpoint pciRomAddress entry.epRom,
    readlIs .root pciPrimaryBus entry.busNumbers, readwIs .root pciBridgeControl entry.control]
  return if same then ret else eio

/-- What runs on the scanned bus before it is removed again. -/
def scanBus (scan : Scan) : Kernel (Int × Bool × Scan) := do
  let (ret, bus, writes) ← query .pciScanRootBusBridge
  let scan ← scanWrites scan writes
  if ret ≠ 0 then return (ret, bus, scan)
  let scan ← onlyIf scan.assignMemory scan do
    let writes ← query .pciAssignResources
    scanWrites scan writes
  let scan ← walkBus (← query .pciWalkBus) scan
  if scan.rejected ∨ scan.devices ≠ 2 then return (eio, bus, scan)
  if !scan.bindFirmware then return (0, bus, scan)
  let (ret, scan) ← scanFirmware scan
  return (ret, bus, scan)

/-- From a host bridge to its removal and the restored configuration space. -/
def scanHost (scan : Scan) (entry : EntryState) : Kernel Int := do
  if !(← query .pciAllocHostBridge) then return enomem
  query (.acquire .pciHost)
  let requested ← onlyIf scan.assignMemory 0 (query .requestResource)
  if requested ≠ 0 then
    query (.teardown .pciHost)
    query .pciFreeHostBridge
    query (.release .pciHost)
    return requested
  let (ret, bus, scan) ← scanBus scan
  query (.teardown .pciHost)
  let scan ← onlyIf bus scan do
    let writes ← query .pciRemoveRootBus
    scanWrites scan writes
  query .pciFreeHostBridge
  let released ← onlyIf scan.assignMemory 0 (query .releaseResource)
  let ret ← restoreConfig scan entry (if released ≠ 0 then eio else ret)
  query (.release .pciHost)
  return if scan.rejected then eio else ret

/-- The options of the module that reach the scan. -/
structure ScanOptions where
  dart : Bool
  msiDomain : Bool
  assignMemory : Bool
  bindFirmware : Bool
  holdSeconds : Nat
  holdUntilSignal : Bool

def newScan (options : ScanOptions) : Scan :=
  { rejected := false, devices := 0, controls := [], requireIommu := options.dart,
    msiDomain := options.msiDomain, msiCap := 0, msi64 := false,
    assignMemory := options.assignMemory, bindFirmware := options.bindFirmware,
    firmwareActive := false, holdSeconds := options.holdSeconds,
    holdUntilSignal := options.holdUntilSignal }

/-- The scan under its synthetic parent device. -/
def scanUnderParent (scan : Scan) (entry : EntryState) : Kernel Int := do
  let parent ← query .rootDeviceRegister
  if parent < 0 then return parent
  let ret ← scanHost scan entry
  query .rootDeviceUnregister
  return ret

def pciScan (options : ScanOptions) : Kernel Int := do
  match ← scanEntry with
  | .error ret => return ret
  | .ok entry =>
    let (ret, scan) ← scanSaveControls (newScan options)
    if ret ≠ 0 then return ret
    if !options.dart then
      let ret ← scanUnderParent scan entry
      query .endScan
      return ret
    let (created, node) ← pciNodeCreate
    let ret ← onlyIf (created = 0) created (scanUnderParent scan entry)
    let cleanup ← pciNodeRemove node
    query .endScan
    return if cleanup ≠ 0 then cleanup else ret

end WinBoot.PciHost
