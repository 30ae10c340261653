import WinBoot.KernelCalls

/-! Configuration-space side of the bounded PCI scan: the capability walks, the controls saved
for restoring, and the bus write operation that guards every configuration write of the PCI
core. The root port is bus 0 device 1, the endpoint bus 1 device 0. -/

namespace WinBoot.PciScan
open Interaction KernelCalls

@[simp] abbrev pciCommand : Nat := 0x04
@[simp] abbrev pciPrimaryBus : Nat := 0x18
@[simp] abbrev pciIoBase : Nat := 0x1c
@[simp] abbrev pciSecStatus : Nat := 0x1e
@[simp] abbrev pciMemoryBase : Nat := 0x20
@[simp] abbrev pciPrefMemoryBase : Nat := 0x24
@[simp] abbrev pciPrefBaseUpper32 : Nat := 0x28
@[simp] abbrev pciPrefLimitUpper32 : Nat := 0x2c
@[simp] abbrev pciIoBaseUpper16 : Nat := 0x30
@[simp] abbrev pciRomAddress : Nat := 0x30
@[simp] abbrev pciCapabilityList : Nat := 0x34
@[simp] abbrev pciRomAddress1 : Nat := 0x38
@[simp] abbrev pciBridgeControl : Nat := 0x3e

@[simp] abbrev pciCapIdPm : Nat := 0x01
@[simp] abbrev pciCapIdMsi : Nat := 0x05
@[simp] abbrev pciCapIdExp : Nat := 0x10
@[simp] abbrev pciExtCapIdL1ss : Nat := 0x1e
@[simp] abbrev pciPmCtrl : Nat := 4
@[simp] abbrev pciExpLnkctl : Nat := 0x10
@[simp] abbrev pciExpDevctl2 : Nat := 0x28
@[simp] abbrev pciL1ssCtl1 : Nat := 0x08
@[simp] abbrev pciL1ssCtl2 : Nat := 0x0c
@[simp] abbrev pciMsiFlags : Nat := 2
@[simp] abbrev pciMsiAddressLo : Nat := 4
@[simp] abbrev pciMsiAddressHi : Nat := 8
@[simp] abbrev pciMsiData32 : Nat := 8
@[simp] abbrev pciMsiData64 : Nat := 12
@[simp] abbrev pciMsiMask32 : Nat := 12
@[simp] abbrev pciMsiMask64 : Nat := 16

def commandMaster : U32 := 0x0004
def bridgeCtlBusReset : U32 := 0x0040
def romAddressEnable : U32 := 0x0001
def pmCtrlStateMask : U32 := 0x0003
def expLnkctlLd : U32 := 0x0010
def msiFlagsEnable : U16 := 0x0001
def msiFlagsQsize : U16 := 0x0070
def msiFlags64bit : U16 := 0x0080
def msiFlagsMaskbit : U16 := 0x0100

/-- All of PM control but the write-one-to-clear PME status. -/
def pmMask : U32 := 0x7fff

/-- All of link control but the self-clearing retrain command. -/
def lnkctlMask : U32 := 0xffdf

structure ScanControl where
  bus : Nat
  offset : Nat
  size : Nat
  saved : U32
  mask : U32

structure Scan where
  rejected : Bool
  devices : Nat
  controls : List ScanControl
  requireIommu : Bool
  msiDomain : Bool
  msiCap : Nat
  msi64 : Bool
  assignMemory : Bool
  bindFirmware : Bool
  firmwareActive : Bool
  holdSeconds : Nat
  holdUntilSignal : Bool

/-- The two configuration pages. -/
def isConfig : Window → Bool
  | .root | .endpoint => true
  | _ => false

def busWindow (bus : Nat) : Window := if bus = 0 then .root else .endpoint

def scanCapFrom (cfg : Window) (id : Nat) : Nat → Nat → Kernel Int
  | 0, _ => return enoent
  | count + 1, pos => do
    if pos = 0 then return enoent
    if pos < 0x40 ∨ pos > 0xfc ∨ pos % 4 ≠ 0 then return einval
    if (← query (.readb cfg pos)).toNat = id then return pos
    let next ← query (.readb cfg (pos + 1))
    scanCapFrom cfg id count next.toNat

/-- Walk the standard capability list, at most 48 steps. -/
def scanCap (cfg : Window) (id : Nat) : Kernel Int := do
  let pos ← query (.readb cfg pciCapabilityList)
  scanCapFrom cfg id 48 pos.toNat

def scanExtcapFrom (cfg : Window) (id : Nat) : Nat → Nat → Kernel Int
  | 0, _ => return enoent
  | count + 1, pos => do
    if pos = 0 then return enoent
    if pos < 0x100 ∨ pos > 0xffc ∨ pos % 4 ≠ 0 then return einval
    let header ← query (.readl cfg pos)
    if header = 0 ∨ header = allOnes then return enoent
    if (header &&& 0xffff).toNat = id then return pos
    scanExtcapFrom cfg id count ((header >>> 20) &&& 0xffc).toNat

/-- Walk the extended capability list, at most 256 steps. -/
def scanExtcap (cfg : Window) (id : Nat) : Kernel Int := scanExtcapFrom cfg id 256 0x100

def readSized (cfg : Window) (offset size : Nat) : Kernel U32 := do
  if size = 2 then
    let value ← query (.readw cfg offset)
    return value.setWidth 32
  else query (.readl cfg offset)

def writeSized (cfg : Window) (offset size : Nat) (value : U32) : Kernel Unit :=
  if size = 2 then query (.writew cfg offset (value.setWidth 16))
  else query (.writel cfg offset value)

def scanSaveControl (scan : Scan) (bus offset size : Nat) (mask : U32) : Kernel Scan := do
  let value ← readSized (busWindow bus) offset size
  return { scan with controls := scan.controls ++ [⟨bus, offset, size, value &&& mask, mask⟩] }

/-- The power-management, PCIe and L1 substate controls of one device. -/
def scanSaveBusControls (scan : Scan) (bus : Nat) : Kernel (Int × Scan) := do
  let cfg := busWindow bus
  let pm ← scanCap cfg pciCapIdPm
  let exp ← scanCap cfg pciCapIdExp
  let l1ss ← scanExtcap cfg pciExtCapIdL1ss
  if pm < 0 ∨ exp < 0 ∨ l1ss < 0 ∨ exp + pciExpDevctl2 > 0xfe ∨ l1ss + pciL1ssCtl2 > 0xffc then
    return (enodev, scan)
  let pmControl ← query (.readw cfg (pm.toNat + pciPmCtrl))
  if pmControl.setWidth 32 &&& pmCtrlStateMask ≠ 0 then return (ebusy, scan)
  let scan ← scanSaveControl scan bus (pm.toNat + pciPmCtrl) 2 pmMask
  let scan ← scanSaveControl scan bus (exp.toNat + pciExpDevctl2) 2 0xffff
  let scan ← scanSaveControl scan bus (exp.toNat + pciExpLnkctl) 2 lnkctlMask
  let scan ← scanSaveControl scan bus (l1ss.toNat + pciL1ssCtl1) 4 allOnes
  let scan ← scanSaveControl scan bus (l1ss.toNat + pciL1ssCtl2) 4 allOnes
  return (0, scan)

def scanSaveMemoryWindows (scan : Scan) : Kernel Scan := do
  let scan ← scanSaveControl scan 0 pciIoBase 2 0xffff
  let scan ← scanSaveControl scan 0 pciPrefMemoryBase 4 allOnes
  if !scan.assignMemory then return scan
  let scan ← scanSaveControl scan 0 pciMemoryBase 4 allOnes
  let scan ← scanSaveControl scan 0 pciPrefBaseUpper32 4 allOnes
  let scan ← scanSaveControl scan 0 pciPrefLimitUpper32 4 allOnes
  scanSaveControl scan 0 pciIoBaseUpper16 4 allOnes

def scanSaveMsi (scan : Scan) : Kernel (Int × Scan) := do
  if !scan.msiDomain then return (0, scan)
  let msiCap ← scanCap .endpoint pciCapIdMsi
  if msiCap < 0 ∨ msiCap > 0xe8 then return (enodev, scan)
  let msiCap := msiCap.toNat
  let scan := { scan with msiCap := msiCap }
  let flags ← query (.readw .endpoint (msiCap + pciMsiFlags))
  if flags &&& msiFlagsEnable ≠ 0 then return (ebusy, scan)
  let msi64 := decide (flags &&& msiFlags64bit ≠ 0)
  let scan := { scan with msi64 := msi64 }
  let scan ← scanSaveControl scan 1 (msiCap + pciMsiFlags) 2 0xffff
  let scan ← scanSaveControl scan 1 (msiCap + pciMsiAddressLo) 4 allOnes
  let scan ← onlyIf msi64 scan (scanSaveControl scan 1 (msiCap + pciMsiAddressHi) 4 allOnes)
  let scan ← scanSaveControl scan 1 (msiCap + if msi64 then pciMsiData64 else pciMsiData32) 2
    0xffff
  let scan ← onlyIf (flags &&& msiFlagsMaskbit ≠ 0) scan
    (scanSaveControl scan 1 (msiCap + if msi64 then pciMsiMask64 else pciMsiMask32) 4 allOnes)
  return (0, scan)

/-- The controls of the endpoint that only the firmware driver touches, at fixed offsets. -/
def scanSaveFirmware (scan : Scan) : Kernel Scan := do
  if !scan.bindFirmware then return scan
  let scan ← scanSaveControl scan 1 0x80 4 allOnes
  let scan ← scanSaveControl scan 1 0xdc 2 0xffff
  let scan ← scanSaveControl scan 1 0x228 4 allOnes
  let scan ← scanSaveControl scan 1 0x4e0 4 allOnes
  scanSaveControl scan 1 0x4f4 4 allOnes

def scanSaveControls (scan : Scan) : Kernel (Int × Scan) := do
  let (ret, scan) ← scanSaveBusControls scan 0
  if ret ≠ 0 then return (ret, scan)
  let (ret, scan) ← scanSaveBusControls scan 1
  if ret ≠ 0 then return (ret, scan)
  let scan ← scanSaveMemoryWindows scan
  let (ret, scan) ← scanSaveMsi scan
  if ret ≠ 0 then return (ret, scan)
  let scan ← scanSaveFirmware scan
  return (0, scan)

/-- `PCI_DEVFN` -/
def pciDevfn (slot function : Nat) : Nat := slot * 8 + function

def scanConfig (busNumber devfn : Nat) : Option Window :=
  if busNumber = 0 ∧ devfn = pciDevfn 1 0 then some .root
  else if busNumber = 1 ∧ devfn = pciDevfn 0 0 then some .endpoint
  else none

/-- How a saved control of the same register changes the decision. -/
def controlRule (write : ConfigWrite) (allowed : Bool) (control : ScanControl) : Bool :=
  if control.bus ≠ write.busNumber ∨ (control.offset : Int) ≠ write.offset ∨
      (control.size : Int) ≠ write.size then allowed
  else
    let allowed : Bool := true
    let allowed : Bool :=
      if control.mask = pmMask then write.value &&& pmCtrlStateMask = 0 else allowed
    if control.mask = lnkctlMask then decide (write.value &&& expLnkctlLd = 0) else allowed

/-- The rules before the firmware phase, each overriding the ones above it. -/
def baseRules (scan : Scan) (write : ConfigWrite) : Bool :=
  let bus := write.busNumber
  let offset := write.offset
  let size := write.size
  let value := write.value
  let allowed : Bool := offset = pciCommand ∧ size = 2 ∧
    (value &&& commandMaster = 0 ∨ scan.firmwareActive)
  let allowed : Bool := if size = 4 ∧ offset ≥ 0x10 ∧ offset ≤ (if bus ≠ 0 then 0x24 else 0x14) ∧
    offset % 4 = 0 then true else allowed
  let allowed : Bool := if bus = 0 ∧ offset = pciPrimaryBus ∧ size = 4 then
    value &&& 0xffffff = 0x010100 ∨ value &&& 0xffffff = 0 else allowed
  let allowed : Bool := if bus = 0 ∧ offset = pciBridgeControl ∧ size = 2 then
    value &&& bridgeCtlBusReset = 0 else allowed
  let rom := if bus ≠ 0 then pciRomAddress else pciRomAddress1
  let allowed : Bool := if offset = rom ∧ size = 4 then value &&& romAddressEnable = 0 else allowed
  scan.controls.foldl (controlRule write) allowed

/-- The decision with the size and the value that are written. In the firmware phase a write of
the endpoint's link control and status dword becomes one of the control word. -/
def scanWriteRules (scan : Scan) (write : ConfigWrite) : Bool × Int × U32 :=
  let allowed := baseRules scan write
  let offset := write.offset
  let size := write.size
  let value := write.value
  if write.busNumber = 1 ∧ scan.firmwareActive then
    let allowed : Bool := if offset = 0x80 ∧ size = 4 then
      value &&& 0xfff = 0 ∧ value ≥ 0x18000000 ∧ value ≤ 0x1810f000 else allowed
    if offset = 0xbc ∧ size = 4 then (value &&& expLnkctlLd = 0, 2, value &&& 0xffff)
    else if offset = 0x98 ∧ size = 4 then (value = 1, size, value)
    else (allowed, size, value)
  else if write.busNumber = 0 ∧ offset = pciSecStatus ∧ size = 2 ∧ value = 0xffff then
    (true, size, value)
  else (allowed, size, value)

def rejectScan (scan : Scan) : Kernel Scan := do
  query .rejectScan
  return { scan with rejected := true }

def activateFirmware (scan : Scan) : Kernel Scan := do
  query .activateFirmware
  return { scan with firmwareActive := true }

def pcibiosSuccessful : Int := 0
def pcibiosDeviceNotFound : Int := 0x86
def pcibiosSetFailed : Int := 0x88

def scanWrite (scan : Scan) (write : ConfigWrite) : Kernel (Int × Scan) :=
  match scanConfig write.busNumber write.devfn with
  | none => return (pcibiosDeviceNotFound, scan)
  | some cfg =>
    let (allowed, size, value) := scanWriteRules scan write
    if !allowed then do
      let scan ← rejectScan scan
      return (pcibiosSetFailed, scan)
    else do
      writeSized cfg write.offset.toNat size.toNat value
      return (pcibiosSuccessful, scan)

/-- The writes that the PCI core makes under one of its calls. -/
def scanWrites : Scan → List ConfigWrite → Kernel Scan
  | scan, [] => return scan
  | scan, write :: writes => do
    let (_, scan) ← scanWrite scan write
    scanWrites scan writes

end WinBoot.PciScan
