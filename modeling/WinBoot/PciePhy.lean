import WinBoot.KernelCalls

/-! The internal controls of the shared PHY and port 1, set step by step and taken back in
reverse order around the callback. -/

namespace WinBoot.PciePhy
open Interaction KernelCalls

def radioIsOff : Kernel Int := do
  if !(← query (.ofFindNodeByPath "/soc/i2c@20a110000/pmic@74")) then return enodev
  if !(← query (.ofFindDevice "/soc/i2c@20a110000/pmic@74")) then return enodev
  if (← query (.i2cAddr "/soc/i2c@20a110000/pmic@74")) ≠ 0x74 then return enodev
  if !(← query (.devDriverBound "/soc/i2c@20a110000/pmic@74")) then return enodev
  if !(← query (.devGetRegmap "/soc/i2c@20a110000/pmic@74")) then return enodev
  let (ret, value) ← query (.regmapRead .pmu 0x406)
  return if ret = 0 ∧ value ≠ 0 then ebusy else ret

structure CoreStep where
  offset : Nat
  mask : U32
  bits : U32

def coreSteps : List CoreStep :=
  [⟨0x40, 1, 1⟩, ⟨0x100, 1, 1⟩, ⟨0x118, 1, 1⟩, ⟨0x118, 1, 0⟩, ⟨0x100, 1, 0⟩, ⟨0x40, 1, 0⟩,
    ⟨0x198, 1, 0⟩, ⟨0x188, 1, 1⟩, ⟨0x18c, 1, 0⟩, ⟨0x180, 1, 1⟩, ⟨0x198, 1, 1⟩,
    ⟨0x860, allOnes, 3⟩, ⟨0x188, 0x100, 0⟩]

/-- The prefix leaves out the counter command; `test_refclk` puts the clock control after it in
its place. -/
def chosenSteps (inspectPrefix testRefclk : Bool) : List CoreStep :=
  if !inspectPrefix then coreSteps
  else if testRefclk then coreSteps.take 11 ++ coreSteps.drop 12
  else coreSteps.take 11

/-- A step with what its masked bits were before. -/
structure AppliedStep where
  step : CoreStep
  saved : U32

/-- Set the controls in turn; the steps applied so far are kept newest first. -/
def applySteps : List CoreStep → List AppliedStep → Kernel (Int × List AppliedStep)
  | [], applied => return (0, applied)
  | step :: steps, applied => do
    let value ← query (.readl .core step.offset)
    if value = allOnes then return (enodev, applied)
    onlyIf applied.isEmpty () (query (.acquire .phy))
    let applied := ⟨step, value &&& step.mask⟩ :: applied
    query (.writel .core step.offset (value &&& ~~~step.mask ||| step.bits))
    let value ← query (.readl .core step.offset)
    if value = allOnes ∨ value &&& step.mask ≠ step.bits then return (eio, applied)
    applySteps steps applied

def preparePort (inspectPrefix testRefclk : Bool) : Kernel (Int × List AppliedStep) := do
  let ret ← radioIsOff
  if ret ≠ 0 then return (ret, [])
  applySteps (chosenSteps inspectPrefix testRefclk) []

/-- Every listed register must be accessible. -/
def readOffsets (window : Window) : List Nat → Kernel Int
  | [] => return 0
  | offset :: offsets => do
    if (← query (.readl window offset)) = allOnes then return enodev
    readOffsets window offsets

def coreOffsets : List Nat :=
  [0x90, 0x100, 0x108, 0x10c, 0x118, 0x130, 0x134, 0x180, 0x188, 0x18c, 0x198]

def portOffsets : List Nat := [0x80, 0x88, 0x124, 0x128]

def rollBackSteps : List AppliedStep → Int → Kernel Int
  | [], ret => return ret
  | ⟨step, saved⟩ :: applied, ret => do
    let value ← query (.readl .core step.offset)
    if value = allOnes then return eio
    query (.writel .core step.offset (value &&& ~~~step.mask ||| saved))
    let value ← query (.readl .core step.offset)
    rollBackSteps applied
      (if value = allOnes ∨ value &&& step.mask ≠ saved then eio else ret)

/-- The mapped windows around `operate`, with the steps applied on the way. -/
def usePhy (preparing inspectPrefix testRefclk : Bool) (operate : Option (Kernel Int)) :
    Kernel (Int × List AppliedStep) := do
  let (ret, applied) ← onlyIf preparing (0, []) (preparePort inspectPrefix testRefclk)
  if ret ≠ 0 then return (ret, applied)
  let ret ← readOffsets .core coreOffsets
  if ret ≠ 0 then return (ret, applied)
  let ret ← readOffsets .port portOffsets
  if ret ≠ 0 then return (ret, applied)
  let ret ← operate.getD (pure 0)
  return (ret, applied)

def rollBackPhy (applied : List AppliedStep) (ret : Int) : Kernel Int := do
  if applied.isEmpty then return ret
  query (.teardown .phy)
  let ret ← rollBackSteps applied ret
  query (.release .phy)
  return ret

def mapPhy (preparing inspectPrefix testRefclk : Bool) (operate : Option (Kernel Int)) :
    Kernel Int := do
  let core ← query (.ioremap 0x600000000)
  let port ← query (.ioremap 0x602004000)
  let (ret, applied) ← onlyIf (core && port) (enomem, [])
    (usePhy preparing inspectPrefix testRefclk operate)
  let ret ← rollBackPhy applied ret
  onlyIf port () (query (.iounmap 0x602004000))
  onlyIf core () (query (.iounmap 0x600000000))
  return ret

def withPciePhy (preparing inspectPrefix testRefclk : Bool) (operate : Option (Kernel Int)) :
    Kernel Int := do
  if inspectPrefix && !preparing || testRefclk && !inspectPrefix then return einval
  if !(← isJ42dT7000) then return enodev
  if !(← query (.requestMemRegion 0x600000000)) then return ebusy
  let port ← query (.requestMemRegion 0x602004000)
  let ret ← onlyIf port ebusy (mapPhy preparing inspectPrefix testRefclk operate)
  onlyIf port () (query (.releaseMemRegion 0x602004000))
  query (.releaseMemRegion 0x600000000)
  return ret

end WinBoot.PciePhy
