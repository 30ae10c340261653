import WinBoot.KernelCalls

/-! Radio power with PERST held: the rail is switched on behind an asserted reset, the observer
runs, and both are taken back, the reset only after the rail. -/

namespace WinBoot.RadioPulse
open Interaction KernelCalls

def pinctrlPath : String := "/soc/pinctrl@20e300000"
def pmicPath : String := "/soc/i2c@20a110000/pmic@74"

def resetReg : Nat := 4 * 77
def clkreqReg : Nat := 4 * 41
def hostWakeReg : Nat := 4 * 63
def railReg : Nat := 0x406

def readEqual (map : RegMap) (reg : Nat) (expected : U32) : Kernel Int := do
  let (ret, value) ← query (.regmapReadBypassed map reg)
  return if ret ≠ 0 then ret else if value ≠ expected then eio else 0

/-- The two devices with their register maps; nothing is written. -/
def radioDevices : Kernel Bool := do
  if !(← query (.ofFindNodeByPath pinctrlPath)) then return false
  if !(← query (.ofDeviceIsCompatible pinctrlPath "apple,t7000-pinctrl")) then return false
  if !(← query (.ofFindDevice pinctrlPath)) then return false
  if !(← query (.ofFindNodeByPath pmicPath)) then return false
  if !(← query (.ofDeviceIsCompatible pmicPath "apple,i2c-pmic")) then return false
  if !(← query (.ofFindDevice pmicPath)) then return false
  if !(← query (.devDriverBound pinctrlPath)) then return false
  if !(← query (.devDriverBound pmicPath)) then return false
  if (← query (.i2cAddr pmicPath)) ≠ 0x74 then return false
  let gpio ← query (.devGetRegmap pinctrlPath)
  let pmu ← query (.devGetRegmap pmicPath)
  return gpio && pmu

/-- Only the baseline that the read-only probes established is accepted. -/
def radioBaseline : Kernel Int := do
  let (ret, resetSaved) ← query (.regmapRead .gpio resetReg)
  if ret ≠ 0 then return ret
  let (ret, pmuSaved) ← query (.regmapRead .pmu railReg)
  if ret ≠ 0 then return ret
  if resetSaved ≠ 0x76200 ∨ pmuSaved ≠ 0 then return ebusy
  let ret ← readEqual .gpio resetReg 0x76200
  let ret ← andThen ret (readEqual .gpio clkreqReg 0x76221)
  andThen ret (readEqual .gpio hostWakeReg 0x72202)

/-- With the reset line taken: the result, and whether the rail was touched. -/
def powerRadio (observe : Option (Kernel Int)) : Kernel (Int × Bool) := do
  let ret ← query (.gpiodDirectionOutputRaw false)
  let ret ← andThen ret (readEqual .gpio resetReg 0x76202)
  if ret ≠ 0 then return (ret, false)
  let ret ← query (.regmapWrite .pmu railReg 0x02)
  let ret ← andThen ret (readEqual .pmu railReg 0x02)
  let ret ← andThen ret (readEqual .gpio resetReg 0x76202)
  if ret ≠ 0 then return (ret, true)
  let (ret, _) ← query (.regmapReadBypassed .gpio clkreqReg)
  let ret ← andThen ret (observe.getD (pure 0))
  return (ret, true)

def writeBack (map : RegMap) (reg : Nat) (saved : U32) : Kernel Int := do
  let ret ← query (.regmapWrite map reg saved)
  andThen ret (readEqual map reg saved)

/-- The reset configuration is given back only behind a rail that is off again. -/
def restoreRadio (powered : Bool) (ret : Int) : Kernel Int := do
  let railBack ← onlyIf powered 0 (writeBack .pmu railReg 0)
  if railBack ≠ 0 then return railBack
  let resetBack ← writeBack .gpio resetReg 0x76200
  return if resetBack ≠ 0 then resetBack else ret

def radioPulse (pulse : Bool) (observe : Option (Kernel Int)) : Kernel Int := do
  if !(← isJ42dT7000) then return enodev
  if !(← radioDevices) then return enodev
  let ret ← radioBaseline
  if ret ≠ 0 then return ret
  if !pulse then return 0
  let reset ← query .gpiodGet
  if reset < 0 then return reset
  query (.acquire .radio)
  let (ret, powered) ← powerRadio observe
  query (.teardown .radio)
  let ret ← restoreRadio powered ret
  query .gpiodPut
  query (.release .radio)
  return ret

end WinBoot.RadioPulse
