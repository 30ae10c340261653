import WinBoot.PciHost

/-! The DART node and its platform device, held around the callback, and the callback that maps
one page through it. -/

namespace WinBoot.DartLifetime
open Interaction KernelCalls
open PciHost (addProps)

def dartPath : String := "/soc/iommu@602002000"
def aicPath : String := "/soc/interrupt-controller@20e100000"
def dartPhandle : U32 := 0xa1625001

/-- The node's properties; the phandle only for a callback, and only while it is free. -/
def dartProps (operated testDmaRange : Bool) : Kernel Int := do
  let ret ← addProps .dart ["compatible", "reg", "interrupt-parent", "interrupts",
    "#iommu-cells"]
  let ret ← andThen ret (onlyIf testDmaRange 0
    (query (.ofChangesetAddProp .dart "apple,dma-range")))
  andThen ret (onlyIf operated 0 do
    if ← query (.ofFindNodeByPhandle dartPhandle) then return ebusy
    query (.ofChangesetAddProp .dart "phandle"))

def dartResourceMatches (ret : Int) (start size : Nat) : Bool :=
  ret = 0 ∧ start = 0x602002000 ∧ size = 0x2000

/-- The platform device on the attached node: the result, and whether it was created. -/
def useDart (operate : Option (Kernel Int)) : Kernel (Int × Bool) := do
  let (ret, start, size) ← query .ofAddressToResource
  if !dartResourceMatches ret start size then
    return (if ret ≠ 0 then ret else einval, false)
  if !(← query .ofPlatformDeviceCreate) then return (enodev, false)
  if !(← query .dartDriverBound) then return (enodev, true)
  let ret ← operate.getD (pure 0)
  return (ret, true)

def holdDart (operate : Option (Kernel Int)) : Kernel Int := do
  query (.acquire .dart)
  let applied ← query (.ofChangesetApply .dart)
  let (ret, created) ← onlyIf (applied = 0) (applied, false) (useDart operate)
  query (.teardown .dart)
  onlyIf created () (query .dartDeviceUnregister)
  let cleanup ← onlyIf (applied = 0) 0 (query (.ofChangesetRevert .dart))
  let ret := if cleanup ≠ 0 then cleanup else ret
  let detached ← query (.ofNodeIsDetached .dart)
  let cleanup ← onlyIf (!detached) 0 (query (.ofDetachNode .dart))
  query (.release .dart)
  return if cleanup ≠ 0 then cleanup else ret

def withDart (operate : Option (Kernel Int)) (testDmaRange : Bool) : Kernel Int := do
  if !(← isJ42dT7000) then return enodev
  if ← query (.ofFindNodeByPath dartPath) then return ebusy
  let soc ← query (.ofFindNodeByPath "/soc")
  let aic ← query (.ofFindNodeByPath aicPath)
  if !(soc && aic) then return enodev
  if (← query (.ofNodePhandle aicPath)) = 0 then return enodev
  if !(← query (.ofDeviceIsCompatible aicPath "apple,aic")) then return enodev
  let created ← query (.ofChangesetCreateNode .dart)
  let ret ← onlyIf created enomem (dartProps operate.isSome testDmaRange)
  let ret ← andThen ret (holdDart operate)
  query (.ofChangesetDestroy .dart)
  return ret

/-- The mapping client on its own node, whose driver probes when the device is added. -/
def useDartMap : Kernel (Int × Bool) := do
  let ret ← query .platformDriverRegister
  if ret ≠ 0 then return (ret, false)
  if !(← query .platformDeviceAlloc) then return (enomem, true)
  let ret ← query .platformDeviceAdd
  if ret ≠ 0 then return (ret, true)
  let (ret, bound) ← query .mapProbeResult
  query .mapDeviceUnregister
  return (if bound then ret else if ret ≠ 0 then ret else enodev, true)

def holdDartMap : Kernel Int := do
  let applied ← query (.ofChangesetApply .dartMap)
  let (ret, registered) ← onlyIf (applied = 0) (applied, false) useDartMap
  onlyIf registered () (query .platformDriverUnregister)
  let cleanup ← onlyIf (applied = 0) 0 (query (.ofChangesetRevert .dartMap))
  let ret := if cleanup ≠ 0 then cleanup else ret
  let detached ← query (.ofNodeIsDetached .dartMap)
  let cleanup ← onlyIf (!detached) 0 (query (.ofDetachNode .dartMap))
  return if cleanup ≠ 0 then cleanup else ret

/-- The kernel is built with 4 KiB pages, so only the phandle is left to check. -/
def dartMap : Kernel Int := do
  if (← query (.ofNodePhandle dartPath)) ≠ dartPhandle then return einval
  if ← query (.ofFindNodeByPath "/soc/a1625-dart-map") then return ebusy
  let created ← query (.ofChangesetCreateNode .dartMap)
  let ret ← onlyIf created enomem (addProps .dartMap ["iommus"])
  let ret ← andThen ret holdDartMap
  query (.ofChangesetDestroy .dartMap)
  return ret

end WinBoot.DartLifetime
