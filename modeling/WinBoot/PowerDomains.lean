import WinBoot.KernelCalls

/-! The bounded lifetime of the three PCIe power domains. Whatever step stops the setup, the
domains reached so far are released in reverse order and read once more. -/

namespace WinBoot.PowerDomains
open Interaction KernelCalls

structure DomainProbe where
  index : Nat
  path : String
  offset : Nat
  consumer : Bool
  attached : Bool
  resumed : Bool
  forced : Bool
  savedAuto : U32

def domainProbe (index : Nat) (path : String) (offset : Nat) : DomainProbe :=
  ⟨index, path, offset, false, false, false, false, 0⟩

def domainTable : List DomainProbe :=
  [domainProbe 0 "/soc/power-management@20e000000/power-controller@20308" 0x20308,
    domainProbe 1 "/soc/power-management@20e000000/power-controller@20310" 0x20310,
    domainProbe 2 "/soc/power-management@20e000000/power-controller@20220" 0x20220]

/-- Target, actual, AUTO, RESET and DISABLE, all clear while a domain is off. -/
def offMask : U32 := 0x900004ff

def autoBit : U32 := 0x10000000

/-- `BIT(28) | BIT(9) | BIT(8)` -/
def autoMask : U32 := 0x10000300

def readBaseline (cycle : Bool) : List DomainProbe → Kernel Int
  | [] => return 0
  | domain :: domains => do
    let (ret, reg) ← query (.regmapRead .pmgr domain.offset)
    if ret ≠ 0 then return ret
    if cycle ∧ reg &&& offMask ≠ 0 then return ebusy
    readBaseline cycle domains

/-- One step for each domain in turn, up to the first error. -/
def forDomains (step : DomainProbe → Kernel (Int × DomainProbe)) :
    List DomainProbe → Kernel (Int × List DomainProbe)
  | [] => return (0, [])
  | domain :: domains => do
    let (ret, domain) ← step domain
    if ret ≠ 0 then return (ret, domain :: domains)
    let (ret, domains) ← forDomains step domains
    return (ret, domain :: domains)

def attachDomain (domain : DomainProbe) : Kernel (Int × DomainProbe) := do
  if !(← query (.ofFindNodeByPath domain.path)) then return (enodev, domain)
  if !(← query (.ofDeviceIsCompatible domain.path "apple,t7000-pmgr-pwrstate")) then
    return (enodev, domain)
  let ret ← query (.platformDeviceRegisterSimple domain.index)
  if ret ≠ 0 then return (ret, domain)
  let domain := { domain with consumer := true }
  let ret ← query (.ofGenpdAddDevice domain.index)
  if ret ≠ 0 then return (ret, domain)
  let domain := { domain with attached := true }
  query (.pmRuntimeEnable domain.index)
  return (0, domain)

def resumeDomain (domain : DomainProbe) : Kernel (Int × DomainProbe) := do
  let ret ← query (.pmRuntimeResumeAndGet domain.index)
  if ret < 0 then return (ret, domain)
  let domain := { domain with resumed := true }
  let (ret, reg) ← query (.regmapRead .pmgr domain.offset)
  if ret ≠ 0 then return (ret, domain)
  if reg &&& 0xf ≠ 0xf ∨ reg &&& 0x80000400 ≠ 0 then return (eio, domain)
  return (0, domain)

/-- Suppress automatic clock gating, as long as the domain then reports itself active. -/
def forceDomain (domain : DomainProbe) : Kernel (Int × DomainProbe) := do
  let (ret, reg) ← query (.regmapRead .pmgr domain.offset)
  if ret ≠ 0 then return (ret, domain)
  let domain := { domain with savedAuto := reg &&& autoBit, forced := true }
  let ret ← query (.regmapUpdateBits .pmgr domain.offset autoMask 0)
  if ret ≠ 0 then return (ret, domain)
  let (ret, _) ← query (.regmapReadPollTimeout .pmgr domain.offset)
  return (ret, domain)

def setUpDomains (forceActive : Bool) (domains : List DomainProbe) :
    Kernel (Int × List DomainProbe) := do
  let (ret, domains) ← forDomains attachDomain domains
  if ret ≠ 0 then return (ret, domains)
  let (ret, domains) ← forDomains resumeDomain domains
  if ret ≠ 0 then return (ret, domains)
  onlyIf forceActive (0, domains) (forDomains forceDomain domains)

/-- A consumer that cannot be detached from its domain stays registered. -/
def releaseDomain (domain : DomainProbe) (ret : Int) : Kernel Int := do
  if !domain.consumer then return ret
  let cleanup ← onlyIf domain.forced 0
    (query (.regmapUpdateBits .pmgr domain.offset autoMask domain.savedAuto))
  let ret := if cleanup ≠ 0 then cleanup else ret
  let cleanup ← onlyIf domain.resumed 0 (query (.pmRuntimePutSyncSuspend domain.index))
  let ret := if cleanup < 0 then cleanup else ret
  let cleanup ← onlyIf domain.attached 0 do
    query (.pmRuntimeDisable domain.index)
    query (.pmGenpdRemoveDevice domain.index)
  if cleanup ≠ 0 then return cleanup
  query (.platformDeviceUnregister domain.index)
  return ret

def releaseDomains : List DomainProbe → Int → Kernel Int
  | [], ret => return ret
  | domain :: domains, ret => do releaseDomains domains (← releaseDomain domain ret)

def readReleased : List DomainProbe → Int → Kernel Int
  | [], ret => return ret
  | domain :: domains, ret => do
    let (cleanup, reg) ← query (.regmapRead .pmgr domain.offset)
    readReleased domains
      (if cleanup ≠ 0 then cleanup else if reg &&& offMask ≠ 0 then eio else ret)

/-- Hold the three domains around `operate`. -/
def holdDomains (forceActive : Bool) (operate : Option (Kernel Int)) : Kernel Int := do
  query (.acquire .power)
  let (ret, domains) ← setUpDomains forceActive domainTable
  let ret ← andThen ret (operate.getD (pure 0))
  query (.teardown .power)
  let ret ← releaseDomains domains.reverse ret
  let ret ← readReleased domains ret
  query (.release .power)
  return ret

def withPcieDomains (cycle forceActive : Bool) (operate : Option (Kernel Int)) : Kernel Int := do
  if !cycle && (forceActive || operate.isSome) then return einval
  if !(← isJ42dT7000) then return enodev
  if !(← query (.ofFindNodeByPath "/soc/power-management@20e000000")) then return enodev
  if !(← query (.ofDeviceIsCompatible "/soc/power-management@20e000000" "apple,t7000-pmgr")) then
    return enodev
  let map ← query (.sysconNodeToRegmap "/soc/power-management@20e000000")
  if map < 0 then return map
  let ret ← readBaseline cycle domainTable
  if ret ≠ 0 then return ret
  if !cycle then return 0
  holdDomains forceActive operate

end WinBoot.PowerDomains
