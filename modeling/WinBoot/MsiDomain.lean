import WinBoot.KernelCalls

/-! The MSI parent domain of port 1: eight vectors of the interrupt controller, checked by
allocating and freeing each, and the port's two MSI registers around the callback. -/

namespace WinBoot.MsiDomain
open Interaction KernelCalls

structure MsiMessage where
  addressHi : U32
  addressLo : U32
  data : Nat

def msiCompose (hwirq : Nat) : MsiMessage := ⟨0, 0xbffff000, hwirq⟩

/-- The parent's number for the vector of slot `i`. -/
def parentHwirq (i : Nat) : Nat := 0x10000 ||| (232 + i)

def slots : List Nat := List.range 8

/-- Whether some vector of the eight has a mapping in the parent. -/
def anyMapping : List Nat → Kernel Bool
  | [] => return false
  | i :: rest => do
    if ← query (.irqFindMapping (parentHwirq i)) then return true
    anyMapping rest

def vectorMatches (i : Nat) (hwirq parent : Nat) : Bool :=
  let message := msiCompose hwirq
  hwirq = 8 + i ∧ parent = parentHwirq i ∧ message.addressHi = 0 ∧
    message.addressLo = 0xbffff000 ∧ message.data = 8 + i

def allocIrqs : List Nat → List Int → Kernel (Int × List Int)
  | [], irqs => return (0, irqs)
  | i :: rest, irqs => do
    let irq ← query .irqDomainAllocIrqs
    if irq < 0 then return (irq, irqs)
    let irqs := irqs ++ [irq]
    match ← query (.irqDomainGetIrqData irq) with
    | some ⟨hwirq, some parent⟩ =>
      if !vectorMatches i hwirq parent then return (eio, irqs)
      allocIrqs rest irqs
    | _ => return (enodev, irqs)

def freeIrqs : List Int → Kernel Unit
  | [] => return ()
  | irq :: irqs => do
    query (.irqDomainFreeIrqs irq)
    freeIrqs irqs

/-- The reads after the teardown go over all eight vectors, whatever they find. -/
def checkUnmapped : List Nat → Int → Kernel Int
  | [], ret => return ret
  | i :: rest, ret => do
    let mapped ← query (.irqFindMapping (parentHwirq i))
    checkUnmapped rest (if mapped then eio else ret)

/-- The domain in use: what is returned with it are the vectors still allocated. -/
def useMsi (operate : Option (Kernel Int)) : Kernel (Int × List Int) := do
  query (.writel .port 0x124 0x31)
  query (.writel .port 0x128 0x00080008)
  if !(← allOf [readlIs .port 0x124 0x31, readlIs .port 0x128 0x00080008]) then
    return (eio, [])
  let (ret, irqs) ← allocIrqs slots []
  if ret ≠ 0 then return (ret, irqs)
  freeIrqs irqs
  let ret ← operate.getD (pure 0)
  return (ret, [])

def holdMsi (control base : U32) (operate : Option (Kernel Int)) : Kernel Int := do
  query (.acquire .msi)
  let (ret, irqs) ← useMsi operate
  query (.teardown .msi)
  freeIrqs (irqs.filter (· ≠ 0))
  let used ← query .msiSlotsUsed
  let ret ← checkUnmapped slots (if used ≠ 0 then eio else ret)
  query .irqDomainRemove
  query (.writel .port 0x124 control)
  query (.writel .port 0x128 base)
  let same ← allOf [readlIs .port 0x124 control, readlIs .port 0x128 base]
  query (.release .msi)
  return if same then ret else eio

def withMsi (operate : Option (Kernel Int)) : Kernel Int := do
  let control ← query (.readl .port 0x124)
  let base ← query (.readl .port 0x128)
  if !(← isJ42dT7000) then return ebusy
  if control ≠ 0 ∨ base ≠ 0 then return ebusy
  if !(← query (.ofFindNodeByPath "/soc/interrupt-controller@20e100000")) then return enodev
  if !(← query (.ofDeviceIsCompatible "/soc/interrupt-controller@20e100000" "apple,aic")) then
    return enodev
  if !(← query .irqFindMatchingFwspec) then return enodev
  if ← anyMapping slots then return ebusy
  if !(← query .irqDomainAllocFwnode) then return enomem
  let created ← query .msiCreateParentIrqDomain
  let ret ← onlyIf created enomem (holdMsi control base operate)
  query .irqDomainFreeFwnode
  return ret

def msiProbe : Kernel Int := withMsi none

end WinBoot.MsiDomain
