import Mathlib.Tactic.Common
import WinBoot.Monitor

/-! The kernel interfaces that the PCIe probe module calls. Every answer is the environment's,
so a run ranges over all failures and all register contents. A call under which the PCI core
writes configuration space answers with those writes. Reference counts, locks, delays and
messages are left out; `acquire`, `teardown`, `release`, `activateFirmware`, `rejectScan` and
`endScan` only mark places in the program and are answered by nothing. -/

namespace WinBoot.KernelCalls
open Interaction

abbrev U8 := BitVec 8
abbrev U16 := BitVec 16
abbrev U32 := BitVec 32
abbrev U64 := BitVec 64

/-- `~0U`, what an inaccessible register reads as. -/
def allOnes : U32 := BitVec.allOnes 32

def einval : Int := -22
def enomem : Int := -12
def enoent : Int := -2
def eio : Int := -5
def ebusy : Int := -16
def enodev : Int := -19
def ecanceled : Int := -125

/-- The hardware layers of a probe, outermost first. -/
inductive Layer where
  | power | phy | msi | dart | radio | link | busNumbers | pciHost
  deriving DecidableEq, Repr

/-- The mapped register windows: PCIe core and port 1, the DART, the configuration pages of
root port and endpoint, and the endpoint's BAR0. -/
inductive Window where
  | core | port | dart | root | endpoint | chip
  deriving DecidableEq, Repr

inductive RegMap where
  | pmgr | gpio | pmu
  deriving DecidableEq, Repr

/-- The device-tree changesets, each around one new node. -/
inductive Changeset where
  | dart | dartMap | pciNode
  deriving DecidableEq, Repr

/-- One configuration write that the PCI core passes to the bus operations. -/
structure ConfigWrite where
  busNumber : Nat
  devfn : Nat
  offset : Int
  size : Int
  value : U32

/-- A device as `pci_walk_bus` presents it. -/
structure PciDevice where
  busNumber : Nat
  devfn : Nat
  vendor : Nat
  device : Nat
  classCode : Nat
  bound : Bool

/-- An interrupt of the MSI domain with its parent's number, when it has one. -/
structure IrqData where
  hwirq : Nat
  parentHwirq : Option Nat

/-- A resource that a BAR was given. -/
structure BarResource where
  hasParent : Bool
  isMemory : Bool
  isUnset : Bool
  first : U64
  last : U64
  deriving Inhabited

inductive Call where
  | acquire (layer : Layer)
  | teardown (layer : Layer)
  | release (layer : Layer)
  | activateFirmware
  | rejectScan
  | endScan
  | ofDeviceIsCompatible (node compat : String)
  | ofFindNodeByPath (path : String)
  | ofFindNodeByPhandle (phandle : U32)
  | ofNodePhandle (path : String)
  | ofFindDevice (path : String)
  | devDriverBound (path : String)
  | i2cAddr (path : String)
  | devGetRegmap (path : String)
  | sysconNodeToRegmap (path : String)
  | regmapRead (map : RegMap) (reg : Nat)
  | regmapReadBypassed (map : RegMap) (reg : Nat)
  | regmapWrite (map : RegMap) (reg : Nat) (value : U32)
  | regmapUpdateBits (map : RegMap) (reg : Nat) (mask value : U32)
  | regmapReadPollTimeout (map : RegMap) (reg : Nat)
  | platformDeviceRegisterSimple (index : Nat)
  | ofGenpdAddDevice (index : Nat)
  | pmRuntimeEnable (index : Nat)
  | pmRuntimeResumeAndGet (index : Nat)
  | pmRuntimePutSyncSuspend (index : Nat)
  | pmRuntimeDisable (index : Nat)
  | pmGenpdRemoveDevice (index : Nat)
  | platformDeviceUnregister (index : Nat)
  | requestMemRegion (start : Nat)
  | releaseMemRegion (start : Nat)
  | ioremap (start : Nat)
  | iounmap (start : Nat)
  | readb (window : Window) (offset : Nat)
  | readw (window : Window) (offset : Nat)
  | readl (window : Window) (offset : Nat)
  | writew (window : Window) (offset : Nat) (value : U16)
  | writel (window : Window) (offset : Nat) (value : U32)
  | readlPollTimeout (window : Window) (offset : Nat)
  | gpiodGet
  | gpiodDirectionOutputRaw (value : Bool)
  | gpiodPut
  | irqFindMatchingFwspec
  | irqFindMapping (hwirq : Nat)
  | irqDomainAllocFwnode
  | msiCreateParentIrqDomain
  | irqDomainAllocIrqs
  | irqDomainGetIrqData (irq : Int)
  | irqDomainFreeIrqs (irq : Int)
  | msiSlotsUsed
  | irqDomainRemove
  | irqDomainFreeFwnode
  | ofChangesetCreateNode (changes : Changeset)
  | ofChangesetAddProp (changes : Changeset) (name : String)
  | ofChangesetApply (changes : Changeset)
  | ofChangesetRevert (changes : Changeset)
  | ofNodeIsDetached (changes : Changeset)
  | ofDetachNode (changes : Changeset)
  | ofChangesetDestroy (changes : Changeset)
  | ofAddressToResource
  | ofPlatformDeviceCreate
  | dartDriverBound
  | dartDeviceUnregister
  | platformDriverRegister
  | platformDriverUnregister
  | platformDeviceAlloc
  | platformDeviceAdd
  | mapProbeResult
  | mapDeviceUnregister
  | pciFindBus (number : Nat)
  | rootDeviceRegister
  | rootDeviceUnregister
  | pciAllocHostBridge
  | pciFreeHostBridge
  | requestResource
  | releaseResource
  | pciScanRootBusBridge
  | pciAssignResources
  | pciWalkBus
  | iommuDomainIsDma
  | msiReservationPresent
  | barResource (bar : Nat)
  | pciAllocIrqVectors
  | pciIrqVector
  | pciFreeIrqVectors
  | pciGetSlot
  | deviceSetDriverOverride
  | pciBusAddDevice
  | deviceAttach
  | netdevIsEndpoint
  | holdLoop (seconds : Nat) (untilSignal : Bool)
  | deviceReleaseDriver
  | pciClearMaster
  | pciRemoveRootBus

/-- What each call answers: a return code, a found-or-not, a register, or nothing. -/
abbrev Answer : Call → Type
  | .acquire _ | .teardown _ | .release _ | .activateFirmware | .rejectScan | .endScan => Unit
  | .ofDeviceIsCompatible _ _ | .ofFindNodeByPath _ | .ofFindNodeByPhandle _ => Bool
  | .ofNodePhandle _ => U32
  | .ofFindDevice _ | .devDriverBound _ | .devGetRegmap _ => Bool
  | .i2cAddr _ => Nat
  | .sysconNodeToRegmap _ => Int
  | .regmapRead _ _ | .regmapReadBypassed _ _ | .regmapReadPollTimeout _ _ => Int × U32
  | .regmapWrite _ _ _ | .regmapUpdateBits _ _ _ _ => Int
  | .platformDeviceRegisterSimple _ | .ofGenpdAddDevice _ | .pmRuntimeResumeAndGet _
  | .pmRuntimePutSyncSuspend _ | .pmGenpdRemoveDevice _ => Int
  | .pmRuntimeEnable _ | .pmRuntimeDisable _ | .platformDeviceUnregister _ => Unit
  | .requestMemRegion _ | .ioremap _ => Bool
  | .releaseMemRegion _ | .iounmap _ => Unit
  | .readb _ _ => U8
  | .readw _ _ => U16
  | .readl _ _ => U32
  | .writew _ _ _ | .writel _ _ _ => Unit
  | .readlPollTimeout _ _ => Int × U32
  | .gpiodGet | .gpiodDirectionOutputRaw _ => Int
  | .gpiodPut => Unit
  | .irqFindMatchingFwspec | .irqFindMapping _ | .irqDomainAllocFwnode
  | .msiCreateParentIrqDomain => Bool
  | .irqDomainAllocIrqs => Int
  | .irqDomainGetIrqData _ => Option IrqData
  | .irqDomainFreeIrqs _ => Unit
  | .msiSlotsUsed => Nat
  | .irqDomainRemove | .irqDomainFreeFwnode => Unit
  | .ofChangesetCreateNode _ => Bool
  | .ofChangesetAddProp _ _ | .ofChangesetApply _ | .ofChangesetRevert _ | .ofDetachNode _ => Int
  | .ofNodeIsDetached _ => Bool
  | .ofChangesetDestroy _ => Unit
  | .ofAddressToResource => Int × Nat × Nat
  | .ofPlatformDeviceCreate | .dartDriverBound => Bool
  | .dartDeviceUnregister | .platformDriverUnregister | .mapDeviceUnregister => Unit
  | .platformDriverRegister | .platformDeviceAdd => Int
  | .platformDeviceAlloc => Bool
  | .mapProbeResult => Int × Bool
  | .pciFindBus _ | .pciAllocHostBridge | .pciGetSlot => Bool
  | .rootDeviceRegister | .requestResource | .releaseResource | .deviceSetDriverOverride => Int
  | .rootDeviceUnregister | .pciFreeHostBridge => Unit
  | .pciScanRootBusBridge => Int × Bool × List ConfigWrite
  | .pciAssignResources | .pciBusAddDevice | .deviceReleaseDriver | .pciClearMaster
  | .pciRemoveRootBus | .pciFreeIrqVectors => List ConfigWrite
  | .pciWalkBus => List PciDevice
  | .iommuDomainIsDma | .msiReservationPresent => Bool
  | .barResource _ => BarResource
  | .pciAllocIrqVectors | .deviceAttach => Int × List ConfigWrite
  | .pciIrqVector => Option IrqData
  | .netdevIsEndpoint => Option Bool
  | .holdLoop _ _ => Bool × List ConfigWrite

instance (c : Call) : Inhabited (Answer c) := by cases c <;> exact inferInstance

abbrev Kernel := Prog Call Answer
abbrev KernelEvent := Event Call Answer

abbrev query (c : Call) : Kernel (Answer c) := Prog.call c

/-- `if (!ret) ret = next;` -/
def andThen (ret : Int) (next : Kernel Int) : Kernel Int :=
  if ret = 0 then next else pure ret

/-- `if (needed) action;` over a value that is otherwise left as it is. -/
def onlyIf {α : Type} (needed : Bool) (unchanged : α) (action : Kernel α) : Kernel α :=
  if needed then action else pure unchanged

/-- `a && b && ..` on register reads: later reads are made only while the earlier ones hold. -/
def allOf : List (Kernel Bool) → Kernel Bool
  | [] => return true
  | test :: tests => do
    if ← test then allOf tests else return false

section Cleanup

variable {cleanup ret : Int}

theorem cleanup_carries (before : ret ≠ 0) : (if cleanup ≠ 0 then cleanup else ret) ≠ 0 := by
  split_ifs with failed
  · exact failed
  · exact before

theorem cleanup_tells (failed : cleanup ≠ 0) : (if cleanup ≠ 0 then cleanup else ret) ≠ 0 := by
  rw [if_pos failed]
  exact failed

theorem suspend_carries (before : ret ≠ 0) : (if cleanup < 0 then cleanup else ret) ≠ 0 := by
  split_ifs with failed
  · exact Int.ne_of_lt failed
  · exact before

theorem suspend_tells (failed : cleanup < 0) : (if cleanup < 0 then cleanup else ret) ≠ 0 := by
  rw [if_pos failed]
  exact Int.ne_of_lt failed

theorem mismatch_carries {wrong : Prop} [Decidable wrong] (before : ret ≠ 0) :
    (if wrong then eio else ret) ≠ 0 := by
  split_ifs
  · decide
  · exact before

theorem verdict_carries {passed : Bool} (before : ret ≠ 0) : (if passed then ret else eio) ≠ 0 := by
  split_ifs
  · exact before
  · decide

end Cleanup

section Makes

open Prog

variable {uses : Call → Prop} {α : Type}

theorem andThen_makes {ret : Int} {next : Kernel Int} (quiet : next.Makes uses) :
    (andThen ret next).Makes uses := Makes.ite (fun _ => quiet) fun _ => trivial

theorem onlyIf_yields {needed : Bool} {unchanged : α} {action : Kernel α} {result : α → Prop}
    (taken : needed = true → action.Yields uses result) (skipped : result unchanged) :
    (onlyIf needed unchanged action).Yields uses result := by
  cases needed with
  | true => exact taken rfl
  | false => exact skipped

theorem onlyIf_makes {needed : Bool} {unchanged : α} {action : Kernel α}
    (quiet : action.Makes uses) :
    (onlyIf needed unchanged action).Makes uses := Makes.ite (fun _ => quiet) fun _ => trivial

theorem allOf_makes {tests : List (Kernel Bool)} (quiet : ∀ test ∈ tests, test.Makes uses) :
    (allOf tests).Makes uses := by
  induction tests with
  | nil => trivial
  | cons test tests ih =>
    refine Makes.bind (quiet test (.head _)) fun _ => Makes.ite (fun _ => ?_) fun _ => trivial
    exact ih fun other member => quiet other (.tail _ member)

end Makes

def readlIs (window : Window) (offset : Nat) (value : U32) : Kernel Bool := do
  return (← query (.readl window offset)) = value

def readwIs (window : Window) (offset : Nat) (value : U16) : Kernel Bool := do
  return (← query (.readw window offset)) = value

/-- The machine check at the head of every stage. -/
def isJ42dT7000 : Kernel Bool := do
  if !(← query (.ofDeviceIsCompatible "/" "apple,j42d")) then return false
  query (.ofDeviceIsCompatible "/" "apple,t7000")

end WinBoot.KernelCalls
