import WinBoot.EndpointProbe
import WinBoot.ResourceLedger

/-! The resources of the kernel that the probe module takes: memory regions, mappings, devices,
drivers, interrupts and references. A register is accessed through the mapping of its window. -/

namespace WinBoot.KernelLedger
open Interaction KernelCalls ResourceLedger

inductive Resource where
  | region (start : Nat)
  | mapping (start : Nat)
  | consumer (index : Nat)
  | attached (index : Nat)
  | enabled (index : Nat)
  | resumed (index : Nat)
  | resetLine
  | fwnode
  | msiDomain
  | irq (number : Int)
  | dartDevice
  | mapDriver
  | mapDevice
  | rootDevice
  | hostBridge
  | memoryWindow
  | rootBus
  | vectors
  deriving DecidableEq

def windowStart : Window → Nat
  | .core => 0x600000000
  | .port => 0x602004000
  | .dart => 0x602002000
  | .root => 0x610008000
  | .endpoint => 0x610100000
  | .chip => 0x7c0000000

/-- The mapping that an access to the window goes through. -/
def mapped (window : Window) : Resource := .mapping (windowStart window)

def takes : KernelEvent → Option Resource
  | ⟨.requestMemRegion start, ok⟩ => if ok then some (.region start) else none
  | ⟨.ioremap start, ok⟩ => if ok then some (.mapping start) else none
  | ⟨.platformDeviceRegisterSimple index, ret⟩ => if ret = 0 then some (.consumer index) else none
  | ⟨.ofGenpdAddDevice index, ret⟩ => if ret = 0 then some (.attached index) else none
  | ⟨.pmRuntimeEnable index, _⟩ => some (.enabled index)
  | ⟨.pmRuntimeResumeAndGet index, ret⟩ => if 0 ≤ ret then some (.resumed index) else none
  | ⟨.gpiodGet, ret⟩ => if 0 ≤ ret then some .resetLine else none
  | ⟨.irqDomainAllocFwnode, ok⟩ => if ok then some .fwnode else none
  | ⟨.msiCreateParentIrqDomain, ok⟩ => if ok then some .msiDomain else none
  | ⟨.irqDomainAllocIrqs, irq⟩ => if 0 ≤ irq then some (.irq irq) else none
  | ⟨.ofPlatformDeviceCreate, ok⟩ => if ok then some .dartDevice else none
  | ⟨.platformDriverRegister, ret⟩ => if ret = 0 then some .mapDriver else none
  | ⟨.platformDeviceAdd, ret⟩ => if ret = 0 then some .mapDevice else none
  | ⟨.rootDeviceRegister, ret⟩ => if 0 ≤ ret then some .rootDevice else none
  | ⟨.pciAllocHostBridge, ok⟩ => if ok then some .hostBridge else none
  | ⟨.requestResource, ret⟩ => if ret = 0 then some .memoryWindow else none
  | ⟨.pciScanRootBusBridge, answer⟩ => if answer.2.1 then some .rootBus else none
  | ⟨.pciAllocIrqVectors, answer⟩ => if 0 ≤ answer.1 then some .vectors else none
  | _ => none

/-- A device that cannot be taken out of its power domain stays in it. -/
def gives : KernelEvent → Option Resource
  | ⟨.releaseMemRegion start, _⟩ => some (.region start)
  | ⟨.iounmap start, _⟩ => some (.mapping start)
  | ⟨.platformDeviceUnregister index, _⟩ => some (.consumer index)
  | ⟨.pmGenpdRemoveDevice index, ret⟩ => if ret = 0 then some (.attached index) else none
  | ⟨.pmRuntimeDisable index, _⟩ => some (.enabled index)
  | ⟨.pmRuntimePutSyncSuspend index, _⟩ => some (.resumed index)
  | ⟨.gpiodPut, _⟩ => some .resetLine
  | ⟨.irqDomainFreeFwnode, _⟩ => some .fwnode
  | ⟨.irqDomainRemove, _⟩ => some .msiDomain
  | ⟨.irqDomainFreeIrqs irq, _⟩ => some (.irq irq)
  | ⟨.dartDeviceUnregister, _⟩ => some .dartDevice
  | ⟨.platformDriverUnregister, _⟩ => some .mapDriver
  | ⟨.mapDeviceUnregister, _⟩ => some .mapDevice
  | ⟨.rootDeviceUnregister, _⟩ => some .rootDevice
  | ⟨.pciFreeHostBridge, _⟩ => some .hostBridge
  | ⟨.releaseResource, _⟩ => some .memoryWindow
  | ⟨.pciRemoveRootBus, _⟩ => some .rootBus
  | ⟨.pciFreeIrqVectors, _⟩ => some .vectors
  | _ => none

def needs : Call → List Resource
  | .readb window _ | .readw window _ | .readl window _ | .writew window _ _
  | .writel window _ _ | .readlPollTimeout window _ => [mapped window]
  | .ofGenpdAddDevice index | .pmGenpdRemoveDevice index => [.consumer index]
  | .pmRuntimeEnable index | .pmRuntimeDisable index => [.attached index]
  | .pmRuntimeResumeAndGet index | .pmRuntimePutSyncSuspend index => [.enabled index]
  | .gpiodDirectionOutputRaw _ => [.resetLine]
  | .msiCreateParentIrqDomain | .irqDomainRemove => [.fwnode]
  | .irqDomainAllocIrqs | .irqDomainGetIrqData _ | .irqDomainFreeIrqs _ => [.msiDomain]
  | .dartDriverBound | .platformDriverRegister | .platformDriverUnregister => [.dartDevice]
  | .platformDeviceAlloc | .platformDeviceAdd => [.mapDriver]
  | .mapProbeResult | .mapDeviceUnregister => [.dartDevice, .mapDriver]
  | .pciAllocHostBridge | .pciFreeHostBridge => [.rootDevice]
  | .requestResource | .pciScanRootBusBridge | .pciRemoveRootBus => [.hostBridge]
  | .pciAssignResources | .pciWalkBus | .pciGetSlot | .pciAllocIrqVectors | .pciFreeIrqVectors
  | .deviceSetDriverOverride | .pciBusAddDevice | .deviceAttach | .deviceReleaseDriver
  | .pciClearMaster => [.rootBus]
  | .pciIrqVector => [.rootBus, .vectors]
  | .holdLoop .. => [.rootBus, mapped .dart]
  | _ => []

/-- A region is not given back while it is mapped, nor a device or driver while it is in use. -/
def bars : Call → List Resource
  | .releaseMemRegion start => [.mapping start]
  | .platformDeviceUnregister index => [.attached index, .enabled index, .resumed index]
  | .pmGenpdRemoveDevice index => [.enabled index, .resumed index]
  | .irqDomainFreeFwnode => [.msiDomain]
  | .platformDriverUnregister => [.mapDevice]
  | .dartDeviceUnregister => [.mapDriver, .rootBus]
  | .pciFreeHostBridge => [.rootBus]
  | .rootDeviceUnregister => [.hostBridge]
  | _ => []

/-- A new interrupt has a number other than zero that is not in use, and a bridge that was scanned
has its bus. -/
def honest (held : Holding Resource) : KernelEvent → Prop
  | ⟨.irqDomainAllocIrqs, irq⟩ => irq ≠ 0 ∧ held (.irq irq) = false
  | ⟨.pciScanRootBusBridge, answer⟩ => answer.1 = 0 → answer.2.1 = true
  | _ => True

def honestly (held : Holding Resource) : KernelEvent → Bool
  | ⟨.irqDomainAllocIrqs, irq⟩ => irq ≠ 0 && !held (.irq irq)
  | ⟨.pciScanRootBusBridge, answer⟩ => answer.1 ≠ 0 || answer.2.1
  | _ => true

theorem honestly_iff {held : Holding Resource} {e : KernelEvent} :
    honestly held e = true ↔ honest held e := by
  obtain ⟨c, r⟩ := e
  cases c with
  | irqDomainAllocIrqs => simp [honestly, honest]
  | pciScanRootBusBridge => simp [honestly, honest, imp_iff_not_or]
  | _ => exact iff_of_true rfl trivial

def accounts : Accounts Call Answer Resource := ⟨takes, gives, needs, bars, honest⟩

instance (held : Holding Resource) (e : KernelEvent) : Decidable (accounts.honest held e) :=
  decidable_of_iff (honestly held e = true) honestly_iff

/-- The calls that may hand something out or take it back. -/
def moving : Call → Bool
  | .requestMemRegion _ | .releaseMemRegion _ | .ioremap _ | .iounmap _
  | .platformDeviceRegisterSimple _ | .platformDeviceUnregister _ | .ofGenpdAddDevice _
  | .pmGenpdRemoveDevice _ | .pmRuntimeEnable _ | .pmRuntimeDisable _
  | .pmRuntimeResumeAndGet _ | .pmRuntimePutSyncSuspend _ | .gpiodGet | .gpiodPut
  | .irqDomainAllocFwnode | .irqDomainFreeFwnode | .msiCreateParentIrqDomain | .irqDomainRemove
  | .irqDomainAllocIrqs | .irqDomainFreeIrqs _ | .ofPlatformDeviceCreate | .dartDeviceUnregister
  | .platformDriverRegister | .platformDriverUnregister | .platformDeviceAdd
  | .mapDeviceUnregister | .rootDeviceRegister | .rootDeviceUnregister | .pciAllocHostBridge
  | .pciFreeHostBridge | .requestResource | .releaseResource | .pciScanRootBusBridge
  | .pciRemoveRootBus | .pciAllocIrqVectors | .pciFreeIrqVectors => true
  | _ => false

/-- A call that moves nothing, and gets by on `owned`. -/
def still (owned : List Resource) (c : Call) : Bool :=
  !moving c && (needs c).all (owned.contains ·)

theorem quiet_of_still {owned : List Resource} {c : Call} (quiet : still owned c = true) :
    accounts.Quiet owned c := by
  obtain ⟨unmoved, enough⟩ := Bool.and_eq_true_iff.mp quiet
  refine ⟨?_, ?_, fun k need => ?_, ?_⟩
  · cases c <;> first | exact fun _ => rfl | cases unmoved
  · cases c <;> first | exact fun _ => rfl | cases unmoved
  · simpa using List.all_eq_true.mp enough k need
  · cases c <;> first | rfl | cases unmoved

theorem still_weaken {owned owned' : List Resource} {c : Call} (more : owned ⊆ owned')
    (quiet : still owned c = true) : still owned' c = true := by
  simp only [still, Bool.and_eq_true, List.all_eq_true, List.contains_iff_mem] at quiet ⊢
  exact ⟨quiet.1, fun k need => more (quiet.2 k need)⟩

theorem still_bare {owned : List Resource} {c : Call} (quiet : still [] c = true) :
    still owned c = true := still_weaken (List.nil_subset _) quiet

/-- The program makes only calls that move nothing and get by on `owned`. -/
abbrev Still {α : Type} (owned : List Resource) (p : Kernel α) : Prop :=
  p.Makes fun c => still owned c = true

theorem Still.weaken {α : Type} {owned owned' : List Resource} {p : Kernel α}
    (more : owned ⊆ owned')
    (quiet : Still owned p) : Still owned' p :=
  quiet.mono (fun _ => still_weaken more) fun _ _ => trivial

/-- The program ends with what was held, having given back `owned`. -/
abbrev Kept {α : Type} (owned needs frees : List Resource) (p : Kernel α) : Prop :=
  Settles accounts owned needs frees p

section Rules

variable {α β : Type} {owned needs frees : List Resource} {left : α → List Resource → Prop}
  {c : Call}

theorem leaves_call {f : Answer c → Kernel α} (quiet : still (owned ++ needs) c = true)
    (rest : ∀ r, Leaves accounts owned needs frees left (f r)) :
    Leaves accounts owned needs frees left (query c >>= f) :=
  Leaves.quiet (quiet_of_still quiet) rest

theorem leaves_still {owned' : List Resource} {p : Kernel β} {f : β → Kernel α}
    (quiet : Still owned' p) (enough : owned' ⊆ owned ++ needs)
    (rest : ∀ b, Leaves accounts owned needs frees left (f b)) :
    Leaves accounts owned needs frees left (p >>= f) :=
  Leaves.quietly (quiet.mono (fun _ still => quiet_of_still (still_weaken enough still))
    fun _ _ => trivial) rest

theorem Kept.of_still {p : Kernel α} (quiet : Still needs p) : Kept [] needs frees p :=
  Settles.quietly (quiet.mono (fun _ => quiet_of_still) fun _ _ => trivial)

theorem Kept.onlyIf {needed : Bool} {unchanged : α} {p : Kernel α}
    (taken : needed = true → Kept [] needs frees p) :
    Kept [] needs frees (onlyIf needed unchanged p) := by
  cases needed with
  | true => exact taken rfl
  | false => exact Leaves.done rfl

theorem Kept.andThen {ret : Int} {next : Kernel Int} (kept : Kept [] needs frees next) :
    Kept [] needs frees (andThen ret next) :=
  Leaves.ite (fun _ => kept) fun _ => Leaves.done rfl

end Rules

end WinBoot.KernelLedger
