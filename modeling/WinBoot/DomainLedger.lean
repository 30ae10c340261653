import Mathlib.Logic.Function.Basic
import WinBoot.Callback
import WinBoot.PowerDomains

/-! The three power domains seen from their calls: a ledger for each of what was acquired and not
yet undone, and what the release owes it. The observer is a callback with calls of its own. -/

namespace WinBoot.DomainLedger
open Interaction KernelCalls PowerDomains

/-- A domain's AUTO bit: as it was found, suppressed over its saved value, or written back. -/
inductive Auto where
  | found
  | suppressed (saved : U32)
  | writtenBack
deriving DecidableEq

structure Ledger where
  value : U32
  registered : Bool
  attached : Bool
  resumed : Bool
  active : Bool
  auto : Auto
  /-- The consumer could not be detached. -/
  stuck : Bool
  /-- The last thing known of the domain is a read without any bit of `offMask`. -/
  off : Bool

def Ledger.fresh : Ledger := ⟨0, false, false, false, false, .found, false, false⟩

def Auto.isSuppressed : Auto → Bool
  | .suppressed _ => true
  | _ => false

/-- What a register update may write: nothing while AUTO is as found and the domain resumed, and the
saved value once AUTO was suppressed. -/
def Auto.permits (resumed : Bool) (value : U32) : Auto → Prop
  | .found => resumed = true ∧ value = 0
  | .suppressed saved => value = saved
  | .writtenBack => False

/-- Each call on a domain is made where its effect is due: nothing is acquired twice, and nothing is
undone that was not acquired or was undone already. -/
def Ledger.permits (ledger : Ledger) : Call → Prop
  | .platformDeviceRegisterSimple _ => ledger.registered = false
  | .ofGenpdAddDevice _ => ledger.registered = true ∧ ledger.attached = false
  | .pmRuntimeEnable _ => ledger.attached = true
  | .pmRuntimeResumeAndGet _ => ledger.attached = true ∧ ledger.resumed = false
  | .regmapUpdateBits _ _ mask value => mask = autoMask ∧ ledger.auto.permits ledger.resumed value
  | .pmRuntimePutSyncSuspend _ => ledger.resumed = true ∧ ledger.auto.isSuppressed = false
  | .pmRuntimeDisable _ | .pmGenpdRemoveDevice _ => ledger.attached = true ∧ ledger.resumed = false
  | .platformDeviceUnregister _ =>
    ledger.registered = true ∧ ledger.attached = false ∧ ledger.stuck = false
  | _ => True

def Auto.update (value : U32) : Auto → Auto
  | .found => .suppressed (value &&& autoBit)
  | _ => .writtenBack

def Ledger.next (ledger : Ledger) : KernelEvent → Ledger
  | ⟨.regmapRead _ _, ret, value⟩ =>
    if ret = 0 then { ledger with value := value, off := value &&& offMask = 0 }
    else { ledger with off := false }
  | ⟨.platformDeviceRegisterSimple _, ret⟩ => { ledger with registered := decide ((ret : Int) = 0) }
  | ⟨.ofGenpdAddDevice _, ret⟩ => { ledger with attached := decide ((ret : Int) = 0) }
  | ⟨.pmRuntimeResumeAndGet _, ret⟩ =>
    { ledger with resumed := decide (0 ≤ (ret : Int)), off := false }
  | ⟨.regmapUpdateBits _ _ _ _, _⟩ =>
    { ledger with auto := ledger.auto.update ledger.value, off := false }
  | ⟨.regmapReadPollTimeout _ _, ret, _⟩ => { ledger with active := ret = 0 }
  | ⟨.pmRuntimePutSyncSuspend _, _⟩ =>
      { ledger with resumed := false, active := false, off := false }
  | ⟨.pmGenpdRemoveDevice _, ret⟩ =>
    { ledger with attached := false, stuck := decide ((ret : Int) ≠ 0) }
  | ⟨.platformDeviceUnregister _, _⟩ => { ledger with registered := false }
  | _ => ledger

/-- The domain whose register is at `offset`. -/
def domainAt (offset : Nat) : Option Nat :=
  (domainTable.find? (·.offset = offset)).map (·.index)

/-- The domain that a call is about. -/
def concerns : Call → Option Nat
  | .regmapRead .pmgr reg | .regmapUpdateBits .pmgr reg _ _ | .regmapReadPollTimeout .pmgr reg =>
    domainAt reg
  | .platformDeviceRegisterSimple index | .ofGenpdAddDevice index | .pmRuntimeEnable index
  | .pmRuntimeResumeAndGet index | .pmRuntimePutSyncSuspend index | .pmRuntimeDisable index
  | .pmGenpdRemoveDevice index | .platformDeviceUnregister index => some index
  | _ => none

/-- A call that did not do what was asked. -/
def failing : KernelEvent → Bool
  | ⟨.ofFindNodeByPath _, found⟩ | ⟨.ofDeviceIsCompatible _ _, found⟩ => !found
  | ⟨.sysconNodeToRegmap _, ret⟩ | ⟨.pmRuntimeResumeAndGet _, ret⟩
  | ⟨.pmRuntimePutSyncSuspend _, ret⟩ => decide ((ret : Int) < 0)
  | ⟨.regmapRead _ _, ret, _⟩ | ⟨.regmapReadPollTimeout _ _, ret, _⟩ => ret ≠ 0
  | ⟨.platformDeviceRegisterSimple _, ret⟩ | ⟨.ofGenpdAddDevice _, ret⟩
  | ⟨.regmapUpdateBits _ _ _ _, ret⟩ | ⟨.pmGenpdRemoveDevice _, ret⟩ => decide ((ret : Int) ≠ 0)
  | _ => false

structure Books where
  ledger : Nat → Ledger
  failed : Bool

def Books.start : Books := ⟨fun _ => .fresh, false⟩

def Books.next (books : Books) (event : KernelEvent) : Books where
  ledger := match concerns event.1 with
    | some index => Function.update books.ledger index ((books.ledger index).next event)
    | none => books.ledger
  failed := books.failed || failing event

def books : Monitor Call Answer Books where
  admits _ _ := True
  allows books event := ∀ index, concerns event.1 = some index →
    (books.ledger index).permits event.1
  next := Books.next

/-- Nothing is left to undo but the registration of a consumer that could not be detached. -/
structure Released (ledger : Ledger) : Prop where
  suspended : ledger.resumed = false
  detached : ledger.attached = false
  unregistered : ledger.registered = ledger.stuck
  restored : ledger.auto.isSuppressed = false

/-- All three domains are resumed, and polled active where that is asked for. -/
def Powered (forceActive : Bool) (books : Books) : Prop :=
  ∀ domain ∈ domainTable, (books.ledger domain.index).resumed = true ∧
    (forceActive = true → (books.ledger domain.index).active = true)

end WinBoot.DomainLedger
