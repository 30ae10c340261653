import WinBoot.ConfigSpace
import WinBoot.PciScan

/-! The two configuration spaces as storage. Volatile bits, the write-one-to-clear and command
bits of a device, answer a write in a way of their own; every other bit keeps what is stored. -/

namespace WinBoot.ConfigStorage
open Interaction KernelCalls PciScan ConfigSpace

/-- The window and the store of a call that writes device registers. -/
def storeOf : Call → Option (Window × Store)
  | .writew window offset value => some (window, ⟨offset, 2, value.setWidth 32⟩)
  | .writel window offset value => some (window, ⟨offset, 4, value⟩)
  | _ => none

abbrev Content := Window → Bits

/-- How a volatile bit changes, from its old value and the one written. -/
abbrev Settle := Window → Nat → Bool → Bool → Bool

def applyStore (volatile : Window → Nat → Bool) (settle : Settle) (content : Content)
    (target : Window) (store : Store) : Content := fun window bit =>
  if window = target ∧ store.Covers bit then
    if volatile window bit then settle window bit (content window bit) (store.bit bit)
    else store.bit bit
  else content window bit

/-- A read of configuration space answers what is stored there. -/
def Answers (content : Content) : KernelEvent → Prop
  | ⟨.readb window offset, value⟩ => isConfig window = true → value = load (content window) offset 1
  | ⟨.readw window offset, value⟩ => isConfig window = true → value = load (content window) offset 2
  | ⟨.readl window offset, value⟩ => isConfig window = true → value = load (content window) offset 4
  | _ => True

/-- The environment that answers reads of configuration space from what was stored before. -/
def storage (volatile : Window → Nat → Bool) (settle : Settle) : Monitor Call Answer Content where
  admits := Answers
  allows _ _ := True
  next content event := match storeOf event.1 with
    | some (window, store) => applyStore volatile settle content window store
    | none => content

/-- The answers to reads of a device that nobody writes. -/
def readAnswer (content : Content) : (c : Call) → Answer c
  | .readb window offset => load (content window) offset 1
  | .readw window offset => load (content window) offset 2
  | .readl window offset => load (content window) offset 4
  | _ => default

/-- Run a program against a device that nobody else writes. -/
def execOn {α : Type} (content : Content) (p : Kernel α) : List KernelEvent × α :=
  Prog.exec (fun _ => readAnswer content) [] p

/-- Configuration spaces given by their nonzero dwords. -/
def wordsContent (words : Window → List (Nat × U32)) : Content := fun window bit =>
  (((words window).lookup (bit / 32 * 4)).getD 0).getLsbD (bit % 32)

/-- A root port and an endpoint with the endpoint's PCIe capability at `exp`. -/
def sampleDevice (exp : Nat) : Content := wordsContent fun
  | .root => [(0x00, 0x1002106b), (0x18, 0x00010100), (0x34, 0x40), (0x40, 0x5001), (0x50, 0x10),
      (0x100, 0x1001e)]
  | .endpoint => [(0x00, 0x43a314e4), (0x34, 0x48), (0x48, 0x5801),
      (0x58, 0x00800005 + BitVec.ofNat 32 (0x100 * exp)), (exp, 0x10), (0x100, 0x1001e)]
  | _ => []

end WinBoot.ConfigStorage
