import Mathlib.Algebra.Order.Ring.Nat
import WinBoot.MsiDomain

/-! The slots of the MSI domain: a word of eight bits in use, the vectors that hold them, and the
domain's alloc and free over any sequence of calls. The bitmap routines and the parent domain are
the kernel's and enter through what they document. -/

namespace WinBoot.MsiAllocator
open KernelCalls MsiDomain

abbrev Word : Type := BitVec 64

/-- Whether the bits from `slot` on, `count` of them, are all clear. -/
def Clear (used : Word) (slot count : Nat) : Prop :=
  ∀ i < count, used.getLsbD (slot + i) = false

/-- The kernel's part. A region found is aligned to its size, within the first `bits` bits and
clear, and is set; none is found only if there is none. A region released is cleared. The parent
domain gives consecutive indices from the one it is asked for. -/
structure Services where
  findFreeRegion : Word → Nat → Nat → Int × Word
  releaseRegion : Word → Nat → Nat → Word
  parentIndex : Nat → Nat → Nat
  found {used : Word} {bits order : Nat} (short : bits ≤ 64) (ok : 0 ≤ (findFreeRegion used bits order).1) :
    ∃ slot : Nat, (findFreeRegion used bits order).1 = slot ∧ 2 ^ order ∣ slot ∧
      slot + 2 ^ order ≤ bits ∧ Clear used slot (2 ^ order) ∧
      ∀ b, (findFreeRegion used bits order).2.getLsbD b =
        (used.getLsbD b || decide (slot ≤ b ∧ b < slot + 2 ^ order))
  full {used : Word} {bits order : Nat} (short : bits ≤ 64) (none : (findFreeRegion used bits order).1 < 0) :
    (findFreeRegion used bits order).2 = used ∧
      ∀ slot, 2 ^ order ∣ slot → slot + 2 ^ order ≤ bits → ¬Clear used slot (2 ^ order)
  released (used : Word) (slot order b : Nat) : (releaseRegion used slot order).getLsbD b =
    (used.getLsbD b && decide (¬(slot ≤ b ∧ b < slot + 2 ^ order)))
  consecutive (index i : Nat) : parentIndex index i = index + i

structure IrqData where
  hwirq : Nat
  parentIndex : Nat
deriving DecidableEq

structure Msi where
  used : Word
  irqs : Nat → Option IrqData

def Msi.start : Msi := ⟨0, fun _ => none⟩

def isPowerOf2 (n : Nat) : Bool := n ≠ 0 ∧ n &&& (n - 1) = 0

def orderBase2 (n : Nat) : Nat := Nat.log2 n

/-- The vectors of an allocation get their hardware numbers and the domain's chip. -/
def setVectors (services : Services) (virq slot count : Nat) (irqs : Nat → Option IrqData) :
    Nat → Option IrqData := fun v =>
  if virq ≤ v ∧ v < virq + count then
    some ⟨8 + slot + (v - virq), services.parentIndex (232 + slot) (v - virq)⟩
  else irqs v

/-- `parent` is what the parent domain's allocation returns. -/
def msiAlloc (services : Services) (msi : Msi) (virq count : Nat) (parent : Int) : Int × Msi :=
  if count = 0 ∨ 8 < count ∨ !isPowerOf2 count then (einval, msi)
  else
    let (slot, used) := services.findFreeRegion msi.used 8 (orderBase2 count)
    if slot < 0 then (slot, { msi with used })
    else if parent ≠ 0 then
      (parent, { msi with used := services.releaseRegion used slot.toNat (orderBase2 count) })
    else (0, ⟨used, setVectors services virq slot.toNat count msi.irqs⟩)

def clearBit (n : Nat) (used : Word) : Word := used &&& ~~~(1#64 <<< n)

def clearSlots (irqs : Nat → Option IrqData) (virq : Nat) : Nat → Word → Word
  | 0, used => used
  | count + 1, used =>
    let used := clearSlots irqs virq count used
    match irqs (virq + count) with
    | some data => clearBit (data.hwirq - 8) used
    | none => used

def msiFree (msi : Msi) (virq count : Nat) : Msi where
  used := clearSlots msi.irqs virq count msi.used
  irqs v := if virq ≤ v ∧ v < virq + count then none else msi.irqs v

/-! ### Runs -/

/-- Interrupt numbers handed to the domain are not in use, and only vectors in use are freed. -/
inductive Operation where
  | alloc (virq count : Nat) (parent : Int)
  | free (virq count : Nat)

def Operation.Allowed (msi : Msi) : Operation → Prop
  | .alloc virq count _ => ∀ v, virq ≤ v → v < virq + count → msi.irqs v = none
  | .free virq count => ∀ v, virq ≤ v → v < virq + count → msi.irqs v ≠ none

def Operation.apply (services : Services) (msi : Msi) : Operation → Msi
  | .alloc virq count parent => (msiAlloc services msi virq count parent).2
  | .free virq count => msiFree msi virq count

inductive Run (services : Services) : Msi → Prop where
  | start : Run services .start
  | step {msi : Msi} (run : Run services msi) (next : Operation) (allowed : next.Allowed msi) :
      Run services (next.apply services msi)

/-- The set bits are the slots of the vectors in use, each vector has its own, and its number,
message and parent index are those of its slot. -/
structure Accounted (msi : Msi) : Prop where
  bits : ∀ slot, msi.used.getLsbD slot ↔ ∃ virq data, msi.irqs virq = some data ∧
    data.hwirq = 8 + slot
  distinct : ∀ {v w data other}, msi.irqs v = some data → msi.irqs w = some other →
    data.hwirq = other.hwirq → v = w
  slots : ∀ {virq data}, msi.irqs virq = some data → ∃ slot < 8, data.hwirq = 8 + slot ∧
    (msiCompose data.hwirq).data = 8 + slot ∧ data.parentIndex = 232 + slot

theorem start_accounted : Accounted .start := by
  refine ⟨fun slot => ?_, fun here => ?_, fun here => ?_⟩
  · simp [Msi.start]
  · cases here
  · cases here

/-! ### Allocation -/

/-- The counts the domain serves are the powers of two up to eight. -/
def Admissible (count : Nat) : Prop := ¬(count = 0 ∨ 8 < count ∨ !isPowerOf2 count)

theorem Admissible.order {count : Nat} (ok : Admissible count) : 2 ^ orderBase2 count = count := by
  have powers : ∀ count ≤ 8, isPowerOf2 count → 2 ^ orderBase2 count = count := by decide +kernel
  rw [Admissible, not_or, not_or, Bool.not_eq_true', Bool.not_eq_false] at ok
  exact powers count (by omega) ok.2.2

/-- The state after an allocation of `count` vectors at `slot`. -/
structure Allocated (msi : Msi) (virq slot count : Nat) (next : Msi) : Prop where
  aligned : count ∣ slot
  inside : slot + count ≤ 8
  clear : Clear msi.used slot count
  used : ∀ b, next.used.getLsbD b =
    (msi.used.getLsbD b || decide (slot ≤ b ∧ b < slot + count))
  taken : ∀ i < count, next.irqs (virq + i) = some ⟨8 + slot + i, 232 + slot + i⟩
  others : ∀ v, ¬(virq ≤ v ∧ v < virq + count) → next.irqs v = msi.irqs v

section

variable (services : Services) (msi : Msi) (virq count : Nat) (parent : Int)

/-- An allocation is rejected for its count, finds no clear region, is undone because the parent
failed, or succeeds. -/
theorem msiAlloc_cases :
    (¬Admissible count ∧ msiAlloc services msi virq count parent = (einval, msi)) ∨
    (Admissible count ∧ (msiAlloc services msi virq count parent).1 < 0 ∧
      (msiAlloc services msi virq count parent).2 = msi ∧
      ∀ slot, count ∣ slot → slot + count ≤ 8 → ¬Clear msi.used slot count) ∨
    (parent ≠ 0 ∧ msiAlloc services msi virq count parent = (parent, msi)) ∨
    (parent = 0 ∧ (msiAlloc services msi virq count parent).1 = 0 ∧
      ∃ slot, Allocated msi virq slot count (msiAlloc services msi virq count parent).2) := by
  by_cases ok : Admissible count
  · have order := ok.order
    rw [msiAlloc, if_neg ok]
    by_cases none : (services.findFreeRegion msi.used 8 (orderBase2 count)).1 < 0
    · obtain ⟨unchanged, full⟩ := services.full (by decide) none
      rw [order] at full
      refine .inr (.inl ⟨ok, ?_, ?_, full⟩)
      · simpa only [if_pos none] using none
      · simp only [if_pos none, unchanged]
    · obtain ⟨slot, found, aligned, inside, clear, bits⟩ := services.found (by decide)
        (Int.not_lt.mp none)
      rw [order] at aligned inside clear bits
      simp only [if_neg none]
      by_cases failed : parent ≠ 0
      · refine .inr (.inr (.inl ⟨failed, ?_⟩))
        have back : services.releaseRegion
            (services.findFreeRegion msi.used 8 (orderBase2 count)).2
            (services.findFreeRegion msi.used 8 (orderBase2 count)).1.toNat (orderBase2 count) =
              msi.used := by
          refine BitVec.eq_of_getLsbD_eq fun b _ => ?_
          rw [services.released, bits, found, Int.toNat_natCast, order]
          by_cases within : slot ≤ b ∧ b < slot + count
          · have zero := clear (b - slot) (by omega)
            rw [show slot + (b - slot) = b by omega] at zero
            simp [within, zero]
          · simp [within]
        rw [if_pos failed, back]
      · refine .inr (.inr (.inr ⟨not_not.mp failed, ?_, slot, ?_⟩))
        · rw [if_neg failed]
        · rw [if_neg failed, found, Int.toNat_natCast]
          exact
            { aligned := aligned, inside := inside, clear := clear, used := bits
              taken := fun i small => by
                simp only [setVectors, services.consecutive, Nat.add_sub_cancel_left]
                exact if_pos (by omega)
              others := fun v outside => if_neg outside }
  · exact .inl ⟨ok, if_pos (not_not.mp ok)⟩

end

theorem Allocated.accounted {msi next : Msi} {virq slot count : Nat}
    (allocated : Allocated msi virq slot count next) (accounted : Accounted msi)
    (fresh : ∀ v, virq ≤ v → v < virq + count → msi.irqs v = none) : Accounted next := by
  have inside := allocated.inside
  -- a vector in use afterwards is one of the new ones or was in use before, off the new slots
  have origin : ∀ {v data}, next.irqs v = some data →
      (∃ i < count, v = virq + i ∧ data = ⟨8 + slot + i, 232 + slot + i⟩) ∨
      (msi.irqs v = some data ∧ ∀ i < count, data.hwirq ≠ 8 + slot + i) := by
    intro v data here
    by_cases new : virq ≤ v ∧ v < virq + count
    · have taken := allocated.taken (v - virq) (by omega)
      rw [show virq + (v - virq) = v by omega, here, Option.some.injEq] at taken
      exact .inl ⟨v - virq, by omega, by omega, taken⟩
    · rw [allocated.others v new] at here
      refine .inr ⟨here, fun i small same => ?_⟩
      have used := (accounted.bits (slot + i)).mpr ⟨v, data, here, by omega⟩
      rw [allocated.clear i small] at used
      cases used
  refine ⟨fun b => ?_, ?_, ?_⟩
  · rw [allocated.used b, Bool.or_eq_true, decide_eq_true_eq, accounted.bits b]
    constructor
    · rintro (⟨v, data, here, number⟩ | range)
      · by_cases new : virq ≤ v ∧ v < virq + count
        · rw [fresh v new.1 new.2] at here
          cases here
        · exact ⟨v, data, by rw [allocated.others v new, here], number⟩
      · exact ⟨virq + (b - slot), _, allocated.taken (b - slot) (by omega), by simp only; omega⟩
    · rintro ⟨v, data, here, number⟩
      rcases origin here with ⟨i, small, -, rfl⟩ | ⟨old, -⟩
      · exact .inr ⟨by simp only at number; omega, by simp only at number; omega⟩
      · exact .inl ⟨v, data, old, number⟩
  · intro v w data other here there same
    rcases origin here with ⟨i, small, rfl, rfl⟩ | ⟨old, apart⟩
    · rcases origin there with ⟨j, little, rfl, rfl⟩ | ⟨older, apart⟩
      · simp only at same
        omega
      · exact absurd same.symm (apart i small)
    · rcases origin there with ⟨j, little, rfl, rfl⟩ | ⟨older, -⟩
      · exact absurd same (apart j little)
      · exact accounted.distinct old older same
  · intro v data here
    rcases origin here with ⟨i, small, -, rfl⟩ | ⟨old, -⟩
    · exact ⟨slot + i, by omega, by simp only; omega, by simp only [msiCompose]; omega,
        by simp only; omega⟩
    · exact accounted.slots old

/-! ### Release -/

theorem clearBit_getLsbD (n : Nat) (used : Word) (b : Nat) :
    (clearBit n used).getLsbD b = (used.getLsbD b && decide (b ≠ n)) := by
  by_cases inside : b < 64
  · by_cases same : b = n
    · subst same
      simp [clearBit, inside]
    · have apart : b < n ∨ ¬b - n = 0 := by omega
      simp [clearBit, inside, same, apart]
  · simp [BitVec.getLsbD_of_ge _ _ (Nat.le_of_not_lt inside)]

theorem clearSlots_getLsbD (irqs : Nat → Option IrqData) (virq count : Nat) (used : Word)
    (b : Nat) :
    (clearSlots irqs virq count used).getLsbD b ↔ used.getLsbD b ∧
      ∀ i < count, ∀ data, irqs (virq + i) = some data → b ≠ data.hwirq - 8 := by
  induction count with
  | zero => simp [clearSlots]
  | succ count ih =>
    have split : (∀ i < count + 1, ∀ data, irqs (virq + i) = some data → b ≠ data.hwirq - 8) ↔
        (∀ i < count, ∀ data, irqs (virq + i) = some data → b ≠ data.hwirq - 8) ∧
          ∀ data, irqs (virq + count) = some data → b ≠ data.hwirq - 8 := by
      simp only [Nat.lt_succ_iff_lt_or_eq, or_imp, forall_and, forall_eq]
    rw [split, ← and_assoc, ← ih, clearSlots]
    cases here : irqs (virq + count) with
    | none => simp
    | some data => simp [clearBit_getLsbD]

theorem msiFree_accounted {msi : Msi} {virq count : Nat} (accounted : Accounted msi) :
    Accounted (msiFree msi virq count) := by
  have kept : ∀ {v data}, (msiFree msi virq count).irqs v = some data →
      msi.irqs v = some data ∧ ¬(virq ≤ v ∧ v < virq + count) := by
    intro v data here
    by_cases freed : virq ≤ v ∧ v < virq + count
    · simp only [msiFree, if_pos freed] at here
      cases here
    · simp only [msiFree, if_neg freed] at here
      exact ⟨here, freed⟩
  refine ⟨fun b => ?_, ?_, fun here => accounted.slots (kept here).1⟩
  · have bits : (msiFree msi virq count).used.getLsbD b ↔ msi.used.getLsbD b ∧
        ∀ i < count, ∀ data, msi.irqs (virq + i) = some data → b ≠ data.hwirq - 8 :=
      clearSlots_getLsbD ..
    rw [bits, accounted.bits b]
    constructor
    · rintro ⟨⟨v, data, here, number⟩, outside⟩
      have stays : ¬(virq ≤ v ∧ v < virq + count) := by
        intro freed
        have other := outside (v - virq) (by omega) data (by
          rw [show virq + (v - virq) = v by omega]
          exact here)
        omega
      exact ⟨v, data, by simp only [msiFree, if_neg stays, here], number⟩
    · rintro ⟨v, data, here, number⟩
      obtain ⟨old, stays⟩ := kept here
      refine ⟨⟨v, data, old, number⟩, fun i small other there same => ?_⟩
      obtain ⟨slot, -, place, -⟩ := accounted.slots there
      have same_vector := accounted.distinct old there (by omega)
      exact stays (by omega)
  · intro v w data other here there same
    exact accounted.distinct (kept here).1 (kept there).1 same

/-! ### Whole runs -/

variable {services : Services}

theorem step_accounted {msi : Msi} (accounted : Accounted msi) (next : Operation)
    (allowed : next.Allowed msi) : Accounted (next.apply services msi) := by
  cases next with
  | alloc virq count parent =>
    change Accounted (msiAlloc services msi virq count parent).2
    rcases msiAlloc_cases services msi virq count parent with
      ⟨-, same⟩ | ⟨-, -, same, -⟩ | ⟨-, same⟩ | ⟨-, -, slot, allocated⟩
    · rwa [same]
    · rwa [same]
    · rwa [same]
    · exact allocated.accounted accounted allowed
  | free virq count => exact msiFree_accounted accounted

theorem run_accounted {msi : Msi} (run : Run services msi) : Accounted msi := by
  induction run with
  | start => exact start_accounted
  | step _ next allowed ih => exact step_accounted ih next allowed

/-- What holds after any sequence of calls, and of any further allocation. -/
theorem msi_slots {msi : Msi} (run : Run services msi) :
    Accounted msi ∧
    (∀ virq count parent,
      ((msiAlloc services msi virq count parent).1 ≠ 0 →
        (msiAlloc services msi virq count parent).2 = msi) ∧
      ((msiAlloc services msi virq count parent).1 = 0 →
        ∃ slot, Allocated msi virq slot count (msiAlloc services msi virq count parent).2) ∧
      (Admissible count → (msiAlloc services msi virq count parent).1 ≠ 0 →
        (parent ≠ 0 ∧ (msiAlloc services msi virq count parent).1 = parent) ∨
          ∀ slot, count ∣ slot → slot + count ≤ 8 → ¬Clear msi.used slot count)) ∧
    ((∀ virq, msi.irqs virq = none) → msi.used = 0) := by
  have accounted := run_accounted run
  refine ⟨accounted, fun virq count parent => ?_, fun empty => ?_⟩
  · have nonzero : einval ≠ 0 := by decide
    rcases msiAlloc_cases services msi virq count parent with
      ⟨wrong, same⟩ | ⟨-, negative, same, full⟩ | ⟨failed, same⟩ | ⟨-, zero, allocated⟩
    · rw [same]
      exact ⟨fun _ => rfl, fun zero => absurd zero nonzero, fun right => absurd right wrong⟩
    · refine ⟨fun _ => same, fun zero => ?_, fun _ _ => .inr full⟩
      omega
    · rw [same]
      exact ⟨fun _ => rfl, fun zero => absurd zero failed, fun _ _ => .inl ⟨failed, rfl⟩⟩
    · exact ⟨fun wrong => absurd zero wrong, fun _ => allocated,
        fun _ wrong => absurd zero wrong⟩
  · refine BitVec.eq_of_getLsbD_eq fun b _ => ?_
    rw [show (0 : Word) = 0#64 from rfl, BitVec.getLsbD_zero, Bool.eq_false_iff]
    intro set
    obtain ⟨virq, data, here, -⟩ := (accounted.bits b).mp set
    rw [empty] at here
    cases here

/-! ### First fit -/

def regionMask (slot order : Nat) : Word := (BitVec.allOnes (2 ^ order)).setWidth 64 <<< slot

theorem regionMask_getLsbD (slot order b : Nat) : (regionMask slot order).getLsbD b =
    (decide (b < 64) && decide (slot ≤ b ∧ b < slot + 2 ^ order)) := by
  by_cases inside : b < 64
  · by_cases below : b < slot
    · simp [regionMask, inside, below, Nat.not_le_of_lt below]
    · have width : b - slot < 64 := by omega
      have range : (slot ≤ b ∧ b < slot + 2 ^ order) ↔ b - slot < 2 ^ order := by omega
      simp [regionMask, inside, below, range]
  · simp [BitVec.getLsbD_of_ge _ _ (Nat.le_of_not_lt inside), inside]

def regionClear (used : Word) (order : Nat) (slot : Nat) : Bool :=
  (List.range (2 ^ order)).all fun i => !used.getLsbD (slot + i)

theorem regionClear_iff {used : Word} {order slot : Nat} :
    regionClear used order slot ↔ Clear used slot (2 ^ order) := by
  simp [regionClear, Clear]

def firstFit (used : Word) (bits order : Nat) : Int × Word :=
  match ((List.range (bits / 2 ^ order)).map (· * 2 ^ order)).find? (regionClear used order) with
  | some slot => (slot, used ||| regionMask slot order)
  | none => (enomem, used)

def kernelServices : Services where
  findFreeRegion := firstFit
  releaseRegion used slot order := used &&& ~~~regionMask slot order
  parentIndex index i := index + i
  found := by
    intro used bits order short ok
    rw [firstFit] at ok ⊢
    split at ok
    · rename_i slot here
      have clear := regionClear_iff.mp (List.find?_some here)
      obtain ⟨k, listed, rfl⟩ := List.mem_map.mp (List.mem_of_find?_eq_some here)
      have inside : k * 2 ^ order + 2 ^ order ≤ bits := by
        have below := List.mem_range.mp listed
        have room := (Nat.le_div_iff_mul_le (Nat.two_pow_pos order)).mp below
        rwa [Nat.succ_mul] at room
      refine ⟨k * 2 ^ order, by simp only, Nat.dvd_mul_left _ _, inside, clear, fun b => ?_⟩
      simp only [BitVec.getLsbD_or, regionMask_getLsbD]
      by_cases range : k * 2 ^ order ≤ b ∧ b < k * 2 ^ order + 2 ^ order
      · have word : b < 64 := by omega
        simp [range, word]
      · simp [range]
    · exact absurd ok (show ¬(0 : Int) ≤ enomem by decide)
  full := by
    intro used bits order short none
    rw [firstFit] at none ⊢
    split at none
    · exact absurd none (Int.not_lt.mpr (Int.natCast_nonneg _))
    · rename_i here
      refine ⟨by simp only, fun slot aligned inside clear => ?_⟩
      obtain ⟨k, rfl⟩ := aligned
      have few : k < bits / 2 ^ order := by
        refine (Nat.le_div_iff_mul_le (Nat.two_pow_pos order)).mpr ?_
        rwa [Nat.succ_mul, Nat.mul_comm]
      rw [List.find?_eq_none] at here
      refine here (2 ^ order * k)
        (List.mem_map.mpr ⟨k, List.mem_range.mpr few, Nat.mul_comm _ _⟩) ?_
      exact regionClear_iff.mpr clear
  released used slot order b := by
    by_cases word : b < 64
    · rw [BitVec.getLsbD_and, BitVec.getLsbD_not, regionMask_getLsbD]
      simp only [word, decide_true, Bool.true_and, decide_not]
    · simp [BitVec.getLsbD_of_ge _ _ (Nat.le_of_not_lt word)]
  consecutive _ _ := rfl

/-- Two vectors, one more, and the first of them given back. -/
def threeCalls : Msi :=
  [Operation.alloc 10 2 0, .alloc 20 1 0, .free 10 1].foldl
    (fun msi next => next.apply kernelServices msi) .start

theorem threeCalls_run : Run kernelServices threeCalls := by
  refine .step (.step (.step .start (.alloc 10 2 0) ?_) (.alloc 20 1 0) ?_) (.free 10 1) ?_
  · intro v _ _
    rfl
  · intro v low high
    obtain rfl : v = 20 := by omega
    decide +kernel
  · intro v low high
    obtain rfl : v = 10 := by omega
    decide +kernel

theorem threeCalls_slots : threeCalls.used = 6 ∧ Accounted threeCalls :=
  ⟨by decide +kernel, (msi_slots threeCalls_run).1⟩

end WinBoot.MsiAllocator
