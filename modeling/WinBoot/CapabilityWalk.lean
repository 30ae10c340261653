import Mathlib.Algebra.Group.Nat.Defs
import WinBoot.ControlPlaces

/-! The two capability walks against the chains they follow: what they read, how long they take, and
which capabilities they find. -/

namespace WinBoot.CapabilityWalk
open Interaction KernelCalls PciScan ConfigSpace ConfigStorage ConfigRestore ChainSearch ControlPlaces

/-- What is expected of a walk: it ends, it reads only what it may, and the place that it returns is
the first one of the capability on the chain. -/
structure Exact (walk : Kernel Int) (content : Content) (calls : ℕ) (reads : Call → Prop)
    (first : ℕ → Prop) : Prop where
  bounded : walk.Every fun t _ => t.length ≤ calls
  within : walk.Every fun t _ => ∀ e ∈ t, reads e.1
  found : ∀ p : ℕ, walk.eval (readAnswer content) = p ↔ first p

/-! ### The standard list -/

inductive CapabilityRead (cfg : Window) : Call → Prop
  | list : CapabilityRead cfg (.readb cfg 0x34)
  | entry (offset : ℕ) (first : 0x40 ≤ offset) (last : offset ≤ 0xff) : CapabilityRead cfg (.readb cfg offset)

/-- The first capability with this id, after so many others. -/
def CapabilityAt (bits : Bits) (id n pos p : ℕ) : Prop :=
  FirstAt CapabilityFit (byteAt bits · = id) (fun pos => byteAt bits (pos + 1)) n pos p

section Standard

variable (content : Content) (cfg : Window) (id : ℕ)

theorem scanCapFrom_bounded (count pos : ℕ) :
    (scanCapFrom cfg id count pos).Every fun t _ => t.length ≤ 2 * count := by
  induction count generalizing pos with
  | zero => exact .done (Nat.le_refl 0)
  | succ count ih =>
    unfold scanCapFrom
    refine .ite (fun _ => .done (Nat.zero_le _)) fun _ =>
      .ite (fun _ => .done (Nat.zero_le _)) fun _ => ?_
    refine .call fun r => .ite (fun _ => .done (Nat.le_add_left 1 _)) fun _ => .call fun next => ?_
    refine (ih next.toNat).mono fun t _ few => ?_
    simp only [List.length_cons]
    omega

theorem scanCapFrom_within (count pos : ℕ) :
    (scanCapFrom cfg id count pos).Makes (CapabilityRead cfg) := by
  induction count generalizing pos with
  | zero => trivial
  | succ count ih =>
    unfold scanCapFrom
    refine .ite (fun _ => trivial) fun _ => .ite (fun _ => trivial) fun fit => ?_
    refine .call (.entry pos (by omega) (by omega)) fun r => .ite (fun _ => trivial) fun _ => ?_
    exact .call (.entry (pos + 1) (by omega) (by omega)) fun next => ih next.toNat

/-- There are as many fit positions as the walk takes steps. -/
theorem capabilityAt_lt {bits : Bits} {id n pos p : ℕ} (one : CapabilityAt bits id n pos p) :
    n < 48 := by
  have covers : ∀ pos, CapabilityFit pos → pos ∈ (Finset.range 48).image fun k => 0x40 + 4 * k := by
    intro pos fit
    unfold CapabilityFit at fit
    exact Finset.mem_image.mpr ⟨(pos - 0x40) / 4, Finset.mem_range.mpr (by omega), by omega⟩
  have few : ((Finset.range 48).image fun k => 0x40 + 4 * k).card ≤ 48 :=
    Finset.card_image_le.trans (Finset.card_range 48).le
  exact (one.lt_card covers).trans_le few

theorem scanCap_within : (scanCap cfg id).Makes (CapabilityRead cfg) :=
  .call .list fun list => scanCapFrom_within cfg id 48 list.toNat

/-- The walk finds every capability that the chain leads to, and no other place. -/
theorem scanCap_exact :
    Exact (scanCap cfg id) content 97 (CapabilityRead cfg) (FirstCapability (content cfg) id) where
  bounded := by
    refine .call fun list => (scanCapFrom_bounded cfg id 48 list.toNat).mono fun t _ few => ?_
    rw [List.length_cons]
    omega
  within := (scanCap_within cfg id).every
  found p := by
    refine (scanCapFrom_search content cfg id 48 _ p).trans (search_some.trans ?_)
    constructor
    · rintro ⟨n, -, one⟩
      exact one.first
    · intro first
      obtain ⟨n, one⟩ := first.at_some
      exact ⟨n, capabilityAt_lt one, one⟩

end Standard

/-! ### The extended list -/

/-- An aligned dword of the extended space. -/
inductive ExtendedRead (cfg : Window) : Call → Prop
  | header (offset : ℕ) (first : 0x100 ≤ offset) (last : offset + 3 ≤ 0xfff) (aligned : offset % 4 = 0) :
    ExtendedRead cfg (.readl cfg offset)

/-- The first extended capability with this id, after so many others. -/
def ExtendedAt (bits : Bits) (id n pos p : ℕ) : Prop :=
  FirstAt (ExtendedFit bits) (fun pos => (headerAt bits pos &&& 0xffff).toNat = id)
    (fun pos => ((headerAt bits pos >>> 20) &&& 0xffc).toNat) n pos p

section Extended

variable (content : Content) (cfg : Window) (id : ℕ)

theorem scanExtcapFrom_bounded (count pos : ℕ) :
    (scanExtcapFrom cfg id count pos).Every fun t _ => t.length ≤ count := by
  induction count generalizing pos with
  | zero => exact .done (Nat.le_refl 0)
  | succ count ih =>
    unfold scanExtcapFrom
    refine .ite (fun _ => .done (Nat.zero_le _)) fun _ =>
      .ite (fun _ => .done (Nat.zero_le _)) fun _ => ?_
    refine .call fun header => .ite (fun _ => .done (Nat.le_add_left 1 _)) fun _ => ?_
    refine .ite (fun _ => .done (Nat.le_add_left 1 _)) fun _ => ?_
    exact (ih _).mono fun t _ few => Nat.succ_le_succ few

theorem scanExtcapFrom_within (count pos : ℕ) :
    (scanExtcapFrom cfg id count pos).Makes (ExtendedRead cfg) := by
  induction count generalizing pos with
  | zero => trivial
  | succ count ih =>
    unfold scanExtcapFrom
    refine .ite (fun _ => trivial) fun _ => .ite (fun _ => trivial) fun fit => ?_
    refine .call (.header pos (by omega) (by omega) (by omega)) fun header =>
      .ite (fun _ => trivial) fun _ => ?_
    exact .ite (fun _ => trivial) fun _ => ih _

/-- The walk finds the first capability of each chain exactly when none of them is met for the first
time after 256 others. -/
theorem scanExtcap_exact_iff :
    Exact (scanExtcap cfg id) content 256 (ExtendedRead cfg) (FirstExtended (content cfg) id) ↔
      ∀ n p, ExtendedAt (content cfg) id n 0x100 p → n < 256 := by
  have walks (p : ℕ) := (scanExtcapFrom_search content cfg id 256 0x100 p).trans search_some
  constructor
  · intro exact n p one
    obtain ⟨m, small, other⟩ := (walks p).mp ((exact.found p).mpr one.first)
    rwa [one.unique other]
  · intro early
    refine ⟨scanExtcapFrom_bounded cfg id 256 0x100, (scanExtcapFrom_within cfg id 256 0x100).every, fun p => ?_⟩
    refine (walks p).trans ⟨?_, ?_⟩
    · rintro ⟨n, -, one⟩
      exact one.first
    · intro first
      obtain ⟨n, one⟩ := first.at_some
      exact ⟨n, early n p one, one⟩

end Extended

/-! A chain of 257 capabilities of two dwords, the last of which is the L1 substates. -/

def longHeader (pos : ℕ) : U32 :=
  if pos < 0x900 then BitVec.ofNat 32 ((pos + 8) * 2 ^ 20 + 0x10001) else if pos = 0x900 then 0x1001e else 0

def longChain : Bits := fun bit => (longHeader (bit / 32 * 4)).getLsbD (bit % 32)

theorem headerAt_longChain {pos : ℕ} (aligned : pos % 4 = 0) :
    headerAt longChain pos = longHeader pos := by
  apply BitVec.eq_of_getLsbD_eq
  intro i small
  have dword : (8 * pos + i) / 32 * 4 = pos := by omega
  have bit : (8 * pos + i) % 32 = i := by omega
  rw [headerAt, load, getLsbD_loadBits, longChain, dword, bit]
  simp [small]

theorem longHeader_next : ∀ k < 256, longHeader (0x100 + 8 * k) ≠ 0 ∧ longHeader (0x100 + 8 * k) ≠ allOnes ∧
    (longHeader (0x100 + 8 * k) &&& 0xffff).toNat ≠ pciExtCapIdL1ss ∧
    ((longHeader (0x100 + 8 * k) >>> 20) &&& 0xffc).toNat = 0x100 + 8 * (k + 1) := by
  decide +kernel

theorem longChain_next {k : ℕ} (small : k < 256) :
    headerAt longChain (0x100 + 8 * k) ≠ 0 ∧ headerAt longChain (0x100 + 8 * k) ≠ allOnes ∧
    (headerAt longChain (0x100 + 8 * k) &&& 0xffff).toNat ≠ pciExtCapIdL1ss ∧
    ((headerAt longChain (0x100 + 8 * k) >>> 20) &&& 0xffc).toNat = 0x100 + 8 * (k + 1) := by
  rw [headerAt_longChain (by omega)]
  exact longHeader_next k small

theorem longChain_at (n : ℕ) (small : n ≤ 256) :
    ExtendedAt longChain pciExtCapIdL1ss n (0x100 + 8 * (256 - n)) 0x900 := by
  induction n with
  | zero =>
    have header : headerAt longChain 0x900 = longHeader 0x900 := headerAt_longChain rfl
    exact .here ⟨by decide, header ▸ by decide, header ▸ by decide⟩ (header ▸ by decide)
  | succ n ih =>
    have k : 256 - n = 256 - (n + 1) + 1 := by omega
    obtain ⟨some, present, other, next⟩ := longChain_next (Nat.sub_lt_of_pos_le (Nat.succ_pos n) small)
    refine .further ⟨by omega, some, present⟩ other ?_
    rw [next, ← k]
    exact ih (Nat.le_of_succ_le small)

theorem scanExtcapFrom_longChain (count k : ℕ) (few : k + count ≤ 256) :
    (scanExtcapFrom .endpoint pciExtCapIdL1ss count (0x100 + 8 * k)).eval (readAnswer fun _ => longChain) =
      enoent := by
  induction count generalizing k with
  | zero => rfl
  | succ count ih =>
    obtain ⟨some, present, other, next⟩ := longChain_next (show k < 256 by omega)
    have first : 0x100 + 8 * k ≠ 0 := by omega
    have inside : ¬(0x100 + 8 * k < 0x100 ∨ 0x100 + 8 * k > 0xffc ∨ (0x100 + 8 * k) % 4 ≠ 0) := by omega
    have rest := ih (k + 1) (by omega)
    rw [← next] at rest
    unfold scanExtcapFrom
    simp only [Prog.eval_ite, Prog.eval_call_bind, Prog.eval_pure]
    rw [if_neg first, if_neg inside]
    exact (if_neg (not_or.mpr ⟨some, present⟩)).trans ((if_neg other).trans rest)

/-- The walk gives up before the last one. -/
theorem longChain_lost : FirstExtended longChain pciExtCapIdL1ss 0x900 ∧
    (scanExtcap .endpoint pciExtCapIdL1ss).eval (readAnswer fun _ => longChain) = enoent ∧
    ¬ Exact (scanExtcap .endpoint pciExtCapIdL1ss) (fun _ => longChain) 256 (ExtendedRead .endpoint)
      (FirstExtended longChain pciExtCapIdL1ss) := by
  have first : FirstExtended longChain pciExtCapIdL1ss 0x900 := (longChain_at 256 (Nat.le_refl _)).first
  have lost := scanExtcapFrom_longChain 256 0 (Nat.le_refl _)
  refine ⟨first, lost, fun exact => (error_ne 0x900).1 ?_⟩
  exact lost.symm.trans ((exact.found 0x900).mpr first)

end WinBoot.CapabilityWalk
