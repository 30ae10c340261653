import WinBoot.ChainSearch
import WinBoot.ConfigRestore

/-! Where the saved controls lie. The capabilities are found on the chains of the two devices, and
each control is a register of one of them or one at a fixed place. -/

namespace WinBoot.ControlPlaces
open Interaction KernelCalls PciScan PciHost ConfigSpace ConfigStorage ConfigRestore ChainSearch

/-- The byte at a position, as `readb` returns it. -/
def byteAt (bits : Bits) (offset : Nat) : Nat := (load bits offset 1).toNat

def CapabilityFit (pos : Nat) : Prop := 0x40 ≤ pos ∧ pos ≤ 0xfc ∧ pos % 4 = 0

instance (pos : Nat) : Decidable (CapabilityFit pos) := inferInstanceAs (Decidable (_ ∧ _))

/-- The first capability with this id on the chain of a device. -/
def FirstCapability (bits : Bits) (id : Nat) : Nat → Prop :=
  First CapabilityFit (byteAt bits · = id) (fun pos => byteAt bits (pos + 1))
    (byteAt bits pciCapabilityList)

def headerAt (bits : Bits) (pos : Nat) : U32 := load bits pos 4

def ExtendedFit (bits : Bits) (pos : Nat) : Prop :=
  (0x100 ≤ pos ∧ pos ≤ 0xffc ∧ pos % 4 = 0) ∧ headerAt bits pos ≠ 0 ∧ headerAt bits pos ≠ allOnes

instance (bits : Bits) : DecidablePred (ExtendedFit bits) := fun _ => inferInstanceAs (Decidable (_ ∧ _))

/-- The first extended capability with this id on the chain of a device. -/
def FirstExtended (bits : Bits) (id : Nat) : Nat → Prop :=
  First (ExtendedFit bits) (fun pos => (headerAt bits pos &&& 0xffff).toNat = id)
    (fun pos => ((headerAt bits pos >>> 20) &&& 0xffc).toNat) 0x100

inductive Origin
  | standard | extended | fixed
deriving DecidableEq

/-- A register that is saved. -/
structure Register where
  origin : Origin
  bus : Nat
  offset : Nat
  size : Nat
  mask : U32

/-- Within the part of the configuration space that it is taken from. -/
def Register.Placed (register : Register) : Prop :=
  match register.origin with
  | .standard => 0x40 ≤ register.offset ∧ register.offset + register.size ≤ 0x100
  | .extended => 0x100 ≤ register.offset ∧ register.offset + register.size ≤ 0x1000
  | .fixed => True

instance (register : Register) : Decidable register.Placed := by
  unfold Register.Placed
  split <;> infer_instance

def contentAt (bits : Bits) (offset size : Nat) : U32 :=
  if size = 2 then (load bits offset 2).setWidth 32 else load bits offset 4

/-- The control that holds a register's content. -/
def Register.control (content : Content) (register : Register) : ScanControl where
  bus := register.bus
  offset := register.offset
  size := register.size
  saved := contentAt (content (busWindow register.bus)) register.offset register.size &&& register.mask
  mask := register.mask

/-- The registers of the PM, PCIe and L1SS capabilities at these places. -/
def busRegisters (bus pm exp l1ss : Nat) : List Register :=
  [⟨.standard, bus, pm + pciPmCtrl, 2, pmMask⟩,
    ⟨.standard, bus, exp + pciExpDevctl2, 2, 0xffff⟩,
    ⟨.standard, bus, exp + pciExpLnkctl, 2, lnkctlMask⟩,
    ⟨.extended, bus, l1ss + pciL1ssCtl1, 4, allOnes⟩,
    ⟨.extended, bus, l1ss + pciL1ssCtl2, 4, allOnes⟩]

def windowRegisters (assignMemory : Bool) : List Register :=
  [⟨.fixed, 0, pciIoBase, 2, 0xffff⟩, ⟨.fixed, 0, pciPrefMemoryBase, 4, allOnes⟩] ++
    if assignMemory then
      [⟨.fixed, 0, pciMemoryBase, 4, allOnes⟩, ⟨.fixed, 0, pciPrefBaseUpper32, 4, allOnes⟩,
        ⟨.fixed, 0, pciPrefLimitUpper32, 4, allOnes⟩, ⟨.fixed, 0, pciIoBaseUpper16, 4, allOnes⟩]
    else []

/-- The registers of the MSI capability at this place. -/
def msiRegisters (cap : Nat) (flags : U16) : List Register :=
  let msi64 := decide (flags &&& msiFlags64bit ≠ 0)
  [⟨.standard, 1, cap + pciMsiFlags, 2, 0xffff⟩, ⟨.standard, 1, cap + pciMsiAddressLo, 4, allOnes⟩] ++
    (if msi64 then [⟨.standard, 1, cap + pciMsiAddressHi, 4, allOnes⟩] else []) ++
    [⟨.standard, 1, cap + (if msi64 then pciMsiData64 else pciMsiData32), 2, 0xffff⟩] ++
    if flags &&& msiFlagsMaskbit ≠ 0 then
      [⟨.standard, 1, cap + (if msi64 then pciMsiMask64 else pciMsiMask32), 4, allOnes⟩]
    else []

def firmwareRegisters : List Register :=
  [⟨.fixed, 1, 0x80, 4, allOnes⟩, ⟨.fixed, 1, 0xdc, 2, 0xffff⟩, ⟨.fixed, 1, 0x228, 4, allOnes⟩,
    ⟨.fixed, 1, 0x4e0, 4, allOnes⟩, ⟨.fixed, 1, 0x4f4, 4, allOnes⟩]

/-- Where the capabilities are, by bus. -/
structure Places where
  pm : Nat → Nat
  exp : Nat → Nat
  l1ss : Nat → Nat
  msi : Nat

structure Places.OnChains (content : Content) (options : ScanOptions) (places : Places) : Prop where
  pm : ∀ bus < 2, FirstCapability (content (busWindow bus)) pciCapIdPm (places.pm bus)
  exp : ∀ bus < 2, FirstCapability (content (busWindow bus)) pciCapIdExp (places.exp bus)
  l1ss : ∀ bus < 2, FirstExtended (content (busWindow bus)) pciExtCapIdL1ss (places.l1ss bus)
  msi : options.msiDomain = true → FirstCapability (content .endpoint) pciCapIdMsi places.msi

/-- What is saved, in order. -/
def Places.registers (content : Content) (options : ScanOptions) (places : Places) :
    List Register :=
  busRegisters 0 (places.pm 0) (places.exp 0) (places.l1ss 0) ++
    busRegisters 1 (places.pm 1) (places.exp 1) (places.l1ss 1) ++
    windowRegisters options.assignMemory ++
    (if options.msiDomain then
      msiRegisters places.msi (load (content .endpoint) (places.msi + pciMsiFlags) 2) else []) ++
    if options.bindFirmware then firmwareRegisters else []

/-- The saved controls are in bounds. -/
structure InBounds (content : Content) (options : ScanOptions) (scan : Scan) (places : Places) :
    Prop where
  found : places.OnChains content options
  saved : scan.controls = (places.registers content options).map (Register.control content)
  count : scan.controls.length ≤ 26
  aligned : ∀ control ∈ scan.controls, control.offset % control.size = 0
  placed : ∀ register ∈ places.registers content options, register.Placed

section Walks

variable (content : Content) (cfg : Window) (id : Nat)

/-- Both errors are negative. -/
theorem error_ne (p : ℕ) : enoent ≠ (p : Int) ∧ einval ≠ (p : Int) := by
  unfold enoent einval
  omega

theorem scanCapFrom_search (count pos p : ℕ) :
    (scanCapFrom cfg id count pos).eval (readAnswer content) = p ↔
      search CapabilityFit (byteAt (content cfg) · = id) (fun pos => byteAt (content cfg) (pos + 1)) count pos =
        some p := by
  induction count generalizing pos with
  | zero => exact iff_of_false (error_ne p).1 fun found => by cases found
  | succ count ih =>
    unfold scanCapFrom
    simp only [Prog.eval_ite, Prog.eval_call_bind, Prog.eval_pure]
    by_cases fit : CapabilityFit pos
    · have first : pos ≠ 0 := by unfold CapabilityFit at fit; omega
      have inside : ¬(pos < 0x40 ∨ pos > 0xfc ∨ pos % 4 ≠ 0) := by unfold CapabilityFit at fit; omega
      rw [search, if_pos fit, if_neg first, if_neg inside]
      by_cases is : byteAt (content cfg) pos = id
      · rw [if_pos is]
        refine (congrArg (· = (p : Int)) (if_pos is)).to_iff.trans ?_
        rw [Option.some.injEq, Int.natCast_inj]
      · rw [if_neg is]
        exact (congrArg (· = (p : Int)) (if_neg is)).to_iff.trans (ih _)
    · rw [search, if_neg fit]
      refine iff_of_false (fun found => ?_) fun found => by cases found
      split_ifs at found with last outside
      · exact (error_ne p).1 found
      · exact (error_ne p).2 found
      all_goals exact fit (by unfold CapabilityFit; omega)

theorem scanExtcapFrom_search (count pos p : ℕ) :
    (scanExtcapFrom cfg id count pos).eval (readAnswer content) = p ↔
      search (ExtendedFit (content cfg)) (fun pos => (headerAt (content cfg) pos &&& 0xffff).toNat = id)
        (fun pos => ((headerAt (content cfg) pos >>> 20) &&& 0xffc).toNat) count pos = some p := by
  induction count generalizing pos with
  | zero => exact iff_of_false (error_ne p).1 fun found => by cases found
  | succ count ih =>
    unfold scanExtcapFrom
    simp only [Prog.eval_ite, Prog.eval_call_bind, Prog.eval_pure]
    by_cases fit : ExtendedFit (content cfg) pos
    · have place := fit.1
      have first : pos ≠ 0 := by omega
      have inside : ¬(pos < 0x100 ∨ pos > 0xffc ∨ pos % 4 ≠ 0) := by omega
      rw [search, if_pos fit, if_neg first, if_neg inside]
      refine (congrArg (· = (p : Int)) (if_neg (not_or.mpr fit.2))).to_iff.trans ?_
      by_cases is : (headerAt (content cfg) pos &&& 0xffff).toNat = id
      · rw [if_pos is]
        refine (congrArg (· = (p : Int)) (if_pos is)).to_iff.trans ?_
        rw [Option.some.injEq, Int.natCast_inj]
      · rw [if_neg is]
        exact (congrArg (· = (p : Int)) (if_neg is)).to_iff.trans (ih _)
    · rw [search, if_neg fit]
      refine iff_of_false (fun found => ?_) fun found => by cases found
      split_ifs at found with last outside absent
      · exact (error_ne p).1 found
      · exact (error_ne p).2 found
      · exact (error_ne p).1 found
      all_goals exact fit ⟨by omega, not_or.mp absent⟩

theorem scanCap_first (found : 0 ≤ (scanCap cfg id).eval (readAnswer content)) :
    FirstCapability (content cfg) id ((scanCap cfg id).eval (readAnswer content)).toNat := by
  have walked := (scanCapFrom_search content cfg id 48 _ _).mp (Int.toNat_of_nonneg found).symm
  obtain ⟨n, -, one⟩ := search_some.mp walked
  exact one.first

theorem scanExtcap_first (found : 0 ≤ (scanExtcap cfg id).eval (readAnswer content)) :
    FirstExtended (content cfg) id ((scanExtcap cfg id).eval (readAnswer content)).toNat := by
  have walked := (scanExtcapFrom_search content cfg id 256 0x100 _).mp (Int.toNat_of_nonneg found).symm
  obtain ⟨n, -, one⟩ := search_some.mp walked
  exact one.first

end Walks

section Saves

variable (content : Content) (scan : Scan)

theorem readSized_eval (cfg : Window) (offset size : Nat) :
    (readSized cfg offset size).eval (readAnswer content) = contentAt (content cfg) offset size := by
  unfold readSized contentAt
  rw [Prog.eval_ite]
  rfl

/-- The scan with more registers saved. -/
def saving (registers : List Register) : Scan :=
  { scan with controls := scan.controls ++ registers.map (Register.control content) }

@[simp] theorem saving_nil : saving content scan [] = scan := by simp [saving]

@[simp] theorem saving_saving (first second : List Register) :
    saving content (saving content scan first) second = saving content scan (first ++ second) := by
  simp [saving]

theorem scanSaveControl_eval (origin : Origin) (bus offset size : Nat) (mask : U32) :
    (scanSaveControl scan bus offset size mask).eval (readAnswer content) =
      saving content scan [⟨origin, bus, offset, size, mask⟩] := by
  unfold scanSaveControl
  rw [Prog.eval_bind, readSized_eval]
  rfl

/-- A successful save of one device's controls. -/
theorem scanSaveBusControls_eval (bus : Nat)
    (success : ((scanSaveBusControls scan bus).eval (readAnswer content)).1 = 0) :
    ∃ pm exp l1ss, FirstCapability (content (busWindow bus)) pciCapIdPm pm ∧
      FirstCapability (content (busWindow bus)) pciCapIdExp exp ∧ exp + pciExpDevctl2 ≤ 0xfe ∧
      FirstExtended (content (busWindow bus)) pciExtCapIdL1ss l1ss ∧ l1ss + pciL1ssCtl2 ≤ 0xffc ∧
      ((scanSaveBusControls scan bus).eval (readAnswer content)).2 =
        saving content scan (busRegisters bus pm exp l1ss) := by
  unfold scanSaveBusControls at success ⊢
  simp only [Prog.eval_bind, Prog.eval_ite, Prog.eval_pure, scanSaveControl_eval _ _ .standard,
    saving_saving] at success ⊢
  split_ifs at success ⊢ with missing awake
  · cases success
  · cases success
  · simp only [not_or] at missing
    obtain ⟨pm, exp, l1ss, low, high⟩ := missing
    refine ⟨_, _, _, scanCap_first content _ _ (Int.not_lt.mp pm),
      scanCap_first content _ _ (Int.not_lt.mp exp), ?_,
      scanExtcap_first content _ _ (Int.not_lt.mp l1ss), ?_, rfl⟩
    · omega
    · omega

@[simp] theorem saving_assignMemory (registers : List Register) :
    (saving content scan registers).assignMemory = scan.assignMemory := rfl

@[simp] theorem saving_bindFirmware (registers : List Register) :
    (saving content scan registers).bindFirmware = scan.bindFirmware := rfl

theorem saveIf_eval (origin : Origin) (needed : Bool) (bus offset size : Nat) (mask : U32) :
    (onlyIf needed scan (scanSaveControl scan bus offset size mask)).eval (readAnswer content) =
      saving content scan (if needed then [⟨origin, bus, offset, size, mask⟩] else []) := by
  cases needed with
  | true => exact scanSaveControl_eval content scan origin bus offset size mask
  | false => exact (saving_nil content scan).symm

theorem scanSaveMemoryWindows_eval : (scanSaveMemoryWindows scan).eval (readAnswer content) =
    saving content scan (windowRegisters scan.assignMemory) := by
  unfold scanSaveMemoryWindows windowRegisters
  simp only [Prog.eval_bind, Prog.eval_ite, Prog.eval_pure, scanSaveControl_eval _ _ .fixed,
    saving_saving, saving_assignMemory]
  cases scan.assignMemory <;> rfl

theorem scanSaveFirmware_eval : (scanSaveFirmware scan).eval (readAnswer content) =
    saving content scan (if scan.bindFirmware then firmwareRegisters else []) := by
  unfold scanSaveFirmware firmwareRegisters
  simp only [Prog.eval_bind, Prog.eval_ite, Prog.eval_pure, scanSaveControl_eval _ _ .fixed,
    saving_saving]
  cases scan.bindFirmware
  · exact (saving_nil content scan).symm
  · rfl

/-- A successful save of the MSI controls. -/
theorem scanSaveMsi_eval (success : ((scanSaveMsi scan).eval (readAnswer content)).1 = 0) :
    ((scanSaveMsi scan).eval (readAnswer content)).2.bindFirmware = scan.bindFirmware ∧
      ∃ cap, (scan.msiDomain = true → FirstCapability (content .endpoint) pciCapIdMsi cap ∧
          cap ≤ 0xe8) ∧
        ((scanSaveMsi scan).eval (readAnswer content)).2.controls =
          (saving content scan (if scan.msiDomain then
            msiRegisters cap (load (content .endpoint) (cap + pciMsiFlags) 2) else [])).controls := by
  unfold scanSaveMsi at success ⊢
  by_cases wanted : scan.msiDomain = true
  · rw [if_neg (by simp [wanted])] at success ⊢
    simp only [Prog.eval_bind, Prog.eval_ite, Prog.eval_pure, scanSaveControl_eval _ _ .standard,
      saveIf_eval _ _ .standard, saving_saving] at success ⊢
    by_cases missing : (scanCap .endpoint pciCapIdMsi).eval (readAnswer content) < 0 ∨
        (scanCap .endpoint pciCapIdMsi).eval (readAnswer content) > 0xe8
    · rw [if_pos missing] at success
      cases success
    rw [if_neg missing] at success ⊢
    split at success
    · cases success
    · next disabled =>
      rw [if_neg disabled]
      simp only [not_or] at missing
      refine ⟨rfl, _, fun _ => ⟨scanCap_first content _ _ (Int.not_lt.mp missing.1), by omega⟩, ?_⟩
      rw [if_pos wanted]
      simp only [msiRegisters, decide_eq_true_eq]
      rfl
  · rw [if_pos (by simpa using wanted)]
    refine ⟨rfl, scan.msiCap, fun there => absurd there wanted, ?_⟩
    rw [if_neg wanted, saving_nil]
    rfl

end Saves

theorem on_both {holds : Nat → Prop} (root : holds 0) (endpoint : holds 1) : ∀ bus < 2, holds bus
  | 0, _ => root
  | 1, _ => endpoint

/-- What the save has checked of the places. -/
structure Places.Checked (options : ScanOptions) (places : Places) : Prop where
  exp : ∀ bus < 2, places.exp bus + pciExpDevctl2 ≤ 0xfe
  l1ss : ∀ bus < 2, places.l1ss bus + pciL1ssCtl2 ≤ 0xffc
  msi : options.msiDomain = true → places.msi ≤ 0xe8

theorem savedOn_registers {content : Content} {options : ScanOptions}
    (save : (savedOn content options).1 = 0) :
    ∃ places : Places, places.OnChains content options ∧ places.Checked options ∧
      (savedOn content options).2.controls =
        (places.registers content options).map (Register.control content) := by
  unfold savedOn execOn at save ⊢
  rw [Prog.exec_eval] at save ⊢
  unfold scanSaveControls at save ⊢
  rw [Prog.eval_bind] at save ⊢
  have root := scanSaveBusControls_eval content (newScan options) 0
  generalize (scanSaveBusControls (newScan options) 0).eval (readAnswer content) = r at save root ⊢
  obtain ⟨ret, scan⟩ := r
  dsimp only at save root ⊢
  rw [Prog.eval_ite] at save ⊢
  by_cases failed : ret ≠ 0
  · rw [if_pos failed] at save
    exact absurd save failed
  rw [if_neg failed] at save ⊢
  obtain ⟨pm₀, exp₀, l1ss₀, pmFound₀, expFound₀, expLow₀, l1ssFound₀, l1ssLow₀, rfl⟩ :=
    root (not_not.mp failed)
  rw [Prog.eval_bind] at save ⊢
  have endpoint := scanSaveBusControls_eval content
    (saving content (newScan options) (busRegisters 0 pm₀ exp₀ l1ss₀)) 1
  generalize (scanSaveBusControls _ 1).eval (readAnswer content) = r at save endpoint ⊢
  obtain ⟨ret, scan⟩ := r
  dsimp only at save endpoint ⊢
  rw [Prog.eval_ite] at save ⊢
  by_cases failed : ret ≠ 0
  · rw [if_pos failed] at save
    exact absurd save failed
  rw [if_neg failed] at save ⊢
  obtain ⟨pm₁, exp₁, l1ss₁, pmFound₁, expFound₁, expLow₁, l1ssFound₁, l1ssLow₁, rfl⟩ :=
    endpoint (not_not.mp failed)
  rw [Prog.eval_bind, scanSaveMemoryWindows_eval, Prog.eval_bind, saving_saving, saving_saving]
    at save ⊢
  have msi := scanSaveMsi_eval content (saving content (newScan options)
    (busRegisters 0 pm₀ exp₀ l1ss₀ ++ busRegisters 1 pm₁ exp₁ l1ss₁ ++
      windowRegisters options.assignMemory))
  generalize read : (scanSaveMsi _).eval (readAnswer content) = r at save ⊢
  rw [saving_assignMemory] at read
  change (scanSaveMsi (saving content (newScan options) (busRegisters 0 pm₀ exp₀ l1ss₀ ++
    busRegisters 1 pm₁ exp₁ l1ss₁ ++ windowRegisters options.assignMemory))).eval _ = r at read
  rw [read] at msi
  obtain ⟨ret, scan⟩ := r
  dsimp only at save msi ⊢
  rw [Prog.eval_ite] at save ⊢
  by_cases failed : ret ≠ 0
  · rw [if_pos failed] at save
    exact absurd save failed
  rw [if_neg failed] at save ⊢
  obtain ⟨bound, cap, capFound, controls⟩ := msi (not_not.mp failed)
  rw [Prog.eval_bind, scanSaveFirmware_eval]
  refine ⟨⟨fun bus => if bus = 0 then pm₀ else pm₁, fun bus => if bus = 0 then exp₀ else exp₁,
    fun bus => if bus = 0 then l1ss₀ else l1ss₁, cap⟩,
    ⟨on_both pmFound₀ pmFound₁, on_both expFound₀ expFound₁, on_both l1ssFound₀ l1ssFound₁,
      fun there => (capFound there).1⟩,
    ⟨on_both expLow₀ expLow₁, on_both l1ssLow₀ l1ssLow₁, fun there => (capFound there).2⟩, ?_⟩
  change scan.controls ++ _ = _
  rw [controls, bound]
  simp [saving, Places.registers, newScan]

section Bounds

variable {content : Content} {options : ScanOptions} {places : Places}

theorem windowRegisters_length (assignMemory : Bool) :
    (windowRegisters assignMemory).length ≤ 6 := by
  cases assignMemory <;> decide

theorem msiRegisters_length (cap : Nat) (flags : U16) : (msiRegisters cap flags).length ≤ 5 := by
  simp only [msiRegisters, decide_eq_true_eq]
  split_ifs <;> simp

/-- Ten controls of the two devices, six root windows, five of MSI and five of the firmware phase. -/
theorem registers_length : (places.registers content options).length ≤ 26 := by
  have windows := windowRegisters_length options.assignMemory
  have msi := msiRegisters_length places.msi
    (load (content .endpoint) (places.msi + pciMsiFlags) 2)
  have firmware : firmwareRegisters.length = 5 := rfl
  have bus (bus pm exp l1ss : Nat) : (busRegisters bus pm exp l1ss).length = 5 := rfl
  simp only [Places.registers, List.length_append, bus]
  split_ifs
  all_goals first | omega | (rw [List.length_nil]; omega)

theorem registers_forall {holds : Register → Prop}
    (bus : ∀ bus < 2, ∀ register ∈ busRegisters bus (places.pm bus) (places.exp bus)
      (places.l1ss bus), holds register)
    (windows : ∀ register ∈ windowRegisters true, holds register)
    (msi : options.msiDomain = true → ∀ flags, ∀ register ∈ msiRegisters places.msi flags,
      holds register)
    (firmware : ∀ register ∈ firmwareRegisters, holds register) :
    ∀ register ∈ places.registers content options, holds register := by
  intro register member
  simp only [Places.registers, List.mem_append] at member
  obtain (((root | endpoint) | window) | inside) | phase := member
  · exact bus 0 (by decide) register root
  · exact bus 1 (by decide) register endpoint
  · refine windows register ?_
    cases assigns : options.assignMemory with
    | true => rwa [assigns] at window
    | false =>
      rw [assigns] at window
      exact List.mem_append_left _ (by simpa [windowRegisters] using window)
  · split_ifs at inside with there
    · exact msi there _ register inside
    · cases inside
  · split_ifs at phase
    · exact firmware register phase
    · cases phase

theorem Places.OnChains.aligned (found : places.OnChains content options) :
    ∀ register ∈ places.registers content options, register.offset % register.size = 0 := by
  refine registers_forall (fun bus small => ?_) (by decide) (fun there flags => ?_) (by decide)
  · have pm := (found.pm bus small).is_fit.2.2
    have exp := (found.exp bus small).is_fit.2.2
    have l1ss := (found.l1ss bus small).is_fit.1.2.2
    simp only [busRegisters, List.forall_mem_cons, pciPmCtrl, pciExpDevctl2, pciExpLnkctl,
      pciL1ssCtl1, pciL1ssCtl2]
    exact ⟨by omega, by omega, by omega, by omega, by omega, by simp⟩
  · have cap := (found.msi there).is_fit.2.2
    simp only [msiRegisters, decide_eq_true_eq, pciMsiFlags, pciMsiAddressLo, pciMsiAddressHi,
      pciMsiData64, pciMsiData32, pciMsiMask64, pciMsiMask32]
    split_ifs
    all_goals
      simp only [List.forall_mem_append, List.forall_mem_cons, List.not_mem_nil, false_implies,
        implies_true, and_true]
      omega

theorem pmControl_saved : ∀ bus < 2, (⟨.standard, bus, places.pm bus + pciPmCtrl, 2, pmMask⟩ :
    Register) ∈ places.registers content options :=
  on_both (by simp [Places.registers, busRegisters]) (by simp [Places.registers, busRegisters])

/-- PM control is the one register whose place nothing bounds. -/
theorem Places.OnChains.placed (found : places.OnChains content options)
    (checked : places.Checked options) (inside : ∀ bus < 2, places.pm bus ≠ 0xfc) :
    ∀ register ∈ places.registers content options, register.Placed := by
  refine registers_forall (fun bus small => ?_) (by decide) (fun there flags => ?_) (by decide)
  · obtain ⟨pmLow, pmHigh, pmAligned⟩ := (found.pm bus small).is_fit
    obtain ⟨expLow, -, -⟩ := (found.exp bus small).is_fit
    obtain ⟨l1ssLow, -, -⟩ := (found.l1ss bus small).is_fit.1
    have pmLast := inside bus small
    have expHigh := checked.exp bus small
    have l1ssHigh := checked.l1ss bus small
    simp only [busRegisters, List.forall_mem_cons, Register.Placed, pciPmCtrl, pciExpDevctl2,
      pciExpLnkctl, pciL1ssCtl1, pciL1ssCtl2] at *
    exact ⟨by omega, by omega, by omega, by omega, by omega, by simp⟩
  · have low := (found.msi there).is_fit.1
    have high := checked.msi there
    simp only [msiRegisters, decide_eq_true_eq, pciMsiFlags, pciMsiAddressLo, pciMsiAddressHi,
      pciMsiData64, pciMsiData32, pciMsiMask64, pciMsiMask32]
    split_ifs
    all_goals
      simp only [List.forall_mem_append, List.forall_mem_cons, List.not_mem_nil, false_implies,
        implies_true, and_true, Register.Placed]
      omega

theorem InBounds.pm_inside {scan : Scan} (bounds : InBounds content options scan places) :
    ∀ bus < 2, ¬FirstCapability (content (busWindow bus)) pciCapIdPm 0xfc := by
  intro bus small last
  have high := (bounds.placed _ (pmControl_saved bus small)).2
  rw [(bounds.found.pm bus small).unique last] at high
  exact absurd (show 0xfc + pciPmCtrl + 2 ≤ 0x100 from high) (by decide)

end Bounds

/-- A successful save is in bounds where neither device's PM capability is the last place of the
chain: its control register would lie behind the capabilities. -/
theorem saved_in_bounds_iff {content : Content} {options : ScanOptions}
    (save : (savedOn content options).1 = 0) :
    (∃ places, InBounds content options (savedOn content options).2 places) ↔
      ∀ bus < 2, ¬FirstCapability (content (busWindow bus)) pciCapIdPm 0xfc := by
  constructor
  · rintro ⟨places, bounds⟩
    exact bounds.pm_inside
  · intro inside
    obtain ⟨places, found, checked, saved⟩ := savedOn_registers save
    refine ⟨places, found, saved, ?_, ?_, ?_⟩
    · rw [saved, List.length_map]
      exact registers_length
    · intro control member
      rw [saved, List.mem_map] at member
      obtain ⟨register, member, rfl⟩ := member
      exact found.aligned register member
    · refine found.placed checked fun bus small last => inside bus small ?_
      rw [← last]
      exact found.pm bus small

theorem firstCapability_start {bits : Bits} {id : Nat} (place : Nat)
    (start : byteAt bits pciCapabilityList = place) (fit : CapabilityFit place)
    (here : byteAt bits place = id) : FirstCapability bits id place := by
  unfold FirstCapability
  rw [start]
  exact .here fit here

theorem sampleDevice_in_bounds : ∃ places, InBounds (sampleDevice 0xac)
    ⟨true, true, true, true, 0, false⟩
    (savedOn (sampleDevice 0xac) ⟨true, true, true, true, 0, false⟩).2 places := by
  refine (saved_in_bounds_iff (by decide +kernel)).mpr (on_both (fun last => ?_) fun last => ?_)
  · exact absurd (last.unique (firstCapability_start 0x40 (by decide +kernel) (by decide)
      (by decide +kernel))) (by decide)
  · exact absurd (last.unique (firstCapability_start 0x48 (by decide +kernel) (by decide)
      (by decide +kernel))) (by decide)

/-- The endpoint's PM capability is the last of its chain, at 0xfc. Behind it, a latency capability
leaves the low bits of the word at 0x100 clear. -/
def lastPmDevice : Content := wordsContent fun
  | .root => [(0x34, 0x40), (0x40, 0x5001), (0x50, 0x10), (0x100, 0x1001e)]
  | .endpoint => [(0x34, 0x48), (0x48, 0xfc10), (0xfc, 0x01), (0x100, 0x11010018), (0x110, 0x1001e)]
  | _ => []

theorem lastPmDevice_out_of_bounds :
    (savedOn lastPmDevice ⟨false, false, false, false, 0, false⟩).1 = 0 ∧
      ¬∃ places, InBounds lastPmDevice ⟨false, false, false, false, 0, false⟩
        (savedOn lastPmDevice ⟨false, false, false, false, 0, false⟩).2 places := by
  refine ⟨by decide +kernel, ?_⟩
  rintro ⟨places, bounds⟩
  refine bounds.pm_inside 1 (by decide) ?_
  have start : byteAt (lastPmDevice .endpoint) pciCapabilityList = 0x48 := by decide +kernel
  have next : byteAt (lastPmDevice .endpoint) (0x48 + 1) = 0xfc := by decide +kernel
  change First _ _ _ (byteAt (lastPmDevice .endpoint) pciCapabilityList) 0xfc
  rw [start]
  refine .further (by decide) (by decide +kernel) ?_
  change First _ _ _ (byteAt (lastPmDevice .endpoint) (0x48 + 1)) 0xfc
  rw [next]
  exact .here (by decide) (by decide +kernel)

end WinBoot.ControlPlaces
