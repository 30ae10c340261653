import WinBoot.ScanRuns

/-! Whether the cleanup of the bounded scan undoes every write its guard lets through. A bit is
restored when the cleanup writes it back, and declared when it belongs to a write-one-to-clear
status or a self-clearing command. -/

namespace WinBoot.ConfigRestore
open Interaction KernelCalls PciScan PciHost ConfigSpace ConfigStorage SavedControls
  GuardRules ScanRuns

def spans (offset size bit : Nat) : Bool := 8 * offset ≤ bit ∧ bit < 8 * (offset + size)

theorem spans_iff {offset size bit : Nat} :
    spans offset size bit = true ↔ 8 * offset ≤ bit ∧ bit < 8 * (offset + size) :=
  decide_eq_true_iff

def controlSpans (window : Window) (control : ScanControl) (bit : Nat) : Bool :=
  busWindow control.bus = window && spans control.offset control.size bit

def maskBit (control : ScanControl) (bit : Nat) : Bool :=
  control.mask.getLsbD (bit - 8 * control.offset)

/-- Offset and size of the registers that the cleanup writes back besides the saved controls. -/
def fixedRegisters : Window → List (Nat × Nat)
  | .root => [(pciCommand, 2), (0x10, 4), (0x14, 4), (pciRomAddress1, 4), (pciPrimaryBus, 4),
      (pciBridgeControl, 2)]
  | .endpoint => [(pciCommand, 2), (0x10, 4), (0x14, 4), (0x18, 4), (0x1c, 4), (0x20, 4),
      (0x24, 4), (pciRomAddress, 4)]
  | _ => []

def restored (scan : Scan) (window : Window) (bit : Nat) : Bool :=
  (fixedRegisters window).any (fun register => spans register.1 register.2 bit) ||
    scan.controls.any fun control => controlSpans window control bit && maskBit control bit

/-- The two declared commands, and the bits that the controls' masks leave out. -/
def declared (scan : Scan) (window : Window) (bit : Nat) : Bool :=
  (window = .root && spans pciSecStatus 2 bit) || (window = .endpoint && spans 0x98 4 bit) ||
    scan.controls.any fun control => controlSpans window control bit && !maskBit control bit

/-- What the firmware phase may write besides the declared command is saved. -/
def FirmwareSaved (scan : Scan) : Prop :=
  (∃ control ∈ scan.controls, control.bus = 1 ∧ control.offset = 0x80 ∧ control.size = 4) ∧
    ∃ control ∈ scan.controls, control.bus = 1 ∧ control.offset = 0xbc

theorem restored_iff {scan : Scan} {window : Window} {bit : Nat} :
    restored scan window bit = true ↔
      (∃ register ∈ fixedRegisters window, spans register.1 register.2 bit = true) ∨
      ∃ control ∈ scan.controls, controlSpans window control bit = true ∧
        maskBit control bit = true := by
  simp only [restored, Bool.or_eq_true, List.any_eq_true, Bool.and_eq_true]

theorem declared_iff {scan : Scan} {window : Window} {bit : Nat} :
    declared scan window bit = true ↔
      (window = .root ∧ spans pciSecStatus 2 bit = true) ∨
      (window = .endpoint ∧ spans 0x98 4 bit = true) ∨
      ∃ control ∈ scan.controls, controlSpans window control bit = true ∧
        maskBit control bit = false := by
  simp only [declared, Bool.or_eq_true, List.any_eq_true, Bool.and_eq_true, decide_eq_true_eq,
    Bool.not_eq_true', or_assoc]

theorem controlSpans_iff {window : Window} {control : ScanControl} {bit : Nat} :
    controlSpans window control bit = true ↔
      busWindow control.bus = window ∧ spans control.offset control.size bit = true := by
  simp only [controlSpans, Bool.and_eq_true, decide_eq_true_eq]

/-- A bit of a saved control is restored, or declared where the mask leaves it out. -/
theorem control_covered {scan : Scan} {control : ScanControl} (saved : control ∈ scan.controls)
    {bit : Nat} (spanned : spans control.offset control.size bit = true) :
    restored scan (busWindow control.bus) bit = true ∨
      declared scan (busWindow control.bus) bit = true := by
  have here := controlSpans_iff.mpr ⟨rfl, spanned⟩
  cases masked : maskBit control bit with
  | true => exact .inl (restored_iff.mpr (.inr ⟨control, saved, here, masked⟩))
  | false => exact .inr (declared_iff.mpr (.inr (.inr ⟨control, saved, here, masked⟩)))

theorem fixed_restored {scan : Scan} {window : Window} {offset size bit : Nat}
    (fixed : (offset, size) ∈ fixedRegisters window) (spanned : spans offset size bit = true) :
    restored scan window bit = true :=
  restored_iff.mpr (.inl ⟨_, fixed, spanned⟩)

theorem bar_fixed {bus offset : Nat} {cfg : Window}
    (config : bus = 0 ∧ cfg = .root ∨ bus = 1 ∧ cfg = .endpoint) (low : 0x10 ≤ offset)
    (high : offset ≤ if bus ≠ 0 then 0x24 else 0x14) (aligned : offset % 4 = 0) :
    (offset, 4) ∈ fixedRegisters cfg := by
  obtain ⟨rfl, rfl⟩ | ⟨rfl, rfl⟩ := config
  · have places : offset = 0x10 ∨ offset = 0x14 := by
      change offset ≤ 0x14 at high
      omega
    obtain rfl | rfl := places <;> simp [fixedRegisters]
  · have places : offset = 0x10 ∨ offset = 0x14 ∨ offset = 0x18 ∨ offset = 0x1c ∨
        offset = 0x20 ∨ offset = 0x24 := by
      change offset ≤ 0x24 at high
      omega
    obtain rfl | rfl | rfl | rfl | rfl | rfl := places <;> simp [fixedRegisters]

/-- Every bit of a permitted store is restored or declared, once the firmware phase only begins
with its registers saved. -/
theorem permitted_covered {scan : Scan} (shaped : ControlsShaped scan)
    (firmware : scan.firmwareActive = true → FirmwareSaved scan) {cfg : Window}
    {bus offset size : Nat} {value : U32}
    (config : bus = 0 ∧ cfg = .root ∨ bus = 1 ∧ cfg = .endpoint)
    (permitted : Permitted scan bus offset size value) {bit : Nat}
    (spanned : spans offset size bit = true) :
    restored scan cfg bit = true ∨ declared scan cfg bit = true := by
  have window : busWindow bus = cfg := by
    obtain ⟨rfl, rfl⟩ | ⟨rfl, rfl⟩ := config <;> rfl
  cases permitted with
  | command =>
    refine .inl (fixed_restored ?_ spanned)
    obtain ⟨_, rfl⟩ | ⟨_, rfl⟩ := config <;> simp [fixedRegisters]
  | bar low high aligned => exact .inl (fixed_restored (bar_fixed config low high aligned) spanned)
  | busNumbers =>
    subst window
    exact .inl (fixed_restored (by simp [fixedRegisters, busWindow]) spanned)
  | bridgeControl =>
    subst window
    exact .inl (fixed_restored (by simp [fixedRegisters, busWindow]) spanned)
  | rootRom =>
    subst window
    exact .inl (fixed_restored (by simp [fixedRegisters, busWindow]) spanned)
  | endpointRom endpoint =>
    obtain ⟨root, _⟩ | ⟨_, rfl⟩ := config
    · exact absurd root endpoint
    · exact .inl (fixed_restored (by simp [fixedRegisters]) spanned)
  | control saved =>
    subst window
    exact control_covered saved spanned
  | barWindow active =>
    subst window
    obtain ⟨⟨control, saved, bus, offset, size⟩, _⟩ := firmware active
    rw [← offset, ← size] at spanned
    rw [← bus]
    exact control_covered saved spanned
  | linkControl active =>
    subst window
    obtain ⟨_, control, saved, bus, offset⟩ := firmware active
    have covered : spans control.offset control.size bit = true := by
      rw [spans_iff] at spanned ⊢
      have := (shaped control saved).width
      omega
    rw [← bus]
    exact control_covered saved covered
  | mailbox =>
    subst window
    exact .inr (declared_iff.mpr (.inr (.inl ⟨rfl, spanned⟩)))
  | secondaryStatus =>
    subst window
    exact .inr (declared_iff.mpr (.inl ⟨rfl, spanned⟩))

/-- A store whose every bit the cleanup restores, or that is declared. -/
def CoveredStore (scan : Scan) (window : Window) (store : Store) : Prop :=
  ∀ bit, store.Covers bit → restored scan window bit = true ∨ declared scan window bit = true

/-- What the claim says of a device with this content and of the scan that saved its controls. -/
structure Undone (options : ScanOptions) (content : Content) (scan : Scan) : Prop where
  covered : ∀ steps t after, (guardSteps firmwareMayBegin scan steps).Runs t after →
    ∀ event ∈ t, ∀ target ∈ storeOf event.1, CoveredStore scan target.1 target.2
  equal : ∀ settle t ret, (pciScan options).Runs t ret →
    (storage (declared scan) settle).Admits content t → ret = 0 →
    ∀ window bit, declared scan window bit = false →
      (storage (declared scan) settle).after content t window bit = content window bit

/-- A later state of the scan that saved its controls as `saved` did. -/
structure Prepared (saved scan : Scan) : Prop where
  controls : scan.controls = saved.controls
  active : scan.firmwareActive = true → FirmwareSaved saved
  begins : firmwareMayBegin scan = true → FirmwareSaved saved

section Prepared

variable {saved scan : Scan} (prepared : Prepared saved scan)
include prepared

theorem Prepared.reject : Prepared saved { scan with rejected := true } :=
  ⟨prepared.controls, prepared.active, fun begins => by simp [firmwareMayBegin] at begins⟩

theorem Prepared.activate (begins : firmwareMayBegin scan = true) :
    Prepared saved { scan with firmwareActive := true } :=
  ⟨prepared.controls, fun _ => prepared.begins begins, prepared.begins⟩

theorem Prepared.covered (shaped : ControlsShaped saved) {cfg : Window} {bus offset size : Nat}
    {value : U32} (config : bus = 0 ∧ cfg = .root ∨ bus = 1 ∧ cfg = .endpoint)
    (permitted : Permitted scan bus offset size value) :
    CoveredStore saved cfg (storeSized offset size value) := by
  obtain ⟨controls, active, _⟩ := prepared
  have restored_eq : restored scan = restored saved := by
    funext window bit
    simp only [restored, controls]
  have declared_eq : declared scan = declared saved := by
    funext window bit
    simp only [declared, controls]
  have shaped' : ControlsShaped scan := by
    intro control member
    exact shaped control (controls ▸ member)
  have firmware : scan.firmwareActive = true → FirmwareSaved scan := by
    intro firmware
    have saved := active firmware
    simpa only [FirmwareSaved, controls] using saved
  intro bit covers
  rw [storeSized_covers (permitted.width shaped')] at covers
  have either := permitted_covered shaped' firmware config permitted (spans_iff.mpr covers)
  rwa [restored_eq, declared_eq] at either

end Prepared

/-- Demands that every store is covered. -/
def coverage (saved : Scan) : Monitor Call Answer Unit where
  admits _ _ := True
  allows _ event := ∀ target ∈ storeOf event.1, CoveredStore saved target.1 target.2
  next _ _ := ()

theorem coverage_writeSized {saved : Scan} {cfg : Window} {offset size : Nat} {value : U32}
    {post : Unit → Unit → Prop} (covered : CoveredStore saved cfg (storeSized offset size value))
    (done : post () ()) : (writeSized cfg offset size value).Safe (coverage saved) post () := by
  unfold writeSized storeSized at *
  split_ifs at covered ⊢
  all_goals
    refine fun _ _ => ⟨?_, done⟩
    simpa [coverage, storeOf] using covered

theorem coverage_invariant {saved : Scan} (shaped : ControlsShaped saved) :
    ScanInvariant (coverage saved) fun _ scan => Prepared saved scan where
  call {state scan c} r held quiet _ := by
    refine ⟨?_, rfl⟩
    cases c <;> first | (cases quiet; done) | simp [coverage, storeOf]
  count devices held := ⟨held.controls, held.active, held.begins⟩
  write write held := by
    refine scanWrite_rule held (fun _ _ => ⟨?_, held.reject⟩)
      fun cfg offset size value config permitted => ?_
    · simp [coverage, storeOf]
    · exact coverage_writeSized (held.covered shaped config permitted) held
  reject held := fun _ _ => ⟨by simp [coverage, storeOf], held.reject⟩
  activate held begins := fun _ _ => ⟨by simp [coverage, storeOf], held.activate begins⟩

/-- What a read of a device with this content answers, bit by bit. -/
def ReadsFrom (content : Content) (window : Window) (offset size : Nat) (value : U32) : Prop :=
  ∀ i < 8 * size, value.getLsbD i = content window (8 * offset + i)

theorem storage_reading (volatile : Window → Nat → Bool) (settle : Settle) (content : Content) :
    Reading (storage volatile settle) content (ReadsFrom content) where
  readb _ _ _ _ := ⟨trivial, rfl⟩
  readw offset value config admitted := by
    refine ⟨trivial, rfl, fun i bound => ?_⟩
    have wide : i < 32 := by omega
    rw [admitted config, BitVec.getLsbD_setWidth, load, getLsbD_loadBits]
    simp [wide, bound]
  readl offset value config admitted := by
    refine ⟨trivial, rfl, fun i bound => ?_⟩
    rw [admitted config, load, getLsbD_loadBits]
    simp [bound]

theorem storage_writeSized {volatile : Window → Nat → Bool} {settle : Settle} {content : Content}
    {cfg : Window} {offset size : Nat} {value : U32} :
    (writeSized cfg offset size value).Safe (storage volatile settle) (fun after _ =>
      after = applyStore volatile settle content cfg (storeSized offset size value)) content := by
  unfold writeSized storeSized
  split_ifs <;> exact fun _ _ => ⟨trivial, rfl⟩

/-- Configuration space differs from its entry only where the cleanup or a declaration reaches. -/
structure Confined (saved : Scan) (entry content : Content) (scan : Scan) : Prop where
  prepared : Prepared saved scan
  kept : ∀ window bit, restored saved window bit = false → declared saved window bit = false →
    content window bit = entry window bit

theorem Confined.store {saved scan : Scan} {entry content : Content} {cfg : Window} {store : Store}
    {settle : Settle} (confined : Confined saved entry content scan)
    (covered : CoveredStore saved cfg store) :
    Confined saved entry (applyStore (declared saved) settle content cfg store) scan := by
  refine ⟨confined.prepared, fun window bit unrestored undeclared => ?_⟩
  have outside : ¬ (window = cfg ∧ store.Covers bit) := by
    rintro ⟨rfl, covers⟩
    have either := covered bit covers
    rw [unrestored, undeclared] at either
    simp at either
  rw [applyStore, if_neg outside]
  exact confined.kept window bit unrestored undeclared

theorem storage_invariant {saved : Scan} (shaped : ControlsShaped saved) (entry : Content)
    (settle : Settle) :
    ScanInvariant (storage (declared saved) settle) (Confined saved entry) where
  call {state scan c} r held quiet _ := by
    refine ⟨trivial, ?_⟩
    cases c <;> first | (cases quiet; done) | rfl
  count devices held :=
    ⟨⟨held.prepared.controls, held.prepared.active, held.prepared.begins⟩, held.kept⟩
  write write held := by
    refine scanWrite_rule held (fun _ _ => ⟨trivial, held.prepared.reject, held.kept⟩)
      fun cfg offset size value config permitted => ?_
    refine storage_writeSized.mono _ ?_
    rintro _ _ rfl
    exact held.store (held.prepared.covered shaped config permitted)
  reject held := fun _ _ => ⟨trivial, held.prepared.reject, held.kept⟩
  activate held begins := fun _ _ => ⟨trivial, held.prepared.activate begins, held.kept⟩

section Restore

/-! One undeclared bit, from the restoring writes' point of view: `hit` collects the reasons why
the bit holds its entry value again. -/

variable {saved : Scan} {settle : Settle} {entry content : Content} {window : Window} {bit : Nat}
  (undeclared : declared saved window bit = false) {hit : Prop}
  (back : hit → content window bit = entry window bit)
include undeclared back

theorem applyStore_back (settle : Settle) {cfg : Window} {offset size : Nat} {value : U32}
    (width : size = 2 ∨ size = 4) (restores : cfg = window → spans offset size bit = true →
      value.getLsbD (bit - 8 * offset) = entry window bit) :
    (hit ∨ cfg = window ∧ spans offset size bit = true) →
      applyStore (declared saved) settle content cfg (storeSized offset size value) window bit =
        entry window bit := by
  intro reason
  by_cases reached : window = cfg ∧ (storeSized offset size value).Covers bit
  · have spanned := spans_iff.mpr ((storeSized_covers width).mp reached.2)
    rw [applyStore, if_pos reached, undeclared]
    simp only [Bool.false_eq_true, if_false]
    rw [storeSized_bit width reached.2]
    exact restores reached.1.symm spanned
  · rw [applyStore, if_neg reached]
    obtain earlier | ⟨rfl, spanned⟩ := reason
    · exact back earlier
    · exact absurd ⟨rfl, (storeSized_covers width).mpr (spans_iff.mp spanned)⟩ reached

omit undeclared back in
theorem restores_of_reads {cfg : Window} {offset size : Nat} {value : U32}
    (read : ReadsFrom entry cfg offset size value) :
    cfg = window → spans offset size bit = true →
      value.getLsbD (bit - 8 * offset) = entry window bit := by
  rintro rfl spanned
  rw [spans_iff] at spanned
  have answer := read (bit - 8 * offset) (by omega)
  rwa [show 8 * offset + (bit - 8 * offset) = bit by omega] at answer

theorem writew_back {α : Type} {cfg : Window} {offset : Nat} {value : U16} {f : Unit → Kernel α}
    {post : Content → α → Prop} (read : ReadsFrom entry cfg offset 2 (value.setWidth 32))
    (rest : ∀ after, (hit ∨ cfg = window ∧ spans offset 2 bit = true →
      after window bit = entry window bit) →
      (f ()).Safe (storage (declared saved) settle) post after) :
    (query (.writew cfg offset value) >>= f).Safe (storage (declared saved) settle) post
      content := by
  refine (Prog.safe_call_bind _ _ _ _ _).mpr fun _ _ => ⟨trivial, rest _ ?_⟩
  have stored := applyStore_back undeclared back settle (.inl rfl) (restores_of_reads read)
  simpa [storage, storeOf, storeSized] using stored

theorem writel_back {α : Type} {cfg : Window} {offset : Nat} {value : U32} {f : Unit → Kernel α}
    {post : Content → α → Prop} (read : ReadsFrom entry cfg offset 4 value)
    (rest : ∀ after, (hit ∨ cfg = window ∧ spans offset 4 bit = true →
      after window bit = entry window bit) →
      (f ()).Safe (storage (declared saved) settle) post after) :
    (query (.writel cfg offset value) >>= f).Safe (storage (declared saved) settle) post
      content :=
  (Prog.safe_call_bind _ _ _ _ _).mpr fun _ _ =>
    ⟨trivial, rest _ (applyStore_back undeclared back settle (.inr rfl) (restores_of_reads read))⟩

theorem restoreControls_back (shaped : ControlsShaped saved)
    (values : ∀ control ∈ saved.controls, ∃ value,
      ReadsFrom entry (busWindow control.bus) control.offset control.size value ∧
        control.saved = value &&& control.mask)
    {controls : List ScanControl} (members : ∀ control ∈ controls, control ∈ saved.controls)
    (ret : Int) :
    (restoreControls controls ret).Safe (storage (declared saved) settle) (fun after _ =>
      (hit ∨ ∃ control ∈ controls, controlSpans window control bit = true) →
        after window bit = entry window bit) content := by
  induction controls generalizing content hit ret with
  | nil => exact fun reason => back (by simpa using reason)
  | cons control controls ih =>
    have member := members control (.head _)
    obtain ⟨value, read, saved_eq⟩ := values control member
    have restores : busWindow control.bus = window →
        spans control.offset control.size bit = true →
        control.saved.getLsbD (bit - 8 * control.offset) = entry window bit := by
      intro here spanned
      have masked : maskBit control bit = true := by
        by_contra unmasked
        rw [Bool.not_eq_true] at unmasked
        have := declared_iff.mpr (.inr (.inr ⟨control, member,
          controlSpans_iff.mpr ⟨here, spanned⟩, unmasked⟩))
        rw [undeclared] at this
        contradiction
      rw [saved_eq, BitVec.getLsbD_and, restores_of_reads read here spanned]
      rw [maskBit] at masked
      rw [masked, Bool.and_true]
    refine storage_writeSized.bind _ ?_
    rintro _ _ rfl
    have stored := applyStore_back undeclared back settle (shaped control member).width restores
    refine (readSized_safe (storage_reading _ _ _) (busWindow_config _)
      (shaped control member).width).bind _ ?_
    rintro _ observed ⟨rfl, _⟩
    refine (ih stored (fun later there => members later (.tail _ there)) _).mono _ ?_
    intro after _ done reason
    refine done ?_
    obtain earlier | ⟨found, (_ | ⟨_, there⟩), spanned⟩ := reason
    · exact .inl (.inl earlier)
    · exact .inl (.inr (controlSpans_iff.mp spanned))
    · exact .inr ⟨found, there, spanned⟩

theorem restoreBars_back {cfg : Window} (config : isConfig cfg = true) {bars : List (Nat × U32)}
    (reads : ∀ bar ∈ bars, ReadsFrom entry cfg bar.1 4 bar.2) (ret : Int) :
    (restoreBars cfg bars ret).Safe (storage (declared saved) settle) (fun after _ =>
      (hit ∨ ∃ bar ∈ bars, cfg = window ∧ spans bar.1 4 bit = true) →
        after window bit = entry window bit) content := by
  induction bars generalizing content hit ret with
  | nil => exact fun reason => back (by simpa using reason)
  | cons bar bars ih =>
    refine writel_back undeclared back (reads bar (.head _)) fun after back => ?_
    refine (readlIs_safe (storage_reading _ _ _) config _ _).bind _ ?_
    rintro _ same rfl
    refine (ih back (fun later there => reads later (.tail _ there)) _).mono _ ?_
    intro after _ done reason
    refine done ?_
    obtain earlier | ⟨found, (_ | ⟨_, there⟩), spanned⟩ := reason
    · exact .inl (.inl earlier)
    · exact .inl (.inr spanned)
    · exact .inr ⟨found, there, spanned⟩

omit undeclared back in
theorem bar_spanned {bars : List (Nat × U32)} {offsets : List Nat} {offset size : Nat}
    (places : bars.map Prod.fst = offsets) (spanned : spans offset size bit = true) :
    size = 4 → offset ∈ offsets → ∃ bar ∈ bars, spans bar.1 4 bit = true := by
  rintro rfl listed
  rw [← places, List.mem_map] at listed
  obtain ⟨bar, member, rfl⟩ := listed
  exact ⟨bar, member, spanned⟩

theorem restoreConfig_back {scan : Scan} (shaped : ControlsShaped saved)
    (values : ∀ control ∈ saved.controls, ∃ value,
      ReadsFrom entry (busWindow control.bus) control.offset control.size value ∧
        control.saved = value &&& control.mask)
    (controls : scan.controls = saved.controls) {state : EntryState}
    (entered : Entered (ReadsFrom entry) state) (ret : Int) :
    (restoreConfig scan state ret).Safe (storage (declared saved) settle) (fun after _ =>
      (hit ∨ restored saved window bit = true) → after window bit = entry window bit)
      content := by
  unfold restoreConfig
  rw [controls]
  refine (restoreControls_back undeclared back shaped values
    (fun control member => List.mem_reverse.mp member) _).bind _ fun content ret back => ?_
  refine writew_back undeclared back entered.readEpCommand fun content back => ?_
  refine writew_back undeclared back entered.readRcCommand fun content back => ?_
  refine (restoreBars_back undeclared back rfl entered.readRcBars _).bind _
    fun content ret back => ?_
  refine (restoreBars_back undeclared back rfl entered.readEpBars _).bind _
    fun content ret back => ?_
  refine writel_back undeclared back entered.readRcRom fun content back => ?_
  refine writel_back undeclared back entered.readEpRom fun content back => ?_
  refine writel_back undeclared back entered.readBusNumbers fun content back => ?_
  refine writew_back undeclared back entered.readControl fun content back => ?_
  have reading := storage_reading (declared saved) settle content
  refine (allOf_safe ?_).bind _ ?_
  · simp only [List.mem_cons, List.not_mem_nil, or_false, forall_eq_or_imp, forall_eq]
    exact ⟨readwIs_safe reading rfl _ _, readwIs_safe reading rfl _ _,
      readlIs_safe reading rfl _ _, readlIs_safe reading rfl _ _, readlIs_safe reading rfl _ _,
      readwIs_safe reading rfl _ _⟩
  rintro _ same rfl reason
  refine back ?_
  obtain earlier | found := reason
  · simp only [earlier, true_or]
  obtain ⟨⟨offset, size⟩, fixed, spanned⟩ | ⟨control, member, spanned, _⟩ := restored_iff.mp found
  · have spanned : spans offset size bit = true := spanned
    have rcBar := bar_spanned entered.rcBarOffsets spanned
    have epBar := bar_spanned entered.epBarOffsets spanned
    cases window with
    | root =>
      simp only [fixedRegisters, List.mem_cons, Prod.mk.injEq, List.not_mem_nil, or_false] at fixed
      obtain ⟨rfl, rfl⟩ | ⟨rfl, rfl⟩ | ⟨rfl, rfl⟩ | ⟨rfl, rfl⟩ | ⟨rfl, rfl⟩ | ⟨rfl, rfl⟩ := fixed
      all_goals first
        | simp only [rcBar rfl (by decide), true_and, or_true, true_or]
        | simp only [spanned, and_self, or_true, true_or]
    | endpoint =>
      simp only [fixedRegisters, List.mem_cons, Prod.mk.injEq, List.not_mem_nil, or_false] at fixed
      obtain ⟨rfl, rfl⟩ | ⟨rfl, rfl⟩ | ⟨rfl, rfl⟩ | ⟨rfl, rfl⟩ | ⟨rfl, rfl⟩ | ⟨rfl, rfl⟩ |
        ⟨rfl, rfl⟩ | ⟨rfl, rfl⟩ := fixed
      all_goals first
        | simp only [epBar rfl (by decide), true_and, or_true, true_or]
        | simp only [spanned, and_self, or_true, true_or]
    | _ => simp [fixedRegisters] at fixed
  · have saved : ∃ control ∈ saved.controls.reverse, controlSpans window control bit = true :=
      ⟨control, List.mem_reverse.mpr member, spanned⟩
    simp only [saved, or_true, true_or]

end Restore

def configRead : Call → Bool
  | .readb window _ | .readw window _ | .readl window _ => isConfig window
  | _ => false

/-- What saving the controls of a device with this content results in. -/
def savedOn (content : Content) (options : ScanOptions) : Int × Scan :=
  (execOn content (scanSaveControls (newScan options))).2

theorem only_reading : Reading (Monitor.only (configRead · = true)) () fun _ _ _ _ => True where
  readb _ _ config _ := ⟨config, rfl⟩
  readw _ _ config _ := ⟨config, rfl, trivial⟩
  readl _ _ config _ := ⟨config, rfl, trivial⟩

theorem scanSaveControls_reads (options : ScanOptions) :
    (scanSaveControls (newScan options)).Yields (configRead · = true) fun _ => True :=
  (scanSaveControls_safe only_reading rfl).onlyYields.mono (fun _ used => used) fun _ _ => trivial

/-- On a device with this content, saving the controls leaves the content and gives `savedOn`. -/
theorem scanSaveControls_storage (volatile : Window → Nat → Bool) (settle : Settle)
    (content : Content) (options : ScanOptions) :
    (scanSaveControls (newScan options)).Safe (storage volatile settle)
      (fun after result => after = content ∧ result = savedOn content options) content := by
  refine (scanSaveControls_reads options).determined _ (readAnswer content) ?_ []
  intro c r config admitted
  cases c with
  | readb => exact ⟨admitted config, trivial, rfl⟩
  | readw => exact ⟨admitted config, trivial, rfl⟩
  | readl => exact ⟨admitted config, trivial, rfl⟩
  | _ => contradiction

/-- What a successful save on the device records is what the device holds. -/
theorem savedOn_saved {content : Content} {options : ScanOptions}
    (save : (savedOn content options).1 = 0) :
    Saved (ReadsFrom content) (newScan options) (savedOn content options).2 ∧
      WindowSaved (savedOn content options).2 := by
  have safe := scanSaveControls_safe
    (storage_reading (fun _ _ => false) (fun _ _ old _ => old) content)
    (show (newScan options).controls = [] from rfl)
  have recorded := safe.exec _ (scanSaveControls_reads options) (readAnswer content) (by
    intro c config
    cases c with
    | readb | readw | readl => exact ⟨fun _ => rfl, rfl⟩
    | _ => cases config) []
  exact recorded.2 save

/-- The options under which the firmware phase can begin. -/
def reachesFirmware (options : ScanOptions) : Bool :=
  options.bindFirmware && options.dart && options.msiDomain && options.assignMemory

theorem firmwareMayBegin_saved {content : Content} {options : ScanOptions}
    (save : (savedOn content options).1 = 0) :
    firmwareMayBegin (savedOn content options).2 = reachesFirmware options := by
  rw [(savedOn_saved save).1.same]
  simp [firmwareMayBegin, reachesFirmware, newScan]

/-- The endpoint register of the driver's link-control write is among the saved controls. -/
def LinkSaved (scan : Scan) : Prop :=
  ∃ control ∈ scan.controls, control.bus = 1 ∧ control.offset = 0xbc

section Saved

variable {content : Content} {options : ScanOptions} (save : (savedOn content options).1 = 0)
include save

theorem prepared_saved (linked : reachesFirmware options = true →
      LinkSaved (savedOn content options).2) :
    Prepared (savedOn content options).2 (savedOn content options).2 := by
  obtain ⟨saved, window⟩ := savedOn_saved save
  have inactive : (savedOn content options).2.firmwareActive = false := by rw [saved.same]; rfl
  have begins : firmwareMayBegin (savedOn content options).2 = true →
      FirmwareSaved (savedOn content options).2 := by
    intro begins
    have bound : (savedOn content options).2.bindFirmware = true := by
      simp only [firmwareMayBegin, Bool.and_eq_true] at begins
      exact begins.1.1.1.1
    obtain ⟨control, member, bus, offset, size, _⟩ := window bound
    rw [firmwareMayBegin_saved save] at begins
    exact ⟨⟨control, member, bus, offset, size⟩, linked begins⟩
  exact ⟨rfl, fun active => by simp [inactive] at active, begins⟩

theorem storage_proof (linked : reachesFirmware options = true →
      LinkSaved (savedOn content options).2) (settle : Settle) :
    ScanProof (storage (declared (savedOn content options).2) settle)
      (Confined (savedOn content options).2 content) content (ReadsFrom content) options
      (fun after _ => ∀ place : { place : Window × Nat //
          declared (savedOn content options).2 place.1 place.2 = false },
        after place.1.1 place.1.2 = content place.1.1 place.1.2) where
  invariant := storage_invariant (savedOn_saved save).1.shaped content settle
  inert {c} state r quiet _ := by
    refine ⟨trivial, ?_⟩
    cases c <;> first | (cases quiet; done) | rfl
  reading := storage_reading _ _ _
  saves := by
    refine (scanSaveControls_storage _ settle content options).mono _ ?_
    rintro _ _ ⟨rfl, rfl⟩
    exact ⟨rfl, fun _ => ⟨prepared_saved save linked, fun _ _ _ _ => rfl⟩⟩
  restore {state scan entry} ret held entered := by
    have saved := (savedOn_saved save).1
    have allows := Prog.safe_of_allows (storage (declared (savedOn content options).2) settle)
      (fun _ _ => trivial) (restoreConfig scan entry ret) state
    refine Prog.Safe.all _ allows fun ⟨⟨window, bit⟩, undeclared⟩ => ?_
    have back : restored (savedOn content options).2 window bit = false →
        state window bit = content window bit :=
      fun unrestored => held.kept window bit unrestored undeclared
    refine (restoreConfig_back undeclared back saved.shaped saved.values held.prepared.controls
      entered ret).mono _ fun after _ done => done ?_
    cases restored (savedOn content options).2 window bit
    · exact .inl rfl
    · exact .inr rfl
  untouched _ _ := rfl
  cleanup _ done := done

/-- With the endpoint's link control among the saved controls, every write is undone. -/
theorem undone_of_linkSaved (linked : reachesFirmware options = true →
      LinkSaved (savedOn content options).2) :
    Undone options content (savedOn content options).2 where
  covered steps t after run event member := by
    have invariant := coverage_invariant (savedOn_saved save).1.shaped
    have safe : (guardSteps firmwareMayBegin (savedOn content options).2 steps).Safe
        (coverage (savedOn content options).2)
        (fun _ scan => Prepared (savedOn content options).2 scan) () :=
      guardSteps_safe invariant (prepared_saved save linked) invariant.activate steps
    obtain ⟨allowed, _⟩ := Prog.safe_runs _ safe run
      ((coverage _).admits_of_forall (fun _ _ => trivial) _ _)
    exact ((coverage _).allows_of_mem allowed member).choose_spec
  equal settle t ret run admitted _ window bit undeclared := by
    have safe := pciScan_safe (storage_proof save linked settle)
    exact (Prog.safe_runs _ safe run admitted).2 ⟨⟨window, bit⟩, undeclared⟩

/-- Without it, the firmware phase can write a register that nothing writes back. -/
theorem not_undone (reaches : reachesFirmware options = true)
    (unlinked : ¬ LinkSaved (savedOn content options).2) :
    ¬ Undone options content (savedOn content options).2 := by
  intro undone
  obtain ⟨saved, _⟩ := savedOn_saved save
  have begins := firmwareMayBegin_saved save
  rw [reaches] at begins
  have run : (guardSteps firmwareMayBegin (savedOn content options).2
      [.activate, .write ⟨1, 0, 0xbc, 4, 0⟩]).Runs
      [⟨.activateFirmware, ()⟩, ⟨.writew .endpoint 0xbc 0, ()⟩]
      { (savedOn content options).2 with firmwareActive := true } := by
    simp only [guardSteps, begins, onlyIf, if_true]
    exact ⟨(), _, rfl, (), _, rfl, rfl, rfl⟩
  have covered := undone.covered _ _ _ run _ (.tail _ (.head _)) (.endpoint, ⟨0xbc, 2, 0⟩) rfl
    (8 * 0xbc) (by decide)
  have unspanned : ∀ control ∈ (savedOn content options).2.controls,
      ¬ controlSpans .endpoint control (8 * 0xbc) = true := by
    intro control member spanned
    obtain ⟨window, spanned⟩ := controlSpans_iff.mp spanned
    rw [spans_iff] at spanned
    obtain ⟨bus, width, aligned, _⟩ := saved.shaped control member
    have endpoint : control.bus = 1 := by
      obtain root | endpoint := bus
      · rw [root] at window
        cases window
      · exact endpoint
    have here : control.offset = 0xbc := by
      obtain width | width := width <;> rw [width] at spanned aligned <;> omega
    exact unlinked ⟨control, member, endpoint, here⟩
  obtain restored | declared := covered
  · obtain ⟨register, fixed, spanned⟩ | ⟨control, member, spanned, _⟩ := restored_iff.mp restored
    · revert register
      decide
    · exact unspanned control member spanned
  · obtain ⟨window, _⟩ | ⟨_, spanned⟩ | ⟨control, member, spanned, _⟩ := declared_iff.mp declared
    · cases window
    · exact absurd spanned (by decide)
    · exact unspanned control member spanned

end Saved

/-- The guard's writes are all undone exactly when no firmware phase can begin or the endpoint's
register at 0xbc is among the saved controls. -/
theorem guard_writes_undone_iff {content : Content} {options : ScanOptions}
    (save : (savedOn content options).1 = 0) :
    Undone options content (savedOn content options).2 ↔
      (reachesFirmware options = true → LinkSaved (savedOn content options).2) := by
  refine ⟨fun undone reaches => ?_, undone_of_linkSaved save⟩
  by_contra unlinked
  exact not_undone save reaches unlinked undone

/-- The device of the sample keeps link control at 0xbc, where the driver writes it. -/
theorem guard_writes_undone_sample :
    Undone ⟨true, true, true, true, 0, false⟩ (sampleDevice 0xac)
      (savedOn (sampleDevice 0xac) ⟨true, true, true, true, 0, false⟩).2 := by
  have save : (savedOn (sampleDevice 0xac) ⟨true, true, true, true, 0, false⟩).1 = 0 := by
    decide +kernel
  refine (guard_writes_undone_iff save).mpr fun _ => ?_
  have linked : (savedOn (sampleDevice 0xac) ⟨true, true, true, true, 0, false⟩).2.controls.any
      (fun control => control.bus = 1 ∧ control.offset = 0xbc) = true := by decide +kernel
  obtain ⟨control, member, here⟩ := List.any_eq_true.mp linked
  exact ⟨control, member, of_decide_eq_true here⟩

/-- With the PCIe capability at 0x70 the entry checks and the save pass all the same, and the
driver's write at 0xbc is not undone. -/
theorem link_control_not_undone :
    (execOn (sampleDevice 0x70) scanEntry).2.isOk = true ∧
      (savedOn (sampleDevice 0x70) ⟨true, true, true, true, 0, false⟩).1 = 0 ∧
      ¬ Undone ⟨true, true, true, true, 0, false⟩ (sampleDevice 0x70)
        (savedOn (sampleDevice 0x70) ⟨true, true, true, true, 0, false⟩).2 := by
  have save : (savedOn (sampleDevice 0x70) ⟨true, true, true, true, 0, false⟩).1 = 0 := by
    decide +kernel
  refine ⟨by decide +kernel, save, not_undone save rfl ?_⟩
  rintro ⟨control, member, here⟩
  have unlinked : (savedOn (sampleDevice 0x70) ⟨true, true, true, true, 0, false⟩).2.controls.all
      (fun control => ¬ (control.bus = 1 ∧ control.offset = 0xbc)) = true := by decide +kernel
  exact of_decide_eq_true (List.all_eq_true.mp unlinked control member) here

end WinBoot.ConfigRestore
