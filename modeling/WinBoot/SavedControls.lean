import WinBoot.ConfigSpace
import WinBoot.PciHost

/-! What the entry checks and the saving of the controls establish. The facts hold under any
monitor in whose state reads are harmless; `reads` says what such a read may answer there. -/

namespace WinBoot.SavedControls
open Interaction KernelCalls PciScan PciHost ConfigSpace

/-- Where a saved control may lie. -/
structure ControlShape (control : ScanControl) : Prop where
  bus : control.bus = 0 ∨ control.bus = 1
  width : control.size = 2 ∨ control.size = 4
  aligned : control.offset % control.size = 0
  place : 0x40 ≤ control.offset ∨
    control.bus = 0 ∧ 0x1c ≤ control.offset ∧ control.offset + control.size ≤ 0x34

theorem ControlShape.device {bus offset size : Nat} {value mask : U32} (bus_eq : bus = 0 ∨ bus = 1)
    (width : size = 2 ∨ size = 4) (aligned : offset % size = 0) (place : 0x40 ≤ offset) :
    ControlShape ⟨bus, offset, size, value, mask⟩ := ⟨bus_eq, width, aligned, .inl place⟩

theorem ControlShape.rootWindow {offset size : Nat} {value mask : U32}
    (width : size = 2 ∨ size = 4) (aligned : offset % size = 0) (low : 0x1c ≤ offset)
    (high : offset + size ≤ 0x34) : ControlShape ⟨0, offset, size, value, mask⟩ :=
  ⟨.inl rfl, width, aligned, .inr ⟨rfl, low, high⟩⟩

/-- In this state reads of configuration space change nothing, and the words they answer satisfy
`reads`. -/
structure Reading {σ : Type} (m : Monitor Call Answer σ) (state : σ)
    (reads : Window → Nat → Nat → U32 → Prop) : Prop where
  readb : ∀ {window} offset value, isConfig window = true →
    m.admits state ⟨.readb window offset, value⟩ →
    m.allows state ⟨.readb window offset, value⟩ ∧
      m.next state ⟨.readb window offset, value⟩ = state
  readw : ∀ {window} offset value, isConfig window = true →
    m.admits state ⟨.readw window offset, value⟩ →
    m.allows state ⟨.readw window offset, value⟩ ∧
      m.next state ⟨.readw window offset, value⟩ = state ∧
      reads window offset 2 (value.setWidth 32)
  readl : ∀ {window} offset value, isConfig window = true →
    m.admits state ⟨.readl window offset, value⟩ →
    m.allows state ⟨.readl window offset, value⟩ ∧
      m.next state ⟨.readl window offset, value⟩ = state ∧ reads window offset 4 value

/-- The controls recorded so far, and that nothing else of the scan but the MSI capability's
place and width has changed. -/
structure Saved (reads : Window → Nat → Nat → U32 → Prop) (start scan : Scan) : Prop where
  same : scan = { start with
    controls := scan.controls, msiCap := scan.msiCap, msi64 := scan.msi64 }
  shaped : ∀ control ∈ scan.controls, ControlShape control
  values : ∀ control ∈ scan.controls, ∃ value,
    reads (busWindow control.bus) control.offset control.size value ∧
      control.saved = value &&& control.mask

theorem busWindow_config (bus : Nat) : isConfig (busWindow bus) = true := by
  unfold busWindow
  split_ifs <;> rfl

section Reading

variable {σ α : Type} {m : Monitor Call Answer σ} {state : σ}
  {reads : Window → Nat → Nat → U32 → Prop} (reading : Reading m state reads)
include reading

theorem Reading.readb_bind {window : Window} {offset : Nat} {f : U8 → Kernel α}
    {post : σ → α → Prop} (config : isConfig window = true)
    (rest : ∀ value, (f value).Safe m post state) :
    (query (.readb window offset) >>= f).Safe m post state := by
  refine (Prog.safe_call_bind m _ _ _ _).mpr fun value admitted => ?_
  obtain ⟨allowed, stays⟩ := reading.readb offset value config admitted
  rw [stays]
  exact ⟨allowed, rest value⟩

theorem Reading.readw_bind {window : Window} {offset : Nat} {f : U16 → Kernel α}
    {post : σ → α → Prop} (config : isConfig window = true)
    (rest : ∀ value, reads window offset 2 (value.setWidth 32) → (f value).Safe m post state) :
    (query (.readw window offset) >>= f).Safe m post state := by
  refine (Prog.safe_call_bind m _ _ _ _).mpr fun value admitted => ?_
  obtain ⟨allowed, stays, answer⟩ := reading.readw offset value config admitted
  rw [stays]
  exact ⟨allowed, rest value answer⟩

theorem Reading.readl_bind {window : Window} {offset : Nat} {f : U32 → Kernel α}
    {post : σ → α → Prop} (config : isConfig window = true)
    (rest : ∀ value, reads window offset 4 value → (f value).Safe m post state) :
    (query (.readl window offset) >>= f).Safe m post state := by
  refine (Prog.safe_call_bind m _ _ _ _).mpr fun value admitted => ?_
  obtain ⟨allowed, stays, answer⟩ := reading.readl offset value config admitted
  rw [stays]
  exact ⟨allowed, rest value answer⟩

theorem readSized_safe {cfg : Window} {offset size : Nat} (config : isConfig cfg = true)
    (width : size = 2 ∨ size = 4) :
    (readSized cfg offset size).Safe m
      (fun after value => after = state ∧ reads cfg offset size value) state := by
  unfold readSized
  obtain rfl | rfl := width
  · exact reading.readw_bind config fun value answer => ⟨rfl, answer⟩
  · exact reading.readl_bind config fun value answer => ⟨rfl, answer⟩

theorem scanCapFrom_safe {cfg : Window} (config : isConfig cfg = true) (id count pos : Nat) :
    (scanCapFrom cfg id count pos).Safe m (fun after result => after = state ∧
      (result < 0 ∨ 0x40 ≤ result ∧ result ≤ 0xfc ∧ result % 4 = 0)) state := by
  induction count generalizing pos with
  | zero => exact ⟨rfl, .inl (by decide)⟩
  | succ count ih =>
    unfold scanCapFrom
    split_ifs with last bad
    · exact ⟨rfl, .inl (by decide)⟩
    · exact ⟨rfl, .inl (by decide)⟩
    · refine reading.readb_bind config fun found => ?_
      split_ifs with here
      · exact ⟨rfl, .inr (by omega)⟩
      · exact reading.readb_bind config fun next => ih next.toNat

theorem scanCap_safe {cfg : Window} (config : isConfig cfg = true) (id : Nat) :
    (scanCap cfg id).Safe m (fun after result => after = state ∧
      (result < 0 ∨ 0x40 ≤ result ∧ result ≤ 0xfc ∧ result % 4 = 0)) state :=
  reading.readb_bind config fun pos => scanCapFrom_safe reading config id 48 pos.toNat

theorem scanExtcapFrom_safe {cfg : Window} (config : isConfig cfg = true) (id count pos : Nat) :
    (scanExtcapFrom cfg id count pos).Safe m (fun after result => after = state ∧
      (result < 0 ∨ 0x100 ≤ result ∧ result ≤ 0xffc ∧ result % 4 = 0)) state := by
  induction count generalizing pos with
  | zero => exact ⟨rfl, .inl (by decide)⟩
  | succ count ih =>
    unfold scanExtcapFrom
    split_ifs with last bad
    · exact ⟨rfl, .inl (by decide)⟩
    · exact ⟨rfl, .inl (by decide)⟩
    · refine reading.readl_bind config fun header _ => ?_
      split_ifs with absent here
      · exact ⟨rfl, .inl (by decide)⟩
      · exact ⟨rfl, .inr (by omega)⟩
      · exact ih _

theorem scanExtcap_safe {cfg : Window} (config : isConfig cfg = true) (id : Nat) :
    (scanExtcap cfg id).Safe m (fun after result => after = state ∧
      (result < 0 ∨ 0x100 ≤ result ∧ result ≤ 0xffc ∧ result % 4 = 0)) state :=
  scanExtcapFrom_safe reading config id 256 0x100

variable {start scan : Scan} (saved : Saved reads start scan)
include saved

theorem scanSaveControl_safe {bus offset size : Nat} {mask : U32}
    (shape : ∀ value, ControlShape ⟨bus, offset, size, value, mask⟩) :
    (scanSaveControl scan bus offset size mask).Safe m
      (fun after scan' => after = state ∧ Saved reads start scan' ∧
        ∃ value, scan'.controls = scan.controls ++ [⟨bus, offset, size, value, mask⟩]) state := by
  refine (readSized_safe reading (busWindow_config bus) (shape 0).width).bind m ?_
  rintro after value ⟨rfl, answer⟩
  refine ⟨rfl, ⟨?_, ?_, ?_⟩, _, rfl⟩
  · rw [saved.same]
  · intro control member
    obtain member | rfl := (List.mem_append.mp member).imp_right List.mem_singleton.mp
    · exact saved.shaped control member
    · exact shape _
  · intro control member
    obtain member | rfl := (List.mem_append.mp member).imp_right List.mem_singleton.mp
    · exact saved.values control member
    · exact ⟨value, answer, rfl⟩

/-- Saving one more control before the rest. -/
theorem saveControl_bind {α : Type} {bus offset size : Nat} {mask : U32} {f : Scan → Kernel α}
    {post : σ → α → Prop} (shape : ∀ value, ControlShape ⟨bus, offset, size, value, mask⟩)
    (rest : ∀ scan', Saved reads start scan' →
      (∃ value, scan'.controls = scan.controls ++ [⟨bus, offset, size, value, mask⟩]) →
      (f scan').Safe m post state) :
    (scanSaveControl scan bus offset size mask >>= f).Safe m post state := by
  refine (scanSaveControl_safe reading saved shape).bind m ?_
  rintro after scan' ⟨rfl, saved, appended⟩
  exact rest scan' saved appended

theorem scanSaveBusControls_safe {bus : Nat} (device : bus = 0 ∨ bus = 1) :
    (scanSaveBusControls scan bus).Safe m (fun after result => after = state ∧
      (result.1 = 0 → Saved reads start result.2)) state := by
  unfold scanSaveBusControls
  refine (scanCap_safe reading (busWindow_config bus) _).bind m ?_
  rintro _ pm ⟨rfl, pm_place⟩
  refine (scanCap_safe reading (busWindow_config bus) _).bind m ?_
  rintro _ exp ⟨rfl, exp_place⟩
  refine (scanExtcap_safe reading (busWindow_config bus) _).bind m ?_
  rintro _ l1ss ⟨rfl, l1ss_place⟩
  split_ifs with missing
  · exact ⟨rfl, fun h => absurd h (show enodev ≠ 0 by decide)⟩
  push Not at missing
  refine reading.readw_bind (busWindow_config bus) fun control _ => ?_
  split_ifs with awake
  · exact ⟨rfl, fun h => absurd h (show ebusy ≠ 0 by decide)⟩
  simp only [pciPmCtrl, pciExpDevctl2, pciExpLnkctl, pciL1ssCtl1, pciL1ssCtl2] at missing ⊢
  refine saveControl_bind reading saved
    (fun _ => .device device (.inl rfl) (by omega) (by omega)) fun scan saved _ => ?_
  refine saveControl_bind reading saved
    (fun _ => .device device (.inl rfl) (by omega) (by omega)) fun scan saved _ => ?_
  refine saveControl_bind reading saved
    (fun _ => .device device (.inl rfl) (by omega) (by omega)) fun scan saved _ => ?_
  refine saveControl_bind reading saved
    (fun _ => .device device (.inr rfl) (by omega) (by omega)) fun scan saved _ => ?_
  refine saveControl_bind reading saved
    (fun _ => .device device (.inr rfl) (by omega) (by omega)) fun scan saved _ => ?_
  exact ⟨rfl, fun _ => saved⟩

theorem scanSaveMemoryWindows_safe : (scanSaveMemoryWindows scan).Safe m
    (fun after scan' => after = state ∧ Saved reads start scan') state := by
  unfold scanSaveMemoryWindows
  refine saveControl_bind reading saved
    (fun _ => .rootWindow (.inl rfl) (by decide) (by decide) (by decide)) fun scan saved _ => ?_
  refine saveControl_bind reading saved
    (fun _ => .rootWindow (.inr rfl) (by decide) (by decide) (by decide)) fun scan saved _ => ?_
  split_ifs
  · exact ⟨rfl, saved⟩
  refine saveControl_bind reading saved
    (fun _ => .rootWindow (.inr rfl) (by decide) (by decide) (by decide)) fun scan saved _ => ?_
  refine saveControl_bind reading saved
    (fun _ => .rootWindow (.inr rfl) (by decide) (by decide) (by decide)) fun scan saved _ => ?_
  refine saveControl_bind reading saved
    (fun _ => .rootWindow (.inr rfl) (by decide) (by decide) (by decide)) fun scan saved _ => ?_
  refine (scanSaveControl_safe reading saved
    (fun _ => .rootWindow (.inr rfl) (by decide) (by decide) (by decide))).mono m ?_
  rintro after scan' ⟨rfl, saved, _⟩
  exact ⟨rfl, saved⟩

omit reading in
theorem Saved.msi (cap : Nat) (msi64 : Bool) :
    Saved reads start { scan with msiCap := cap, msi64 := msi64 } :=
  ⟨by rw [saved.same], saved.shaped, saved.values⟩

theorem saveControlIf_bind {α : Type} {needed : Bool} {bus offset size : Nat} {mask : U32}
    {f : Scan → Kernel α} {post : σ → α → Prop}
    (shape : ∀ value, ControlShape ⟨bus, offset, size, value, mask⟩)
    (rest : ∀ scan', Saved reads start scan' → (f scan').Safe m post state) :
    (onlyIf needed scan (scanSaveControl scan bus offset size mask) >>= f).Safe m post state := by
  cases needed with
  | true => exact saveControl_bind reading saved shape fun scan' saved _ => rest scan' saved
  | false => exact rest scan saved

theorem scanSaveMsi_safe : (scanSaveMsi scan).Safe m (fun after result => after = state ∧
      (result.1 = 0 → Saved reads start result.2)) state := by
  unfold scanSaveMsi
  split_ifs
  · exact ⟨rfl, fun _ => saved⟩
  refine (scanCap_safe reading rfl _).bind m ?_
  rintro _ cap ⟨rfl, place⟩
  by_cases missing : cap < 0 ∨ cap > 0xe8
  · rw [if_pos missing]
    exact ⟨rfl, fun h => absurd h (show enodev ≠ 0 by decide)⟩
  rw [if_neg missing]
  refine reading.readw_bind rfl fun flags _ => ?_
  by_cases enabled : flags &&& msiFlagsEnable ≠ 0
  · rw [if_pos enabled]
    exact ⟨rfl, fun h => absurd h (show ebusy ≠ 0 by decide)⟩
  rw [if_neg enabled]
  simp only [pciMsiFlags, pciMsiAddressLo, pciMsiAddressHi, pciMsiData64, pciMsiData32,
    pciMsiMask64, pciMsiMask32]
  refine saveControl_bind reading (saved.msi _ _)
    (fun _ => .device (.inr rfl) (.inl rfl) (by omega) (by omega)) fun scan saved _ => ?_
  refine saveControl_bind reading saved
    (fun _ => .device (.inr rfl) (.inr rfl) (by omega) (by omega)) fun scan saved _ => ?_
  refine saveControlIf_bind reading saved ?_ fun scan saved => ?_
  · exact fun _ => .device (.inr rfl) (.inr rfl) (by omega) (by omega)
  refine saveControl_bind reading saved ?_ fun scan saved _ => ?_
  · exact fun _ => .device (.inr rfl) (.inl rfl) (by split_ifs <;> omega) (by omega)
  refine saveControlIf_bind reading saved ?_ fun scan saved => ?_
  · exact fun _ => .device (.inr rfl) (.inr rfl) (by split_ifs <;> omega) (by omega)
  exact ⟨rfl, fun _ => saved⟩

/-- The BAR0 window register that the firmware phase may write is among the saved controls. -/
def WindowSaved (scan : Scan) : Prop :=
  scan.bindFirmware = true → ∃ control ∈ scan.controls,
    control.bus = 1 ∧ control.offset = 0x80 ∧ control.size = 4 ∧ control.mask = allOnes

theorem scanSaveFirmware_safe : (scanSaveFirmware scan).Safe m
    (fun after scan' => after = state ∧ Saved reads start scan' ∧ WindowSaved scan') state := by
  unfold scanSaveFirmware
  split_ifs with bind
  · exact ⟨rfl, saved, fun bound => by simp [bound] at bind⟩
  refine saveControl_bind reading saved
    (fun _ => .device (.inr rfl) (.inr rfl) (by decide) (by decide)) fun s₁ saved ⟨v₁, e₁⟩ => ?_
  refine saveControl_bind reading saved
    (fun _ => .device (.inr rfl) (.inl rfl) (by decide) (by decide)) fun s₂ saved ⟨v₂, e₂⟩ => ?_
  refine saveControl_bind reading saved
    (fun _ => .device (.inr rfl) (.inr rfl) (by decide) (by decide)) fun s₃ saved ⟨v₃, e₃⟩ => ?_
  refine saveControl_bind reading saved
    (fun _ => .device (.inr rfl) (.inr rfl) (by decide) (by decide)) fun s₄ saved ⟨v₄, e₄⟩ => ?_
  refine (scanSaveControl_safe reading saved
    (fun _ => .device (.inr rfl) (.inr rfl) (by decide) (by decide))).mono m ?_
  rintro after s₅ ⟨rfl, saved, v₅, e₅⟩
  refine ⟨rfl, saved, fun _ => ⟨⟨1, 0x80, 4, v₁, allOnes⟩, ?_, rfl, rfl, rfl, rfl⟩⟩
  simp [e₁, e₂, e₃, e₄, e₅]

end Reading

/-- What `a1625_pci_scan` has found when its entry checks pass. -/
structure Entered (reads : Window → Nat → Nat → U32 → Prop) (entry : EntryState) : Prop where
  rcCommand : entry.rcCommand = 0
  epCommand : entry.epCommand = 0
  control : entry.control.setWidth 32 &&& bridgeCtlBusReset = 0
  busNumbers : entry.busNumbers &&& 0xffffff = 0x010100
  rcRom : entry.rcRom &&& romAddressEnable = 0
  epRom : entry.epRom &&& romAddressEnable = 0
  rcBarOffsets : entry.rcBars.map Prod.fst = rcBarOffsets
  epBarOffsets : entry.epBars.map Prod.fst = epBarOffsets
  readRcCommand : reads .root pciCommand 2 (entry.rcCommand.setWidth 32)
  readEpCommand : reads .endpoint pciCommand 2 (entry.epCommand.setWidth 32)
  readControl : reads .root pciBridgeControl 2 (entry.control.setWidth 32)
  readBusNumbers : reads .root pciPrimaryBus 4 entry.busNumbers
  readRcBars : ∀ bar ∈ entry.rcBars, reads .root bar.1 4 bar.2
  readEpBars : ∀ bar ∈ entry.epBars, reads .endpoint bar.1 4 bar.2
  readRcRom : reads .root pciRomAddress1 4 entry.rcRom
  readEpRom : reads .endpoint pciRomAddress 4 entry.epRom

theorem allOf_safe {σ : Type} {m : Monitor Call Answer σ} {state : σ} {tests : List (Kernel Bool)}
    (safe : ∀ test ∈ tests, test.Safe m (fun after _ => after = state) state) :
    (allOf tests).Safe m (fun after _ => after = state) state := by
  induction tests with
  | nil => rfl
  | cons test tests ih =>
    refine (safe test (.head _)).bind m ?_
    rintro _ passed rfl
    split_ifs
    · exact ih fun test member => safe test (.tail _ member)
    · rfl

section Entry

variable {σ : Type} {m : Monitor Call Answer σ} {state : σ}
  {reads : Window → Nat → Nat → U32 → Prop} (reading : Reading m state reads)
include reading

theorem readlIs_safe {window : Window} (config : isConfig window = true) (offset : Nat)
    (value : U32) :
    (readlIs window offset value).Safe m (fun after _ => after = state) state :=
  reading.readl_bind config fun _ _ => rfl

theorem readwIs_safe {window : Window} (config : isConfig window = true) (offset : Nat)
    (value : U16) :
    (readwIs window offset value).Safe m (fun after _ => after = state) state :=
  reading.readw_bind config fun _ _ => rfl

theorem readBars_safe {cfg : Window} (config : isConfig cfg = true) (offsets : List Nat) :
    (readBars cfg offsets).Safe m (fun after bars => after = state ∧
      bars.map Prod.fst = offsets ∧ ∀ bar ∈ bars, reads cfg bar.1 4 bar.2) state := by
  induction offsets with
  | nil => exact ⟨rfl, rfl, by simp⟩
  | cons offset offsets ih =>
    refine reading.readl_bind config fun value answer => ?_
    refine ih.bind m ?_
    rintro _ bars ⟨rfl, places, answers⟩
    refine ⟨rfl, by rw [List.map_cons, places], ?_⟩
    rintro bar (_ | ⟨_, member⟩)
    · exact answer
    · exact answers bar member

theorem scanEntry_safe (findBus : ∀ found, m.admits state ⟨.pciFindBus 0, found⟩ →
      m.allows state ⟨.pciFindBus 0, found⟩ ∧ m.next state ⟨.pciFindBus 0, found⟩ = state) :
    scanEntry.Safe m (fun after result => after = state ∧
    ∀ entry, result = .ok entry → Entered reads entry) state := by
  unfold scanEntry
  refine (Prog.safe_call_bind m _ _ _ _).mpr fun found admitted => ?_
  obtain ⟨allowed, stays⟩ := findBus found admitted
  rw [stays]
  refine ⟨allowed, ?_⟩
  cases found with
  | true => exact ⟨rfl, by simp⟩
  | false =>
  have identified : (allOf [readlIs .root 0 0x1002106b, readlIs .endpoint 0 0x43a314e4]).Safe m
      (fun after _ => after = state) state := by
    apply allOf_safe
    simp only [List.mem_cons, List.not_mem_nil, or_false, forall_eq_or_imp, forall_eq]
    exact ⟨readlIs_safe reading rfl _ _, readlIs_safe reading rfl _ _⟩
  refine identified.bind m ?_
  rintro _ known rfl
  cases known with
  | false => exact ⟨rfl, by simp⟩
  | true =>
  refine reading.readw_bind rfl fun rcCommand readRcCommand => ?_
  refine reading.readw_bind rfl fun epCommand readEpCommand => ?_
  split_ifs with commands
  · exact ⟨rfl, by simp⟩
  push Not at commands
  refine reading.readw_bind rfl fun control readControl => ?_
  refine reading.readl_bind rfl fun busNumbers readBusNumbers => ?_
  split_ifs with bridge
  · exact ⟨rfl, by simp⟩
  push Not at bridge
  refine (readBars_safe reading rfl rcBarOffsets).bind m ?_
  rintro _ rcBars ⟨rfl, rcPlaces, readRcBars⟩
  refine (readBars_safe reading rfl epBarOffsets).bind m ?_
  rintro _ epBars ⟨rfl, epPlaces, readEpBars⟩
  refine reading.readl_bind rfl fun rcRom readRcRom => ?_
  refine reading.readl_bind rfl fun epRom readEpRom => ?_
  split_ifs with roms
  · exact ⟨rfl, by simp⟩
  obtain ⟨rcQuiet, epQuiet⟩ := and_or_eq_zero (not_not.mp roms)
  refine ⟨rfl, ?_⟩
  rintro _ ⟨⟩
  exact { rcCommand := commands.1, epCommand := commands.2, control := bridge.2,
          busNumbers := bridge.1, rcRom := rcQuiet, epRom := epQuiet, rcBarOffsets := rcPlaces,
          epBarOffsets := epPlaces, readRcCommand, readEpCommand, readControl, readBusNumbers,
          readRcBars, readEpBars, readRcRom, readEpRom }

end Entry

/-- A successful save records shaped controls with the values that were read. -/
theorem scanSaveControls_safe {σ : Type} {m : Monitor Call Answer σ} {state : σ}
    {reads : Window → Nat → Nat → U32 → Prop} (reading : Reading m state reads) {start : Scan}
    (fresh : start.controls = []) :
    (scanSaveControls start).Safe m (fun after result => after = state ∧
      (result.1 = 0 → Saved reads start result.2 ∧ WindowSaved result.2)) state := by
  have saved : Saved reads start start := ⟨rfl, by simp [fresh], by simp [fresh]⟩
  unfold scanSaveControls
  refine (scanSaveBusControls_safe reading saved (.inl rfl)).bind m ?_
  rintro _ ⟨ret, scan⟩ ⟨rfl, saved⟩
  dsimp only at saved ⊢
  split_ifs with failed
  · exact ⟨rfl, fun ok => absurd ok failed⟩
  refine (scanSaveBusControls_safe reading (saved (not_not.mp failed)) (.inr rfl)).bind m ?_
  rintro _ ⟨ret, scan⟩ ⟨rfl, saved⟩
  dsimp only at saved ⊢
  split_ifs with failed
  · exact ⟨rfl, fun ok => absurd ok failed⟩
  refine (scanSaveMemoryWindows_safe reading (saved (not_not.mp failed))).bind m ?_
  rintro _ scan ⟨rfl, saved⟩
  refine (scanSaveMsi_safe reading saved).bind m ?_
  rintro _ ⟨ret, scan⟩ ⟨rfl, saved⟩
  dsimp only at saved ⊢
  split_ifs with failed
  · exact ⟨rfl, fun ok => absurd ok failed⟩
  refine (scanSaveFirmware_safe reading (saved (not_not.mp failed))).bind m ?_
  rintro _ scan ⟨rfl, saved, windowed⟩
  exact ⟨rfl, fun _ => ⟨saved, windowed⟩⟩

end WinBoot.SavedControls
