import WinBoot.ConfigStorage
import WinBoot.SavedControls

/-! What the write guard does to one write. `Permitted` says once which stores it lets through,
and `scanWrite_rule` what a proof about any guarded write has to show. -/

namespace WinBoot.GuardRules
open Interaction KernelCalls PciScan PciHost ConfigSpace ConfigStorage SavedControls

/-- The store that a sized write makes. -/
def storeSized (offset size : Nat) (value : U32) : Store :=
  if size = 2 then ⟨offset, 2, (value.setWidth 16).setWidth 32⟩ else ⟨offset, 4, value⟩

theorem storeSized_covers {offset size bit : Nat} {value : U32} (width : size = 2 ∨ size = 4) :
    (storeSized offset size value).Covers bit ↔ 8 * offset ≤ bit ∧ bit < 8 * (offset + size) := by
  obtain rfl | rfl := width <;> rfl

theorem storeSized_bit {offset size bit : Nat} {value : U32} (width : size = 2 ∨ size = 4)
    (covered : (storeSized offset size value).Covers bit) :
    (storeSized offset size value).bit bit = value.getLsbD (bit - 8 * offset) := by
  rw [storeSized_covers width] at covered
  obtain rfl | rfl := width
  · have low : bit - 8 * offset < 16 := by omega
    have lower : bit - 8 * offset < 32 := by omega
    simp [storeSized, Store.bit, low, lower]
  · rfl

/-- The stores that the guard of `scan` performs, by the rule that permits each. -/
inductive Permitted (scan : Scan) : Nat → Nat → Nat → U32 → Prop where
  | command {bus : Nat} {value : U32}
      (quiet : value &&& commandMaster = 0 ∨ scan.firmwareActive = true) :
      Permitted scan bus pciCommand 2 value
  | bar {bus offset : Nat} {value : U32} (low : 0x10 ≤ offset)
      (high : offset ≤ if bus ≠ 0 then 0x24 else 0x14) (aligned : offset % 4 = 0) :
      Permitted scan bus offset 4 value
  | busNumbers {value : U32}
      (valid : value &&& 0xffffff = 0x010100 ∨ value &&& 0xffffff = 0) :
      Permitted scan 0 pciPrimaryBus 4 value
  | bridgeControl {value : U32} (quiet : value &&& bridgeCtlBusReset = 0) :
      Permitted scan 0 pciBridgeControl 2 value
  | rootRom {value : U32} (disabled : value &&& romAddressEnable = 0) :
      Permitted scan 0 pciRomAddress1 4 value
  | endpointRom {bus : Nat} {value : U32} (endpoint : bus ≠ 0)
      (disabled : value &&& romAddressEnable = 0) : Permitted scan bus pciRomAddress 4 value
  | control {control : ScanControl} {value : U32} (saved : control ∈ scan.controls) :
      Permitted scan control.bus control.offset control.size value
  | barWindow {value : U32} (active : scan.firmwareActive = true) : Permitted scan 1 0x80 4 value
  | linkControl {value : U32} (active : scan.firmwareActive = true) :
      Permitted scan 1 0xbc 2 value
  | mailbox (active : scan.firmwareActive = true) : Permitted scan 1 0x98 4 1
  | secondaryStatus : Permitted scan 0 pciSecStatus 2 0xffff

theorem controlRule_cases {write : ConfigWrite} {allowed : Bool} {control : ScanControl}
    (passed : controlRule write allowed control = true) :
    allowed = true ∨ control.bus = write.busNumber ∧ (control.offset : Int) = write.offset ∧
      (control.size : Int) = write.size := by
  unfold controlRule at passed
  split at passed
  · exact .inl passed
  · rename_i same
    push Not at same
    exact .inr same

theorem foldl_controlRule_cases {write : ConfigWrite} {controls : List ScanControl} {allowed : Bool}
    (passed : controls.foldl (controlRule write) allowed = true) :
    allowed = true ∨ ∃ control ∈ controls, control.bus = write.busNumber ∧
      (control.offset : Int) = write.offset ∧ (control.size : Int) = write.size := by
  induction controls generalizing allowed with
  | nil => exact .inl passed
  | cons control controls ih =>
    obtain before | ⟨later, member, same⟩ := ih passed
    · obtain earlier | same := controlRule_cases before
      · exact .inl earlier
      · exact .inr ⟨control, .head _, same⟩
    · exact .inr ⟨later, .tail _ member, same⟩

theorem baseRules_permitted {scan : Scan} {write : ConfigWrite}
    (passed : baseRules scan write = true) : ∃ offset size : Nat, write.offset = offset ∧
      write.size = size ∧ Permitted scan write.busNumber offset size write.value := by
  obtain ⟨bus, devfn, offset, size, value⟩ := write
  obtain passed | ⟨control, member, rfl, rfl, rfl⟩ := foldl_controlRule_cases passed
  · dsimp only at passed ⊢
    by_cases rom : offset = (if bus ≠ 0 then pciRomAddress else pciRomAddress1 : Nat) ∧ size = 4
    · rw [if_pos rom] at passed
      obtain ⟨rfl, rfl⟩ := rom
      refine ⟨_, 4, rfl, rfl, ?_⟩
      split_ifs with endpoint
      · exact .endpointRom endpoint (of_decide_eq_true passed)
      · obtain rfl : bus = 0 := not_not.mp endpoint
        exact .rootRom (of_decide_eq_true passed)
    rw [if_neg rom] at passed
    by_cases bridge : bus = 0 ∧ offset = pciBridgeControl ∧ size = 2
    · rw [if_pos bridge] at passed
      obtain ⟨rfl, rfl, rfl⟩ := bridge
      exact ⟨_, 2, rfl, rfl, .bridgeControl (of_decide_eq_true passed)⟩
    rw [if_neg bridge] at passed
    by_cases numbers : bus = 0 ∧ offset = pciPrimaryBus ∧ size = 4
    · rw [if_pos numbers] at passed
      obtain ⟨rfl, rfl, rfl⟩ := numbers
      exact ⟨_, 4, rfl, rfl, .busNumbers (of_decide_eq_true passed)⟩
    rw [if_neg numbers] at passed
    by_cases bar : size = 4 ∧ offset ≥ 0x10 ∧ offset ≤ (if bus ≠ 0 then 0x24 else 0x14) ∧
        offset % 4 = 0
    · obtain ⟨rfl, low, high, aligned⟩ := bar
      refine ⟨offset.toNat, 4, by omega, rfl, .bar (by omega) ?_ (by omega)⟩
      split_ifs at high ⊢ <;> omega
    rw [if_neg bar] at passed
    obtain ⟨rfl, rfl, quiet⟩ := of_decide_eq_true passed
    exact ⟨_, 2, rfl, rfl, .command quiet⟩
  · exact ⟨_, _, rfl, rfl, .control member⟩

/-- A write that the guard passes is one of the permitted stores, as it reaches the device. -/
theorem scanWriteRules_permitted {scan : Scan} {write : ConfigWrite}
    (passed : (scanWriteRules scan write).1 = true) : ∃ offset size : Nat,
      write.offset = offset ∧ (scanWriteRules scan write).2.1 = size ∧
      Permitted scan write.busNumber offset size (scanWriteRules scan write).2.2 := by
  obtain ⟨bus, devfn, offset, size, value⟩ := write
  unfold scanWriteRules at passed ⊢
  dsimp only at passed ⊢
  split_ifs at passed ⊢ with endpoint link mailbox window secondary
  · obtain ⟨rfl, active⟩ := endpoint
    exact ⟨0xbc, 2, link.1, rfl, .linkControl active⟩
  · obtain ⟨rfl, active⟩ := endpoint
    obtain rfl : value = 1 := of_decide_eq_true passed
    exact ⟨0x98, 4, mailbox.1, mailbox.2, .mailbox active⟩
  · obtain ⟨rfl, active⟩ := endpoint
    exact ⟨0x80, 4, window.1, window.2, .barWindow active⟩
  · exact baseRules_permitted passed
  · obtain ⟨rfl, rfl, rfl, rfl⟩ := secondary
    exact ⟨_, 2, rfl, rfl, .secondaryStatus⟩
  · exact baseRules_permitted passed

def ControlsShaped (scan : Scan) : Prop := ∀ control ∈ scan.controls, ControlShape control

theorem Permitted.width {scan : Scan} {bus offset size : Nat} {value : U32}
    (permitted : Permitted scan bus offset size value) (shaped : ControlsShaped scan) :
    size = 2 ∨ size = 4 := by
  cases permitted with
  | control saved => exact (shaped _ saved).width
  | _ => simp

theorem scanConfig_cases {bus devfn : Nat} {cfg : Window}
    (config : scanConfig bus devfn = some cfg) :
    bus = 0 ∧ cfg = .root ∨ bus = 1 ∧ cfg = .endpoint := by
  unfold scanConfig at config
  split_ifs at config with root endpoint <;> obtain rfl := Option.some.inj config
  · exact .inl ⟨root.1, rfl⟩
  · exact .inr ⟨endpoint.1, rfl⟩

theorem isConfig_of_bus {bus : Nat} {cfg : Window}
    (config : bus = 0 ∧ cfg = .root ∨ bus = 1 ∧ cfg = .endpoint) : isConfig cfg = true := by
  obtain ⟨_, rfl⟩ | ⟨_, rfl⟩ := config <;> rfl

/-- A write reaches no device, rejects the scan, or is a permitted store. -/
theorem scanWrite_rule {σ : Type} {m : Monitor Call Answer σ} {state : σ} {scan : Scan}
    {write : ConfigWrite} {post : σ → Int × Scan → Prop}
    (absent : post state (pcibiosDeviceNotFound, scan))
    (refused : (rejectScan scan).Safe m (fun after scan' => post after (pcibiosSetFailed, scan'))
      state)
    (performed : ∀ cfg offset size value,
      write.busNumber = 0 ∧ cfg = .root ∨ write.busNumber = 1 ∧ cfg = .endpoint →
      Permitted scan write.busNumber offset size value →
      (writeSized cfg offset size value).Safe m
        (fun after _ => post after (pcibiosSuccessful, scan)) state) :
    (scanWrite scan write).Safe m post state := by
  unfold scanWrite
  cases config : scanConfig write.busNumber write.devfn with
  | none => exact absent
  | some cfg =>
    dsimp only
    split_ifs with guarded
    · exact refused.bind m fun _ _ done => done
    · obtain ⟨offset, size, offset_eq, size_eq, permitted⟩ :=
        scanWriteRules_permitted (by simpa using guarded)
      rw [offset_eq, size_eq, Int.toNat_natCast, Int.toNat_natCast]
      refine (performed cfg offset size _ (scanConfig_cases config) permitted).bind m ?_
      exact fun _ _ done => done

/-- What one write does: no device, a refusal that rejects the scan, or one store. -/
theorem scanWrite_runs {scan scan' : Scan} {write : ConfigWrite} {t : List KernelEvent} {ret : Int}
    (run : (scanWrite scan write).Runs t (ret, scan')) :
    scanConfig write.busNumber write.devfn = none ∧ ret = pcibiosDeviceNotFound ∧ t = [] ∧
        scan' = scan ∨
      ret = pcibiosSetFailed ∧ t = [⟨.rejectScan, ()⟩] ∧ scan' = { scan with rejected := true } ∨
      ret = pcibiosSuccessful ∧ scan' = scan ∧ ∃ event, t = [event] ∧ (storeOf event.1).isSome := by
  unfold scanWrite at run
  cases config : scanConfig write.busNumber write.devfn with
  | none =>
    rw [config] at run
    obtain ⟨rfl, result⟩ := run
    simp_all
  | some cfg =>
    simp only [config] at run
    split_ifs at run with refused
    · obtain ⟨mark, rest, rfl, rfl, result⟩ := run
      obtain ⟨rfl, rfl⟩ := Prod.mk.inj result
      exact .inr (.inl ⟨rfl, rfl, rfl⟩)
    · unfold writeSized at run
      split_ifs at run with word
      all_goals
        obtain ⟨mark, rest, rfl, rfl, result⟩ := run
        obtain ⟨rfl, rfl⟩ := Prod.mk.inj result
        exact .inr (.inr ⟨rfl, rfl, _, rfl, rfl⟩)

/-- Any order of guarded writes, with the firmware phase beginning anywhere. -/
inductive GuardStep where
  | write (write : ConfigWrite)
  | activate

/-- Steps from a scan state; the firmware phase begins only in states where `begins` allows. -/
def guardSteps (begins : Scan → Bool) : Scan → List GuardStep → Kernel Scan
  | scan, [] => return scan
  | scan, .write write :: steps => do
    let (_, scan) ← scanWrite scan write
    guardSteps begins scan steps
  | scan, .activate :: steps => do
    let scan ← onlyIf (begins scan) scan (activateFirmware scan)
    guardSteps begins scan steps

end WinBoot.GuardRules
