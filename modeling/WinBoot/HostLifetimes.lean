import WinBoot.RadioLifetimes
import WinBoot.WriteGuard

/-! The lifetime of the PCI host inside the others. The firmware phase begins in it, and ends
with the scan, before any other layer goes. -/

namespace WinBoot.HostLifetimes
open Interaction KernelCalls PciScan PciHost ConfigStorage SavedControls GuardRules ScanRuns
  WriteGuard
open EndpointProbe Nesting Lifetimes LayerLifetimes ParentLifetimes RadioLifetimes

/-- On the scanned bus: the monitor follows the firmware phase of the scan. -/
structure Hosted (held : Held Layer) (closing failed : Bool) (nest : Nest) (scan : Scan) :
    Prop where
  state : nest = ⟨(.pciHost, closing) :: held, scan.firmwareActive, failed⟩
  shaped : ControlsShaped scan
  ready : scan.requireIommu = true → scan.msiDomain = true → FirmwareHeld held
  calm : scan.firmwareActive = true → FirmwareHeld held

section Host

variable {o : ModuleOptions} {held : Held Layer} {closing failed firmware : Bool} {nest : Nest}
  {scan : Scan}

theorem firmwareHeld_cons (inner : Layer × Bool) (holds : FirmwareHeld held) :
    FirmwareHeld (inner :: held) := fun layer member => .tail _ (holds layer member)

theorem steady_safe {α : Type} {p : Kernel α} {result : α → Prop}
    (calm : firmware = true → FirmwareHeld held) (steady : Steady held.head? p result) :
    p.Safe (lifetimes o) (fun after a => after = ⟨held, firmware, failed⟩ ∧ result a)
      ⟨held, firmware, failed⟩ :=
  steady.safe (lifetimes o) fun _ r still => steady_inert calm r still

theorem steadyCall_bind {α : Type} {c : Call} {f : Answer c → Kernel α} {post : Nest → α → Prop}
    (calm : firmware = true → FirmwareHeld held) (still : steady held.head? c = true)
    (rest : ∀ r, (f r).Safe (lifetimes o) post ⟨held, firmware, failed⟩) :
    (query c >>= f).Safe (lifetimes o) post ⟨held, firmware, failed⟩ := by
  refine (Prog.safe_call_bind _ _ _ _ _).mpr fun r _ => ?_
  obtain ⟨allowed, stays⟩ := steady_inert calm r still
  rw [stays]
  exact ⟨allowed, rest r⟩

theorem config_reading (calm : firmware = true → FirmwareHeld held)
    (inner : (∃ layer, held.head? = some (layer, false)) ∨ held.head? = some (.pciHost, true)) :
    Reading (lifetimes o) ⟨held, firmware, failed⟩ fun _ _ _ _ => True := by
  have still (c : Call) (plain : ∀ layer, steady (some (layer, false)) c = true)
      (host : steady (some (.pciHost, true)) c = true) (r : Answer c) :
      (lifetimes o).allows ⟨held, firmware, failed⟩ ⟨c, r⟩ ∧
        (lifetimes o).next ⟨held, firmware, failed⟩ ⟨c, r⟩ = ⟨held, firmware, failed⟩ := by
    refine steady_inert calm r ?_
    obtain ⟨layer, inner⟩ | inner := inner
    · exact inner ▸ plain layer
    · exact inner ▸ host
  refine ⟨fun offset value config _ => ?_, fun offset value config _ => ?_,
    fun {window} offset value config _ => ?_⟩
  · exact still _ (fun _ => rfl) rfl value
  · exact ⟨(still _ (fun _ => rfl) rfl value).1, (still _ (fun _ => rfl) rfl value).2, trivial⟩
  · have plain (layer : Layer) : steady (some (layer, false)) (.readl window offset) = true := by
      cases window <;> rfl
    have host : steady (some (.pciHost, true)) (.readl window offset) = true := by
      cases window <;> rfl
    exact ⟨(still _ plain host value).1, (still _ plain host value).2, trivial⟩

/-- A permitted store changes nothing that is followed. -/
theorem permittedStore_safe (hosted : Hosted held closing failed nest scan)
    (linked : (Layer.link, false) ∈ held) : RestoringStores (lifetimes o) nest scan := by
  obtain ⟨rfl, shaped, -, calm⟩ := hosted
  intro bus offset size cfg value config permitted
  have width := permitted.width shaped
  have isConfig := isConfig_of_bus config
  have allowed (c : Call) (stores : storeOf c = some (cfg, storeSized offset size value))
      (unmarked : markOf c = none) (unowned : owner c = none) :
      Allowed o ⟨(.pciHost, closing) :: held, scan.firmwareActive, failed⟩ c := by
    refine ⟨by simp [unmarked], ?_, by rw [unowned]; rfl, ?_, ?_, ?_, fun active =>
      firmwareHeld_cons _ (calm active)⟩
    · rintro layer rfl
      cases unmarked
    · exact fun _ _ _ _ => .tail _ linked
    · intro store same sets
      obtain ⟨-, rfl⟩ := Prod.mk.inj (Option.some.inj (stores.symm.trans same))
      exact permitted_master permitted shaped sets
    · rintro rfl
      cases stores
  obtain rfl | rfl := width
  all_goals
    obtain ⟨-, rfl⟩ | ⟨-, rfl⟩ := config
    all_goals exact fun _ _ => ⟨allowed _ rfl rfl rfl, rfl⟩

theorem hosted_invariant (linked : (Layer.link, false) ∈ held) :
    ScanInvariant (lifetimes o) (Hosted held closing failed) where
  call {state scan c} r hosted quiet _ := by
    obtain ⟨rfl, -, -, calm⟩ := hosted
    refine steady_inert (fun active => firmwareHeld_cons _ (calm active)) r ?_
    cases c <;> first
      | contradiction
      | (cases closing <;> rfl)
      | (rename_i window _ _; cases window <;> cases closing <;> rfl)
  count _ hosted := ⟨hosted.state, hosted.shaped, hosted.ready, hosted.calm⟩
  write {state scan} write hosted := by
    refine scanWrite_rule hosted ?_ fun cfg offset size value config permitted => ?_
    · obtain ⟨rfl, shaped, ready, calm⟩ := hosted
      refine steadyCall_bind (fun active => firmwareHeld_cons _ (calm active)) rfl fun _ => ?_
      exact ⟨rfl, shaped, ready, calm⟩
    · refine (permittedStore_safe hosted linked _ _ _ _ _ config permitted).mono _ ?_
      rintro _ _ rfl
      exact hosted
  reject {state scan} hosted := by
    obtain ⟨rfl, shaped, ready, calm⟩ := hosted
    refine steadyCall_bind (fun active => firmwareHeld_cons _ (calm active)) rfl fun _ => ?_
    exact ⟨rfl, shaped, ready, calm⟩
  activate {state scan} hosted begins := by
    obtain ⟨rfl, shaped, ready, calm⟩ := hosted
    simp only [firmwareMayBegin, Bool.and_eq_true, Bool.not_eq_true'] at begins
    have layers := ready begins.1.1.1.2 begins.1.1.2
    have held := firmwareHeld_cons (.pciHost, closing) layers
    refine (Prog.safe_call_bind _ _ _ _ _).mpr fun _ _ => ⟨?_, rfl, shaped, ready, fun _ => layers⟩
    exact ⟨by rintro _ ⟨⟩, by rintro _ ⟨⟩, rfl, by rintro _ _ ⟨⟩, by rintro _ ⟨⟩, fun _ => held,
      fun _ => held⟩

/-- Of the result of a scan: the firmware phase may still be recorded as active. -/
structure Scanned (held : Held Layer) (nest : Nest) (ret : Int) : Prop where
  layers : held = nest.held
  calm : nest.firmware = true → FirmwareHeld held
  told : nest.failed = true → ret ≠ 0

theorem untouched (ret : Int) : Scanned held ⟨held, false, false⟩ ret :=
  ⟨rfl, calm_outside, nofun⟩

theorem any_yields {α : Type} (p : Kernel α) : p.Yields (fun _ => True) fun _ => True := by
  induction p with
  | done a => trivial
  | ask c next ih => exact ⟨trivial, ih⟩

theorem restoreControls_carries (controls : List ScanControl) (ret : Int) :
    (restoreControls controls ret).Yields (fun _ => True) fun after => ret ≠ 0 → after ≠ 0 := by
  induction controls generalizing ret with
  | nil => exact id
  | cons control controls ih =>
    refine (any_yields _).bind fun _ _ => (any_yields _).bind fun observed _ => ?_
    exact (ih _).mono (fun _ _ => trivial) fun after carries before =>
      carries (mismatch_carries before)

theorem restoreBars_carries (cfg : Window) (bars : List (Nat × U32)) (ret : Int) :
    (restoreBars cfg bars ret).Yields (fun _ => True) fun after => ret ≠ 0 → after ≠ 0 := by
  induction bars generalizing ret with
  | nil => exact id
  | cons bar bars ih =>
    refine (any_yields _).bind fun _ _ => (any_yields _).bind fun same _ => ?_
    exact (ih _).mono (fun _ _ => trivial) fun after carries before =>
      carries (verdict_carries before)

/-- Restoring never turns an error into a success. -/
theorem restoreConfig_carries (entry : EntryState) (ret : Int) :
    (restoreConfig scan entry ret).Yields (fun _ => True) fun after => ret ≠ 0 → after ≠ 0 := by
  refine (restoreControls_carries _ ret).bind fun ret₁ carries₁ => ?_
  refine (any_yields _).bind fun _ _ => (any_yields _).bind fun _ _ => ?_
  refine (restoreBars_carries _ _ ret₁).bind fun ret₂ carries₂ => ?_
  refine (restoreBars_carries _ _ ret₂).bind fun ret₃ carries₃ => ?_
  refine (any_yields _).bind fun _ _ => (any_yields _).bind fun _ _ => ?_
  refine (any_yields _).bind fun _ _ => (any_yields _).bind fun _ _ => ?_
  refine (any_yields _).bind fun same _ => ?_
  exact fun before => verdict_carries (carries₃ (carries₂ (carries₁ before)))

theorem access_bind {α : Type} {c : Call} {f : Answer c → Kernel α} {post : Nest → α → Prop}
    (calm : firmware = true → FirmwareHeld held) (fit : fits held.head? c = true)
    (rest : ∀ r, (f r).Safe (lifetimes o) post
      ⟨held, firmware, watched c held.head? && errored ⟨c, r⟩ || failed⟩) :
    (query c >>= f).Safe (lifetimes o) post ⟨held, firmware, failed⟩ := by
  refine (Prog.safe_call_bind _ _ _ _ _).mpr fun r _ => ⟨allowed_of_fits calm fit, ?_⟩
  rw [next_of_fits r fit]
  exact rest r

theorem mark_bind {α : Type} {c : Call} {mark : Mark Layer} {f : Answer c → Kernel α}
    {post : Nest → α → Prop} (marked : markOf c = some mark)
    (calm : firmware = true → FirmwareHeld held) (follows : Follows Encloses held mark)
    (selects : ∀ layer, c = .acquire layer → selected o layer = true)
    (rest : ∀ r, (f r).Safe (lifetimes o) post ⟨move held mark, firmware, failed⟩) :
    (query c >>= f).Safe (lifetimes o) post ⟨held, firmware, failed⟩ := by
  refine (Prog.safe_call_bind _ _ _ _ _).mpr fun r _ =>
    ⟨mark_allowed marked calm follows selects, ?_⟩
  cases c <;> first
    | cases marked; exact rest r
    | cases marked

variable {layer : Layer} (inside : held.head? = some (layer, false))
  (linked : (Layer.link, false) ∈ held)
include inside linked

theorem scanHost_safe (wanted : selected o .pciHost = true)
    (deeper : Layer.rank layer < Layer.rank .pciHost) {entry : EntryState}
    (entered : Entered (fun _ _ _ _ => True) entry) (shaped : ControlsShaped scan)
    (inactive : scan.firmwareActive = false)
    (ready : scan.requireIommu = true → scan.msiDomain = true → FirmwareHeld held) :
    (scanHost scan entry).Safe (lifetimes o) (Scanned held) ⟨held, false, false⟩ := by
  refine steadyCall_bind calm_outside rfl fun allocated => ?_
  cases allocated with
  | false => exact untouched _
  | true =>
  refine mark_bind rfl calm_outside (follows_acquire inside deeper) ?_ fun _ => ?_
  · rintro _ ⟨⟩
    exact wanted
  have requests : Steady (((.pciHost, false) :: held : Held Layer).head?)
      (onlyIf scan.assignMemory 0 (query .requestResource)) fun _ => True := steady_onlyIfCall rfl
  refine (steady_safe calm_outside requests).bind _ ?_
  rintro _ requested ⟨rfl, -⟩
  split_ifs with refused
  · refine mark_bind rfl calm_outside rfl nofun fun _ => ?_
    refine steadyCall_bind calm_outside rfl fun _ => ?_
    refine mark_bind rfl calm_outside rfl nofun fun _ => ?_
    exact untouched _
  have hosted : Hosted held false false ⟨(.pciHost, false) :: held, false, false⟩ scan :=
    ⟨by rw [inactive], shaped, ready, by rw [inactive]; exact calm_outside⟩
  refine (scanBus_safe (hosted_invariant linked) hosted).bind _ ?_
  rintro _ ⟨ret, bus, scan⟩ ⟨rfl, shaped, ready, calm⟩
  have innerCalm {closing : Bool} (active : scan.firmwareActive = true) :
      FirmwareHeld ((Layer.pciHost, closing) :: held) := firmwareHeld_cons _ (calm active)
  refine mark_bind rfl innerCalm rfl nofun fun _ => ?_
  have closing : Hosted held true false ⟨(.pciHost, true) :: held, scan.firmwareActive, false⟩ scan :=
    ⟨rfl, shaped, ready, calm⟩
  refine (removeBus_safe (hosted_invariant linked) closing bus).bind _ ?_
  rintro _ scan ⟨rfl, shaped, ready, calm⟩
  have innerCalm (active : scan.firmwareActive = true) :
      FirmwareHeld ((Layer.pciHost, true) :: held) := firmwareHeld_cons _ (calm active)
  refine steadyCall_bind innerCalm rfl fun _ => ?_
  have finish (released : Int) (failed : Bool) (told : failed = true → released ≠ 0) :
      (do
        let ret ← restoreConfig scan entry (if released ≠ 0 then eio else ret)
        query (.release .pciHost)
        return if scan.rejected then eio else ret).Safe (lifetimes o) (Scanned held)
        ⟨(.pciHost, true) :: held, scan.firmwareActive, failed⟩ := by
    have hosted : Hosted held true failed
        ⟨(.pciHost, true) :: held, scan.firmwareActive, failed⟩ scan := ⟨rfl, shaped, ready, calm⟩
    have reading : Reading (lifetimes o)
        ⟨(.pciHost, true) :: held, scan.firmwareActive, failed⟩ fun _ _ _ _ => True :=
      config_reading innerCalm (.inr rfl)
    have restored := restoreConfig_safe (permittedStore_safe hosted linked) reading shaped entered
      (if released ≠ 0 then eio else ret)
    refine (restored.yields _ (restoreConfig_carries entry _)).bind _ ?_
    rintro _ ret ⟨rfl, carries⟩
    refine mark_bind rfl innerCalm rfl nofun fun _ => ⟨rfl, calm, fun fails => ?_⟩
    refine mismatch_carries (carries ?_)
    rw [if_pos (told fails)]
    decide
  cases scan.assignMemory with
  | false => exact finish 0 false nofun
  | true =>
    refine access_bind innerCalm rfl fun released => ?_
    refine finish released _ fun fails => ?_
    obtain fails | fails := Bool.or_eq_true_iff.mp fails
    · exact of_decide_eq_true (Bool.and_eq_true_iff.mp fails).2
    · cases fails

theorem scanUnderParent_safe (wanted : selected o .pciHost = true)
    (deeper : Layer.rank layer < Layer.rank .pciHost) {entry : EntryState}
    (entered : Entered (fun _ _ _ _ => True) entry) (shaped : ControlsShaped scan)
    (inactive : scan.firmwareActive = false)
    (ready : scan.requireIommu = true → scan.msiDomain = true → FirmwareHeld held) :
    (scanUnderParent scan entry).Safe (lifetimes o) (Scanned held) ⟨held, false, false⟩ := by
  refine steadyCall_bind calm_outside rfl fun parent => ?_
  split_ifs
  · exact untouched _
  refine (scanHost_safe inside linked wanted deeper entered shaped inactive ready).bind _ ?_
  rintro ⟨_, firmware, failed⟩ ret ⟨rfl, calm, told⟩
  exact steadyCall_bind calm rfl fun _ => ⟨rfl, calm, told⟩

omit inside linked in
/-- The scan's state, and with it the firmware phase, ends when the scan returns. -/
theorem endScan_bind {α : Type} {f : Unit → Kernel α} {post : Nest → α → Prop}
    (calm : firmware = true → FirmwareHeld held)
    (rest : (f ()).Safe (lifetimes o) post ⟨held, false, failed⟩) :
    (query .endScan >>= f).Safe (lifetimes o) post ⟨held, firmware, failed⟩ := by
  refine (Prog.safe_call_bind _ _ _ _ _).mpr fun _ _ => ⟨?_, rest⟩
  exact ⟨nofun, nofun, rfl, nofun, nofun, nofun, calm⟩

omit inside linked in
theorem pciNodeCreate_steady {inner : Option (Layer × Bool)} :
    Steady inner pciNodeCreate fun _ => True := by
  refine steady_call rfl fun phandle => Prog.Yields.ite (fun _ => trivial) fun _ => ?_
  refine steady_call rfl fun found => Prog.Yields.ite (fun _ => trivial) fun _ => ?_
  refine steady_call rfl fun created => Prog.Yields.ite (fun _ => trivial) fun _ => ?_
  refine (addProps_steady _ _).bind fun ret _ => Prog.Yields.ite (fun _ => trivial) fun _ => ?_
  exact steady_call rfl fun ret => trivial

omit inside linked in
theorem pciNodeRemove_steady {inner : Option (Layer × Bool)} (node : PciNode) :
    Steady inner (pciNodeRemove node) fun _ => True := by
  refine (steady_onlyIfCall rfl).bind fun ret _ => (steady_onlyIfCall rfl).bind fun detached _ => ?_
  refine (steady_onlyIfCall rfl).bind fun cleanup _ => ?_
  exact steady_call rfl fun _ => trivial

theorem pciScan_keeps (wanted : selected o .pciHost = true)
    (deeper : Layer.rank layer < Layer.rank .pciHost) (options : ScanOptions)
    (ready : options.dart = true → options.msiDomain = true → FirmwareHeld held) :
    Keeps o held 0 (pciScan options) := by
  have reading : Reading (lifetimes o) ⟨held, false, false⟩ fun _ _ _ _ => True :=
    config_reading calm_outside (.inl ⟨layer, inside⟩)
  intro nest kept
  rw [kept.start]
  refine (scanEntry_safe reading fun found _ => steady_inert calm_outside found rfl).bind _ ?_
  rintro _ entry ⟨rfl, entered⟩
  cases entry with
  | error ret => exact ⟨rfl, rfl, nofun⟩
  | ok entry =>
  have entered := entered entry rfl
  refine (scanSaveControls_safe reading rfl).bind _ ?_
  rintro _ ⟨ret, scan⟩ ⟨rfl, saved⟩
  dsimp only at saved ⊢
  by_cases failed : ret ≠ 0
  · rw [if_pos failed]
    exact ⟨rfl, rfl, nofun⟩
  rw [if_neg failed]
  have saved := (saved (not_not.mp failed)).1
  have inactive : scan.firmwareActive = false := by
    rw [saved.same]
    rfl
  have scanReady (iommu : scan.requireIommu = true) (msi : scan.msiDomain = true) :
      FirmwareHeld held := by
    rw [saved.same] at iommu msi
    exact ready iommu msi
  have scanned := scanUnderParent_safe inside linked wanted deeper entered saved.shaped inactive
    scanReady
  by_cases bare : (!options.dart) = true
  · rw [if_pos bare]
    refine scanned.bind _ ?_
    rintro ⟨_, firmware, failed⟩ ret ⟨rfl, calm, told⟩
    exact endScan_bind calm ⟨rfl, rfl, told⟩
  rw [if_neg bare]
  refine (steady_safe calm_outside pciNodeCreate_steady).bind _ ?_
  rintro _ ⟨created, node⟩ ⟨rfl, -⟩
  refine (onlyIf_safe (fun _ => scanned) (untouched created)).bind _ ?_
  rintro ⟨_, firmware, failed⟩ ret ⟨rfl, calm, told⟩
  refine (steady_safe calm (pciNodeRemove_steady node)).bind _ ?_
  rintro _ cleanup ⟨rfl, -⟩
  exact endScan_bind calm ⟨rfl, rfl, fun fails => cleanup_carries (told fails)⟩

end Host

end WinBoot.HostLifetimes
