import WinBoot.KernelLedger

/-! Memory regions and their mappings, in the stages that only look at registers: the DART state, the
root port and the endpoint's chip. -/

namespace WinBoot.WindowResources
open Interaction KernelCalls PciScan PciHost EndpointProbe ResourceLedger KernelLedger
open PciePhy

section Mapped

variable {α : Type} {owned needs frees : List Resource} {start : Nat}

theorem requestMemRegion_kept {f : Bool → Kernel α} (free : .region start ∈ frees)
    (unowned : .region start ∉ owned) (granted : Kept (.region start :: owned) needs frees (f true))
    (refused : Kept owned needs frees (f false)) :
    Kept owned needs frees (query (.requestMemRegion start) >>= f) :=
  Leaves.take _ (fun _ => rfl) (fun _ => rfl) (List.nil_subset _) rfl free unowned
    (fun _ ok => (ok : _ = true) ▸ granted) fun _ bad => Bool.eq_false_iff.mpr bad ▸ refused

theorem ioremap_kept {f : Bool → Kernel α} (free : .mapping start ∈ frees)
    (unowned : .mapping start ∉ owned)
    (granted : Kept (.mapping start :: owned) needs frees (f true))
    (refused : Kept owned needs frees (f false)) :
    Kept owned needs frees (query (.ioremap start) >>= f) :=
  Leaves.take _ (fun _ => rfl) (fun _ => rfl) (List.nil_subset _) rfl free unowned
    (fun _ ok => (ok : _ = true) ▸ granted) fun _ bad => Bool.eq_false_iff.mpr bad ▸ refused

theorem iounmap_kept {f : Unit → Kernel α} (own : .mapping start ∈ owned)
    (rest : Kept (owned.filter (· ≠ .mapping start)) needs frees (f ())) :
    Kept owned needs frees (query (.iounmap start) >>= f) :=
  Leaves.give _ (fun _ => rfl) (fun _ => rfl) (List.nil_subset _) nofun own fun _ => rest

theorem releaseMemRegion_kept {f : Unit → Kernel α} (own : .region start ∈ owned)
    (free : .mapping start ∈ frees) (unmapped : .mapping start ∉ owned)
    (rest : Kept (owned.filter (· ≠ .region start)) needs frees (f ())) :
    Kept owned needs frees (query (.releaseMemRegion start) >>= f) := by
  refine Leaves.give _ (fun _ => rfl) (fun _ => rfl) (List.nil_subset _) ?_ own fun _ => rest
  rintro _ (_ | ⟨_, ⟨⟩⟩)
  exact ⟨free, unmapped⟩

end Mapped

theorem readDartState_still (o : ModuleOptions) (resetExpected : Bool) (offsets : List Nat) :
    Still [mapped .dart] (readDartState o resetExpected offsets) := by
  induction offsets with
  | nil => trivial
  | cons offset offsets ih =>
    refine Prog.Makes.call rfl fun value => ?_
    refine Prog.Makes.ite (fun _ => trivial) fun _ => Prog.Makes.ite (fun _ => trivial) fun _ => ih

theorem snapshotDart_kept (o : ModuleOptions) (resetExpected : Bool) :
    Kept [] [] [.region 0x602002000, mapped .dart] (snapshotDart o resetExpected) := by
  refine requestMemRegion_kept (by decide) (by decide) ?_ (Leaves.done rfl)
  have release (ret : Int) : Kept [.region 0x602002000] [] [.region 0x602002000, mapped .dart] (do
      query (.releaseMemRegion 0x602002000)
      return ret) :=
    releaseMemRegion_kept (by decide) (by decide) (by decide) (Leaves.done rfl)
  refine ioremap_kept (by decide) (by decide) ?_ (release _)
  have read : Kept [mapped .dart] [] [] (do
      let ret ← readDartState o resetExpected dartStateOffsets
      query (.iounmap 0x602002000)
      return ret) := by
    refine leaves_still (readDartState_still o resetExpected _) (by decide) fun ret => ?_
    exact iounmap_kept (by decide) (Leaves.done rfl)
  exact Leaves.settle read (by decide) (by decide) (by decide) release

theorem snapshotRootPort_kept :
    Kept [] [] [.region 0x610008000, mapped .root] snapshotRootPort := by
  refine requestMemRegion_kept (by decide) (by decide) ?_ (Leaves.done rfl)
  have release (ret : Int) : Kept [.region 0x610008000] [] [.region 0x610008000, mapped .root] (do
      query (.releaseMemRegion 0x610008000)
      return ret) :=
    releaseMemRegion_kept (by decide) (by decide) (by decide) (Leaves.done rfl)
  refine ioremap_kept (by decide) (by decide) ?_ (release _)
  have read : Kept [mapped .root] [] [] (do
      let value ← query (.readl .root 0)
      let known := decide (value &&& 0xffff = 0x106b)
      let bridge ← onlyIf known false do
        return (← query (.readl .root 8)) >>> 16 = 0x0604
      query (.iounmap 0x610008000)
      return if bridge then 0 else enodev) := by
    refine leaves_call rfl fun value => ?_
    have bridge : Still [mapped .root] (do return (← query (.readl .root 8)) >>> 16 = 0x0604) :=
      Prog.Makes.call rfl fun _ => trivial
    refine leaves_still (onlyIf_makes bridge) (by decide) fun bridge => ?_
    exact iounmap_kept (by decide) (Leaves.done rfl)
  exact Leaves.settle read (by decide) (by decide) (by decide) release

/-- Both configuration pages. -/
abbrev configs : List Resource := [mapped .root, mapped .endpoint]

section Access

variable {owned : List Resource} {window : Window}

theorem still_access {c : Call} (access : needs c = [mapped window]) (unmoving : moving c = false)
    (here : mapped window ∈ owned) : still owned c = true := by
  simp [still, access, unmoving, here]

theorem readlIs_still (here : mapped window ∈ owned) (offset : Nat) (value : U32) :
    Still owned (readlIs window offset value) :=
  Prog.Makes.call (still_access rfl rfl here) fun _ => trivial

theorem readwIs_still (here : mapped window ∈ owned) (offset : Nat) (value : U16) :
    Still owned (readwIs window offset value) :=
  Prog.Makes.call (still_access rfl rfl here) fun _ => trivial

theorem readOffsets_still (here : mapped window ∈ owned) (offsets : List Nat) :
    Still owned (readOffsets window offsets) := by
  induction offsets with
  | nil => trivial
  | cons offset offsets ih =>
    refine Prog.Makes.call (still_access rfl rfl here) fun value => ?_
    exact Prog.Makes.ite (fun _ => trivial) fun _ => ih

theorem readSized_still (here : mapped window ∈ owned) (offset size : Nat) :
    Still owned (readSized window offset size) :=
  Prog.Makes.ite (fun _ => Prog.Makes.call (still_access rfl rfl here) fun _ => trivial) fun _ =>
    ⟨still_access rfl rfl here, fun _ => trivial⟩

theorem writeSized_still (here : mapped window ∈ owned) (offset size : Nat) (value : U32) :
    Still owned (writeSized window offset size value) :=
  Prog.Makes.ite (fun _ => ⟨still_access rfl rfl here, fun _ => trivial⟩) fun _ =>
    ⟨still_access rfl rfl here, fun _ => trivial⟩

theorem writeChecked_still (here : mapped window ∈ owned) (offset size : Nat) (value : U32) :
    Still owned (writeChecked window offset size value) :=
  Prog.Makes.bind (writeSized_still here offset size value) fun _ =>
    Prog.Makes.bind (readSized_still here offset size) fun _ => trivial

end Access

/-! ### The endpoint's chip -/

abbrev chipWindows : List Resource := [mapped .root, mapped .endpoint, mapped .chip]

theorem walkErom_still (offset components pcie words : Nat) :
    Still [mapped .chip] (walkErom offset components pcie words) := by
  induction words generalizing offset components pcie with
  | zero => trivial
  | succ words ih =>
    refine Prog.Makes.ite (fun _ => trivial) fun _ => Prog.Makes.call rfl fun first => ?_
    refine Prog.Makes.ite (fun _ => trivial) fun _ => Prog.Makes.ite (fun _ => trivial) fun _ => ?_
    refine Prog.Makes.ite (fun _ => ih _ _ _) fun _ => Prog.Makes.ite (fun _ => trivial) fun _ => ?_
    exact Prog.Makes.call rfl fun second => Prog.Makes.ite (fun _ => trivial) fun _ => ih _ _ _

theorem inspectEromAt_still (pointer : U32) : Still chipWindows (inspectEromAt pointer) := by
  refine Prog.Makes.ite (fun _ => trivial) fun _ => Prog.Makes.call rfl fun _ => ?_
  refine Prog.Makes.bind (readlIs_still (by decide) _ _) fun same => ?_
  refine Prog.Makes.ite (fun _ => trivial) fun _ => ?_
  refine Prog.Makes.bind ((walkErom_still _ _ _ _).weaken (by decide)) fun walked => ?_
  split <;> trivial

theorem sizeChipBar_still (entry : ChipEntry) : Still configs (sizeChipBar entry) := by
  refine Prog.Makes.call rfl fun _ => Prog.Makes.call rfl fun _ => ?_
  refine Prog.Makes.call rfl fun maskLow => Prog.Makes.call rfl fun maskHigh => ?_
  refine Prog.Makes.call rfl fun _ => Prog.Makes.call rfl fun _ => allOf_makes ?_
  simp only [List.mem_cons, List.not_mem_nil, or_false, forall_eq_or_imp, forall_eq]
  exact ⟨readlIs_still (by decide) _ _, readlIs_still (by decide) _ _, trivial⟩

theorem readChip_still (o : ModuleOptions) : Still chipWindows (readChip o) := by
  refine Prog.Makes.bind (allOf_makes ?_) fun decoding => Prog.Makes.ite (fun _ => trivial) fun _ => ?_
  · simp only [List.mem_cons, List.not_mem_nil, or_false, forall_eq_or_imp, forall_eq]
    exact ⟨writeChecked_still (by decide) _ _ _, writeChecked_still (by decide) _ _ _,
      writeChecked_still (by decide) _ _ _, writeChecked_still (by decide) _ _ _,
      writeChecked_still (by decide) _ _ _⟩
  refine Prog.Makes.call rfl fun value => Prog.Makes.ite (fun _ => trivial) fun _ => ?_
  refine Prog.Makes.call rfl fun pointer => Prog.Makes.ite (fun _ => trivial) fun _ => ?_
  exact Prog.Makes.ite (fun _ => trivial) fun _ => inspectEromAt_still pointer

theorem restoreChip_still (entry : ChipEntry) (ret : Int) : Still configs (restoreChip entry ret) := by
  refine Prog.Makes.call rfl fun _ => Prog.Makes.call rfl fun _ => Prog.Makes.call rfl fun _ => ?_
  refine Prog.Makes.call rfl fun _ => Prog.Makes.call rfl fun _ => Prog.Makes.call rfl fun _ => ?_
  refine Prog.Makes.bind (allOf_makes ?_) fun _ => trivial
  simp only [List.mem_cons, List.not_mem_nil, or_false, forall_eq_or_imp, forall_eq]
  exact ⟨readwIs_still (by decide) _ _, readwIs_still (by decide) _ _, readlIs_still (by decide) _ _,
    readlIs_still (by decide) _ _, readlIs_still (by decide) _ _, readlIs_still (by decide) _ _⟩

theorem useChip_kept (o : ModuleOptions) (entry : ChipEntry) :
    Kept [] configs [mapped .chip] (useChip o entry) := by
  refine leaves_still (sizeChipBar_still entry) (by decide) fun sized => ?_
  have unmapped (ret : Int) : Kept [] configs [mapped .chip] (restoreChip entry ret >>= pure) :=
    leaves_still (restoreChip_still entry ret) (by decide) fun _ => Leaves.done rfl
  cases sized with
  | false => exact unmapped _
  | true =>
    refine ioremap_kept (by decide) (by decide) ?_ (unmapped _)
    refine leaves_still (readChip_still o) (by decide) fun ret => ?_
    refine leaves_still (restoreChip_still entry ret) (by decide) fun ret => ?_
    exact iounmap_kept (by decide) (Leaves.done rfl)

theorem snapshotChip_kept (o : ModuleOptions) :
    Kept [] configs [.region 0x7c0000000, mapped .chip] (snapshotChip o) := by
  refine requestMemRegion_kept (by decide) (by decide) ?_ (Leaves.done rfl)
  refine leaves_call rfl fun low => leaves_call rfl fun high => leaves_call rfl fun window => ?_
  refine leaves_call rfl fun mem => leaves_call rfl fun rcCommand => leaves_call rfl fun epCommand => ?_
  have known : ∀ test ∈ [readlIs .endpoint 0 0x43a314e4, readlIs .endpoint 8 0x02800008,
      pure (decide (low = 4 ∧ high = 0 ∧ window = 0x18003000 ∧ mem = 0 ∧ rcCommand = 0 ∧
        epCommand = 0))], Still configs test := by
    simp only [List.mem_cons, List.not_mem_nil, or_false, forall_eq_or_imp, forall_eq]
    exact ⟨readlIs_still (by decide) _ _, readlIs_still (by decide) _ _, trivial⟩
  refine leaves_still (allOf_makes known) (by decide) fun known => ?_
  refine Leaves.tidy (Kept.onlyIf fun _ => useChip_kept o _) (by decide) (by decide) (by decide)
    fun ret => ?_
  exact releaseMemRegion_kept (by decide) (by decide) (by decide) (Leaves.done rfl)

end WinBoot.WindowResources
