import WinBoot.ScanResources

/-! The probe module gives back what it takes, in every run: no access outside a mapping, no
release of what is not held, and nothing left when its init function returns. -/

namespace WinBoot.ProbeResources
open Interaction KernelCalls PciScan PciHost EndpointProbe ResourceLedger KernelLedger
open DartLifetime MsiDomain PciePhy PowerDomains RadioPulse WindowResources ScanResources

theorem isJ42dT7000_still : Still [] isJ42dT7000 := by
  refine Prog.Makes.call rfl fun j42d => Prog.Makes.ite (fun _ => trivial) fun _ => ?_
  exact ⟨rfl, fun _ => trivial⟩

/-! ### The endpoint behind the link -/

theorem checkEndpoint_still : Still configs checkEndpoint := by
  refine Prog.Makes.call rfl fun _ => Prog.Makes.ite (fun _ => trivial) fun _ => ?_
  refine Prog.Makes.call rfl fun _ => Prog.Makes.ite (fun _ => trivial) fun _ => ?_
  refine Prog.Makes.call rfl fun _ => Prog.Makes.ite (fun _ => trivial) fun _ => ?_
  refine Prog.Makes.call rfl fun _ => Prog.Makes.ite (fun _ => trivial) fun _ => ?_
  refine Prog.Makes.bind (readOffsets_still (by decide) _) fun _ => ?_
  refine Prog.Makes.ite (fun _ => trivial) fun _ => ?_
  exact Prog.Makes.call rfl fun _ => Prog.Makes.call rfl fun _ => trivial

abbrev endpointFrees : List Resource := .region 0x7c0000000 :: mapped .chip :: scanFrees

theorem observeEndpoint_kept (o : ModuleOptions) (parents : ScanParents) :
    Kept [] configs endpointFrees (observeEndpoint o parents) := by
  refine leaves_still checkEndpoint_still (by decide) fun ret => ?_
  refine Leaves.tidy (Kept.andThen (Kept.onlyIf fun _ => snapshotChip_kept o)) (by decide) (by decide)
    (by decide) fun ret => ?_
  exact Kept.andThen (Kept.onlyIf fun _ => Leaves.weaken (pciScan_kept _) (by decide) (by decide))

theorem holdBusNumbers_kept {observe : Kernel Int} {frees : List Resource} (buses : U32)
    (kept : Kept [] configs frees observe) :
    Kept [] configs frees (holdBusNumbers buses observe) := by
  refine leaves_call rfl fun _ => leaves_call rfl fun _ => ?_
  have routed : Still configs (readlIs .root 0x18 (buses &&& 0xff000000 ||| 0x010100)) :=
    readlIs_still (by decide) _ _
  refine leaves_still routed (by decide) fun held => ?_
  refine Leaves.tidy (Kept.onlyIf fun _ => kept) (by simp) (by simp) (by simp) fun ret => ?_
  refine leaves_call rfl fun _ => leaves_call rfl fun accessible => ?_
  have restored : Still configs (do
      query (.writel .root 0x18 buses)
      let same ← readlIs .root 0x18 buses
      return if same then ret else eio) :=
    Prog.Makes.call rfl fun _ => Prog.Makes.bind (readlIs_still (by decide) _ _) fun _ => trivial
  refine leaves_still (onlyIf_makes restored) (by simp) fun ret => ?_
  exact leaves_call rfl fun _ => Leaves.done rfl

theorem routeEndpoint_kept (o : ModuleOptions) (parents : ScanParents) :
    Kept [] configs endpointFrees (routeEndpoint o parents) := by
  have known : Still configs (allOf [readlIs .root 0 0x1002106b, readlIs .root 8 0x06040001]) := by
    refine allOf_makes ?_
    simp only [List.mem_cons, List.not_mem_nil, or_false, forall_eq_or_imp, forall_eq]
    exact ⟨readlIs_still (by decide) _ _, readlIs_still (by decide) _ _⟩
  refine leaves_still known (by decide) fun known => Leaves.ite (fun _ => Leaves.done rfl) fun _ => ?_
  refine leaves_call rfl fun buses => Leaves.ite (fun _ => Leaves.done rfl) fun _ => ?_
  exact Leaves.ite (fun _ => holdBusNumbers_kept buses (observeEndpoint_kept o parents)) fun _ =>
    observeEndpoint_kept o parents

abbrev linkFrees : List Resource :=
  .region 0x610008000 :: .region 0x610100000 :: mapped .root :: mapped .endpoint :: endpointFrees

theorem snapshotEndpoint_kept (o : ModuleOptions) (parents : ScanParents) :
    Kept [] [] linkFrees (snapshotEndpoint o parents) := by
  refine requestMemRegion_kept (by decide) (by decide) ?_ (Leaves.done rfl)
  have release (ret : Int) : Kept [.region 0x610008000] [] linkFrees (do
      query (.releaseMemRegion 0x610008000)
      return ret) :=
    releaseMemRegion_kept (by decide) (by decide) (by decide) (Leaves.done rfl)
  refine requestMemRegion_kept (by decide) (by decide) ?_ (release _)
  have finish (ret : Int) : Kept [.region 0x610100000] []
      (mapped .root :: mapped .endpoint :: endpointFrees) (do
        query (.releaseMemRegion 0x610100000)
        return ret) :=
    releaseMemRegion_kept (by decide) (by decide) (by decide) (Leaves.done rfl)
  have route : Kept [.region 0x610100000] [] (mapped .root :: mapped .endpoint :: endpointFrees) (do
      let rc ← query (.ioremap 0x610008000)
      let ep ← query (.ioremap 0x610100000)
      let ret ← onlyIf (rc && ep) enomem (routeEndpoint o parents)
      onlyIf ep () (query (.iounmap 0x610100000))
      onlyIf rc () (query (.iounmap 0x610008000))
      query (.releaseMemRegion 0x610100000)
      return ret) := by
    refine ioremap_kept (by decide) (by decide) ?_ ?_
    · refine ioremap_kept (by decide) (by decide) ?_ (iounmap_kept (by decide) (finish _))
      refine Leaves.tidy (routeEndpoint_kept o parents) (by decide) (by decide) (by decide) fun ret => ?_
      exact iounmap_kept (by decide) (iounmap_kept (by decide) (finish _))
    · exact ioremap_kept (by decide) (by decide) (iounmap_kept (by decide) (finish _)) (finish _)
  exact Leaves.settle route (by decide) (by decide) (by decide) release

/-! ### The link and the radio -/

section Radio

variable {needs frees frees' : List Resource} {observe : Kernel Int}

theorem readEqual_still (map : RegMap) (reg : Nat) (expected : U32) :
    Still [] (readEqual map reg expected) := Prog.Makes.call rfl fun _ => trivial

theorem holdLink_kept (control : U32) (port : mapped .port ∈ needs) (kept : Kept [] needs frees observe) :
    Kept [] needs frees (holdLink control observe) := by
  have access (c : Call) (reads : KernelLedger.needs c = [mapped .port]) (unmoving : moving c = false) :
      still ([] ++ needs) c = true := still_access reads unmoving port
  have started : Still needs (readlIs .port 0x80 (control ||| 1)) := readlIs_still port _ _
  refine leaves_call rfl fun _ => leaves_call (access _ rfl rfl) fun _ => ?_
  refine leaves_still started (List.Subset.refl _) fun started => ?_
  have train : Kept [] needs frees (do
      let answer ← query (.readlPollTimeout .port 0x88)
      andThen (if answer.2 = allOnes then enodev else answer.1) observe) :=
    leaves_call (access _ rfl rfl) fun _ => Kept.andThen kept
  refine Leaves.tidy (Kept.onlyIf fun _ => train) (List.Subset.refl _) (List.Subset.refl _) (by simp)
    fun ret => ?_
  refine leaves_call rfl fun _ => leaves_call (access _ rfl rfl) fun status => ?_
  have stop : Still needs (do
      query (.writel .port 0x80 control)
      let same ← readlIs .port 0x80 control
      return if same then ret else eio) :=
    Prog.Makes.call (access _ rfl rfl) fun _ =>
      Prog.Makes.bind (readlIs_still port _ _) fun _ => trivial
  refine leaves_still (onlyIf_makes stop) (List.Subset.refl _) fun ret => ?_
  exact leaves_call rfl fun _ => Leaves.done rfl

theorem releasePerst_kept (control : U32) (port : mapped .port ∈ needs) (reset : .resetLine ∈ needs)
    (kept : Kept [] needs frees observe) :
    Kept [] needs frees (releasePerst control observe) := by
  have drive (value : Bool) : still ([] ++ needs) (.gpiodDirectionOutputRaw value) = true := by
    simpa [still, moving, KernelLedger.needs] using reset
  refine leaves_call (drive _) fun ret => ?_
  refine leaves_still (andThen_makes (readEqual_still _ _ _)) (List.nil_subset _) fun ret => ?_
  refine Leaves.tidy (Kept.andThen (holdLink_kept control port kept)) (List.Subset.refl _)
    (List.Subset.refl _) (by simp) fun ret => ?_
  refine leaves_call (drive _) fun cleanup => ?_
  exact leaves_still (andThen_makes (readEqual_still _ _ _)) (List.nil_subset _) fun _ =>
    Leaves.done rfl

theorem observeHeldRadio_kept (o : ModuleOptions) (parents : ScanParents) :
    Kept [] [.resetLine, mapped .port] linkFrees (observeHeldRadio o parents) := by
  refine leaves_call rfl fun control => Leaves.ite (fun _ => Leaves.done rfl) fun _ => ?_
  refine leaves_call rfl fun status => Leaves.ite (fun _ => Leaves.done rfl) fun _ => ?_
  refine Leaves.ite (fun _ => Leaves.done rfl) fun _ => ?_
  refine leaves_still (readEqual_still _ _ _) (List.nil_subset _) fun ret => ?_
  refine Leaves.ite (fun _ => Leaves.done rfl) fun _ => ?_
  exact releasePerst_kept control (by decide) (by decide) (Kept.onlyIf fun _ =>
    Leaves.weaken (snapshotEndpoint_kept o parents) (by decide) (by decide))

theorem radioDevices_still : Still [] radioDevices := by
  refine Prog.Makes.call rfl fun _ => Prog.Makes.ite (fun _ => trivial) fun _ => ?_
  refine Prog.Makes.call rfl fun _ => Prog.Makes.ite (fun _ => trivial) fun _ => ?_
  refine Prog.Makes.call rfl fun _ => Prog.Makes.ite (fun _ => trivial) fun _ => ?_
  refine Prog.Makes.call rfl fun _ => Prog.Makes.ite (fun _ => trivial) fun _ => ?_
  refine Prog.Makes.call rfl fun _ => Prog.Makes.ite (fun _ => trivial) fun _ => ?_
  refine Prog.Makes.call rfl fun _ => Prog.Makes.ite (fun _ => trivial) fun _ => ?_
  refine Prog.Makes.call rfl fun _ => Prog.Makes.ite (fun _ => trivial) fun _ => ?_
  refine Prog.Makes.call rfl fun _ => Prog.Makes.ite (fun _ => trivial) fun _ => ?_
  refine Prog.Makes.call rfl fun _ => Prog.Makes.ite (fun _ => trivial) fun _ => ?_
  exact Prog.Makes.call rfl fun _ => Prog.Makes.call rfl fun _ => trivial

theorem radioBaseline_still : Still [] radioBaseline := by
  refine Prog.Makes.call rfl fun _ => Prog.Makes.ite (fun _ => trivial) fun _ => ?_
  refine Prog.Makes.call rfl fun _ => Prog.Makes.ite (fun _ => trivial) fun _ => ?_
  refine Prog.Makes.ite (fun _ => trivial) fun _ => ?_
  refine Prog.Makes.bind (readEqual_still _ _ _) fun _ => ?_
  refine Prog.Makes.bind (andThen_makes (readEqual_still _ _ _)) fun _ => ?_
  exact andThen_makes (readEqual_still _ _ _)

theorem writeBack_still (map : RegMap) (reg : Nat) (saved : U32) :
    Still [] (writeBack map reg saved) :=
  Prog.Makes.call rfl fun _ => andThen_makes (readEqual_still _ _ _)

theorem restoreRadio_still (powered : Bool) (ret : Int) : Still [] (restoreRadio powered ret) := by
  refine Prog.Makes.bind (onlyIf_makes (writeBack_still _ _ _)) fun _ => ?_
  refine Prog.Makes.ite (fun _ => trivial) fun _ => ?_
  exact Prog.Makes.bind (writeBack_still _ _ _) fun _ => trivial

theorem powerRadio_kept (reset : .resetLine ∈ needs) (kept : Kept [] needs frees observe) :
    Kept [] needs frees (powerRadio (some observe)) := by
  have drive : still ([] ++ needs) (.gpiodDirectionOutputRaw false) = true := by
    simpa [still, moving, KernelLedger.needs] using reset
  refine leaves_call drive fun ret => ?_
  refine leaves_still (andThen_makes (readEqual_still _ _ _)) (List.nil_subset _) fun ret => ?_
  refine Leaves.ite (fun _ => Leaves.done rfl) fun _ => leaves_call rfl fun ret => ?_
  refine leaves_still (andThen_makes (readEqual_still _ _ _)) (List.nil_subset _) fun ret => ?_
  refine leaves_still (andThen_makes (readEqual_still _ _ _)) (List.nil_subset _) fun ret => ?_
  refine Leaves.ite (fun _ => Leaves.done rfl) fun _ => leaves_call rfl fun _ => ?_
  exact Leaves.tidy (Kept.andThen kept) (List.Subset.refl _) (List.Subset.refl _) (by simp)
    fun _ => Leaves.done rfl

theorem radioPulse_kept (pulse : Bool) (free : .resetLine ∈ frees) (unneeded : .resetLine ∉ frees')
    (room : frees' ⊆ frees) (kept : Kept [] (.resetLine :: needs) frees' observe) :
    Kept [] needs frees (radioPulse pulse (some observe)) := by
  refine leaves_still isJ42dT7000_still (List.nil_subset _) fun _ => ?_
  refine Leaves.ite (fun _ => Leaves.done rfl) fun _ => ?_
  refine leaves_still radioDevices_still (List.nil_subset _) fun _ => ?_
  refine Leaves.ite (fun _ => Leaves.done rfl) fun _ => ?_
  refine leaves_still radioBaseline_still (List.nil_subset _) fun _ => ?_
  refine Leaves.ite (fun _ => Leaves.done rfl) fun _ => ?_
  refine Leaves.ite (fun _ => Leaves.done rfl) fun _ => ?_
  refine Leaves.take .resetLine (fun _ => rfl) (fun _ => rfl) (List.nil_subset _) rfl free (by simp)
    (fun reset granted => ?_) fun reset refused => ?_
  · rw [if_neg (Int.not_lt.mpr granted)]
    refine leaves_call rfl fun _ => ?_
    refine Leaves.tidy (powerRadio_kept (.head _) kept) (List.Subset.refl _) room ?_ fun result => ?_
    · rintro k member (_ | ⟨_, ⟨⟩⟩)
      exact unneeded member
    refine leaves_call rfl fun _ => ?_
    refine leaves_still (restoreRadio_still _ _) (List.nil_subset _) fun ret => ?_
    refine Leaves.give .resetLine (fun _ => rfl) (fun _ => rfl) (List.nil_subset _) nofun (.head _)
      fun _ => ?_
    exact leaves_call rfl fun _ => Leaves.done (by simp)
  · rw [if_pos (Int.not_le.mp refused)]
    exact Leaves.done rfl

end Radio

/-! ### The DART and its mapping client -/

section Dart

variable {needs frees : List Resource} {operate : Option (Kernel Int)} {α : Type}

theorem dartProps_still (operated testDmaRange : Bool) : Still [] (dartProps operated testDmaRange) := by
  refine Prog.Makes.bind (addProps_still _ _) fun ret => ?_
  refine Prog.Makes.bind (andThen_makes (onlyIfCall_still rfl)) fun ret => ?_
  refine andThen_makes (onlyIf_makes (Prog.Makes.call rfl fun _ => ?_))
  exact Prog.Makes.ite (fun _ => trivial) fun _ => ⟨rfl, fun _ => trivial⟩

/-- What the callback runs on top of the DART device has it to itself. -/
abbrev OnDart (needs frees : List Resource) (operate : Option (Kernel Int)) : Prop :=
  Kept [] (.dartDevice :: needs) (frees.filter (· ≠ .dartDevice)) (operate.getD (pure 0))

/-- The use of the DART leaves its device to unregister, if there is one. -/
theorem useDart_leaves (free : .dartDevice ∈ frees) (kept : OnDart needs frees operate) :
    Leaves accounts [] needs frees (fun result rest => rest = if result.2 then [.dartDevice] else [])
      (useDart operate) := by
  refine leaves_call rfl fun answer => Leaves.ite (fun _ => Leaves.done rfl) fun _ => ?_
  refine Leaves.take .dartDevice (fun _ => rfl) (fun _ => rfl) (List.nil_subset _) rfl free nofun
    (fun made granted => ?_) fun made refused => ?_
  · obtain rfl : made = true := granted
    have bound : still [.dartDevice] .dartDriverBound = true := rfl
    refine leaves_call (still_weaken (List.subset_append_of_subset_left _ (List.Subset.refl _)) bound)
      fun bound => ?_
    refine Leaves.ite (fun _ => Leaves.done rfl) fun _ => ?_
    refine Leaves.tidy kept (List.Subset.refl _) (fun _ member => (List.mem_filter.mp member).1) ?_ fun ret => Leaves.done rfl
    rintro k member (_ | ⟨_, ⟨⟩⟩)
    simp at member
  · obtain rfl : made = false := Bool.eq_false_iff.mpr refused
    exact Leaves.done rfl

theorem holdDart_kept (room : [.dartDevice, .mapDriver, .rootBus] ⊆ frees)
    (kept : OnDart needs frees operate) : Kept [] needs frees (holdDart operate) := by
  refine leaves_call rfl fun _ => leaves_call rfl fun applied => ?_
  have finish (ret : Int) : Still [] (do
      let cleanup ← onlyIf (applied = 0) 0 (query (.ofChangesetRevert .dart))
      let ret := if cleanup ≠ 0 then cleanup else ret
      let detached ← query (.ofNodeIsDetached .dart)
      let cleanup ← onlyIf (!detached) 0 (query (.ofDetachNode .dart))
      query (.release .dart)
      return if cleanup ≠ 0 then cleanup else ret) := by
    refine Prog.Makes.bind (onlyIfCall_still rfl) fun cleanup => Prog.Makes.call rfl fun detached => ?_
    exact Prog.Makes.bind (onlyIfCall_still rfl) fun cleanup => Prog.Makes.call rfl fun _ => trivial
  have used : Leaves accounts [] needs frees (fun result rest => rest = if result.2 then [.dartDevice] else [])
      (onlyIf (applied = 0) (applied, false) (useDart operate)) := by
    by_cases done : applied = 0
    · rw [decide_eq_true done]
      exact useDart_leaves (room (.head _)) kept
    · rw [decide_eq_false done]
      exact Leaves.done rfl
  refine Leaves.bind used (List.Subset.refl _) (List.Subset.refl _) nofun ?_
  rintro ⟨ret, created⟩ _ rfl
  refine leaves_call (still_bare rfl) fun _ => ?_
  cases created with
  | false => exact Kept.of_still ((finish ret).weaken (List.nil_subset _))
  | true =>
    change Kept [.dartDevice] needs frees _
    refine Leaves.give .dartDevice (fun _ => rfl) (fun _ => rfl) (List.nil_subset _) ?_ (.head _)
      fun _ => Kept.of_still ((finish ret).weaken (List.nil_subset _))
    rintro k (_ | ⟨_, _ | ⟨_, ⟨⟩⟩⟩)
    · exact ⟨room (.tail _ (.head _)), by decide⟩
    · exact ⟨room (.tail _ (.tail _ (.head _))), by decide⟩

theorem withDart_kept (testDmaRange : Bool) (room : [.dartDevice, .mapDriver, .rootBus] ⊆ frees)
    (kept : OnDart needs frees operate) :
    Kept [] needs frees (withDart operate testDmaRange) := by
  refine leaves_still isJ42dT7000_still (List.nil_subset _) fun _ => ?_
  refine Leaves.ite (fun _ => Leaves.done rfl) fun _ => leaves_call rfl fun _ => ?_
  refine Leaves.ite (fun _ => Leaves.done rfl) fun _ => leaves_call rfl fun soc => ?_
  refine leaves_call rfl fun aic => Leaves.ite (fun _ => Leaves.done rfl) fun _ => ?_
  refine leaves_call rfl fun _ => Leaves.ite (fun _ => Leaves.done rfl) fun _ => ?_
  refine leaves_call rfl fun _ => Leaves.ite (fun _ => Leaves.done rfl) fun _ => ?_
  refine leaves_call rfl fun created => ?_
  refine leaves_still (onlyIf_makes (dartProps_still _ _)) (List.nil_subset _) fun ret => ?_
  refine Leaves.tidy (Kept.andThen (holdDart_kept room kept)) (List.Subset.refl _)
    (List.Subset.refl _) nofun fun ret => ?_
  exact leaves_call rfl fun _ => Leaves.done rfl

/-- The client's driver and device are gone before its node is. -/
theorem useDartMap_leaves : Leaves accounts [] [.dartDevice] [.mapDriver, .mapDevice]
    (fun result rest => rest = if result.2 then [.mapDriver] else []) useDartMap := by
  refine Leaves.take .mapDriver (fun _ => rfl) (fun _ => rfl) (by decide) rfl (by decide) (by decide)
    (fun ret granted => ?_) fun ret refused => ?_
  · rw [if_neg (not_not.mpr granted)]
    refine leaves_call rfl fun allocated => Leaves.ite (fun _ => Leaves.done rfl) fun _ => ?_
    refine Leaves.take .mapDevice (fun _ => rfl) (fun _ => rfl) (by decide) rfl (by decide) (by decide)
      (fun ret granted => ?_) fun ret refused => ?_
    · rw [if_neg (not_not.mpr granted)]
      refine leaves_call rfl fun answer => ?_
      exact Leaves.give .mapDevice (fun _ => rfl) (fun _ => rfl) (by decide) nofun (by decide)
        fun _ => Leaves.done rfl
    · rw [if_pos refused]
      exact Leaves.done rfl
  · rw [if_pos refused]
    exact Leaves.done rfl

theorem dartMap_kept : Kept [] [.dartDevice] [.mapDriver, .mapDevice] dartMap := by
  refine leaves_call rfl fun _ => Leaves.ite (fun _ => Leaves.done rfl) fun _ => ?_
  refine leaves_call rfl fun _ => Leaves.ite (fun _ => Leaves.done rfl) fun _ => ?_
  refine leaves_call rfl fun created => ?_
  refine leaves_still (onlyIf_makes (addProps_still _ _)) (List.nil_subset _) fun ret => ?_
  refine Leaves.tidy (Kept.andThen ?_) (List.Subset.refl _) (List.Subset.refl _) nofun fun ret =>
    leaves_call rfl fun _ => Leaves.done rfl
  refine leaves_call rfl fun applied => ?_
  have finish (ret : Int) : Still [] (do
      let cleanup ← onlyIf (applied = 0) 0 (query (.ofChangesetRevert .dartMap))
      let ret := if cleanup ≠ 0 then cleanup else ret
      let detached ← query (.ofNodeIsDetached .dartMap)
      let cleanup ← onlyIf (!detached) 0 (query (.ofDetachNode .dartMap))
      return if cleanup ≠ 0 then cleanup else ret) := by
    refine Prog.Makes.bind (onlyIfCall_still rfl) fun cleanup => Prog.Makes.call rfl fun detached => ?_
    exact Prog.Makes.bind (onlyIfCall_still rfl) fun cleanup => trivial
  have used : Leaves accounts [] [.dartDevice] [.mapDriver, .mapDevice]
      (fun result rest => rest = if result.2 then [.mapDriver] else [])
      (onlyIf (applied = 0) (applied, false) useDartMap) := by
    by_cases done : applied = 0
    · rw [decide_eq_true done]
      exact useDartMap_leaves
    · rw [decide_eq_false done]
      exact Leaves.done rfl
  refine Leaves.bind used (List.Subset.refl _) (List.Subset.refl _) nofun ?_
  rintro ⟨ret, registered⟩ _ rfl
  cases registered with
  | false => exact Kept.of_still ((finish ret).weaken (List.nil_subset _))
  | true =>
    change Kept [.mapDriver] [.dartDevice] [.mapDriver, .mapDevice] _
    exact Leaves.give .mapDriver (fun _ => rfl) (fun _ => rfl) (by decide) (by decide) (by decide)
      fun _ => Kept.of_still ((finish ret).weaken (List.nil_subset _))

end Dart

/-! ### The MSI domain and its vectors -/

def vectorsOf (irqs : List Int) : List Resource := irqs.map .irq

theorem mem_vectorsOf {irqs : List Int} {irq : Int} : .irq irq ∈ vectorsOf irqs ↔ irq ∈ irqs := by
  simp [vectorsOf]

/-- The vectors so far, each once and none of them zero. -/
def Allocated (irqs : List Int) (owned : List Resource) : Prop :=
  owned = vectorsOf irqs ∧ irqs.Nodup ∧ 0 ∉ irqs

theorem allocIrqs_leaves (rest : List Nat) {irqs : List Int} (once : irqs.Nodup) (nonzero : 0 ∉ irqs) :
    Leaves accounts (vectorsOf irqs) [.msiDomain] [] (fun result owned => Allocated result.2 owned)
      (allocIrqs rest irqs) := by
  induction rest generalizing irqs with
  | nil => exact Leaves.done ⟨rfl, once, nonzero⟩
  | cons i rest ih =>
    refine Leaves.takeFresh .irq (fun _ _ honest => honest.1) (fun _ => rfl) (fun _ => rfl)
      (List.subset_append_of_subset_right _ (List.Subset.refl _)) rfl
      (fun _ _ _ honest _ => honest.2) (fun irq promise granted fresh => ?_) fun irq _ refused => ?_
    · rw [if_neg (Int.not_lt.mpr granted)]
      have more : (irqs ++ [irq]).Nodup ∧ 0 ∉ irqs ++ [irq] := by
        rw [mem_vectorsOf] at fresh
        refine ⟨List.nodup_append.mpr ⟨once, by simp, ?_⟩, ?_⟩
        · rintro a member _ (_ | ⟨_, ⟨⟩⟩) rfl
          exact fresh member
        · simp [nonzero, Ne.symm promise]
      refine Leaves.same (vectorsOf (irqs ++ [irq])) ?_ fun k => by
        simp [vectorsOf, or_comm]
      refine leaves_call (by simp [still, moving, KernelLedger.needs]) fun data => ?_
      split
      · exact Leaves.ite (fun _ => Leaves.done ⟨rfl, more⟩) fun _ => ih more.1 more.2
      · exact Leaves.done ⟨rfl, more⟩
    · rw [if_pos (Int.not_le.mp refused)]
      exact Leaves.done ⟨rfl, once, nonzero⟩

theorem freeIrqs_kept {irqs : List Int} (once : irqs.Nodup) :
    Kept (vectorsOf irqs) [.msiDomain] [] (freeIrqs irqs) := by
  induction irqs with
  | nil => exact Leaves.done rfl
  | cons irq irqs ih =>
    obtain ⟨fresh, once⟩ := List.nodup_cons.mp once
    refine Leaves.give (.irq irq) (fun _ => rfl) (fun _ => rfl)
      (List.subset_append_of_subset_right _ (List.Subset.refl _)) nofun (.head _) fun _ => ?_
    have rest : (vectorsOf (irq :: irqs)).filter (· ≠ .irq irq) = vectorsOf irqs := by
      have other (number : Int) (member : number ∈ irqs) : number ≠ irq := by
        rintro rfl
        exact fresh member
      simpa [vectorsOf, List.filter_cons, List.filter_eq_self] using other
    rw [rest]
    exact ih once

theorem anyMapping_still (rest : List Nat) : Still [] (anyMapping rest) := by
  induction rest with
  | nil => trivial
  | cons i rest ih => exact Prog.Makes.call rfl fun _ => Prog.Makes.ite (fun _ => trivial) fun _ => ih

theorem checkUnmapped_still (rest : List Nat) (ret : Int) : Still [] (checkUnmapped rest ret) := by
  induction rest generalizing ret with
  | nil => trivial
  | cons i rest ih => exact Prog.Makes.call rfl fun _ => ih _

section Msi

variable {needs frees : List Resource} {operate : Option (Kernel Int)}

/-- The two registers are set and read back through the port. -/
theorem setPort_still (port : mapped .port ∈ needs) (control base : U32) :
    Still needs (allOf [readlIs .port 0x124 control, readlIs .port 0x128 base]) := by
  refine allOf_makes ?_
  simp only [List.mem_cons, List.not_mem_nil, or_false, forall_eq_or_imp, forall_eq]
  exact ⟨readlIs_still port _ _, readlIs_still port _ _⟩

theorem useMsi_leaves (port : mapped .port ∈ needs) (domain : .msiDomain ∈ needs)
    (kept : Kept [] needs frees (operate.getD (pure 0))) :
    Leaves accounts [] needs frees (fun result owned => Allocated result.2 owned) (useMsi operate) := by
  have write (offset : Nat) (value : U32) : still ([] ++ needs) (.writel .port offset value) = true :=
    still_access rfl rfl port
  refine leaves_call (write _ _) fun _ => leaves_call (write _ _) fun _ => ?_
  refine leaves_still (setPort_still port _ _) (List.Subset.refl _) fun set => ?_
  refine Leaves.ite (fun _ => Leaves.done ⟨rfl, List.nodup_nil, nofun⟩) fun _ => ?_
  have enough : [.msiDomain] ⊆ [] ++ needs := List.cons_subset.mpr ⟨domain, List.nil_subset _⟩
  refine Leaves.bind (allocIrqs_leaves slots (List.nodup_nil : ([] : List Int).Nodup) nofun) enough
    (List.nil_subset _) nofun ?_
  rintro ⟨ret, irqs⟩ _ ⟨rfl, once, nonzero⟩
  rw [List.append_nil]
  refine Leaves.ite (fun _ => Leaves.done ⟨rfl, once, nonzero⟩) fun _ => ?_
  rw [← List.append_nil (vectorsOf irqs)]
  refine Leaves.settle (freeIrqs_kept once) enough (List.nil_subset _) nofun fun _ => ?_
  exact Leaves.tidy kept (List.Subset.refl _) (List.Subset.refl _) nofun fun _ =>
    Leaves.done ⟨rfl, List.nodup_nil, nofun⟩

theorem holdMsi_kept (control base : U32) (port : mapped .port ∈ needs) (fwnode : .fwnode ∈ needs)
    (kept : Kept [] (.msiDomain :: needs) frees (operate.getD (pure 0)))
    (apart : .msiDomain ∉ frees) :
    Kept [.msiDomain] needs frees (holdMsi control base operate) := by
  have tail : needs ⊆ [.msiDomain] ++ needs := List.subset_append_of_subset_right _ (List.Subset.refl _)
  refine leaves_call rfl fun _ => ?_
  refine Leaves.bind (useMsi_leaves (.tail _ port) (.head _) kept)
    (List.Subset.refl _) (List.Subset.refl _) ?_ ?_
  · rintro k member (_ | ⟨_, ⟨⟩⟩)
    exact apart member
  rintro ⟨ret, irqs⟩ _ ⟨rfl, once, nonzero⟩
  refine leaves_call rfl fun _ => ?_
  have all : irqs.filter (· ≠ 0) = irqs := List.filter_eq_self.mpr fun irq member => by
    rw [decide_eq_true_iff]
    rintro rfl
    exact nonzero member
  dsimp only
  rw [all]
  refine Leaves.settle (freeIrqs_kept once) (List.subset_append_of_subset_left _ (List.Subset.refl _))
    (List.nil_subset _) (by simp [vectorsOf]) fun _ => ?_
  refine leaves_call rfl fun used => ?_
  refine leaves_still (checkUnmapped_still _ _) (List.nil_subset _) fun ret => ?_
  refine Leaves.give .msiDomain (fun _ => rfl) (fun _ => rfl)
    (List.cons_subset.mpr ⟨tail fwnode, List.nil_subset _⟩) nofun (.head _) fun _ => ?_
  have write (offset : Nat) (value : U32) : still ([] ++ needs) (.writel .port offset value) = true :=
    still_access rfl rfl port
  change Kept [] needs frees _
  refine leaves_call (write _ _) fun _ => leaves_call (write _ _) fun _ => ?_
  refine leaves_still (setPort_still port _ _) (List.Subset.refl _) fun same => ?_
  exact leaves_call rfl fun _ => Leaves.done rfl

theorem withMsi_kept (port : mapped .port ∈ needs) (room : [.fwnode, .msiDomain] ⊆ frees)
    (kept : Kept [] (.msiDomain :: .fwnode :: needs)
      (frees.filter fun k => k ≠ Resource.fwnode ∧ k ≠ Resource.msiDomain) (operate.getD (pure 0))) :
    Kept [] needs frees (withMsi operate) := by
  have read (offset : Nat) : still ([] ++ needs) (.readl .port offset) = true :=
    still_access rfl rfl port
  refine leaves_call (read _) fun control => leaves_call (read _) fun base => ?_
  refine leaves_still isJ42dT7000_still (List.nil_subset _) fun _ => ?_
  refine Leaves.ite (fun _ => Leaves.done rfl) fun _ => Leaves.ite (fun _ => Leaves.done rfl) fun _ => ?_
  refine leaves_call rfl fun _ => Leaves.ite (fun _ => Leaves.done rfl) fun _ => ?_
  refine leaves_call rfl fun _ => Leaves.ite (fun _ => Leaves.done rfl) fun _ => ?_
  refine leaves_call rfl fun _ => Leaves.ite (fun _ => Leaves.done rfl) fun _ => ?_
  refine leaves_still (anyMapping_still _) (List.nil_subset _) fun _ => ?_
  refine Leaves.ite (fun _ => Leaves.done rfl) fun _ => ?_
  refine Leaves.take .fwnode (fun _ => rfl) (fun _ => rfl) (List.nil_subset _) rfl (room (.head _))
    nofun (fun found granted => ?_) fun found refused => ?_
  · obtain rfl : found = true := granted
    have finish (ret : Int) : Kept [.fwnode] needs frees (do
        query .irqDomainFreeFwnode
        return ret) := by
      refine Leaves.give .fwnode (fun _ => rfl) (fun _ => rfl) (List.nil_subset _) ?_ (.head _)
        fun _ => Leaves.done rfl
      rintro k (_ | ⟨_, ⟨⟩⟩)
      exact ⟨room (.tail _ (.head _)), by decide⟩
    refine Leaves.take .msiDomain (fun _ => rfl) (fun _ => rfl)
      (List.subset_append_of_subset_left _ (List.Subset.refl _)) rfl (room (.tail _ (.head _)))
      (by decide) (fun created granted => ?_) fun created refused => ?_
    · obtain rfl : created = true := granted
      have hold := holdMsi_kept control base (.tail _ port) (.head _) kept (by simp)
      refine Leaves.settle hold (List.Subset.refl _)
        (fun _ member => (List.mem_filter.mp member).1) ?_ finish
      rintro k member (_ | ⟨_, ⟨⟩⟩)
      simp at member
    · obtain rfl : created = false := Bool.eq_false_iff.mpr refused
      exact finish _
  · obtain rfl : found = false := Bool.eq_false_iff.mpr refused
    exact Leaves.done rfl

end Msi

/-! ### Inside the PHY -/

/-- All that the stages inside the PHY may take. -/
abbrev stageFrees : List Resource :=
  .region 0x602002000 :: mapped .dart :: .fwnode :: .msiDomain :: .dartDevice :: .mapDriver ::
    .mapDevice :: .resetLine :: linkFrees

theorem observeRadio_kept (o : ModuleOptions) (parents : ScanParents) :
    Kept [] [mapped .port] (.resetLine :: linkFrees) (observeRadio o parents) :=
  radioPulse_kept true (by decide) (by decide) (by decide) (observeHeldRadio_kept o parents)

theorem observeReadyPhy_kept (o : ModuleOptions) :
    Kept [] [mapped .port] stageFrees (observeReadyPhy o) := by
  have radio (parents : ScanParents) : OnDart [mapped .port] stageFrees
      (some (observeRadio o parents)) :=
    Leaves.weaken (observeRadio_kept o parents) (by decide) (by decide)
  have mapped : OnDart [mapped .port] stageFrees (if o.mapDart then some dartMap else none) := by
    cases o.mapDart with
    | false => exact Leaves.done rfl
    | true => exact Leaves.weaken dartMap_kept (by decide) (by decide)
  have scanned : Kept [] [.msiDomain, .fwnode, KernelLedger.mapped .port]
      (stageFrees.filter fun k => k ≠ Resource.fwnode ∧ k ≠ Resource.msiDomain)
      (observePciWithMsi o) := by
    refine withDart_kept o.testDmaRange (by decide) ?_
    exact Leaves.weaken (observeRadio_kept o _) (by decide) (by decide)
  have dart (resetExpected : Bool) : Kept [] [KernelLedger.mapped .port] stageFrees
      (snapshotDart o resetExpected) :=
    Leaves.weaken (snapshotDart_kept o resetExpected) (by decide) (by decide)
  have stage {p : Kernel Int} {needed : Bool} {f : Int → Kernel Int} {ret : Int}
      (kept : Kept [] [KernelLedger.mapped .port] stageFrees p)
      (rest : ∀ ret, Kept [] [KernelLedger.mapped .port] stageFrees (f ret)) :
      Kept [] [KernelLedger.mapped .port] stageFrees (andThen ret (onlyIf needed 0 p) >>= f) :=
    Leaves.tidy (Kept.andThen (Kept.onlyIf fun _ => kept)) (by decide) (by decide) nofun rest
  refine Leaves.tidy (Kept.onlyIf fun _ => snapshotRootPort_kept) (by decide) (by decide) nofun
    fun ret => ?_
  refine stage (dart false) fun ret => ?_
  refine stage (withMsi_kept (by decide) (by decide) (Leaves.done rfl)) fun ret => ?_
  refine stage (withDart_kept o.testDmaRange (by decide) mapped) fun ret => ?_
  refine stage (dart true) fun ret => ?_
  refine stage (withMsi_kept (by decide) (by decide) scanned) fun ret => ?_
  refine stage (withDart_kept o.testDmaRange (by decide) (radio _)) fun ret => ?_
  refine stage (dart true) fun ret => ?_
  exact Kept.andThen (Kept.onlyIf fun _ => Leaves.weaken (observeRadio_kept o _) (by decide) (by decide))

abbrev phyWindows : List Resource := [mapped .core, mapped .port]

theorem radioIsOff_still : Still [] radioIsOff := by
  refine Prog.Makes.call rfl fun _ => Prog.Makes.ite (fun _ => trivial) fun _ => ?_
  refine Prog.Makes.call rfl fun _ => Prog.Makes.ite (fun _ => trivial) fun _ => ?_
  refine Prog.Makes.call rfl fun _ => Prog.Makes.ite (fun _ => trivial) fun _ => ?_
  refine Prog.Makes.call rfl fun _ => Prog.Makes.ite (fun _ => trivial) fun _ => ?_
  refine Prog.Makes.call rfl fun _ => Prog.Makes.ite (fun _ => trivial) fun _ => ?_
  exact Prog.Makes.call rfl fun _ => trivial

theorem applySteps_still (steps : List CoreStep) (applied : List AppliedStep) :
    Still phyWindows (applySteps steps applied) := by
  induction steps generalizing applied with
  | nil => trivial
  | cons step steps ih =>
    refine Prog.Makes.call rfl fun _ => Prog.Makes.ite (fun _ => trivial) fun _ => ?_
    refine Prog.Makes.bind (onlyIfCall_still rfl) fun _ => Prog.Makes.call rfl fun _ => ?_
    exact Prog.Makes.call rfl fun _ => Prog.Makes.ite (fun _ => trivial) fun _ => ih _

theorem preparePort_still (inspectPrefix testRefclk : Bool) :
    Still phyWindows (preparePort inspectPrefix testRefclk) := by
  refine Prog.Makes.bind (radioIsOff_still.weaken (List.nil_subset _)) fun _ => ?_
  exact Prog.Makes.ite (fun _ => trivial) fun _ => applySteps_still _ _

theorem rollBackSteps_still (applied : List AppliedStep) (ret : Int) :
    Still phyWindows (rollBackSteps applied ret) := by
  induction applied generalizing ret with
  | nil => trivial
  | cons applied rest ih =>
    refine Prog.Makes.call rfl fun _ => Prog.Makes.ite (fun _ => trivial) fun _ => ?_
    exact Prog.Makes.call rfl fun _ => Prog.Makes.call rfl fun _ => ih _

theorem rollBackPhy_still (applied : List AppliedStep) (ret : Int) :
    Still phyWindows (rollBackPhy applied ret) := by
  refine Prog.Makes.ite (fun _ => trivial) fun _ => Prog.Makes.call rfl fun _ => ?_
  exact Prog.Makes.bind (rollBackSteps_still _ _) fun _ => Prog.Makes.call rfl fun _ => trivial

section Phy

variable {frees : List Resource} {operate : Kernel Int} (preparing inspectPrefix testRefclk : Bool)

theorem usePhy_kept (kept : Kept [] [mapped .port] frees operate) :
    Kept [] phyWindows frees (usePhy preparing inspectPrefix testRefclk (some operate)) := by
  refine leaves_still (onlyIf_makes (preparePort_still _ _)) (by decide) fun prepared => ?_
  refine Leaves.ite (fun _ => Leaves.done rfl) fun _ => ?_
  have core : Still phyWindows (readOffsets .core coreOffsets) := readOffsets_still (by decide) _
  have port : Still phyWindows (readOffsets .port portOffsets) := readOffsets_still (by decide) _
  refine leaves_still core (by decide) fun ret => Leaves.ite (fun _ => Leaves.done rfl) fun _ => ?_
  refine leaves_still port (by decide) fun ret => Leaves.ite (fun _ => Leaves.done rfl) fun _ => ?_
  exact Leaves.tidy kept (by decide) (List.Subset.refl _) nofun fun _ => Leaves.done rfl

abbrev phyFrees : List Resource := mapped .core :: mapped .port :: stageFrees

theorem mapPhy_kept (kept : Kept [] [mapped .port] stageFrees operate) :
    Kept [] [] phyFrees (mapPhy preparing inspectPrefix testRefclk (some operate)) := by
  have used := usePhy_kept preparing inspectPrefix testRefclk kept
  refine ioremap_kept (by decide) (by decide) ?_ ?_
  · refine ioremap_kept (by decide) (by decide) ?_ (iounmap_kept (by decide) (Leaves.done rfl))
    refine Leaves.tidy used (by decide) (by decide) (by decide) fun result => ?_
    refine leaves_still (rollBackPhy_still _ _) (by decide) fun ret => ?_
    exact iounmap_kept (by decide) (iounmap_kept (by decide) (Leaves.done rfl))
  · refine ioremap_kept (by decide) (by decide) (iounmap_kept (by decide) (Leaves.done rfl)) ?_
    exact Leaves.done rfl

theorem withPciePhy_kept (kept : Kept [] [mapped .port] stageFrees operate) :
    Kept [] [] (.region 0x600000000 :: .region 0x602004000 :: phyFrees)
      (withPciePhy preparing inspectPrefix testRefclk (some operate)) := by
  refine Leaves.ite (fun _ => Leaves.done rfl) fun _ => ?_
  refine leaves_still isJ42dT7000_still (List.nil_subset _) fun _ => ?_
  refine Leaves.ite (fun _ => Leaves.done rfl) fun _ => ?_
  refine requestMemRegion_kept (by decide) (by decide) ?_ (Leaves.done rfl)
  have finish (ret : Int) : Kept [.region 0x600000000] []
      (.region 0x600000000 :: .region 0x602004000 :: phyFrees) (do
        query (.releaseMemRegion 0x600000000)
        return ret) :=
    releaseMemRegion_kept (by decide) (by decide) (by decide) (Leaves.done rfl)
  refine requestMemRegion_kept (by decide) (by decide) ?_ (finish _)
  refine Leaves.tidy (mapPhy_kept preparing inspectPrefix testRefclk kept) (by decide) (by decide)
    (by decide) fun ret => ?_
  exact releaseMemRegion_kept (by decide) (by decide) (by decide) (finish _)

end Phy

end WinBoot.ProbeResources
