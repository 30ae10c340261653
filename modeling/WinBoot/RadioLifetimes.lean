import WinBoot.ParentLifetimes

/-! The lifetimes inside the radio's: the rail behind an asserted PERST, the link, the routed bus
numbers, and the endpoint's chip, with the registers that are only read on the way. -/

namespace WinBoot.RadioLifetimes
open Interaction KernelCalls PciScan PciHost EndpointProbe Nesting Lifetimes LayerLifetimes
  ParentLifetimes
open PciePhy RadioPulse

section Radio

variable {o : ModuleOptions} {held : Held Layer} {layer : Layer} {inner : Option (Layer × Bool)}

theorem readEqual_steady (map : RegMap) (reg : Nat) (expected : U32) :
    Steady (some (layer, false)) (readEqual map reg expected) fun _ => True :=
  steady_call rfl fun _ => trivial

theorem radioDevices_steady : Steady inner radioDevices fun _ => True := by
  refine steady_call rfl fun pinctrl => Prog.Yields.ite (fun _ => trivial) fun _ => ?_
  refine steady_call rfl fun compatible => Prog.Yields.ite (fun _ => trivial) fun _ => ?_
  refine steady_call rfl fun gpio => Prog.Yields.ite (fun _ => trivial) fun _ => ?_
  refine steady_call rfl fun pmic => Prog.Yields.ite (fun _ => trivial) fun _ => ?_
  refine steady_call rfl fun compatible => Prog.Yields.ite (fun _ => trivial) fun _ => ?_
  refine steady_call rfl fun pmu => Prog.Yields.ite (fun _ => trivial) fun _ => ?_
  refine steady_call rfl fun bound => Prog.Yields.ite (fun _ => trivial) fun _ => ?_
  refine steady_call rfl fun bound => Prog.Yields.ite (fun _ => trivial) fun _ => ?_
  refine steady_call rfl fun address => Prog.Yields.ite (fun _ => trivial) fun _ => ?_
  exact steady_call rfl fun _ => steady_call rfl fun _ => trivial

theorem radioBaseline_steady : Steady (some (layer, false)) radioBaseline fun _ => True := by
  refine steady_call rfl fun reset => Prog.Yields.ite (fun _ => trivial) fun _ => ?_
  refine steady_call rfl fun rail => Prog.Yields.ite (fun _ => trivial) fun _ => ?_
  refine Prog.Yields.ite (fun _ => trivial) fun _ => ?_
  refine (readEqual_steady _ _ _).bind fun ret _ => ?_
  refine Prog.Yields.after (andThen_makes (readEqual_steady _ _ _)) fun ret => ?_
  exact andThen_makes (readEqual_steady _ _ _)

theorem powerRadio_from {observe : Option (Kernel Int)}
    (observes : Keeps o ((.radio, false) :: held) 0 (observe.getD (pure 0))) :
    From o ((.radio, false) :: held) 0 (powerRadio observe) fun nest result =>
      Kept ((.radio, false) :: held) nest result.1 := by
  have stop {ret : Int} {powered : Bool} : From o ((.radio, false) :: held) ret
      (pure (ret, powered)) fun nest result => Kept ((.radio, false) :: held) nest result.1 :=
    From.done fun _ kept => kept
  have check {ret : Int} {map : RegMap} {reg : Nat} {expected : U32} :
      Keeps o ((.radio, false) :: held) ret (andThen ret (readEqual map reg expected)) :=
    Keeps.andThen (Keeps.steady (readEqual_steady _ _ _) fun _ _ zero => absurd rfl zero)
  refine From.access rfl (fun ret => ret) (fun _ zero => absurd rfl zero)
    (fun _ failed => of_decide_eq_true failed) fun ret => ?_
  refine Keeps.bind check fun ret => From.ite (fun _ => stop) fun success => ?_
  obtain rfl : ret = 0 := not_not.mp success
  refine From.call rfl fun ret => From.fresh ret (Keeps.bind check fun ret => ?_)
  refine Keeps.bind check fun ret => From.ite (fun _ => stop) fun success => ?_
  obtain rfl : ret = 0 := not_not.mp success
  refine From.call rfl ?_
  rintro ⟨ret, value⟩
  exact From.fresh ret (Keeps.bind (Keeps.andThen observes) fun ret => stop)

/-- A read that must give `expected` while the radio is torn down. -/
theorem readEqual_from {ret : Int} {map : RegMap} {reg : Nat} {expected : U32}
    (fit : fits held.head? (.regmapReadBypassed map reg) = true) :
    From o held ret (readEqual map reg expected) fun nest back =>
      Kept held nest (if back ≠ 0 then back else ret) := by
  refine From.access fit _ (fun _ => cleanup_carries) (fun answer failed => ?_) fun answer =>
    From.done fun _ kept => kept
  have failed : answer.1 ≠ 0 := of_decide_eq_true failed
  refine cleanup_tells ?_
  rw [if_pos failed]
  exact failed

theorem writeBack_from {ret : Int} (map : RegMap) (reg : Nat) (saved : U32) :
    From o ((.radio, true) :: held) ret (writeBack map reg saved) fun nest back =>
      Kept ((.radio, true) :: held) nest (if back ≠ 0 then back else ret) := by
  refine From.access rfl (fun written => if written ≠ 0 then written else ret)
    (fun _ => cleanup_carries) (fun _ failed => cleanup_tells (of_decide_eq_true failed))
    fun written => ?_
  unfold andThen
  refine From.ite (fun zero => ?_) fun failed => From.done fun _ kept => kept
  rw [if_neg (not_not.mpr zero)]
  exact readEqual_from rfl

theorem restoreRadio_keeps (powered : Bool) (ret : Int) :
    Keeps o ((.radio, true) :: held) ret (restoreRadio powered ret) := by
  have rail : From o ((.radio, true) :: held) ret
      (onlyIf powered 0 (writeBack .pmu railReg 0)) fun nest back =>
        Kept ((.radio, true) :: held) nest (if back ≠ 0 then back else ret) :=
    From.onlyIf (fun _ => writeBack_from _ _ _) fun _ kept => kept
  refine From.bind rail fun nest railBack kept => From.ite (fun failed => ?_) ?_ nest kept
  · rw [if_pos failed]
    exact Keeps.done id
  intro success
  rw [if_neg success]
  exact From.bind (writeBack_from _ _ _) fun nest resetBack kept => kept

theorem radioPulse_keeps (wanted : selected o .radio = true) {outer : Layer}
    (inside : held.head? = some (outer, false)) (deeper : Layer.rank outer < Layer.rank .radio)
    (pulse : Bool) {observe : Option (Kernel Int)}
    (observes : Keeps o ((.radio, false) :: held) 0 (observe.getD (pure 0))) :
    Keeps o held 0 (radioPulse pulse observe) := by
  have stop {ret : Int} : Keeps o held 0 (pure ret) := From.fresh ret (Keeps.done id)
  refine From.steady isJ42dT7000_steady fun machine _ => From.ite (fun _ => stop) fun _ => ?_
  refine From.steady radioDevices_steady fun found _ => From.ite (fun _ => stop) fun _ => ?_
  refine From.steady (inside ▸ radioBaseline_steady) fun ret _ => From.ite (fun _ => stop) ?_
  intro _
  refine From.ite (fun _ => stop) fun _ => ?_
  refine From.call rfl fun reset => From.ite (fun _ => stop) fun _ => ?_
  refine From.acquire wanted (follows_acquire inside deeper) ?_
  refine From.bind (powerRadio_from observes) ?_
  rintro nest ⟨ret, powered⟩ kept
  refine From.teardown ?_ nest kept
  refine Keeps.bind (restoreRadio_keeps powered ret) fun ret => ?_
  exact From.call rfl fun _ => From.release (Keeps.done id)

end Radio

section Link

variable {o : ModuleOptions} {held : Held Layer}

theorem holdLink_keeps (wanted : selected o .link = true) {outer : Layer}
    (inside : held.head? = some (outer, false)) (deeper : Layer.rank outer < Layer.rank .link)
    {control : U32} (known : control ≠ allOnes) {observe : Kernel Int}
    (observes : Keeps o ((.link, false) :: held) 0 observe) :
    Keeps o held 0 (holdLink control observe) := by
  refine From.acquire wanted (follows_acquire inside deeper) ?_
  refine From.call rfl fun _ => ?_
  have started : Steady (some (.link, false)) (readlIs .port 0x80 (control ||| 1)) fun _ => True :=
    steady_call rfl fun _ => trivial
  refine From.steady started fun started _ => ?_
  refine Keeps.bind (Keeps.onlyIf fun _ => From.call rfl ?_) fun ret => From.teardown ?_
  · rintro ⟨ret, status⟩
    exact From.fresh _ (Keeps.andThen observes)
  refine From.access rfl (fun status => if status ≠ allOnes then ret else enodev)
    (fun status before => ?_) (fun status failed => ?_) fun status => ?_
  · split_ifs
    · exact before
    · decide
  · have missing : status = allOnes := of_decide_eq_true failed
    rw [if_neg (not_not.mpr missing)]
    decide
  have stopped : Keeps o ((.link, true) :: held) (if status ≠ allOnes then ret else enodev)
      (onlyIf (status ≠ allOnes) enodev do
        query (.writel .port 0x80 control)
        let same ← readlIs .port 0x80 control
        return if same then ret else eio) := by
    by_cases accessible : status ≠ allOnes
    · simp only [accessible, if_true, ne_eq, not_false_eq_true, decide_true, onlyIf]
      refine From.call rfl fun _ => ?_
      exact From.bind (readBack_from rfl known) fun nest same kept => kept
    · simp only [accessible, if_false, decide_false, onlyIf]
      exact Keeps.done id
  refine Keeps.bind stopped fun ret => From.release ?_
  exact Keeps.done id

theorem releasePerst_keeps {held : Held Layer} {control : U32} {observe : Kernel Int}
    (observes : Keeps o ((.radio, false) :: held) 0 (holdLink control observe)) :
    Keeps o ((.radio, false) :: held) 0 (releasePerst control observe) := by
  have check {ret : Int} {expected : U32} : Keeps o ((.radio, false) :: held) ret
      (andThen ret (readEqual .gpio resetReg expected)) :=
    Keeps.andThen (Keeps.steady (readEqual_steady _ _ _) fun _ _ zero => absurd rfl zero)
  refine From.call rfl fun ret => From.fresh ret (Keeps.bind check fun ret => ?_)
  refine Keeps.bind (Keeps.andThen observes) fun ret => ?_
  refine From.access rfl _ (fun _ => cleanup_carries)
    (fun _ failed => cleanup_tells (of_decide_eq_true failed)) fun cleanup => ?_
  have asserted : Steady (some (.radio, false)) (andThen cleanup (readEqual .gpio resetReg 0x76202))
      fun after => cleanup ≠ 0 → after = cleanup := by
    unfold andThen
    split_ifs with zero
    · exact (readEqual_steady _ _ _).mono (fun _ still => still) fun _ _ failed =>
        absurd zero failed
    · exact fun _ => rfl
  refine From.steady asserted fun after same => Keeps.done fun told => ?_
  by_cases failed : cleanup ≠ 0
  · rw [same failed]
    exact cleanup_tells failed
  · rw [if_neg failed] at told
    exact cleanup_carries told

theorem observeHeldRadio_keeps (parents : ScanParents)
    (observes : o.trainLink = true → o.identifyEndpoint = true →
      Keeps o ((.link, false) :: (.radio, false) :: held) 0 (snapshotEndpoint o parents)) :
    Keeps o ((.radio, false) :: held) 0 (observeHeldRadio o parents) := by
  have stop {ret : Int} : Keeps o ((.radio, false) :: held) 0 (pure ret) :=
    From.fresh ret (Keeps.done id)
  refine From.call rfl fun control => From.ite (fun _ => stop) fun stopped => ?_
  refine From.call rfl fun status => From.ite (fun _ => stop) fun _ => ?_
  refine From.ite (fun _ => stop) fun trained => ?_
  refine From.steady (readEqual_steady _ _ _) fun ret _ => From.ite (fun _ => stop) fun _ => ?_
  have wanted : o.trainLink = true := by simpa using trained
  have known : control ≠ allOnes := fun missing => stopped (.inl missing)
  refine releasePerst_keeps (holdLink_keeps wanted rfl (by decide) known ?_)
  exact Keeps.onlyIf (observes wanted)

end Link

section Endpoint

variable {o : ModuleOptions} {held : Held Layer} {layer : Layer}

theorem holdBusNumbers_keeps (wanted : selected o .busNumbers = true) {outer : Layer}
    (inside : held.head? = some (outer, false))
    (deeper : Layer.rank outer < Layer.rank .busNumbers) (linked : (Layer.link, false) ∈ held)
    {buses : U32} (unset : buses &&& 0xffffff = 0) {observe : Kernel Int}
    (observes : Keeps o ((.busNumbers, false) :: held) 0 observe) :
    Keeps o held 0 (holdBusNumbers buses observe) := by
  have linked (closing : Bool) : (Layer.link, false) ∈ (Layer.busNumbers, closing) :: held :=
    .tail _ linked
  have known : buses ≠ allOnes := by
    rintro rfl
    exact absurd unset (by decide)
  refine From.acquire wanted (follows_acquire inside deeper) ?_
  refine From.store (linked false) rfl fun _ => ?_
  have routed : Steady (some (.busNumbers, false))
      (readlIs .root 0x18 (buses &&& 0xff000000 ||| 0x010100)) fun _ => True :=
    steady_call rfl fun _ => trivial
  refine From.steady routed fun routed _ => ?_
  refine Keeps.bind (Keeps.onlyIf fun _ => observes) fun ret => From.teardown ?_
  refine From.access rfl (fun accessible => if accessible ≠ allOnes then ret else eio)
    (fun accessible before => ?_) (fun accessible failed => ?_) fun accessible => ?_
  · split_ifs
    · exact before
    · decide
  · have missing : accessible = allOnes := of_decide_eq_true failed
    rw [if_neg (not_not.mpr missing)]
    decide
  have restored : Keeps o ((.busNumbers, true) :: held)
      (if accessible ≠ allOnes then ret else eio) (onlyIf (accessible ≠ allOnes) eio do
        query (.writel .root 0x18 buses)
        let same ← readlIs .root 0x18 buses
        return if same then ret else eio) := by
    by_cases answered : accessible ≠ allOnes
    · simp only [answered, if_true, ne_eq, not_false_eq_true, decide_true, onlyIf]
      refine From.store (linked true) rfl fun _ => ?_
      exact From.bind (readBack_from rfl known) fun nest same kept => kept
    · simp only [answered, if_false, decide_false, onlyIf]
      exact Keeps.done id
  refine Keeps.bind restored fun ret => From.release ?_
  exact Keeps.done id

theorem readlIs_steady {inner : Option (Layer × Bool)} {window : Window} {offset : Nat}
    {value : U32} (still : Lifetimes.steady inner (.readl window offset) = true) :
    Steady inner (readlIs window offset value) fun _ => True :=
  steady_call still fun _ => trivial

theorem checkEndpoint_steady : Steady (some (layer, false)) checkEndpoint fun _ => True := by
  refine steady_call rfl fun value => Prog.Yields.ite (fun _ => trivial) fun _ => ?_
  refine steady_call rfl fun value => Prog.Yields.ite (fun _ => trivial) fun _ => ?_
  refine steady_call rfl fun value => Prog.Yields.ite (fun _ => trivial) fun _ => ?_
  refine steady_call rfl fun value => Prog.Yields.ite (fun _ => trivial) fun _ => ?_
  refine (readOffsets_steady (fun _ => rfl) _).bind fun ret _ => ?_
  refine Prog.Yields.ite (fun _ => trivial) fun _ => ?_
  exact steady_call rfl fun _ => steady_call rfl fun _ => trivial

theorem walkErom_steady (offset components pcie words : Nat) :
    Steady (some (layer, false)) (walkErom offset components pcie words) fun _ => True := by
  induction words generalizing offset components pcie with
  | zero => trivial
  | succ words ih =>
    refine Prog.Yields.ite (fun _ => trivial) fun _ => ?_
    refine steady_call rfl fun first => Prog.Yields.ite (fun _ => trivial) fun _ => ?_
    refine Prog.Yields.ite (fun _ => trivial) fun _ =>
      Prog.Yields.ite (fun _ => ih _ _ _) fun _ => ?_
    refine Prog.Yields.ite (fun _ => trivial) fun _ => ?_
    exact steady_call rfl fun second => Prog.Yields.ite (fun _ => trivial) fun _ => ih _ _ _

section Chip

variable {inner : Option (Layer × Bool)} {α : Type}

theorem probing_store {c : Call} {f : Answer c → Kernel α} {result : α → Prop}
    (quiet : masterless c = true) (rest : ∀ r, Probing inner (f r) result) :
    Probing inner (query c >>= f) result := ⟨.inr quiet, rest⟩

theorem probing_call {c : Call} {f : Answer c → Kernel α} {result : α → Prop}
    (still : Lifetimes.steady inner c = true) (rest : ∀ r, Probing inner (f r) result) :
    Probing inner (query c >>= f) result := ⟨.inl still, rest⟩

/-- A last test without reads holds where all tests pass. -/
theorem steady_allOf_pure {tests : List (Kernel Bool)} (last : Bool)
    (all : ∀ test ∈ tests, Steady inner test fun _ => True) :
    Steady inner (allOf (tests ++ [pure last])) fun passed => passed = true → last = true := by
  induction tests with
  | nil =>
    cases last with
    | true => exact fun _ => rfl
    | false => exact fun passed => absurd passed Bool.false_ne_true
  | cons test tests ih =>
    refine (all test (.head _)).bind fun passed _ => ?_
    cases passed with
    | true => exact ih fun test member => all test (.tail _ member)
    | false => exact fun passed => absurd passed Bool.false_ne_true

theorem inspectEromAt_probing (pointer : U32) :
    Probing (some (layer, false)) (inspectEromAt pointer) fun _ => True := by
  refine Prog.Yields.ite (fun _ => trivial) fun _ => probing_store rfl fun _ => ?_
  have checked : Steady (some (layer, false)) (readlIs .endpoint 0x80 pointer) fun _ => True :=
    readlIs_steady rfl
  refine checked.probing.bind fun set _ => Prog.Yields.ite (fun _ => trivial) fun _ => ?_
  refine (walkErom_steady 0 0 0 0x400).probing.bind fun walked _ => ?_
  split <;> trivial

theorem sizeChipBar_probing (entry : ChipEntry) :
    Probing (some (layer, false)) (sizeChipBar entry) fun _ => True := by
  refine probing_store rfl fun _ => probing_store rfl fun _ => ?_
  refine probing_call rfl fun maskLow => probing_call rfl fun maskHigh => ?_
  refine probing_store rfl fun _ => probing_store rfl fun _ => Steady.probing (allOf_makes ?_)
  simp only [List.mem_cons, List.not_mem_nil, or_false, forall_eq_or_imp, forall_eq]
  exact ⟨readlIs_steady rfl, readlIs_steady rfl, trivial⟩

theorem readChip_probing : Probing (some (layer, false)) (readChip o) fun _ => True := by
  refine Prog.Yields.after (allOf_makes ?_) fun decoding => ?_
  · simp only [List.mem_cons, List.not_mem_nil, or_false, forall_eq_or_imp, forall_eq]
    exact ⟨probing_store rfl fun _ => probing_call rfl fun _ => trivial,
      probing_store rfl fun _ => probing_call rfl fun _ => trivial,
      probing_store rfl fun _ => probing_call rfl fun _ => trivial,
      probing_store rfl fun _ => probing_call rfl fun _ => trivial,
      probing_store rfl fun _ => probing_call rfl fun _ => trivial⟩
  refine Prog.Yields.ite (fun _ => trivial) fun _ => ?_
  refine probing_call rfl fun value => Prog.Yields.ite (fun _ => trivial) fun _ => ?_
  refine probing_call rfl fun pointer => Prog.Yields.ite (fun _ => trivial) fun _ => ?_
  exact Prog.Yields.ite (fun _ => trivial) fun _ => inspectEromAt_probing pointer

theorem restoreChip_probing {entry : ChipEntry} (disabled : entry.epCommand = 0) (ret : Int) :
    Probing (some (layer, false)) (restoreChip entry ret) fun _ => True := by
  unfold restoreChip
  rw [disabled]
  refine probing_store rfl fun _ => probing_store rfl fun _ => probing_store rfl fun _ => ?_
  refine probing_store rfl fun _ => probing_store rfl fun _ => probing_store rfl fun _ => ?_
  refine (Steady.probing (allOf_makes ?_)).bind fun same _ => trivial
  simp only [List.mem_cons, List.not_mem_nil, or_false, forall_eq_or_imp, forall_eq]
  exact ⟨steady_call rfl fun _ => trivial, steady_call rfl fun _ => trivial, readlIs_steady rfl,
    readlIs_steady rfl, readlIs_steady rfl, readlIs_steady rfl⟩

theorem useChip_probing {entry : ChipEntry} (disabled : entry.epCommand = 0) :
    Probing (some (layer, false)) (useChip o entry) fun _ => True := by
  refine (sizeChipBar_probing entry).bind fun sized _ => ?_
  refine (Steady.probing (steady_onlyIfCall rfl)).bind fun mapped _ => ?_
  have read : Probing (some (layer, false)) (onlyIf mapped (if sized then enomem else eio)
      (readChip o)) fun _ => True := onlyIf_yields (fun _ => readChip_probing) trivial
  refine read.bind fun ret _ => (restoreChip_probing disabled ret).bind fun ret _ => ?_
  exact (Steady.probing (steady_onlyIfCall rfl)).bind fun _ _ => trivial

theorem snapshotChip_probing : Probing (some (layer, false)) (snapshotChip o) fun _ => True := by
  refine probing_call rfl fun owned => Prog.Yields.ite (fun _ => trivial) fun _ => ?_
  refine probing_call rfl fun low => probing_call rfl fun high => ?_
  refine probing_call rfl fun window => probing_call rfl fun mem => ?_
  refine probing_call rfl fun rcCommand => probing_call rfl fun epCommand => ?_
  have identified : ∀ test ∈ [readlIs .endpoint 0 0x43a314e4, readlIs .endpoint 8 0x02800008],
      Steady (some (layer, false)) test fun _ => True := by
    simp only [List.mem_cons, List.not_mem_nil, or_false, forall_eq_or_imp, forall_eq]
    exact ⟨readlIs_steady rfl, readlIs_steady rfl⟩
  refine (Steady.probing (steady_allOf_pure _ identified)).bind fun known quiet => ?_
  have used : Probing (some (layer, false)) (onlyIf known ebusy
      (useChip o ⟨low, high, window, mem, rcCommand, epCommand⟩)) fun _ => True :=
    onlyIf_yields (fun passed => useChip_probing (of_decide_eq_true (quiet passed)).2.2.2.2.2)
      trivial
  exact used.bind fun ret _ => probing_call rfl fun _ => trivial

end Chip

theorem observeEndpoint_keeps (inside : held.head? = some (layer, false))
    (linked : (Layer.link, false) ∈ held) (parents : ScanParents)
    (scans : o.scanPci = true → Keeps o held 0 (pciScan (scanOptions o parents))) :
    Keeps o held 0 (observeEndpoint o parents) := by
  have chip : Keeps o held 0 (snapshotChip o) :=
    Keeps.probing linked (inside ▸ snapshotChip_probing) fun _ _ zero => absurd rfl zero
  refine From.steady (inside ▸ checkEndpoint_steady) fun ret _ => From.fresh ret ?_
  refine Keeps.bind (Keeps.andThen (Keeps.onlyIf fun _ => chip)) fun ret => ?_
  exact Keeps.andThen (Keeps.onlyIf scans)

theorem routeEndpoint_keeps (wanted : selected o .busNumbers = true)
    (inside : held.head? = some (.link, false)) (parents : ScanParents)
    (scans : o.scanPci = true → ∀ held', held' = held ∨ held' = (.busNumbers, false) :: held →
      Keeps o held' 0 (pciScan (scanOptions o parents))) :
    Keeps o held 0 (routeEndpoint o parents) := by
  have stop {ret : Int} : Keeps o held 0 (pure ret) := From.fresh ret (Keeps.done id)
  have linked : (Layer.link, false) ∈ held := List.mem_of_mem_head? (by rw [inside]; rfl)
  have still {offset : Nat} : Lifetimes.steady held.head? (.readl .root offset) = true :=
    inside ▸ rfl
  refine From.steady (allOf_makes ?_) fun known _ => From.ite (fun _ => stop) fun _ => ?_
  · simp only [List.mem_cons, List.not_mem_nil, or_false, forall_eq_or_imp, forall_eq]
    exact ⟨readlIs_steady still, readlIs_steady still⟩
  refine From.call still fun buses => From.ite (fun _ => stop) fun _ =>
    From.ite (fun unset => ?_) ?_
  · refine holdBusNumbers_keeps wanted inside (by decide) linked unset ?_
    exact observeEndpoint_keeps rfl (.tail _ linked) parents fun scan => scans scan _ (.inr rfl)
  · intro _
    exact observeEndpoint_keeps inside linked parents fun scan => scans scan _ (.inl rfl)

theorem snapshotEndpoint_keeps (wanted : selected o .busNumbers = true)
    (inside : held.head? = some (.link, false)) (parents : ScanParents)
    (scans : o.scanPci = true → ∀ held', held' = held ∨ held' = (.busNumbers, false) :: held →
      Keeps o held' 0 (pciScan (scanOptions o parents))) :
    Keeps o held 0 (snapshotEndpoint o parents) := by
  have stop {ret : Int} : Keeps o held 0 (pure ret) := From.fresh ret (Keeps.done id)
  refine From.call rfl fun rc => From.ite (fun _ => stop) fun _ => From.call rfl fun owned => ?_
  have mapped : Keeps o held 0 (do
      let rc ← query (.ioremap 0x610008000)
      let ep ← query (.ioremap 0x610100000)
      let ret ← onlyIf (rc && ep) enomem (routeEndpoint o parents)
      onlyIf ep () (query (.iounmap 0x610100000))
      onlyIf rc () (query (.iounmap 0x610008000))
      query (.releaseMemRegion 0x610100000)
      return ret) := by
    refine From.call rfl fun rc => From.call rfl fun ep => ?_
    refine Keeps.bind (Keeps.onlyIf fun _ => routeEndpoint_keeps wanted inside parents scans) ?_
    intro ret
    refine From.onlyIfCall rfl fun _ => From.onlyIfCall rfl fun _ => ?_
    exact From.call rfl fun _ => Keeps.done id
  refine Keeps.bind (Keeps.onlyIf fun _ => mapped) fun ret => ?_
  exact From.call rfl fun _ => Keeps.done id

theorem snapshotRootPort_steady :
    Steady (some (layer, false)) snapshotRootPort fun _ => True := by
  refine steady_call rfl fun owned => Prog.Yields.ite (fun _ => trivial) fun _ => ?_
  refine steady_call rfl fun mapped => ?_
  refine Prog.Yields.after (onlyIf_yields (fun _ => ?_) trivial) fun ret =>
    steady_call rfl fun _ => trivial
  refine steady_call rfl fun value => ?_
  refine Prog.Yields.after (onlyIf_yields (fun _ => ?_) trivial) fun _ =>
    steady_call rfl fun _ => trivial
  exact steady_call rfl fun _ => trivial

theorem snapshotDart_steady (resetExpected : Bool) :
    Steady (some (layer, false)) (snapshotDart o resetExpected) fun _ => True := by
  have reads (offsets : List Nat) :
      Steady (some (layer, false)) (readDartState o resetExpected offsets) fun _ => True := by
    induction offsets with
    | nil => trivial
    | cons offset offsets ih =>
      refine steady_call rfl fun value => Prog.Yields.ite (fun _ => trivial) fun _ => ?_
      exact Prog.Yields.ite (fun _ => trivial) fun _ => ih
  refine steady_call rfl fun owned => Prog.Yields.ite (fun _ => trivial) fun _ => ?_
  refine steady_call rfl fun mapped => ?_
  refine Prog.Yields.after (onlyIf_yields (fun _ => ?_) trivial) fun ret =>
    steady_call rfl fun _ => trivial
  exact (reads dartStateOffsets).bind fun ret _ => steady_call rfl fun _ => trivial

end Endpoint

end WinBoot.RadioLifetimes
