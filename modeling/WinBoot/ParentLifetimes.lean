import WinBoot.LayerLifetimes

/-! The lifetimes of the two parents of a PCI scan: the MSI domain with its eight checked vectors,
and the DART node with its platform device and the mapping client. -/

namespace WinBoot.ParentLifetimes
open Interaction KernelCalls PciScan PciHost EndpointProbe Nesting Lifetimes LayerLifetimes
open DartLifetime MsiDomain

section Msi

variable {o : ModuleOptions} {held : Held Layer} {inner : Option (Layer × Bool)}

theorem anyMapping_steady (slots : List Nat) : Steady inner (anyMapping slots) fun _ => True := by
  induction slots with
  | nil => trivial
  | cons slot slots ih =>
    refine steady_call rfl fun mapped => ?_
    cases mapped with
    | true => trivial
    | false => exact ih

theorem checkUnmapped_steady (slots : List Nat) (ret : Int) :
    Steady inner (checkUnmapped slots ret) fun after => ret ≠ 0 → after ≠ 0 := by
  induction slots generalizing ret with
  | nil => exact id
  | cons slot slots ih =>
    refine steady_call rfl fun mapped => ?_
    exact (ih _).mono (fun _ still => still) fun after carries before =>
      carries (mismatch_carries before)

theorem allocIrqs_steady (slots : List Nat) (irqs : List Int) :
    Steady (some (.msi, false)) (allocIrqs slots irqs) fun _ => True := by
  induction slots generalizing irqs with
  | nil => trivial
  | cons slot slots ih =>
    refine steady_call rfl fun irq => Prog.Yields.ite (fun _ => trivial) fun _ => ?_
    refine steady_call rfl fun data => ?_
    split
    · split_ifs
      · trivial
      · exact ih _
    · trivial

theorem freeIrqs_steady (closing : Bool) (irqs : List Int) :
    Steady (some (.msi, closing)) (freeIrqs irqs) fun _ => True := by
  induction irqs with
  | nil => trivial
  | cons irq irqs ih => exact steady_call (by cases closing <;> rfl) fun _ => ih

theorem useMsi_from {operate : Option (Kernel Int)}
    (operates : Keeps o ((.msi, false) :: held) 0 (operate.getD (pure 0))) :
    From o ((.msi, false) :: held) 0 (useMsi operate) fun nest result =>
      Kept ((.msi, false) :: held) nest result.1 := by
  have stop {ret : Int} {irqs : List Int} : From o ((.msi, false) :: held) 0 (pure (ret, irqs))
      fun nest result => Kept ((.msi, false) :: held) nest result.1 :=
    From.fresh ret (From.done fun _ kept => kept)
  refine From.call rfl fun _ => From.call rfl fun _ => ?_
  refine From.steady (allOf_makes ?_) fun accepted _ => From.ite (fun _ => stop) fun _ => ?_
  · simp only [List.mem_cons, List.not_mem_nil, or_false, forall_eq_or_imp, forall_eq]
    exact ⟨steady_call rfl fun _ => trivial, steady_call rfl fun _ => trivial⟩
  refine From.steady (allocIrqs_steady _ _) ?_
  rintro ⟨ret, irqs⟩ _
  refine From.ite (fun _ => stop) fun _ => ?_
  refine From.steady (freeIrqs_steady false irqs) fun _ _ => ?_
  exact Keeps.bind operates fun ret => From.done fun _ kept => kept

/-- A read-back in a teardown: what is not accessible does not read as what was saved. -/
theorem readBack_from {ret : Int} {window : Window} {offset : Nat} {saved : U32}
    (fit : fits held.head? (.readl window offset) = true) (known : saved ≠ allOnes) :
    From o held ret (readlIs window offset saved) fun nest same =>
      Kept held nest (if same then ret else eio) := by
  refine From.access fit (fun value => if decide (value = saved) then ret else eio)
    (fun _ => verdict_carries) (fun value failed => ?_) fun value =>
      From.done fun _ kept => kept
  obtain rfl : value = allOnes := of_decide_eq_true failed
  rw [if_neg (by simpa using known.symm)]
  decide

theorem readBacks_from {ret : Int} {window : Window} {words : List (Nat × U32)}
    (fit : ∀ word ∈ words, fits held.head? (.readl window word.1) = true)
    (known : ∀ word ∈ words, word.2 ≠ allOnes) :
    From o held ret (allOf (words.map fun word => readlIs window word.1 word.2))
      fun nest same => Kept held nest (if same then ret else eio) := by
  induction words with
  | nil => exact From.done fun _ kept => kept
  | cons word words ih =>
    refine From.bind (readBack_from (fit word (.head _)) (known word (.head _))) ?_
    intro nest same kept
    cases same with
    | true =>
      exact ih (fun word member => fit word (.tail _ member))
        (fun word member => known word (.tail _ member)) nest kept
    | false => exact kept

theorem holdMsi_keeps (wanted : selected o .msi = true) {outer : Layer}
    (inside : held.head? = some (outer, false)) (deeper : Layer.rank outer < Layer.rank .msi)
    {operate : Option (Kernel Int)}
    (operates : Keeps o ((.msi, false) :: held) 0 (operate.getD (pure 0))) :
    Keeps o held 0 (holdMsi 0 0 operate) := by
  refine From.acquire wanted (follows_acquire inside deeper) ?_
  refine From.bind (useMsi_from operates) ?_
  rintro nest ⟨ret, irqs⟩ kept
  refine From.teardown ?_ nest kept
  refine From.steady (freeIrqs_steady true _) fun _ _ => From.call rfl fun used => ?_
  refine From.weaken mismatch_carries (Keeps.bind (Keeps.steady (checkUnmapped_steady slots _)
    fun _ carries before => carries before) fun ret => ?_)
  refine From.call rfl fun _ => From.call rfl fun _ => From.call rfl fun _ => ?_
  have readBack : From o ((.msi, true) :: held) ret
      (allOf ([(0x124, 0), (0x128, 0)].map fun word => readlIs .port word.1 word.2)) fun nest same =>
        Kept ((.msi, true) :: held) nest (if same then ret else eio) :=
    readBacks_from (fun _ _ => rfl) (by decide)
  refine From.bind readBack fun nest same kept => From.release ?_ nest kept
  exact Keeps.done id

theorem withMsi_keeps (wanted : selected o .msi = true)
    (outer : held.head? = some (.phy, false)) {operate : Option (Kernel Int)}
    (operates : Keeps o ((.msi, false) :: held) 0 (operate.getD (pure 0))) :
    Keeps o held 0 (withMsi operate) := by
  have stop {ret : Int} : Keeps o held 0 (pure ret) := From.fresh ret (Keeps.done id)
  have still (c : Call) (plain : Lifetimes.steady (some (.phy, false)) c = true) :
      Lifetimes.steady held.head? c = true := outer ▸ plain
  refine From.call (still _ rfl) fun control => From.call (still _ rfl) fun base => ?_
  refine From.steady isJ42dT7000_steady fun machine _ => From.ite (fun _ => stop) fun _ => ?_
  refine From.ite (fun _ => stop) fun clear => ?_
  obtain ⟨rfl, rfl⟩ : control = 0 ∧ base = 0 := by simpa using clear
  refine From.call rfl fun found => From.ite (fun _ => stop) fun _ => ?_
  refine From.call rfl fun compatible => From.ite (fun _ => stop) fun _ => ?_
  refine From.call rfl fun parent => From.ite (fun _ => stop) fun _ => ?_
  refine From.steady (anyMapping_steady _) fun mapped _ => From.ite (fun _ => stop) fun _ => ?_
  refine From.call rfl fun fwnode => From.ite (fun _ => stop) fun _ => ?_
  refine From.call rfl fun created => ?_
  refine Keeps.bind (Keeps.onlyIf fun _ => holdMsi_keeps wanted outer (by decide) operates) ?_
  exact fun ret => From.call rfl fun _ => Keeps.done id

end Msi

section Dart

variable {o : ModuleOptions} {held : Held Layer} {inner : Option (Layer × Bool)}

theorem addProps_steady (changes : Changeset) (names : List String) :
    Steady inner (addProps changes names) fun _ => True := by
  induction names with
  | nil => trivial
  | cons name names ih => exact steady_call rfl fun ret => andThen_makes ih

theorem dartProps_steady (operated testDmaRange : Bool) :
    Steady inner (dartProps operated testDmaRange) fun _ => True := by
  refine (addProps_steady _ _).bind fun ret _ => ?_
  refine Prog.Yields.after (andThen_makes (onlyIf_makes ⟨rfl, fun _ => trivial⟩)) fun ret => ?_
  refine andThen_makes (onlyIf_yields (fun _ => steady_call rfl fun found => ?_) trivial)
  cases found with
  | true => trivial
  | false => exact ⟨rfl, fun _ => trivial⟩

theorem useDart_from {operate : Option (Kernel Int)}
    (operates : Keeps o ((.dart, false) :: held) 0 (operate.getD (pure 0))) :
    From o ((.dart, false) :: held) 0 (useDart operate) fun nest result =>
      Kept ((.dart, false) :: held) nest result.1 := by
  have stop {ret : Int} {created : Bool} : From o ((.dart, false) :: held) 0 (pure (ret, created))
      fun nest result => Kept ((.dart, false) :: held) nest result.1 :=
    From.fresh ret (From.done fun _ kept => kept)
  refine From.call rfl ?_
  rintro ⟨ret, start, size⟩
  refine From.ite (fun _ => stop) fun _ => ?_
  refine From.call rfl fun created => From.ite (fun _ => stop) fun _ => ?_
  refine From.call rfl fun bound => From.ite (fun _ => stop) fun _ => ?_
  exact Keeps.bind operates fun ret => From.done fun _ kept => kept

theorem holdDart_keeps (wanted : selected o .dart = true) {outer : Layer}
    (inside : held.head? = some (outer, false)) (deeper : Layer.rank outer < Layer.rank .dart)
    {operate : Option (Kernel Int)}
    (operates : Keeps o ((.dart, false) :: held) 0 (operate.getD (pure 0))) :
    Keeps o held 0 (holdDart operate) := by
  refine From.acquire wanted (follows_acquire inside deeper) ?_
  refine From.call rfl fun applied => ?_
  have used : From o ((.dart, false) :: held) 0
      (onlyIf (applied = 0) (applied, false) (useDart operate)) fun nest result =>
        Kept ((.dart, false) :: held) nest result.1 :=
    From.onlyIf (fun _ => useDart_from operates) fun _ kept =>
      kept.weaken fun zero => absurd rfl zero
  refine From.bind used ?_
  rintro nest ⟨ret, created⟩ kept
  refine From.teardown ?_ nest kept
  refine From.onlyIfCall rfl fun _ => ?_
  refine onlyIf_access rfl _ (fun _ => cleanup_carries)
    (fun _ failed => cleanup_tells (of_decide_eq_true failed)) fun cleanup => ?_
  refine From.call rfl fun detached => ?_
  refine onlyIf_access rfl _ (fun _ => cleanup_carries)
    (fun _ failed => cleanup_tells (of_decide_eq_true failed)) fun cleanup => ?_
  exact From.release (Keeps.done id)

theorem withDart_keeps (wanted : selected o .dart = true) {outer : Layer}
    (inside : held.head? = some (outer, false)) (deeper : Layer.rank outer < Layer.rank .dart)
    {operate : Option (Kernel Int)} (testDmaRange : Bool)
    (operates : Keeps o ((.dart, false) :: held) 0 (operate.getD (pure 0))) :
    Keeps o held 0 (withDart operate testDmaRange) := by
  have stop {ret : Int} : Keeps o held 0 (pure ret) := From.fresh ret (Keeps.done id)
  refine From.steady isJ42dT7000_steady fun machine _ => From.ite (fun _ => stop) fun _ => ?_
  refine From.call rfl fun existing => From.ite (fun _ => stop) fun _ => ?_
  refine From.call rfl fun soc => From.call rfl fun aic => From.ite (fun _ => stop) fun _ => ?_
  refine From.call rfl fun phandle => From.ite (fun _ => stop) fun _ => ?_
  refine From.call rfl fun compatible => From.ite (fun _ => stop) fun _ => ?_
  refine From.call rfl fun created => ?_
  have props : Steady held.head? (onlyIf created enomem
      (dartProps operate.isSome testDmaRange)) fun _ => True :=
    onlyIf_yields (fun _ => dartProps_steady _ _) trivial
  refine From.steady props fun ret _ => ?_
  refine From.fresh ret (Keeps.bind (Keeps.andThen
    (holdDart_keeps wanted inside deeper operates)) fun ret => ?_)
  exact From.call rfl fun _ => Keeps.done id

theorem useDartMap_steady : Steady (some (.dart, false)) useDartMap fun _ => True := by
  refine steady_call rfl fun ret => Prog.Yields.ite (fun _ => trivial) fun _ => ?_
  refine steady_call rfl fun allocated => ?_
  split_ifs
  · trivial
  refine steady_call rfl fun ret => Prog.Yields.ite (fun _ => trivial) fun _ => ?_
  exact steady_call rfl fun _ => steady_call rfl fun _ => trivial

theorem holdDartMap_steady : Steady (some (.dart, false)) holdDartMap fun _ => True := by
  refine steady_call rfl fun applied => ?_
  refine (onlyIf_yields (fun _ => useDartMap_steady) trivial).bind fun used _ => ?_
  refine (steady_onlyIfCall rfl).bind fun _ _ => ?_
  refine (steady_onlyIfCall rfl).bind fun _ _ => ?_
  refine steady_call rfl fun detached => ?_
  refine (steady_onlyIfCall rfl).bind fun _ _ => ?_
  trivial

theorem dartMap_keeps : Keeps o ((.dart, false) :: held) 0 dartMap := by
  have steady : Steady (some (.dart, false)) dartMap fun _ => True := by
    refine steady_call rfl fun phandle => Prog.Yields.ite (fun _ => trivial) fun _ => ?_
    refine steady_call rfl fun existing => ?_
    split_ifs
    · trivial
    refine steady_call rfl fun created => ?_
    refine (onlyIf_yields (fun _ => addProps_steady _ _) trivial).bind fun ret _ => ?_
    refine Prog.Yields.after (andThen_makes holdDartMap_steady) fun ret => ?_
    exact steady_call rfl fun _ => trivial
  exact Keeps.steady steady fun ret _ zero => absurd rfl zero

end Dart

end WinBoot.ParentLifetimes
