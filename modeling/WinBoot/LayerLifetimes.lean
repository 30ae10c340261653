import WinBoot.Lifetimes

/-! Each hardware layer keeps its lifetime: it is acquired inside the layers already held, and its
teardown runs once before they go on, whatever stops the steps in between. -/

namespace WinBoot.LayerLifetimes
open Interaction KernelCalls PciScan PciHost EndpointProbe Nesting Lifetimes
open DartLifetime MsiDomain PciePhy PowerDomains RadioPulse

section Steady

variable {α : Type} {inner : Option (Layer × Bool)}

theorem steady_call {c : Call} {f : Answer c → Kernel α} {result : α → Prop}
    (still : steady inner c = true) (rest : ∀ r, Steady inner (f r) result) :
    Steady inner (query c >>= f) result := ⟨still, rest⟩

theorem steady_onlyIfCall {needed : Bool} {c : Call} {unchanged : Answer c}
    (still : steady inner c = true) :
    Steady inner (onlyIf needed unchanged (query c)) fun _ => True :=
  onlyIf_yields (fun _ => ⟨still, fun _ => trivial⟩) trivial

theorem isJ42dT7000_steady : Steady inner isJ42dT7000 fun _ => True := by
  refine steady_call rfl fun j42d => ?_
  cases j42d with
  | false => trivial
  | true => exact ⟨rfl, fun _ => trivial⟩

end Steady

/-- An access that only some states need. -/
theorem onlyIf_access {o : ModuleOptions} {held : Held Layer} {ret : Int} {needed : Bool} {c : Call}
    {unchanged : Answer c} {β : Type} {f : Answer c → Kernel β} {post : Nest → β → Prop}
    (fit : fits held.head? c = true) (told : Answer c → Int)
    (carries : ∀ r, ret ≠ 0 → told r ≠ 0) (tells : ∀ r, errored ⟨c, r⟩ = true → told r ≠ 0)
    (rest : ∀ r, From o held (told r) (f r) post) :
    From o held ret (onlyIf needed unchanged (query c) >>= f) post := by
  cases needed with
  | true => exact From.access fit told carries tells rest
  | false => exact From.weaken (carries unchanged) (rest unchanged)

section Power

variable {o : ModuleOptions} {inner : Option (Layer × Bool)}

theorem readBaseline_steady (cycle : Bool) (domains : List DomainProbe) :
    Steady none (readBaseline cycle domains) fun _ => True := by
  induction domains with
  | nil => trivial
  | cons domain domains ih =>
    refine steady_call rfl fun answer => ?_
    dsimp only
    split_ifs
    · trivial
    · trivial
    · exact ih

theorem forDomains_steady {step : DomainProbe → Kernel (Int × DomainProbe)}
    (steady : ∀ domain, Steady inner (step domain) fun _ => True) (domains : List DomainProbe) :
    Steady inner (forDomains step domains) fun _ => True := by
  induction domains with
  | nil => trivial
  | cons domain domains ih =>
    refine (steady domain).bind fun reached _ => ?_
    dsimp only
    split_ifs
    · trivial
    · exact ih.bind fun _ _ => trivial

theorem attachDomain_steady (domain : DomainProbe) :
    Steady (some (.power, false)) (attachDomain domain) fun _ => True := by
  refine steady_call rfl fun found => ?_
  cases found with
  | false => trivial
  | true =>
  refine steady_call rfl fun compatible => ?_
  cases compatible with
  | false => trivial
  | true =>
  refine steady_call rfl fun registered => Prog.Yields.ite (fun _ => trivial) fun _ => ?_
  refine steady_call rfl fun attached => Prog.Yields.ite (fun _ => trivial) fun _ => ?_
  exact ⟨rfl, fun _ => trivial⟩

theorem resumeDomain_steady (domain : DomainProbe) :
    Steady (some (.power, false)) (resumeDomain domain) fun _ => True := by
  refine steady_call rfl fun resumed => Prog.Yields.ite (fun _ => trivial) fun _ => ?_
  refine steady_call rfl fun answer => ?_
  dsimp only
  split_ifs <;> trivial

theorem forceDomain_steady (domain : DomainProbe) :
    Steady (some (.power, false)) (forceDomain domain) fun _ => True := by
  refine steady_call rfl fun answer => Prog.Yields.ite (fun _ => trivial) fun _ => ?_
  refine steady_call rfl fun updated => Prog.Yields.ite (fun _ => trivial) fun _ => ?_
  exact ⟨rfl, fun _ => trivial⟩

theorem setUpDomains_steady (forceActive : Bool) (domains : List DomainProbe) :
    Steady (some (.power, false)) (setUpDomains forceActive domains) fun _ => True := by
  refine (forDomains_steady attachDomain_steady domains).bind fun attached _ => ?_
  dsimp only
  split_ifs
  · trivial
  refine (forDomains_steady resumeDomain_steady attached.2).bind fun resumed _ => ?_
  split_ifs
  · trivial
  · exact onlyIf_yields (fun _ => forDomains_steady forceDomain_steady resumed.2) trivial

theorem releaseDomain_keeps {held : Held Layer} (domain : DomainProbe) (ret : Int) :
    Keeps o ((.power, true) :: held) ret (releaseDomain domain ret) := by
  unfold releaseDomain
  split_ifs
  · exact Keeps.done id
  refine onlyIf_access rfl _ (fun _ => cleanup_carries)
    (fun _ failed => cleanup_tells (of_decide_eq_true failed)) fun cleanup => ?_
  generalize (if cleanup ≠ 0 then cleanup else ret) = ret
  refine onlyIf_access rfl _ (fun _ => suspend_carries)
    (fun _ failed => suspend_tells (of_decide_eq_true failed)) fun cleanup => ?_
  generalize (if cleanup < 0 then cleanup else ret) = ret
  have unregister : Keeps o ((.power, true) :: held) ret (do
      query (.platformDeviceUnregister domain.index)
      return ret) :=
    From.call rfl fun _ => Keeps.done id
  cases domain.attached with
  | false => exact unregister
  | true =>
    refine From.call rfl fun _ => ?_
    refine From.access rfl (fun cleanup => if cleanup ≠ 0 then cleanup else ret)
      (fun _ => cleanup_carries) (fun _ failed => cleanup_tells (of_decide_eq_true failed))
      fun cleanup => ?_
    split_ifs with failed
    · exact Keeps.done id
    · exact unregister

theorem releaseDomains_keeps {held : Held Layer} (domains : List DomainProbe) (ret : Int) :
    Keeps o ((.power, true) :: held) ret (releaseDomains domains ret) := by
  induction domains generalizing ret with
  | nil => exact Keeps.done id
  | cons domain domains ih => exact Keeps.bind (releaseDomain_keeps domain ret) ih

theorem readReleased_keeps {held : Held Layer} (domains : List DomainProbe) (ret : Int) :
    Keeps o ((.power, true) :: held) ret (readReleased domains ret) := by
  induction domains generalizing ret with
  | nil => exact Keeps.done id
  | cons domain domains ih =>
    refine From.access rfl _ (fun answer before => ?_) (fun answer failed => ?_) fun answer => ih _
    · exact cleanup_carries (mismatch_carries before)
    · exact cleanup_tells (of_decide_eq_true failed)

theorem holdDomains_keeps (cycle : o.cycle = true) (forceActive : Bool)
    {operate : Option (Kernel Int)}
    (operates : Keeps o [(.power, false)] 0 (operate.getD (pure 0))) :
    Keeps o [] 0 (holdDomains forceActive operate) := by
  refine From.acquire cycle ⟨nofun, rfl⟩ ?_
  refine From.steady (setUpDomains_steady forceActive domainTable) ?_
  rintro ⟨ret, domains⟩ _
  refine From.fresh ret (Keeps.bind (Keeps.andThen operates) fun ret => From.teardown ?_)
  refine Keeps.bind (releaseDomains_keeps _ ret) fun ret => ?_
  refine Keeps.bind (readReleased_keeps _ ret) fun ret => From.release ?_
  exact Keeps.done id

theorem withPcieDomains_keeps (forceActive : Bool) {operate : Option (Kernel Int)}
    (operates : o.cycle = true → Keeps o [(.power, false)] 0 (operate.getD (pure 0))) :
    Keeps o [] 0 (withPcieDomains o.cycle forceActive operate) := by
  have stop {ret : Int} : Keeps o [] 0 (pure ret) := From.fresh ret (Keeps.done id)
  refine From.ite (fun _ => stop) fun _ => ?_
  refine From.steady isJ42dT7000_steady fun machine _ => From.ite (fun _ => stop) fun _ => ?_
  refine From.call rfl fun found => From.ite (fun _ => stop) fun _ => ?_
  refine From.call rfl fun compatible => From.ite (fun _ => stop) fun _ => ?_
  refine From.call rfl fun map => From.ite (fun _ => stop) fun _ => ?_
  refine From.steady (readBaseline_steady _ _) fun ret _ => From.ite (fun _ => stop) fun _ => ?_
  refine From.ite (fun _ => stop) fun cycles => ?_
  have cycle : o.cycle = true := by simpa using cycles
  exact holdDomains_keeps cycle forceActive (operates cycle)

end Power

section Phy

variable {o : ModuleOptions} {held : Held Layer}

theorem radioIsOff_steady : Steady (some (.power, false)) radioIsOff fun _ => True := by
  refine steady_call rfl fun found => Prog.Yields.ite (fun _ => trivial) fun _ => ?_
  refine steady_call rfl fun client => ?_
  split_ifs
  · trivial
  refine steady_call rfl fun address => Prog.Yields.ite (fun _ => trivial) fun _ => ?_
  refine steady_call rfl fun bound => ?_
  split_ifs
  · trivial
  refine steady_call rfl fun map => Prog.Yields.ite (fun _ => trivial) fun _ => ?_
  exact steady_call rfl fun _ => trivial

/-- What is held once some steps are applied. -/
def phyHeld (held : Held Layer) (applied : List AppliedStep) : Held Layer :=
  if applied.isEmpty then held else (.phy, false) :: held

theorem phyHeld_open (outer : held.head? = some (.power, false)) (applied : List AppliedStep) :
    (phyHeld held applied).head? = some (.power, false) ∨
      (phyHeld held applied).head? = some (.phy, false) := by
  cases applied with
  | nil => exact .inl outer
  | cons step applied => exact .inr rfl

theorem readCore_fits {inner : Option (Layer × Bool)}
    (isOpen : inner = some (.power, false) ∨ inner = some (.phy, false)) (window : Window)
    (offset : Nat) : Lifetimes.steady inner (.readl window offset) = true := by
  obtain rfl | rfl := isOpen <;> cases window <;> rfl

theorem applySteps_from (prepares : o.preparePort = true)
    (outer : held.head? = some (.power, false)) (steps : List CoreStep)
    (applied : List AppliedStep) :
    From o (phyHeld held applied) 0 (applySteps steps applied) fun nest result =>
      Kept (phyHeld held result.2) nest 0 ∧
        (result.1 = 0 → steps ≠ [] ∨ applied ≠ [] → result.2 ≠ []) := by
  induction steps generalizing applied with
  | nil => exact From.done fun nest kept => ⟨kept, fun _ some => by simpa using some⟩
  | cons step steps ih =>
    have isOpen := phyHeld_open outer applied
    refine From.call (readCore_fits isOpen .core step.offset) fun value => From.ite (fun _ => ?_)
      fun _ => ?_
    · exact From.done fun nest kept => ⟨kept, fun zero => absurd (show enodev = 0 from zero) nofun⟩
    have stored (saved : U32) : From o ((.phy, false) :: held) 0 (do
        query (.writel .core step.offset (value &&& ~~~step.mask ||| step.bits))
        let value ← query (.readl .core step.offset)
        if value = allOnes ∨ value &&& step.mask ≠ step.bits then
          return (eio, ⟨step, saved⟩ :: applied)
        applySteps steps (⟨step, saved⟩ :: applied)) fun nest result =>
          Kept (phyHeld held result.2) nest 0 ∧
            (result.1 = 0 → step :: steps ≠ [] ∨ applied ≠ [] → result.2 ≠ []) := by
      refine From.call rfl fun _ => From.call rfl fun value => From.ite (fun _ => ?_) fun _ => ?_
      · exact From.done fun nest kept => ⟨kept, fun zero => absurd (show eio = 0 from zero) nofun⟩
      · intro nest kept
        refine (ih (⟨step, saved⟩ :: applied) nest kept).mono _ fun after result reached => ?_
        exact ⟨reached.1, fun zero _ => reached.2 zero (.inr (by simp))⟩
    cases applied with
    | nil => exact From.acquire prepares (follows_acquire outer (by decide)) (stored _)
    | cons last applied => exact stored _

theorem chosenSteps_ne (inspectPrefix testRefclk : Bool) :
    chosenSteps inspectPrefix testRefclk ≠ [] := by
  cases inspectPrefix <;> cases testRefclk <;> nofun

theorem preparePort_from (prepares : o.preparePort = true)
    (outer : held.head? = some (.power, false)) (inspectPrefix testRefclk : Bool) :
    From o held 0 (preparePort inspectPrefix testRefclk) fun nest result =>
      Kept (phyHeld held result.2) nest 0 ∧ (result.1 = 0 → result.2 ≠ []) := by
  refine From.steady (outer ▸ radioIsOff_steady) fun ret _ =>
    From.ite (fun failed => ?_) fun _ => ?_
  · exact From.done fun nest kept => ⟨kept, fun zero => absurd zero failed⟩
  · intro nest kept
    refine (applySteps_from prepares outer (chosenSteps inspectPrefix testRefclk) [] nest kept).mono
      _ fun after result reached => ⟨reached.1, fun zero => reached.2 zero (.inl ?_)⟩
    exact chosenSteps_ne inspectPrefix testRefclk

theorem readOffsets_steady {inner : Option (Layer × Bool)} {window : Window}
    (reads : ∀ offset, Lifetimes.steady inner (.readl window offset) = true) (offsets : List Nat) :
    Steady inner (readOffsets window offsets) fun _ => True := by
  induction offsets with
  | nil => trivial
  | cons offset offsets ih =>
    refine steady_call (reads offset) fun value => ?_
    split_ifs
    · trivial
    · exact ih

/-- The observation runs inside the PHY layer exactly when the port is prepared. -/
def observed (o : ModuleOptions) (held : Held Layer) : Held Layer :=
  if o.preparePort then (.phy, false) :: held else held

theorem usePhy_from (outer : held.head? = some (.power, false)) (inspectPrefix testRefclk : Bool)
    {operate : Option (Kernel Int)}
    (operates : Keeps o (observed o held) 0 (operate.getD (pure 0))) :
    From o held 0 (usePhy o.preparePort inspectPrefix testRefclk operate) fun nest result =>
      Kept (phyHeld held result.2) nest result.1 := by
  have prepared : From o held 0 (onlyIf o.preparePort (0, [])
      (preparePort inspectPrefix testRefclk)) fun nest result =>
        Kept (phyHeld held result.2) nest 0 ∧
          (result.1 = 0 → phyHeld held result.2 = observed o held) := by
    unfold onlyIf
    refine From.ite (fun prepares nest kept => ?_) fun unprepared => ?_
    · refine (preparePort_from prepares outer inspectPrefix testRefclk nest kept).mono _ ?_
      intro after result reached
      refine ⟨reached.1, fun zero => ?_⟩
      rw [phyHeld, if_neg (by simpa using reached.2 zero), observed, if_pos prepares]
    · exact From.done fun nest kept => ⟨kept, fun _ => by rw [observed, if_neg unprepared]; rfl⟩
  refine From.bind prepared ?_
  rintro nest ⟨ret, applied⟩ ⟨kept, where_observed⟩
  have reads (window : Window) (offset : Nat) :=
    readCore_fits (phyHeld_open outer applied) window offset
  have stop {failure : Int} : From o (phyHeld held applied) 0 (pure (failure, applied))
      fun nest result => Kept (phyHeld held result.2) nest result.1 :=
    From.fresh failure (From.done fun _ kept => kept)
  refine From.ite (fun _ => stop) (fun success => ?_) nest kept
  refine From.steady (readOffsets_steady (reads .core) _) fun ret _ => From.ite (fun _ => stop) ?_
  intro _
  refine From.steady (readOffsets_steady (reads .port) _) fun ret _ => From.ite (fun _ => stop) ?_
  intro _
  rw [where_observed (not_not.mp success)]
  refine Keeps.bind operates fun ret => From.done fun nest kept => ?_
  rw [where_observed (not_not.mp success)]
  exact kept

theorem rollBackSteps_keeps (applied : List AppliedStep) (ret : Int) :
    Keeps o ((.phy, true) :: held) ret (rollBackSteps applied ret) := by
  induction applied generalizing ret with
  | nil => exact Keeps.done id
  | cons last applied ih =>
    obtain ⟨step, saved⟩ := last
    refine From.access rfl (fun value => if value = allOnes then eio else ret)
      (fun _ => mismatch_carries) (fun value failed => ?_) fun value => ?_
    · rw [if_pos (of_decide_eq_true failed)]
      decide
    refine From.ite (fun inaccessible => ?_) fun accessible => ?_
    · rw [if_pos inaccessible]
      exact Keeps.done id
    rw [if_neg accessible]
    refine From.call rfl fun _ => ?_
    refine From.access rfl _ (fun value => mismatch_carries) (fun value failed => ?_) fun value =>
      ih _
    rw [if_pos (.inl (of_decide_eq_true failed))]
    decide

theorem rollBackPhy_from (applied : List AppliedStep) (ret : Int) :
    From o (phyHeld held applied) ret (rollBackPhy applied ret) (Kept held) := by
  unfold phyHeld
  cases applied with
  | nil => exact Keeps.done id
  | cons last applied =>
    refine From.teardown ?_
    refine Keeps.bind (rollBackSteps_keeps _ ret) fun ret => From.release ?_
    exact Keeps.done id

theorem withPciePhy_keeps (outer : held.head? = some (.power, false))
    (inspectPrefix testRefclk : Bool) {operate : Option (Kernel Int)}
    (operates : Keeps o (observed o held) 0 (operate.getD (pure 0))) :
    Keeps o held 0 (withPciePhy o.preparePort inspectPrefix testRefclk operate) := by
  have stop {ret : Int} : Keeps o held 0 (pure ret) := From.fresh ret (Keeps.done id)
  have memory (c : Call) (plain : Lifetimes.steady (some (.power, false)) c = true) :
      Lifetimes.steady held.head? c = true := outer ▸ plain
  refine From.ite (fun _ => stop) fun _ => ?_
  refine From.steady isJ42dT7000_steady fun machine _ => From.ite (fun _ => stop) fun _ => ?_
  refine From.call (memory _ rfl) fun core => From.ite (fun _ => stop) fun _ => ?_
  refine From.call (memory _ rfl) fun port => ?_
  have mapped : Keeps o held 0 (mapPhy o.preparePort inspectPrefix testRefclk operate) := by
    refine From.call (memory _ rfl) fun core => From.call (memory _ rfl) fun port => ?_
    have used : From o held 0 (onlyIf (core && port) (enomem, [])
        (usePhy o.preparePort inspectPrefix testRefclk operate)) fun nest result =>
          Kept (phyHeld held result.2) nest result.1 :=
      From.onlyIf (fun _ => usePhy_from outer inspectPrefix testRefclk operates) fun _ kept =>
        kept.weaken fun zero => absurd rfl zero
    refine From.bind used ?_
    rintro nest ⟨ret, applied⟩ kept
    refine From.bind (rollBackPhy_from applied ret) (fun after ret kept => ?_) nest kept
    refine From.onlyIfCall (memory _ rfl) (fun _ => ?_) after kept
    exact From.onlyIfCall (memory _ rfl) fun _ => Keeps.done id
  refine Keeps.bind (Keeps.onlyIf fun _ => mapped) fun ret => ?_
  refine From.onlyIfCall (memory _ rfl) fun _ => ?_
  exact From.call (memory _ rfl) fun _ => Keeps.done id

end Phy

end WinBoot.LayerLifetimes
