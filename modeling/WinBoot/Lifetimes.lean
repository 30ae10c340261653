import WinBoot.EndpointProbe
import WinBoot.Nesting
import WinBoot.ScanRuns

/-! The lifetimes of the hardware layers over a run of the probe module. The monitor keeps the
held layers; each call that touches a layer's hardware belongs to that layer, and may be made
only while the layer is the innermost one held, on its side of the teardown. -/

namespace WinBoot.Lifetimes
open Interaction KernelCalls PciScan ConfigStorage EndpointProbe Nesting

def Layer.rank : Layer → Nat
  | .power => 0
  | .phy => 1
  | .msi => 2
  | .dart => 3
  | .radio => 4
  | .link => 5
  | .busNumbers => 6
  | .pciHost => 7

/-- The power domains enclose everything, and every layer only later ones. -/
def Encloses : Option Layer → Layer → Prop
  | none, layer => layer = .power
  | some outer, layer => Layer.rank outer < Layer.rank layer

/-- The layers that the options ask for. -/
def selected (o : ModuleOptions) : Layer → Bool
  | .power => o.cycle
  | .phy => o.preparePort
  | .msi => o.probeMsi || o.scanMsi
  | .dart => o.probeDart || o.scanIommu
  | .radio => o.pulseRadio
  | .link => o.trainLink
  | .busNumbers => o.identifyEndpoint
  | .pciHost => o.scanPci

def markOf : Call → Option (Mark Layer)
  | .acquire layer => some (.acquire layer)
  | .teardown layer => some (.teardown layer)
  | .release layer => some (.release layer)
  | _ => none

/-- The layer that a call belongs to; where given, only before or only from its teardown on. -/
def owner : Call → Option (Layer × Option Bool)
  | .platformDeviceRegisterSimple _ | .ofGenpdAddDevice _ | .pmRuntimeEnable _
  | .pmRuntimeResumeAndGet _ => some (.power, some false)
  | .regmapUpdateBits .. => some (.power, none)
  | .pmRuntimePutSyncSuspend _ | .pmRuntimeDisable _ | .pmGenpdRemoveDevice _
  | .platformDeviceUnregister _ => some (.power, some true)
  | .writel .core _ _ | .writew .core _ _ => some (.phy, none)
  | .writel .port offset _ => some (if offset = 0x80 then .link else .msi, none)
  | .irqDomainAllocIrqs => some (.msi, some false)
  | .irqDomainFreeIrqs _ => some (.msi, none)
  | .irqDomainRemove => some (.msi, some true)
  | .ofChangesetApply .dart | .ofPlatformDeviceCreate => some (.dart, some false)
  | .dartDeviceUnregister | .ofChangesetRevert .dart | .ofDetachNode .dart =>
    some (.dart, some true)
  | .ofChangesetApply .dartMap | .ofChangesetRevert .dartMap | .ofDetachNode .dartMap
  | .platformDriverRegister | .platformDriverUnregister | .platformDeviceAlloc
  | .platformDeviceAdd | .mapDeviceUnregister => some (.dart, some false)
  | .regmapWrite .. | .gpiodDirectionOutputRaw _ => some (.radio, none)
  | .requestResource => some (.pciHost, some false)
  | .pciScanRootBusBridge | .pciAssignResources | .pciWalkBus | .pciAllocIrqVectors
  | .pciFreeIrqVectors | .pciBusAddDevice | .deviceAttach | .holdLoop .. | .deviceReleaseDriver
  | .pciClearMaster | .pciRemoveRootBus => some (.pciHost, none)
  | .pciFreeHostBridge | .releaseResource => some (.pciHost, some true)
  | _ => none

def belongs : Option (Layer × Option Bool) → Option (Layer × Bool) → Bool
  | none, _ => true
  | some (layer, side), some (inner, closing) =>
    layer = inner && (side = none || side = some closing)
  | some _, none => false

/-- The layers that must be held while the firmware phase lasts. -/
def firmwareLayers : List Layer := [.power, .phy, .msi, .dart, .radio, .link]

/-- The accesses of a teardown whose failing counts, by the layer that is innermost. PERST is
driven low both before the rail is switched on and when the observer is through. -/
def watched : Call → Option (Layer × Bool) → Bool
  | .regmapUpdateBits .., some (layer, closing) | .pmRuntimePutSyncSuspend _, some (layer, closing)
  | .pmGenpdRemoveDevice _, some (layer, closing) | .regmapRead .., some (layer, closing) =>
    closing && layer = .power
  | .readl .core _, some (layer, closing) => closing && layer = .phy
  | .readl .port _, some (layer, closing) => closing && (layer = .msi || layer = .link)
  | .readl .root offset, some (layer, closing) =>
    closing && layer = .busNumbers && offset = pciPrimaryBus
  | .ofChangesetRevert .dart, some (layer, closing) | .ofDetachNode .dart, some (layer, closing) =>
    closing && layer = .dart
  | .regmapWrite .., some (layer, closing) | .regmapReadBypassed .., some (layer, closing) =>
    closing && layer = .radio
  | .gpiodDirectionOutputRaw value, some _ => !value
  | .releaseResource, some _ => true
  | _, _ => false

/-- The access answers an error, or reads a register that is not accessible. -/
def errored : KernelEvent → Bool
  | ⟨.regmapUpdateBits .., ret⟩ | ⟨.pmGenpdRemoveDevice _, ret⟩ | ⟨.regmapWrite .., ret⟩ => ret ≠ 0
  | ⟨.ofChangesetRevert _, ret⟩ | ⟨.ofDetachNode _, ret⟩ => ret ≠ 0
  | ⟨.gpiodDirectionOutputRaw _, ret⟩ | ⟨.releaseResource, ret⟩ => ret ≠ 0
  | ⟨.pmRuntimePutSyncSuspend _, ret⟩ => ret < 0
  | ⟨.regmapRead .., answer⟩ | ⟨.regmapReadBypassed .., answer⟩ => answer.1 ≠ 0
  | ⟨.readl .., value⟩ => value = allOnes
  | _ => false

/-- The held layers, `firmware_active`, and whether a teardown access has failed. -/
structure Nest where
  held : Held Layer
  firmware : Bool
  failed : Bool

def Nest.empty : Nest := ⟨[], false, false⟩

def FirmwareHeld (held : Held Layer) : Prop := ∀ layer ∈ firmwareLayers, (layer, false) ∈ held

instance (held : Held Layer) : Decidable (FirmwareHeld held) :=
  inferInstanceAs (Decidable (∀ layer ∈ firmwareLayers, (layer, false) ∈ held))

/-- What the program owes at a call. -/
structure Allowed (o : ModuleOptions) (nest : Nest) (c : Call) : Prop where
  marks : ∀ mark, markOf c = some mark → Follows Encloses nest.held mark
  selects : ∀ layer, c = .acquire layer → selected o layer = true
  owned : belongs (owner c) nest.held.head? = true
  linked : ∀ window store, storeOf c = some (window, store) → isConfig window = true →
    (Layer.link, false) ∈ nest.held
  masters : ∀ store, storeOf c = some (.endpoint, store) → store.Sets (8 * 0x04 + 2) →
    nest.firmware = true
  activates : c = .activateFirmware → FirmwareHeld nest.held
  firmware : nest.firmware = true → FirmwareHeld nest.held

def lifetimes (o : ModuleOptions) : Monitor Call Answer Nest where
  admits _ _ := True
  allows nest event := Allowed o nest event.1
  next nest event :=
    { held := match markOf event.1 with
        | some mark => move nest.held mark
        | none => nest.held
      firmware := match event.1 with
        | .activateFirmware => true
        | .endScan => false
        | _ => nest.firmware
      failed := watched event.1 nest.held.head? && errored event || nest.failed }

/-- A call without a mark, outside configuration space. -/
def ordinary : Call → Bool
  | .acquire _ | .teardown _ | .release _ | .activateFirmware | .endScan => false
  | .writel window _ _ | .writew window _ _ => !isConfig window
  | _ => true

/-- An ordinary call that belongs where the program is. -/
def fits (inner : Option (Layer × Bool)) (c : Call) : Bool := ordinary c && belongs (owner c) inner

/-- A fitting call of which nothing is recorded. -/
def steady (inner : Option (Layer × Bool)) (c : Call) : Bool := fits inner c && !watched c inner

/-- A store to configuration space that leaves the endpoint's bus master alone. -/
def masterless (c : Call) : Bool :=
  match storeOf c with
  | some (.endpoint, store) => !decide (store.Sets (8 * 0x04 + 2))
  | some (.root, _) => true
  | _ => false

section Calls

variable {o : ModuleOptions} {held : Held Layer} {firmware failed : Bool}
  (calm : firmware = true → FirmwareHeld held)

include calm in
theorem allowed_of_fits {c : Call} (fit : fits held.head? c = true) :
    Allowed o ⟨held, firmware, failed⟩ c := by
  have plain : ordinary c = true := (Bool.and_eq_true_iff.mp fit).1
  have owned := (Bool.and_eq_true_iff.mp fit).2
  have unmarked : markOf c = none := by
    cases c <;> first | rfl | exact absurd plain Bool.false_ne_true
  have unstored (window : Window) (store : ConfigSpace.Store)
      (stores : storeOf c = some (window, store)) : isConfig window = false := by
    cases c <;> simp only [storeOf, reduceCtorEq, Option.some.injEq, Prod.mk.injEq] at stores
    all_goals
      rw [← stores.1]
      simpa [ordinary] using plain
  refine ⟨by simp [unmarked], ?_, owned, ?_, ?_, ?_, calm⟩
  · rintro layer rfl
    cases plain
  · intro window store stores config
    rw [unstored window store stores] at config
    cases config
  · intro store stores
    exact absurd (unstored _ store stores) (by decide)
  · rintro rfl
    cases plain

theorem next_of_fits {c : Call} (r : Answer c) (fit : fits held.head? c = true) :
    (lifetimes o).next ⟨held, firmware, failed⟩ ⟨c, r⟩ =
      ⟨held, firmware, watched c held.head? && errored ⟨c, r⟩ || failed⟩ := by
  have plain : ordinary c = true := (Bool.and_eq_true_iff.mp fit).1
  cases c <;> first | rfl | cases plain

include calm in
theorem steady_inert {c : Call} (r : Answer c) (still : steady held.head? c = true) :
    (lifetimes o).allows ⟨held, firmware, failed⟩ ⟨c, r⟩ ∧
      (lifetimes o).next ⟨held, firmware, failed⟩ ⟨c, r⟩ = ⟨held, firmware, failed⟩ := by
  obtain ⟨fit, unwatched⟩ := Bool.and_eq_true_iff.mp still
  rw [Bool.not_eq_true'] at unwatched
  refine ⟨allowed_of_fits calm fit, ?_⟩
  rw [next_of_fits r fit, unwatched]
  rfl

include calm in
theorem masterless_inert {c : Call} (r : Answer c) (linked : (Layer.link, false) ∈ held)
    (quiet : masterless c = true) :
    (lifetimes o).allows ⟨held, firmware, failed⟩ ⟨c, r⟩ ∧
      (lifetimes o).next ⟨held, firmware, failed⟩ ⟨c, r⟩ = ⟨held, firmware, failed⟩ := by
  have clear (store : ConfigSpace.Store) (stores : storeOf c = some (.endpoint, store)) :
      ¬ store.Sets (8 * 0x04 + 2) := by
    simpa [masterless, stores] using quiet
  cases c with
  | writew window offset value | writel window offset value =>
    cases window <;> try cases quiet
    all_goals exact ⟨⟨nofun, nofun, rfl, fun _ _ _ _ => linked,
      fun store stores sets => absurd sets (clear store stores), nofun, calm⟩, rfl⟩
  | _ => cases quiet

end Calls

/-- `held` is held outside the firmware phase, and `ret` tells of every failed teardown access. -/
structure Kept (held : Held Layer) (nest : Nest) (ret : Int) : Prop where
  held : nest.held = held
  firmware : nest.firmware = false
  told : nest.failed = true → ret ≠ 0

theorem Kept.weaken {held : Held Layer} {nest : Nest} {ret ret' : Int} (kept : Kept held nest ret)
    (tells : ret ≠ 0 → ret' ≠ 0) : Kept held nest ret' :=
  ⟨kept.held, kept.firmware, fun failed => tells (kept.told failed)⟩

/-- With nothing to tell of, the state is known. -/
theorem Kept.start {held : Held Layer} {nest : Nest} (kept : Kept held nest 0) :
    nest = ⟨held, false, false⟩ := by
  obtain ⟨_, _, failed⟩ := nest
  obtain ⟨rfl, rfl, told⟩ := kept
  cases failed with
  | false => rfl
  | true => exact absurd rfl (told rfl)

/-- From where `held` is held and `ret` is the result so far. -/
def From {α : Type} (o : ModuleOptions) (held : Held Layer) (ret : Int) (p : Kernel α)
    (post : Nest → α → Prop) : Prop :=
  ∀ nest, Kept held nest ret → p.Safe (lifetimes o) post nest

/-- The program ends with what was held, and its result tells of every failed access. -/
abbrev Keeps (o : ModuleOptions) (held : Held Layer) (ret : Int) (p : Kernel Int) : Prop :=
  From o held ret p (Kept held)

/-- The program makes steady calls only. -/
abbrev Steady {α : Type} (inner : Option (Layer × Bool)) (p : Kernel α) (result : α → Prop) : Prop :=
  p.Yields (fun c => steady inner c = true) result

theorem calm_outside {held : Held Layer} (active : false = true) : FirmwareHeld held :=
  absurd active Bool.false_ne_true

section Rules

variable {o : ModuleOptions} {held : Held Layer} {ret : Int} {α β : Type}

theorem From.done {a : α} {post : Nest → α → Prop}
    (reached : ∀ nest, Kept held nest ret → post nest a) : From o held ret (pure a) post :=
  fun nest kept => reached nest kept

theorem Keeps.done {ret' : Int} (tells : ret ≠ 0 → ret' ≠ 0) : Keeps o held ret (pure ret') :=
  fun _ kept => kept.weaken tells

theorem From.weaken {ret' : Int} {p : Kernel α} {post : Nest → α → Prop}
    (tells : ret ≠ 0 → ret' ≠ 0) (from' : From o held ret' p post) : From o held ret p post :=
  fun nest kept => from' nest (kept.weaken tells)

/-- While nothing has failed, any result tells of it. -/
theorem From.fresh {p : Kernel α} {post : Nest → α → Prop} (ret' : Int)
    (from' : From o held ret' p post) : From o held 0 p post :=
  From.weaken (fun zero => absurd rfl zero) from'

theorem From.ite {c : Prop} {_ : Decidable c} {p q : Kernel α} {post : Nest → α → Prop}
    (yes : c → From o held ret p post) (no : ¬ c → From o held ret q post) :
    From o held ret (if c then p else q) post := by
  split_ifs with h
  · exact yes h
  · exact no h

theorem From.bind {p : Kernel α} {f : α → Kernel β} {mid : Nest → α → Prop}
    {post : Nest → β → Prop} (first : From o held ret p mid)
    (rest : ∀ nest a, mid nest a → (f a).Safe (lifetimes o) post nest) :
    From o held ret (p >>= f) post :=
  fun nest kept => (first nest kept).bind (lifetimes o) (rest)

theorem Keeps.bind {p : Kernel Int} {f : Int → Kernel β} {post : Nest → β → Prop}
    (first : Keeps o held ret p) (rest : ∀ ret', From o held ret' (f ret') post) :
    From o held ret (p >>= f) post :=
  From.bind first fun nest ret' kept => rest ret' nest kept

theorem Keeps.andThen {p : Kernel Int} (next : Keeps o held 0 p) :
    Keeps o held ret (andThen ret p) := by
  unfold KernelCalls.andThen
  split_ifs with zero
  · exact zero ▸ next
  · exact Keeps.done id

theorem From.steady {p : Kernel α} {f : α → Kernel β} {result : α → Prop}
    {post : Nest → β → Prop} (steady : Steady held.head? p result)
    (rest : ∀ a, result a → From o held ret (f a) post) : From o held ret (p >>= f) post := by
  intro nest kept
  obtain ⟨_, firmware, failed⟩ := nest
  obtain ⟨rfl, rfl, told⟩ := kept
  refine (steady.safe (lifetimes o) fun c r still => steady_inert calm_outside r still).bind _ ?_
  rintro _ a ⟨rfl, answer⟩
  exact rest a answer _ ⟨rfl, rfl, told⟩

/-- A steady call that answers the result. -/
theorem Keeps.steady {p : Kernel Int} {result : Int → Prop} (steady : Steady held.head? p result)
    (tells : ∀ ret', result ret' → ret ≠ 0 → ret' ≠ 0) : Keeps o held ret p := by
  intro nest kept
  obtain ⟨_, firmware, failed⟩ := nest
  obtain ⟨rfl, rfl, told⟩ := kept
  refine (steady.safe (lifetimes o) fun c r still => steady_inert calm_outside r still).mono _ ?_
  rintro _ ret' ⟨rfl, answer⟩
  exact ⟨rfl, rfl, fun failed => tells ret' answer (told failed)⟩

theorem From.call {c : Call} {f : Answer c → Kernel β} {post : Nest → β → Prop}
    (still : Lifetimes.steady held.head? c = true) (rest : ∀ r, From o held ret (f r) post) :
    From o held ret (query c >>= f) post :=
  have calls : Steady held.head? (query c) fun _ => True := ⟨still, fun _ => trivial⟩
  From.steady calls fun r _ => rest r

theorem From.onlyIfCall {needed : Bool} {c : Call} {unchanged : Answer c} {f : Answer c → Kernel β}
    {post : Nest → β → Prop} (still : Lifetimes.steady held.head? c = true)
    (rest : ∀ r, From o held ret (f r) post) :
    From o held ret (onlyIf needed unchanged (query c) >>= f) post := by
  cases needed with
  | true => exact From.call still rest
  | false => exact rest unchanged

theorem From.onlyIf {needed : Bool} {unchanged : α} {p : Kernel α} {post : Nest → α → Prop}
    (taken : needed = true → From o held ret p post)
    (skipped : ∀ nest, Kept held nest ret → post nest unchanged) :
    From o held ret (onlyIf needed unchanged p) post := by
  cases needed with
  | true => exact taken rfl
  | false => exact From.done skipped

/-- Where nothing has failed yet, a step may be left out with any result. -/
theorem Keeps.onlyIf {needed : Bool} {unchanged : Int} {p : Kernel Int}
    (taken : needed = true → Keeps o held 0 p) : Keeps o held 0 (onlyIf needed unchanged p) :=
  From.onlyIf taken fun _ kept => kept.weaken fun zero => absurd rfl zero

/-- An access that may fail; the result carries on `ret` and the failure. -/
theorem From.access {c : Call} {f : Answer c → Kernel β} {post : Nest → β → Prop}
    (fit : fits held.head? c = true) (told : Answer c → Int)
    (carries : ∀ r, ret ≠ 0 → told r ≠ 0)
    (tells : ∀ r, errored ⟨c, r⟩ = true → told r ≠ 0)
    (rest : ∀ r, From o held (told r) (f r) post) : From o held ret (query c >>= f) post := by
  intro nest kept
  obtain ⟨_, firmware, failed⟩ := nest
  obtain ⟨rfl, rfl, before⟩ := kept
  refine (Prog.safe_call_bind _ _ _ _ _).mpr fun r _ => ⟨allowed_of_fits calm_outside fit, ?_⟩
  rw [next_of_fits r fit]
  refine rest r _ ⟨rfl, rfl, fun failed => ?_⟩
  obtain access | earlier := Bool.or_eq_true_iff.mp failed
  · exact tells r (Bool.and_eq_true_iff.mp access).2
  · exact carries r (before earlier)

/-- The program makes steady calls and stores that leave the bus master alone. -/
abbrev Probing {α : Type} (inner : Option (Layer × Bool)) (p : Kernel α) (result : α → Prop) :
    Prop :=
  p.Yields (fun c => Lifetimes.steady inner c = true ∨ masterless c = true) result

theorem Steady.probing {inner : Option (Layer × Bool)} {p : Kernel α} {result : α → Prop}
    (steady : Steady inner p result) : Probing inner p result :=
  steady.mono (fun _ still => .inl still) fun _ answer => answer

theorem From.probing {p : Kernel α} {f : α → Kernel β} {result : α → Prop}
    {post : Nest → β → Prop} (linked : (Layer.link, false) ∈ held)
    (probing : Probing held.head? p result)
    (rest : ∀ a, result a → From o held ret (f a) post) : From o held ret (p >>= f) post := by
  intro nest kept
  obtain ⟨_, firmware, failed⟩ := nest
  obtain ⟨rfl, rfl, told⟩ := kept
  refine (probing.safe (lifetimes o) fun c r used => ?_).bind _ ?_
  · obtain still | quiet := used
    · exact steady_inert calm_outside r still
    · exact masterless_inert calm_outside r linked quiet
  · rintro _ a ⟨rfl, answer⟩
    exact rest a answer _ ⟨rfl, rfl, told⟩

theorem Keeps.probing {p : Kernel Int} {result : Int → Prop} (linked : (Layer.link, false) ∈ held)
    (probing : Probing held.head? p result) (tells : ∀ ret', result ret' → ret ≠ 0 → ret' ≠ 0) :
    Keeps o held ret p := by
  intro nest kept
  have bound : From o held ret (p >>= pure) (Kept held) :=
    From.probing linked probing fun ret' answer => Keeps.done (tells ret' answer)
  exact (Prog.safe_bind _ _ _ _ _).mp (bound nest kept)

theorem From.store {c : Call} {f : Answer c → Kernel β} {post : Nest → β → Prop}
    (linked : (Layer.link, false) ∈ held) (quiet : masterless c = true)
    (rest : ∀ r, From o held ret (f r) post) : From o held ret (query c >>= f) post :=
  have stores : Probing held.head? (query c) fun _ => True := ⟨.inr quiet, fun _ => trivial⟩
  From.probing linked stores fun r _ => rest r

theorem mark_allowed {nest : Nest} {c : Call} {mark : Mark Layer} (marked : markOf c = some mark)
    (calm : nest.firmware = true → FirmwareHeld nest.held)
    (follows : Follows Encloses nest.held mark)
    (selects : ∀ layer, c = .acquire layer → selected o layer = true) : Allowed o nest c := by
  have unstored : storeOf c = none := by cases c <;> first | rfl | cases marked
  refine ⟨fun other same => ?_, selects, ?_, by simp [unstored], by simp [unstored], ?_, calm⟩
  · obtain rfl := Option.some.inj (marked.symm.trans same)
    exact follows
  · cases c <;> first | rfl | cases marked
  · rintro rfl
    cases marked

theorem follows_acquire {outer layer : Layer} (inner : held.head? = some (outer, false))
    (deeper : Layer.rank outer < Layer.rank layer) : Follows Encloses held (.acquire layer) := by
  refine ⟨fun other closing same => ?_, ?_⟩
  · rw [inner] at same
    exact (Prod.mk.inj (Option.some.inj same)).2.symm
  · rw [Held.inner, inner]
    exact deeper

theorem From.acquire {layer : Layer} {f : Unit → Kernel β} {post : Nest → β → Prop}
    (wanted : selected o layer = true) (follows : Follows Encloses held (.acquire layer))
    (rest : From o ((layer, false) :: held) ret (f ()) post) :
    From o held ret (query (.acquire layer) >>= f) post := by
  intro nest kept
  obtain ⟨_, firmware, failed⟩ := nest
  obtain ⟨rfl, rfl, told⟩ := kept
  refine (Prog.safe_call_bind _ _ _ _ _).mpr fun r _ => ⟨?_, rest _ ⟨rfl, rfl, told⟩⟩
  refine mark_allowed rfl calm_outside follows ?_
  rintro _ ⟨⟩
  exact wanted

theorem From.teardown {layer : Layer} {f : Unit → Kernel β} {post : Nest → β → Prop}
    (rest : From o ((layer, true) :: held) ret (f ()) post) :
    From o ((layer, false) :: held) ret (query (.teardown layer) >>= f) post := by
  intro nest kept
  obtain ⟨_, firmware, failed⟩ := nest
  obtain ⟨rfl, rfl, told⟩ := kept
  refine (Prog.safe_call_bind _ _ _ _ _).mpr fun r _ => ⟨?_, rest _ ⟨rfl, rfl, told⟩⟩
  exact mark_allowed rfl calm_outside rfl nofun

theorem From.release {layer : Layer} {f : Unit → Kernel β} {post : Nest → β → Prop}
    (rest : From o held ret (f ()) post) :
    From o ((layer, true) :: held) ret (query (.release layer) >>= f) post := by
  intro nest kept
  obtain ⟨_, firmware, failed⟩ := nest
  obtain ⟨rfl, rfl, told⟩ := kept
  refine (Prog.safe_call_bind _ _ _ _ _).mpr fun r _ => ⟨?_, rest _ ⟨rfl, rfl, told⟩⟩
  exact mark_allowed rfl calm_outside rfl nofun

end Rules

end WinBoot.Lifetimes
