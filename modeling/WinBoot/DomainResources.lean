import WinBoot.ProbeLifetimes
import WinBoot.ProbeResources

/-! The consumers of the power domains, and with them all that one load of the module takes: what
is still held at the end is the consumer of a domain that would not let it go. -/

namespace WinBoot.DomainResources
open Interaction KernelCalls PowerDomains EndpointProbe ResourceLedger KernelLedger ProbeResources

def domainOf : Resource → Option Nat
  | .consumer index | .attached index | .enabled index | .resumed index => some index
  | _ => none

def slots (index : Nat) : List Resource :=
  [.consumer index, .attached index, .enabled index, .resumed index]

/-- What is held for a domain, by its flags. -/
def heldBy (domain : DomainProbe) : List Resource :=
  (if domain.consumer then [.consumer domain.index] else []) ++
    (if domain.attached then [.attached domain.index, .enabled domain.index] else []) ++
    (if domain.resumed then [.resumed domain.index] else [])

structure Staged (domain : DomainProbe) : Prop where
  attached : domain.attached = true → domain.consumer = true
  resumed : domain.resumed = true → domain.attached = true

theorem slots_domain {index : Nat} {k : Resource} (slot : k ∈ slots index) :
    domainOf k = some index := by
  simp only [slots, List.mem_cons, List.not_mem_nil, or_false] at slot
  obtain rfl | rfl | rfl | rfl := slot <;> rfl

theorem heldBy_slots {domain : DomainProbe} {k : Resource} (own : k ∈ heldBy domain) :
    k ∈ slots domain.index := by
  simp only [heldBy, List.mem_append, List.mem_ite_nil_right, List.mem_cons, List.not_mem_nil,
    or_false] at own
  simp only [slots, List.mem_cons, List.not_mem_nil, or_false]
  tauto

variable {promise : KernelEvent → Prop}

/-- The accounts with a promise about the answers. -/
abbrev promised (promise : KernelEvent → Prop) : Accounts Call Answer Resource :=
  accounts.assuming promise

section Calls

variable {α β : Type} {owned frees : List Resource} {left : α → List Resource → Prop} {c : Call}

theorem promised_call {f : Answer c → Kernel α} (quiet : still owned c = true)
    (rest : ∀ r, Leaves (promised promise) owned [] frees left (f r)) :
    Leaves (promised promise) owned [] frees left (query c >>= f) :=
  Leaves.quiet (by simpa using (quiet_of_still quiet).assuming) rest

theorem promised_still {p : Kernel β} {f : β → Kernel α} (quiet : Still owned p)
    (rest : ∀ b, Leaves (promised promise) owned [] frees left (f b)) :
    Leaves (promised promise) owned [] frees left (p >>= f) :=
  Leaves.quietly (quiet.mono (fun _ still => by simpa using (quiet_of_still still).assuming)
    fun _ _ => trivial) rest

end Calls

/-- What a stage leaves of a domain. -/
structure Passed (domain : DomainProbe) (done : DomainProbe → Prop) (result : Int × DomainProbe)
    (rest : List Resource) : Prop where
  held : rest = heldBy result.2
  index : result.2.index = domain.index
  staged : Staged result.2
  done : result.1 = 0 → done result.2

def Stage (step : DomainProbe → Kernel (Int × DomainProbe))
    (ready done : DomainProbe → Prop) : Prop :=
  ∀ domain, Staged domain → ready domain →
    Leaves accounts (heldBy domain) [] (slots domain.index) (Passed domain done) (step domain)

def Unregistered (domain : DomainProbe) : Prop := domain.consumer = false
def Attached (domain : DomainProbe) : Prop := domain.attached = true ∧ domain.resumed = false
def Resumed (domain : DomainProbe) : Prop := domain.resumed = true

theorem Staged.held_of_unregistered {domain : DomainProbe} (staged : Staged domain)
    (none : Unregistered domain) : domain.attached = false ∧ domain.resumed = false := by
  obtain ⟨attached, resumed⟩ := staged
  unfold Unregistered at none
  simp_all

theorem attachDomain_stage : Stage attachDomain Unregistered Attached := by
  intro domain staged unregistered
  obtain ⟨detached, idle⟩ := staged.held_of_unregistered unregistered
  have nothing : heldBy domain = [] := by
    simp [heldBy, detached, idle, show domain.consumer = false from unregistered]
  rw [nothing]
  have stop (ret : Int) (nonzero : ret ≠ 0) : Leaves accounts [] [] (slots domain.index)
      (Passed domain Attached) (pure (ret, domain) : Kernel (Int × DomainProbe)) :=
    Leaves.done ⟨nothing.symm, rfl, staged, fun zero => absurd zero nonzero⟩
  refine leaves_call rfl fun found => Leaves.ite (fun _ => stop _ (by decide)) fun _ => ?_
  refine leaves_call rfl fun compatible => Leaves.ite (fun _ => stop _ (by decide)) fun _ => ?_
  refine Leaves.take (.consumer domain.index) (fun _ => rfl) (fun _ => rfl) (List.nil_subset _) rfl
    (by simp [slots]) nofun (fun ret zero => ?_) fun ret nonzero => ?_
  · refine Leaves.ite (fun nonzero => absurd zero nonzero) fun _ => ?_
    have registered (ret : Int) (nonzero : ret ≠ 0) :
        Leaves accounts [.consumer domain.index] [] (slots domain.index) (Passed domain Attached)
          (pure (ret, { domain with consumer := true }) : Kernel (Int × DomainProbe)) :=
      Leaves.done ⟨by simp [heldBy, detached, idle], rfl, ⟨fun _ => rfl, staged.resumed⟩,
        fun zero => absurd zero nonzero⟩
    refine Leaves.take (.attached domain.index) (fun _ => rfl) (fun _ => rfl)
      (by simp [accounts, needs])
      rfl (by simp [slots]) (by simp) (fun ret zero => ?_) fun ret nonzero => ?_
    · refine Leaves.ite (fun nonzero => absurd zero nonzero) fun _ => ?_
      have always (r : Answer (.pmRuntimeEnable domain.index)) :
          accounts.takes ⟨.pmRuntimeEnable domain.index, r⟩ =
            if True then some (.enabled domain.index) else none := rfl
      refine Leaves.take (.enabled domain.index) always (fun _ => rfl)
        (by simp [accounts, needs]) rfl
        (by simp [slots]) (by simp) (fun _ _ => ?_) fun _ no => absurd trivial no
      refine Leaves.same (heldBy { domain with consumer := true, attached := true }) ?_ ?_
      · exact Leaves.done ⟨rfl, rfl, ⟨fun _ => rfl, fun _ => rfl⟩, fun _ => ⟨rfl, idle⟩⟩
      · simp [heldBy, idle]
        tauto
    · exact Leaves.ite (fun _ => registered ret nonzero) fun zero =>
        absurd (not_not.mp zero) nonzero
  · exact Leaves.ite (fun _ => stop ret nonzero) fun zero => absurd (not_not.mp zero) nonzero

theorem resumeDomain_stage : Stage resumeDomain Attached Resumed := by
  rintro domain staged ⟨attached, idle⟩
  have known : heldBy domain = [.consumer domain.index, .attached domain.index, .enabled domain.index] := by
    simp [heldBy, attached, idle, staged.attached attached]
  refine Leaves.take (.resumed domain.index) (fun _ => rfl) (fun _ => rfl)
    (by simp [known, accounts, needs]) rfl (by simp [slots]) (by simp [known]) (fun ret granted => ?_)
    fun ret refused => ?_
  · refine Leaves.ite (fun negative => absurd granted (Int.not_le.mpr negative)) fun _ => ?_
    refine leaves_call rfl fun answer => ?_
    refine Leaves.same (heldBy { domain with resumed := true }) ?_ ?_
    · have resumed (ret : Int) : Leaves accounts (heldBy { domain with resumed := true }) []
          (slots domain.index) (Passed domain Resumed)
          (pure (ret, { domain with resumed := true }) : Kernel (Int × DomainProbe)) :=
        Leaves.done ⟨rfl, rfl, ⟨staged.attached, fun _ => attached⟩, fun _ => rfl⟩
      exact Leaves.ite (fun _ => resumed _) fun _ =>
        Leaves.ite (fun _ => resumed _) fun _ => resumed _
    · simp [heldBy, attached, staged.attached attached]
      tauto
  · refine Leaves.ite (fun _ => Leaves.done ⟨rfl, rfl, staged, fun zero => ?_⟩) fun positive => ?_
    · exact absurd (Int.le_of_eq zero.symm) refused
    · exact absurd (Int.not_lt.mp positive) refused

theorem forceDomain_stage : Stage forceDomain Resumed Resumed := by
  intro domain staged resumed
  have passed (ret : Int) (saved : U32) (forced : Bool) :
      Leaves accounts (heldBy domain) [] (slots domain.index) (Passed domain Resumed)
        (pure (ret, { domain with savedAuto := saved, forced := forced }) : Kernel (Int × DomainProbe)) :=
    Leaves.done ⟨rfl, rfl, ⟨staged.attached, staged.resumed⟩, fun _ => resumed⟩
  refine leaves_call rfl fun answer => Leaves.ite (fun _ => passed _ _ _) fun _ => ?_
  refine leaves_call rfl fun ret => Leaves.ite (fun _ => passed _ _ _) fun _ => ?_
  exact leaves_call rfl fun answer => passed _ _ _

/-- What a stage leaves of the domains together. -/
structure PassedAll (domains : List DomainProbe) (done : DomainProbe → Prop)
    (result : Int × List DomainProbe) (rest : List Resource) : Prop where
  held : ∀ k, k ∈ rest ↔ k ∈ result.2.flatMap heldBy
  index : result.2.map (·.index) = domains.map (·.index)
  staged : ∀ domain ∈ result.2, Staged domain
  done : result.1 = 0 → ∀ domain ∈ result.2, done domain

def allSlots (domains : List DomainProbe) : List Resource := domains.flatMap fun domain => slots domain.index

theorem heldBy_allSlots {domains : List DomainProbe} {k : Resource}
    (held : k ∈ domains.flatMap heldBy) :
    k ∈ allSlots domains := by
  obtain ⟨domain, member, own⟩ := List.mem_flatMap.mp held
  exact List.mem_flatMap.mpr ⟨domain, member, heldBy_slots own⟩

theorem apart_of_distinct {domain : DomainProbe} {domains : List DomainProbe} {k : Resource}
    (away : domain.index ∉ domains.map (·.index)) (own : domainOf k = some domain.index) :
    k ∉ allSlots domains := by
  intro other
  obtain ⟨domain', member, slot⟩ := List.mem_flatMap.mp other
  have same := own.symm.trans (slots_domain slot)
  exact away (List.mem_map.mpr ⟨domain', member, (Option.some.inj same).symm⟩)

theorem forDomains_passed {step : DomainProbe → Kernel (Int × DomainProbe)}
    {ready done : DomainProbe → Prop} (stage : Stage step ready done) {domains : List DomainProbe}
    (distinct : (domains.map (·.index)).Nodup) (staged : ∀ domain ∈ domains, Staged domain)
    (readied : ∀ domain ∈ domains, ready domain) :
    Leaves accounts (domains.flatMap heldBy) [] (allSlots domains) (PassedAll domains done)
      (forDomains step domains) := by
  induction domains with
  | nil => exact Leaves.done ⟨fun _ => Iff.rfl, rfl, nofun, nofun⟩
  | cons domain domains ih =>
    obtain ⟨away, distinct⟩ := List.nodup_cons.mp distinct
    refine Leaves.bind (stage domain (staged _ (.head _)) (readied _ (.head _))) (List.nil_subset _)
      (List.subset_append_left _ _) (fun k member => ?_) ?_
    · have own := slots_domain ((List.mem_append.mp member).elim heldBy_slots id)
      exact fun held => apart_of_distinct away own (heldBy_allSlots held)
    rintro ⟨ret, domain'⟩ more ⟨rfl, index, staged', done'⟩
    refine Leaves.ite (fun failed => Leaves.done ⟨fun k => ?_, ?_, ?_, fun zero => absurd zero failed⟩)
      fun _ => ?_
    · simp
    · exact congrArg (· :: domains.map (·.index)) index
    · exact List.forall_mem_cons.mpr ⟨staged', fun d member => staged d (.tail _ member)⟩
    refine Leaves.same (domains.flatMap heldBy ++ heldBy domain') ?_ (by simp [or_comm])
    refine Leaves.bind (ih distinct (fun d member => staged d (.tail _ member))
      fun d member => readied d (.tail _ member)) (List.nil_subset _)
      (List.subset_append_right _ _) (fun k member own => ?_) ?_
    · have other := (List.mem_append.mp member).elim heldBy_allSlots id
      exact apart_of_distinct away (index ▸ slots_domain (heldBy_slots own)) other
    rintro ⟨ret', domains'⟩ rest ⟨held, indices, staged'', done''⟩
    refine Leaves.done ⟨fun k => ?_, ?_, List.forall_mem_cons.mpr ⟨staged', staged''⟩, fun zero => ?_⟩
    · simp [held, or_comm]
    · exact congrArg₂ List.cons index indices
    · exact List.forall_mem_cons.mpr ⟨done' (not_not.mp ‹¬ ret ≠ 0›), done'' zero⟩

theorem PassedAll.known {domains : List DomainProbe} {done : DomainProbe → Prop}
    {result : Int × List DomainProbe} {rest : List Resource}
    (passed : PassedAll domains done result rest) :
    PassedAll domains (fun _ => True) result rest :=
  ⟨passed.held, passed.index, passed.staged, fun _ _ _ => trivial⟩

theorem allSlots_index {domains domains' : List DomainProbe}
    (same : domains'.map (·.index) = domains.map (·.index)) :
    allSlots domains' = allSlots domains := by
  simp only [allSlots, ← List.flatMap_map (f := DomainProbe.index), same]

/-- All the domains take one stage, and those that did go on. -/
theorem stages_passed {step : DomainProbe → Kernel (Int × DomainProbe)}
    {ready done : DomainProbe → Prop}
    (stage : Stage step ready done) {domains : List DomainProbe}
    {next : Int × List DomainProbe → Kernel (Int × List DomainProbe)}
    (stop : ∀ ret domains, ret ≠ 0 → next (ret, domains) = pure (ret, domains))
    (distinct : (domains.map (·.index)).Nodup) (staged : ∀ domain ∈ domains, Staged domain)
    (readied : ∀ domain ∈ domains, ready domain)
    (rest : ∀ domains' : List DomainProbe, (domains'.map (·.index)).Nodup →
      (∀ domain ∈ domains', Staged domain) → (∀ domain ∈ domains', done domain) →
      Leaves accounts (domains'.flatMap heldBy) [] (allSlots domains')
        (PassedAll domains' fun _ => True) (next (0, domains'))) :
    Leaves accounts (domains.flatMap heldBy) [] (allSlots domains) (PassedAll domains fun _ => True)
      (forDomains step domains >>= next) := by
  refine Leaves.same (domains.flatMap heldBy ++ []) ?_ (by simp)
  refine Leaves.bind (forDomains_passed stage distinct staged readied) (List.nil_subset _)
    (List.Subset.refl _) (fun _ _ => List.not_mem_nil) ?_
  rintro ⟨ret, domains'⟩ more passed
  rw [List.append_nil]
  by_cases failed : ret ≠ 0
  · rw [stop ret domains' failed]
    exact Leaves.done passed.known
  obtain rfl : ret = 0 := not_not.mp failed
  refine Leaves.same (domains'.flatMap heldBy) ?_ passed.held
  have onward := rest domains' (passed.index ▸ distinct) passed.staged (passed.done rfl)
  rw [allSlots_index passed.index] at onward
  exact onward.mono fun _ _ last =>
    ⟨last.held, last.index.trans passed.index, last.staged, last.done⟩

theorem setUpDomains_passed (forceActive : Bool) {domains : List DomainProbe}
    (distinct : (domains.map (·.index)).Nodup) (staged : ∀ domain ∈ domains, Staged domain)
    (unregistered : ∀ domain ∈ domains, Unregistered domain) :
    Leaves accounts (domains.flatMap heldBy) [] (allSlots domains)
      (PassedAll domains fun _ => True) (setUpDomains forceActive domains) := by
  refine stages_passed attachDomain_stage (fun _ _ failed => if_pos failed) distinct staged unregistered ?_
  refine fun domains distinct staged attached =>
    Leaves.ite (fun failed => absurd rfl failed) fun _ => ?_
  refine stages_passed resumeDomain_stage (fun _ _ failed => if_pos failed) distinct staged attached ?_
  refine fun domains distinct staged resumed =>
    Leaves.ite (fun failed => absurd rfl failed) fun _ => ?_
  cases forceActive with
  | true =>
    exact (forDomains_passed forceDomain_stage distinct staged resumed).mono fun _ _ passed => passed.known
  | false => exact Leaves.done ⟨fun _ => Iff.rfl, rfl, staged, fun _ _ _ => trivial⟩

/-- The domain refused to let its consumer go, which keeps `k`. -/
def Refused (promise : KernelEvent → Prop) (index : Nat) (k : Resource) : Prop :=
  (k = .consumer index ∨ k = .attached index) ∧
    ∃ ret : Int, ret ≠ 0 ∧ promise ⟨.pmGenpdRemoveDevice index, ret⟩

section Release

variable (index : Nat) (ret : Int)

/-- The consumer of the domain is all that is left to be given back. -/
theorem unregister_refused : Leaves (promised promise) [.consumer index] [] (slots index)
    (fun _ rest => ∀ k ∈ rest, Refused promise index k) (do
      query (.platformDeviceUnregister index)
      return ret) := by
  refine Leaves.give (.consumer index) (fun _ => rfl) (fun _ => rfl)
    (List.nil_subset _) ?_ (.head _)
    fun _ => Leaves.done (by simp)
  simp [promised, Accounts.assuming, accounts, bars, slots]

theorem detach_refused : Leaves (promised promise)
    [.consumer index, .attached index, .enabled index]
    [] (slots index) (fun _ rest => ∀ k ∈ rest, Refused promise index k) (do
      query (.pmRuntimeDisable index)
      let cleanup ← query (.pmGenpdRemoveDevice index)
      if cleanup ≠ 0 then return cleanup
      query (.platformDeviceUnregister index)
      return ret) := by
  refine Leaves.give (.enabled index) (fun _ => rfl) (fun _ => rfl)
    (by simp [promised, Accounts.assuming, accounts, needs]) nofun (by simp) fun _ => ?_
  refine Leaves.giveWhen (.attached index) (fun _ _ honest => honest.2) (fun _ => rfl)
    (fun _ => rfl)
    (by simp [promised, Accounts.assuming, accounts, needs]) ?_ (by simp)
    (fun cleanup _ zero => ?_) fun cleanup said refused => ?_
  · simp [promised, Accounts.assuming, accounts, bars, slots]
  · refine Leaves.ite (fun nonzero => absurd zero nonzero) fun _ => ?_
    simpa using unregister_refused index ret
  · refine Leaves.ite (fun _ => Leaves.done ?_) fun zero => absurd (not_not.mp zero) refused
    simpa [Refused] using ⟨cleanup, refused, said⟩

end Release

theorem releaseDomain_refused {domain : DomainProbe} (staged : Staged domain) (ret : Int) :
    Leaves (promised promise) (heldBy domain) [] (slots domain.index)
      (fun _ rest => ∀ k ∈ rest, Refused promise domain.index k) (releaseDomain domain ret) := by
  obtain ⟨index, path, offset, consumer, attached, resumed, forced, saved⟩ := domain
  obtain ⟨attachedIn, resumedIn⟩ := staged
  cases attached with
  | false =>
    obtain rfl : resumed = false := by simpa using resumedIn
    cases consumer with
    | false => exact Leaves.done nofun
    | true =>
      refine promised_still (onlyIf_makes (Prog.Makes.call rfl fun _ => trivial)) fun _ => ?_
      exact unregister_refused index _
  | true =>
    obtain rfl : consumer = true := attachedIn rfl
    refine promised_still (onlyIf_makes (Prog.Makes.call rfl fun _ => trivial)) fun _ => ?_
    cases resumed with
    | false => exact detach_refused index _
    | true =>
      have idle : (heldBy ⟨index, path, offset, true, true, true, forced, saved⟩).filter
          (· ≠ .resumed index) = [.consumer index, .attached index, .enabled index] := by
        simp [heldBy]
      refine Leaves.give (.resumed index) (fun _ => rfl) (fun _ => rfl) ?_ nofun ?_ fun _ => ?_
      · simp [promised, Accounts.assuming, accounts, needs, heldBy]
      · simp [heldBy]
      · rw [idle]
        exact detach_refused index _

theorem releaseDomains_refused {domains : List DomainProbe}
    (distinct : (domains.map (·.index)).Nodup)
    (staged : ∀ domain ∈ domains, Staged domain) (ret : Int) :
    Leaves (promised promise) (domains.flatMap heldBy) [] (allSlots domains)
      (fun _ rest => ∀ k ∈ rest, ∃ domain ∈ domains, Refused promise domain.index k)
      (releaseDomains domains ret) := by
  induction domains generalizing ret with
  | nil => exact Leaves.done nofun
  | cons domain domains ih =>
    obtain ⟨away, distinct⟩ := List.nodup_cons.mp distinct
    refine Leaves.bind (releaseDomain_refused (staged _ (.head _)) ret) (List.nil_subset _)
      (List.subset_append_left _ _) (fun k member => ?_) fun ret more refused => ?_
    · have own := slots_domain ((List.mem_append.mp member).elim heldBy_slots id)
      exact fun held => apart_of_distinct away own (heldBy_allSlots held)
    refine Leaves.same (domains.flatMap heldBy ++ more) ?_ (by simp [or_comm])
    have known (k : Resource) (own : k ∈ more) : domainOf k = some domain.index := by
      obtain ⟨rfl | rfl, -⟩ := refused k own <;> rfl
    have last := ih distinct (fun d member => staged d (.tail _ member)) ret
    refine (Leaves.frame last (List.nil_subset _) (List.subset_append_right _ _) ?_).mono ?_
    · intro k member own
      have other := (List.mem_append.mp member).elim heldBy_allSlots id
      exact apart_of_distinct away (known k own) other
    · rintro ret _ ⟨rest, left, rfl⟩ k member
      obtain held | own := List.mem_append.mp member
      · obtain ⟨d, member, refusal⟩ := left k held
        exact ⟨d, .tail _ member, refusal⟩
      · exact ⟨domain, .head _, refused k own⟩

theorem readBaseline_still (cycle : Bool) (domains : List DomainProbe) :
    Still [] (readBaseline cycle domains) := by
  induction domains with
  | nil => trivial
  | cons domain domains ih =>
    exact Prog.Makes.call rfl fun _ => Prog.Makes.ite (fun _ => trivial) fun _ =>
      Prog.Makes.ite (fun _ => trivial) fun _ => ih

theorem readReleased_still (domains : List DomainProbe) (ret : Int) :
    Still [] (readReleased domains ret) := by
  induction domains generalizing ret with
  | nil => trivial
  | cons domain domains ih => exact Prog.Makes.call rfl fun _ => ih _

/-- What is left is held for a domain that refused to let its consumer go. -/
abbrev OnlyRefused (promise : KernelEvent → Prop) (_ : Int) (rest : List Resource) : Prop :=
  ∀ k ∈ rest, ∃ index, Refused promise index k

theorem holdDomains_refused {frees : List Resource} {operate : Option (Kernel Int)}
    (kept : Kept [] [] frees (operate.getD (pure 0))) (apart : ∀ k ∈ frees, domainOf k = none)
    (forceActive : Bool) :
    Leaves (promised promise) [] [] (frees ++ allSlots domainTable) (OnlyRefused promise)
      (holdDomains forceActive operate) := by
  have distinct : (domainTable.map (·.index)).Nodup := by decide
  have fresh : ∀ domain ∈ domainTable, Unregistered domain ∧ Staged domain := by
    intro domain member
    simp only [domainTable, List.mem_cons, List.not_mem_nil, or_false] at member
    obtain rfl | rfl | rfl := member <;> exact ⟨rfl, nofun, nofun⟩
  refine promised_call rfl fun _ => ?_
  refine Leaves.same (domainTable.flatMap heldBy ++ []) ?_ (by simp [domainTable, domainProbe, heldBy])
  refine Leaves.bind (setUpDomains_passed forceActive distinct (fun domain member => (fresh domain member).2)
    fun domain member => (fresh domain member).1).assuming
    (List.nil_subset _) (List.subset_append_right _ _) (fun _ _ => List.not_mem_nil) ?_
  rintro ⟨ret, domains⟩ held passed
  rw [List.append_nil]
  refine Leaves.tidy (Kept.andThen kept).assuming (List.nil_subset _) (List.subset_append_left _ _)
    (fun k free own => ?_) fun ret => ?_
  · have slot := heldBy_allSlots ((passed.held k).mp own)
    obtain ⟨domain, -, slot⟩ := List.mem_flatMap.mp slot
    simpa [apart k free] using slots_domain slot
  refine promised_call rfl fun _ => ?_
  refine Leaves.same (domains.reverse.flatMap heldBy ++ []) ?_ (by simp [passed.held])
  have slots : allSlots domains.reverse ⊆ frees ++ allSlots domainTable := by
    rw [← allSlots_index passed.index]
    exact fun k slot => List.mem_append_right _ (by simpa [allSlots] using slot)
  refine Leaves.bind (releaseDomains_refused ?_ (by simpa using passed.staged) ret)
    (List.nil_subset _) slots (fun _ _ => List.not_mem_nil) fun ret rest refused => ?_
  · rw [List.map_reverse, passed.index]
    decide
  refine promised_still ((readReleased_still _ _).weaken (List.nil_subset _)) fun ret => ?_
  refine promised_call rfl fun _ => Leaves.done fun k left => ?_
  obtain ⟨domain, -, refusal⟩ := refused k (by simpa using left)
  exact ⟨domain.index, refusal⟩

theorem withPcieDomains_refused {frees : List Resource} {operate : Option (Kernel Int)}
    (kept : Kept [] [] frees (operate.getD (pure 0))) (apart : ∀ k ∈ frees, domainOf k = none)
    (cycle forceActive : Bool) :
    Leaves (promised promise) [] [] (frees ++ allSlots domainTable) (OnlyRefused promise)
      (withPcieDomains cycle forceActive operate) := by
  have nothing (ret : Int) : Leaves (promised promise) [] [] (frees ++ allSlots domainTable)
      (OnlyRefused promise) (pure ret : Kernel Int) := Leaves.done nofun
  refine Leaves.ite (fun _ => nothing _) fun _ => ?_
  refine promised_still isJ42dT7000_still fun _ => Leaves.ite (fun _ => nothing _) fun _ => ?_
  refine promised_call rfl fun _ => Leaves.ite (fun _ => nothing _) fun _ => ?_
  refine promised_call rfl fun _ => Leaves.ite (fun _ => nothing _) fun _ => ?_
  refine promised_call rfl fun _ => Leaves.ite (fun _ => nothing _) fun _ => ?_
  refine promised_still (readBaseline_still _ _) fun _ =>
    Leaves.ite (fun _ => nothing _) fun _ => ?_
  exact Leaves.ite (fun _ => nothing _) fun _ => holdDomains_refused kept apart forceActive

abbrev probeFrees : List Resource := .region 0x600000000 :: .region 0x602004000 :: phyFrees

theorem a1625PcieDomainsInit_refused (o : ModuleOptions) :
    Leaves (promised promise) [] [] (probeFrees ++ allSlots domainTable) (OnlyRefused promise)
      (a1625PcieDomainsInit o) := by
  refine Leaves.ite (fun _ => Leaves.done nofun) fun _ => ?_
  have kept : Kept [] [] probeFrees ((if o.snapshot then some (snapshotRegisters o) else none).getD
      (pure 0)) := by
    cases o.snapshot with
    | false => exact Leaves.done rfl
    | true => exact withPciePhy_kept _ _ _ (observeReadyPhy_kept o)
  refine Leaves.same ([] ++ []) ?_ (by simp)
  refine Leaves.bind (withPcieDomains_refused kept (by decide) _ _) (List.nil_subset _)
    (List.Subset.refl _) (fun _ _ => List.not_mem_nil)
    fun ret rest refused => Leaves.done ?_
  simpa using refused

/-- A board on which every step succeeds, but for the second power domain, which does not let its
consumer go. -/
def refusingAnswer (past : List KernelEvent) : (c : Call) → Answer c
  | .pmGenpdRemoveDevice 1 => ebusy
  | c => ProbeLifetimes.boardAnswer past c

def msiOptions : ModuleOptions :=
  { ProbeLifetimes.firmwareOptions with
    pulseRadio := false, trainLink := false, identifyEndpoint := false, scanPci := false, scanIommu := false,
    scanMsi := false, assignMemory := false, bindFirmware := false, probeMsi := true }

def refusedRun : List KernelEvent × Int :=
  Prog.exec refusingAnswer [] (a1625PcieDomainsInit msiOptions)

end WinBoot.DomainResources
