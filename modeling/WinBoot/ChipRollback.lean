import WinBoot.Callback
import WinBoot.ProbeLifetimes

/-! Identification of the chip behind a trained link. From the first store on, every run writes
the six registers it changes back as it found them, decode first. -/

namespace WinBoot.ChipRollback
open Interaction Interaction.Prog KernelCalls PciScan PciHost ConfigStorage EndpointProbe

def stores (c : Call) : Bool := (storeOf c).isSome

/-- The registers of `entry` as they are read. -/
def readings (entry : ChipEntry) : List KernelEvent :=
  [⟨.readw .endpoint 4, entry.epCommand⟩, ⟨.readw .root 4, entry.rcCommand⟩,
    ⟨.readl .endpoint 0x80, entry.window⟩, ⟨.readl .endpoint 0x14, entry.high⟩,
    ⟨.readl .endpoint 0x10, entry.low⟩, ⟨.readl .root 0x20, entry.mem⟩]

/-- The registers of `entry` written back, both commands before any address. -/
def rewrites (entry : ChipEntry) : List KernelEvent :=
  [⟨.writew .endpoint 4 entry.epCommand, ()⟩, ⟨.writew .root 4 entry.rcCommand, ()⟩,
    ⟨.writel .endpoint 0x80 entry.window, ()⟩, ⟨.writel .endpoint 0x14 entry.high, ()⟩,
    ⟨.writel .endpoint 0x10 entry.low, ()⟩, ⟨.writel .root 0x20 entry.mem, ()⟩]

def Storeless (t : List KernelEvent) : Prop := ∀ e ∈ t, stores e.1 = false

@[simp] theorem storeless_nil : Storeless [] := by simp [Storeless]

@[simp] theorem storeless_cons (e : KernelEvent) (t : List KernelEvent) :
    Storeless (e :: t) ↔ stores e.1 = false ∧ Storeless t := List.forall_mem_cons

@[simp] theorem storeless_append (t u : List KernelEvent) :
    Storeless (t ++ u) ↔ Storeless t ∧ Storeless u := List.forall_mem_append

/-- The registers were read before the first store, and are written back by the last stores; a
result of 0 comes of reading them as they were. -/
structure Rewritten (t : List KernelEvent) (ret : Int) (entry : ChipEntry)
    (found used checks : List KernelEvent) : Prop where
  trace : t = found ++ used ++ rewrites entry ++ checks
  before : Storeless found
  saved : readings entry ⊆ found
  behind : Storeless checks
  verified : ret = 0 → readings entry ⊆ checks

/-- A store to the root port's bus numbers. -/
def routes : Call → Bool
  | .writel .root offset _ | .writew .root offset _ => offset = pciPrimaryBus
  | _ => false

/-- No store sets the bus master bit of a command register or changes the bus numbers, and the chip
is read below its end. -/
def bounded (c : Call) : Bool :=
  !routes c &&
  (match storeOf c with
    | some (window, store) => !(isConfig window && decide (store.Sets (8 * 0x04 + 2)))
    | none => true) &&
  match c with
    | .readl .chip offset => decide (offset < 0x1000)
    | _ => true

/-- The words of a component table up to its end marker, and the PCIe2 cores among them. -/
inductive Erom : List U32 → Nat → Prop
  | ended {first : U32} (marker : first &&& 0xf = 0xf) (answers : first ≠ allOnes) : Erom [first] 0
  | other {first : U32} {words : List U32} {cores : Nat} (going : first &&& 0xf ≠ 0xf)
      (skipped : first &&& 0xfff0000f ≠ 0x4bf00001) (rest : Erom words cores) :
      Erom (first :: words) cores
  | component {first second : U32} {words : List U32} {cores : Nat}
      (found : first &&& 0xfff0000f = 0x4bf00001) (paired : second &&& 0xf = 1)
      (rest : Erom words cores) :
      Erom (first :: second :: words)
        (if (first >>> 8) &&& 0xfff = 0x83c then cores + 1 else cores)

/-- Chip words read one after the other. -/
def wordReads : Nat → List U32 → List KernelEvent
  | _, [] => []
  | offset, word :: words => ⟨.readl .chip offset, word⟩ :: wordReads (offset + 4) words

/-- What a run of `snapshotChip` owes. -/
structure Identified (o : ModuleOptions) (t : List KernelEvent) (ret : Int) : Prop where
  rewritten : (∃ e ∈ t, stores e.1 = true) →
    ∃ entry found used checks, Rewritten t ret entry found used checks
  bounded : ∀ e ∈ t, bounded e.1 = true
  scanned : o.inspectErom = true → ret = 0 →
    ∃ before words after, t = before ++ wordReads 0 words ++ after ∧ Erom words 1

section Erom

theorem walkErom_words (offset components pcie fuel : Nat) :
    (walkErom offset components pcie fuel).Every fun t out =>
      ∀ components' pcie', out = some (true, components', pcie') →
        ∃ words cores, t = wordReads offset words ∧ Erom words cores ∧ pcie' = pcie + cores := by
  induction fuel generalizing offset components pcie with
  | zero => exact .done (by simp)
  | succ fuel ih =>
    refine .ite (fun _ => .done (by simp)) fun _ => .call fun first => ?_
    refine .ite (fun _ => .done (by simp)) fun answers =>
      .ite (fun marker => .done ?_) fun going => ?_
    · rintro components' pcie' same
      obtain ⟨rfl, rfl⟩ : components = components' ∧ pcie = pcie' := by simpa using same
      exact ⟨[first], 0, rfl, .ended marker answers, rfl⟩
    refine .ite (fun skipped => (ih _ _ _).mono ?_) fun found => ?_
    · rintro t out read components' pcie' rfl
      obtain ⟨words, cores, rfl, erom, count⟩ := read _ _ rfl
      exact ⟨first :: words, cores, rfl, .other going skipped erom, count⟩
    refine .ite (fun _ => .done (by simp)) fun _ => .call fun second => ?_
    refine .ite (fun _ => .done (by simp)) fun paired => (ih _ _ _).mono ?_
    rintro t out read components' pcie' rfl
    obtain ⟨words, cores, rfl, erom, rfl⟩ := read _ _ rfl
    refine ⟨first :: second :: words, _, rfl, .component (not_not.mp found) (not_not.mp paired) erom, ?_⟩
    split <;> omega

/-- Somewhere in the run a whole table was read, with one PCIe2 core. -/
abbrev Scanned (t : List KernelEvent) : Prop :=
  ∃ before words after, t = before ++ wordReads 0 words ++ after ∧ Erom words 1

theorem Scanned.within {t : List KernelEvent} (scanned : Scanned t)
    (before after : List KernelEvent) :
    Scanned (before ++ t ++ after) := by
  obtain ⟨inner, words, outer, rfl, erom⟩ := scanned
  exact ⟨before ++ inner, words, outer ++ after, by simp, erom⟩

theorem inspectEromAt_scanned (pointer : U32) :
    (inspectEromAt pointer).Every fun t ret => ret = 0 → Scanned t := by
  have nonzero : enodev ≠ 0 := by decide
  have stops {t : List KernelEvent} (zero : enodev = 0) : Scanned t := absurd zero nonzero
  refine .ite (fun _ => .done stops) fun _ => .call fun _ => ?_
  refine .bind (fun _ _ _ => trivial) fun t₁ held _ => .ite (fun _ => .done stops) fun _ => ?_
  refine .bind (walkErom_words _ _ _ _) fun t₂ walked read => ?_
  split
  · refine .done fun _ => ?_
    obtain ⟨words, cores, rfl, erom, count⟩ := read _ _ rfl
    obtain rfl : cores = 1 := by omega
    exact ⟨⟨.writel .endpoint 0x80 pointer, ()⟩ :: t₁, words, [], by simp, erom⟩
  · exact .done stops

theorem readChip_scanned {o : ModuleOptions} (inspect : o.inspectErom = true) :
    (readChip o).Every fun t ret => ret = 0 → Scanned t := by
  have io : eio ≠ 0 := by decide
  have nonzero : enodev ≠ 0 := by decide
  have stops {t : List KernelEvent} (zero : enodev = 0) : Scanned t := absurd zero nonzero
  refine .bind (fun _ _ _ => trivial) fun t₁ decoding _ => ?_
  refine .ite (fun _ => .done fun zero => absurd zero io) fun _ => .call fun value => ?_
  refine .ite (fun _ => .done stops) fun _ => .call fun pointer => ?_
  refine .ite (fun _ => .done stops) fun _ => .ite (fun skipped => ?_) fun _ => ?_
  · simp [inspect] at skipped
  refine (inspectEromAt_scanned pointer).mono fun t ret scanned zero => ?_
  have within := (scanned zero).within (t₁ ++ [⟨.readl .chip 0, value⟩, ⟨.readl .chip 0xfc, pointer⟩]) []
  rwa [List.append_nil, List.append_assoc] at within

end Erom

section Restore

/-- A passed list of tests made each of them, and each passed. -/
theorem allOf_every {tests : List (Kernel Bool)} :
    (allOf tests).Every fun t passed => passed = true →
      ∀ test ∈ tests, ∃ part, part ⊆ t ∧ test.Runs part true := by
  induction tests with
  | nil => exact .done (by simp)
  | cons test tests ih =>
    have first : test.Every test.Runs := fun _ _ run => run
    refine .bind first fun t passed run => ?_
    refine .ite (fun yes => ih.mono ?_) fun _ => .done (by simp)
    intro u rest later all other member
    obtain same | member := List.mem_cons.mp member
    · subst same
      exact ⟨t, List.subset_append_left t u, yes ▸ run⟩
    · obtain ⟨part, inside, run⟩ := later all other member
      exact ⟨part, fun e taken => List.mem_append_right t (inside taken), run⟩

variable {t part : List KernelEvent} {window : Window} {offset : Nat}

theorem readlIs_read {value : U32} (inside : part ⊆ t)
    (run : (readlIs window offset value).Runs part true) :
    ⟨.readl window offset, value⟩ ∈ t := by
  obtain ⟨r, rest, rfl, rfl, same⟩ := run
  rw [of_decide_eq_true same] at inside
  exact inside (.head _)

theorem readwIs_read {value : U16} (inside : part ⊆ t)
    (run : (readwIs window offset value).Runs part true) :
    ⟨.readw window offset, value⟩ ∈ t := by
  obtain ⟨r, rest, rfl, rfl, same⟩ := run
  rw [of_decide_eq_true same] at inside
  exact inside (.head _)

/-- The tests that read every register of `entry` back. -/
def tests (entry : ChipEntry) : List (Kernel Bool) :=
  [readwIs .endpoint 4 entry.epCommand, readwIs .root 4 entry.rcCommand,
    readlIs .endpoint 0x80 entry.window, readlIs .endpoint 0x14 entry.high,
    readlIs .endpoint 0x10 entry.low, readlIs .root 0x20 entry.mem]

theorem tests_storeless (entry : ChipEntry) :
    (allOf (tests entry)).Makes fun c => stores c = false := by
  have quiet : ∀ test ∈ tests entry, test.Makes fun c => stores c = false := by
    simp only [tests, List.mem_cons, List.not_mem_nil, or_false, forall_eq_or_imp, forall_eq]
    exact ⟨⟨rfl, fun _ => trivial⟩, ⟨rfl, fun _ => trivial⟩, ⟨rfl, fun _ => trivial⟩,
      ⟨rfl, fun _ => trivial⟩, ⟨rfl, fun _ => trivial⟩, ⟨rfl, fun _ => trivial⟩⟩
  exact allOf_makes quiet

theorem tests_readings (entry : ChipEntry) :
    (allOf (tests entry)).Every fun t passed => Storeless t ∧ (passed = true → readings entry ⊆ t) := by
  intro t passed run
  refine ⟨(tests_storeless entry).every t passed run, fun all => ?_⟩
  have parts := allOf_every t passed run all
  simp only [tests, List.mem_cons, List.not_mem_nil, or_false, forall_eq_or_imp, forall_eq] at parts
  obtain ⟨⟨_, in₁, run₁⟩, ⟨_, in₂, run₂⟩, ⟨_, in₃, run₃⟩, ⟨_, in₄, run₄⟩, ⟨_, in₅, run₅⟩,
    ⟨_, in₆, run₆⟩⟩ := parts
  simp only [readings, List.cons_subset, List.nil_subset, and_true]
  exact ⟨readwIs_read in₁ run₁, readwIs_read in₂ run₂, readlIs_read in₃ run₃, readlIs_read in₄ run₄,
    readlIs_read in₅ run₅, readlIs_read in₆ run₆⟩

theorem restoreChip_every (entry : ChipEntry) (ret : Int) :
    (restoreChip entry ret).Every fun t ret' => ∃ checks, t = rewrites entry ++ checks ∧
      Storeless checks ∧ (ret' = 0 → ret = 0 ∧ readings entry ⊆ checks) := by
  have nonzero : eio ≠ 0 := by decide
  refine .call fun _ => .call fun _ => .call fun _ => .call fun _ => .call fun _ =>
    .call fun _ => ?_
  refine .bind (tests_readings entry) fun t same ⟨quiet, all⟩ => .done ?_
  refine ⟨t, by simp [rewrites], quiet, fun zero => ?_⟩
  cases same with
  | true => exact ⟨zero, all rfl⟩
  | false => exact absurd zero nonzero

theorem useChip_every (o : ModuleOptions) (entry : ChipEntry) :
    (useChip o entry).Every fun t ret =>
      (∃ used checks, t = used ++ rewrites entry ++ checks ∧ Storeless checks ∧
        (ret = 0 → readings entry ⊆ checks)) ∧
      (o.inspectErom = true → ret = 0 → Scanned t) := by
  have unmapped (sized : Bool) : (if sized then enomem else eio) ≠ 0 := by cases sized <;> decide
  refine .bind (fun _ _ _ => trivial) fun t₁ sized _ =>
    .bind (fun _ _ _ => trivial) fun t₂ mapped _ => ?_
  have read : (onlyIf mapped (if sized then enomem else eio) (readChip o)).Every fun t ret =>
      o.inspectErom = true → ret = 0 → Scanned t := by
    cases mapped with
    | true => exact fun t ret run inspect zero => readChip_scanned inspect t ret run zero
    | false => exact .done fun _ zero => absurd zero (unmapped sized)
  refine .bind read fun t₃ ret scanned => .bind (restoreChip_every entry ret) ?_
  rintro _ ret' ⟨checks, rfl, quiet, verified⟩
  have unmap : (onlyIf mapped () (query (.iounmap 0x7c0000000))).Makes fun c => stores c = false :=
    onlyIf_makes ⟨rfl, fun _ => trivial⟩
  refine .bind unmap.every fun t₄ _ last =>
    .done ⟨⟨t₁ ++ t₂ ++ t₃, checks ++ t₄, by simp, ?_, ?_⟩, ?_⟩
  · exact (storeless_append _ _).mpr ⟨quiet, last⟩
  · exact fun zero => fun e member => List.mem_append_left t₄ ((verified zero).2 member)
  · intro inspect zero
    have within := (scanned inspect (verified zero).1).within (t₁ ++ t₂)
      (rewrites entry ++ checks ++ t₄)
    simpa using within

end Restore

section Snapshot

theorem storeless_false {t : List KernelEvent} {result : Prop} (quiet : Storeless t)
    (stored : ∃ e ∈ t, stores e.1 = true) : result := by
  obtain ⟨e, member, stores⟩ := stored
  rw [quiet e member] at stores
  cases stores

/-- What was read before the endpoint is used. -/
def entryReads (entry : ChipEntry) : List KernelEvent :=
  [⟨.readl .endpoint 0x10, entry.low⟩, ⟨.readl .endpoint 0x14, entry.high⟩,
    ⟨.readl .endpoint 0x80, entry.window⟩, ⟨.readl .root 0x20, entry.mem⟩,
    ⟨.readw .root 4, entry.rcCommand⟩, ⟨.readw .endpoint 4, entry.epCommand⟩]

theorem readings_entryReads (entry : ChipEntry) : readings entry ⊆ entryReads entry := by
  intro e member
  simp only [readings, entryReads, List.mem_cons] at member ⊢
  tauto

theorem snapshotChip_every (o : ModuleOptions) :
    (snapshotChip o).Every fun t ret =>
      ((∃ e ∈ t, stores e.1 = true) → ∃ entry found used checks, Rewritten t ret entry found used checks) ∧
      (o.inspectErom = true → ret = 0 → Scanned t) := by
  have busy : ebusy ≠ 0 := by decide
  refine .call fun owned => .ite (fun _ => .done ⟨fun stored => absurd stored ?_, fun _ zero =>
    absurd zero busy⟩) fun _ => ?_
  · simp [stores, storeOf]
  refine .call fun low => .call fun high => .call fun chip => .call fun mem =>
    .call fun rcCommand =>
    .call fun epCommand => ?_
  have quiet : (allOf [readlIs .endpoint 0 0x43a314e4, readlIs .endpoint 8 0x02800008,
      pure (low = 4 ∧ high = 0 ∧ chip = 0x18003000 ∧ mem = 0 ∧ rcCommand = 0 ∧ epCommand = 0)]).Makes
      fun c => stores c = false := by
    apply allOf_makes
    simp only [List.mem_cons, List.not_mem_nil, or_false, forall_eq_or_imp, forall_eq]
    exact ⟨⟨rfl, fun _ => trivial⟩, ⟨rfl, fun _ => trivial⟩, trivial⟩
  refine .bind quiet.every fun t₁ known still => ?_
  replace still : Storeless t₁ := still
  cases known with
  | false =>
    have skipped : (onlyIf false ebusy
        (useChip o ⟨low, high, chip, mem, rcCommand, epCommand⟩)).Every fun t ret =>
          t = [] ∧ ret = ebusy := .done ⟨rfl, rfl⟩
    refine .bind skipped ?_
    rintro _ _ ⟨rfl, rfl⟩
    refine .call fun _ => .done ⟨fun stored => ?_, fun _ zero => absurd zero busy⟩
    refine storeless_false ?_ stored
    simpa [stores, storeOf] using still
  | true =>
    refine .bind (useChip_every o ⟨low, high, chip, mem, rcCommand, epCommand⟩) ?_
    rintro t₂ ret ⟨⟨used, checks, rfl, behind, verified⟩, scanned⟩
    refine .call fun _ => .done ⟨fun _ => ?_, fun inspect zero => ?_⟩
    · refine ⟨⟨low, high, chip, mem, rcCommand, epCommand⟩,
        ⟨.requestMemRegion 0x7c0000000, owned⟩ ::
          entryReads ⟨low, high, chip, mem, rcCommand, epCommand⟩ ++ t₁, used,
        checks ++ [⟨.releaseMemRegion 0x7c0000000, ()⟩], ?_, ?_, ?_, ?_, ?_⟩
      · simp [entryReads]
      · simpa [entryReads, stores, storeOf] using still
      · exact fun e member =>
          List.mem_cons_of_mem _ (List.mem_append_left t₁ (readings_entryReads _ member))
      · simpa [stores, storeOf] using behind
      · exact fun zero e member => List.mem_append_left _ (verified zero member)
    · have within := (scanned inspect zero).within (⟨.requestMemRegion 0x7c0000000, owned⟩ ::
        entryReads ⟨low, high, chip, mem, rcCommand, epCommand⟩ ++ t₁) [⟨.releaseMemRegion 0x7c0000000, ()⟩]
      simpa [entryReads] using within

section Bounded

theorem readlIs_bounded {window : Window} (apart : window ≠ .chip) (offset : Nat) (value : U32) :
    (readlIs window offset value).Makes fun c => bounded c = true := by
  refine ⟨?_, fun _ => trivial⟩
  cases window <;> first | rfl | exact absurd rfl apart

theorem readwIs_bounded (window : Window) (offset : Nat) (value : U16) :
    (readwIs window offset value).Makes fun c => bounded c = true := ⟨rfl, fun _ => trivial⟩

theorem readl_chip_bounded {offset : Nat} (below : offset < 0x1000) :
    bounded (.readl .chip offset) = true := by
  simp [bounded, routes, storeOf, below]

theorem command_bounded (window : Window) : bounded (.writew window 4 0) = true := by
  cases window <;> decide

theorem walkErom_bounded (offset components pcie fuel : Nat) :
    (walkErom offset components pcie fuel).Makes fun c => bounded c = true := by
  induction fuel generalizing offset components pcie with
  | zero => trivial
  | succ fuel ih =>
    refine .ite (fun _ => trivial) fun inside =>
      .call (readl_chip_bounded (Nat.not_le.mp inside)) fun first => ?_
    refine .ite (fun _ => trivial) fun _ => .ite (fun _ => trivial) fun _ =>
      .ite (fun _ => ih _ _ _) fun _ => ?_
    refine .ite (fun _ => trivial) fun inside =>
      .call (readl_chip_bounded (Nat.not_le.mp inside)) fun second => ?_
    exact .ite (fun _ => trivial) fun _ => ih _ _ _

theorem inspectEromAt_bounded (pointer : U32) :
    (inspectEromAt pointer).Makes fun c => bounded c = true := by
  refine Makes.ite (fun _ => trivial) fun _ => Makes.call rfl fun _ => ?_
  refine Makes.bind (readlIs_bounded (by decide) _ _) fun held =>
    Makes.ite (fun _ => trivial) fun _ => ?_
  refine Makes.bind (walkErom_bounded _ _ _ _) fun walked => ?_
  split <;> trivial

theorem sizeChipBar_bounded (entry : ChipEntry) :
    (sizeChipBar entry).Makes fun c => bounded c = true := by
  refine Makes.call rfl fun _ => Makes.call rfl fun _ => Makes.call rfl fun _ => ?_
  refine Makes.call rfl fun _ => Makes.call rfl fun _ => Makes.call rfl fun _ => allOf_makes ?_
  simp only [List.mem_cons, List.not_mem_nil, or_false, forall_eq_or_imp, forall_eq]
  exact ⟨readlIs_bounded (by decide) _ _, readlIs_bounded (by decide) _ _, trivial⟩

theorem readChip_bounded (o : ModuleOptions) : (readChip o).Makes fun c => bounded c = true := by
  refine Makes.bind (allOf_makes ?_) fun decoding => Makes.ite (fun _ => trivial) fun _ => ?_
  · simp only [List.mem_cons, List.not_mem_nil, or_false, forall_eq_or_imp, forall_eq]
    exact ⟨⟨rfl, fun _ => ⟨rfl, fun _ => trivial⟩⟩, ⟨rfl, fun _ => ⟨rfl, fun _ => trivial⟩⟩,
      ⟨rfl, fun _ => ⟨rfl, fun _ => trivial⟩⟩, ⟨rfl, fun _ => ⟨rfl, fun _ => trivial⟩⟩,
      ⟨rfl, fun _ => ⟨rfl, fun _ => trivial⟩⟩⟩
  refine Makes.call (readl_chip_bounded (by decide)) fun _ =>
    Makes.ite (fun _ => trivial) fun _ => ?_
  refine Makes.call (readl_chip_bounded (by decide)) fun _ =>
    Makes.ite (fun _ => trivial) fun _ => ?_
  exact Makes.ite (fun _ => trivial) fun _ => inspectEromAt_bounded _

/-- The entry's commands are those of devices that are not bus masters. -/
theorem useChip_bounded (o : ModuleOptions) (low high chip mem : U32) :
    (useChip o ⟨low, high, chip, mem, 0, 0⟩).Makes fun c => bounded c = true := by
  have restored (ret : Int) : (restoreChip ⟨low, high, chip, mem, 0, 0⟩ ret).Makes
      fun c => bounded c = true := by
    refine Makes.call (command_bounded _) fun _ => Makes.call (command_bounded _) fun _ => ?_
    refine Makes.call rfl fun _ => Makes.call rfl fun _ => Makes.call rfl fun _ =>
      Makes.call rfl fun _ => ?_
    refine Makes.bind (allOf_makes ?_) fun same => trivial
    simp only [List.mem_cons, List.not_mem_nil, or_false, forall_eq_or_imp, forall_eq]
    exact ⟨readwIs_bounded _ _ _, readwIs_bounded _ _ _, readlIs_bounded (by decide) _ _,
      readlIs_bounded (by decide) _ _, readlIs_bounded (by decide) _ _, readlIs_bounded (by decide) _ _⟩
  refine Makes.bind (sizeChipBar_bounded _) fun sized => ?_
  refine Makes.bind (onlyIf_makes ⟨rfl, fun _ => trivial⟩) fun mapped => ?_
  refine Makes.bind (onlyIf_makes (readChip_bounded o)) fun ret =>
    Makes.bind (restored ret) fun ret => ?_
  exact Makes.bind (onlyIf_makes ⟨rfl, fun _ => trivial⟩) fun _ => trivial

theorem snapshotChip_bounded (o : ModuleOptions) :
    (snapshotChip o).Makes fun c => bounded c = true := by
  refine Makes.call rfl fun owned => Makes.ite (fun _ => trivial) fun _ => ?_
  refine Makes.call rfl fun low => Makes.call rfl fun high => Makes.call rfl fun chip => ?_
  refine Makes.call rfl fun mem => Makes.call rfl fun rcCommand =>
    Makes.call rfl fun epCommand => ?_
  have known : (allOf [readlIs .endpoint 0 0x43a314e4, readlIs .endpoint 8 0x02800008,
      pure (low = 4 ∧ high = 0 ∧ chip = 0x18003000 ∧ mem = 0 ∧ rcCommand = 0 ∧ epCommand = 0)]).Yields
      (fun c => bounded c = true) fun known => known = true → rcCommand = 0 ∧ epCommand = 0 := by
    refine ⟨rfl, fun _ => yields_ite.mpr ⟨fun _ => ⟨rfl, fun _ => yields_ite.mpr ⟨fun _ => ?_, fun _ no => absurd no Bool.false_ne_true⟩⟩,
      fun _ no => absurd no Bool.false_ne_true⟩⟩
    refine yields_ite.mpr ⟨fun all _ => ?_, fun _ no => absurd no Bool.false_ne_true⟩
    exact (of_decide_eq_true all).2.2.2.2
  refine Yields.bind known fun known zero => ?_
  refine Makes.bind ?_ fun ret => Makes.call rfl fun _ => trivial
  cases known with
  | false => trivial
  | true =>
    obtain ⟨rfl, rfl⟩ := zero rfl
    exact useChip_bounded o low high chip mem

end Bounded

theorem snapshotChip_identified (o : ModuleOptions) : (snapshotChip o).Every (Identified o) := by
  intro t ret run
  obtain ⟨rewritten, scanned⟩ := snapshotChip_every o t ret run
  exact ⟨rewritten, (snapshotChip_bounded o).every t ret run, scanned⟩

end Snapshot

section Endpoint

/-- Outside the scan the bus numbers are left alone. -/
def Unrouted (scan : Kernel Int) (t : List KernelEvent) : Prop :=
  ∃ before during after called, t = before ++ during ++ after ∧ scan.Called called during ∧
    (∀ e ∈ before, routes e.1 = false) ∧ ∀ e ∈ after, routes e.1 = false

/-- The last stores give the bus numbers back as they were first read, and they read back so. -/
def RoutedBack (t : List KernelEvent) : Prop :=
  ∃ found buses used tail, t = found ++ ⟨.readl .root pciPrimaryBus, buses⟩ :: used ++
      [⟨.writel .root pciPrimaryBus buses, ()⟩, ⟨.readl .root pciPrimaryBus, buses⟩] ++ tail ∧
    Storeless found ∧ Storeless tail

variable {scan : Kernel Int} {t : List KernelEvent}

theorem Unrouted.within (inner : Unrouted scan t) {before after : List KernelEvent}
    (first : ∀ e ∈ before, routes e.1 = false) (last : ∀ e ∈ after, routes e.1 = false) :
    Unrouted scan (before ++ t ++ after) := by
  obtain ⟨ahead, during, behind, called, rfl, calls, front, back⟩ := inner
  refine ⟨before ++ ahead, during, behind ++ after, called, by simp, calls, ?_, ?_⟩
  · exact List.forall_mem_append.mpr ⟨first, front⟩
  · exact List.forall_mem_append.mpr ⟨back, last⟩

theorem unrouted_of_quiet (quiet : ∀ e ∈ t, routes e.1 = false) : Unrouted scan t :=
  ⟨t, [], [], none, by simp, rfl, quiet, by simp⟩

theorem not_routes_of_storeless (quiet : Storeless t) : ∀ e ∈ t, routes e.1 = false := by
  intro ⟨c, r⟩ member
  have still := quiet _ member
  cases c <;> first | rfl | cases still

theorem not_routes_of_bounded {c : Call} (inside : bounded c = true) : routes c = false := by
  unfold bounded at inside
  simp only [Bool.and_eq_true, Bool.not_eq_true'] at inside
  exact inside.1.1

abbrev Still {α : Type} (p : Kernel α) : Prop := p.Makes fun c => stores c = false

theorem Still.storeless {α : Type} {p : Kernel α} (still : Still p) :
    p.Every fun t _ => Storeless t := still.every

theorem readOffsets_still (window : Window) (offsets : List Nat) :
    Still (PciePhy.readOffsets window offsets) := by
  induction offsets with
  | nil => trivial
  | cons offset offsets ih => exact Makes.call rfl fun _ => Makes.ite (fun _ => trivial) fun _ => ih

theorem checkEndpoint_still : Still checkEndpoint := by
  refine Makes.call rfl fun _ => Makes.ite (fun _ => trivial) fun _ => ?_
  refine Makes.call rfl fun _ => Makes.ite (fun _ => trivial) fun _ => ?_
  refine Makes.call rfl fun _ => Makes.ite (fun _ => trivial) fun _ => ?_
  refine Makes.call rfl fun _ => Makes.ite (fun _ => trivial) fun _ => ?_
  refine Makes.bind (readOffsets_still _ _) fun ret => Makes.ite (fun _ => trivial) fun _ => ?_
  exact Makes.call rfl fun _ => Makes.call rfl fun _ => trivial

variable (o : ModuleOptions) (parents : ScanParents)

theorem observeEndpoint_unrouted :
    (observeEndpoint o parents).Every fun t _ => Unrouted (pciScan (scanOptions o parents)) t := by
  have chip (ret : Int) : (andThen ret (onlyIf o.identifyChip 0 (snapshotChip o))).Makes
      fun c => bounded c = true := andThen_makes (onlyIf_makes (snapshotChip_bounded o))
  refine .bind checkEndpoint_still.storeless fun t₁ ret still => ?_
  refine .bind (chip ret).every fun t₂ ret inside => ?_
  have first : ∀ e ∈ t₁ ++ t₂, routes e.1 = false :=
    List.forall_mem_append.mpr ⟨not_routes_of_storeless still, fun e member =>
      not_routes_of_bounded (inside e member)⟩
  have stops : Unrouted (pciScan (scanOptions o parents)) (t₁ ++ (t₂ ++ [])) :=
    unrouted_of_quiet (by simpa using first)
  refine .ite (fun _ => .ite (fun _ => ?_) fun _ => .done stops) fun _ => .done stops
  intro t₃ ret run
  exact ⟨t₁ ++ t₂, t₃, [], some ret, by simp, run, first, by simp⟩

theorem holdBusNumbers_restored (buses : U32) (observe : Kernel Int) :
    (holdBusNumbers buses observe).Every fun t ret => ret = 0 → ∃ used tail,
      t = used ++ [⟨.writel .root pciPrimaryBus buses, ()⟩, ⟨.readl .root pciPrimaryBus, buses⟩] ++ tail ∧
        Storeless tail := by
  have nonzero : eio ≠ 0 := by decide
  refine .call fun _ => .call fun _ => .bind (fun _ _ _ => trivial) fun t₁ held _ => ?_
  refine .bind (fun _ _ _ => trivial) fun t₂ ret _ => .call fun _ => .call fun accessible => ?_
  have restored : (onlyIf (accessible ≠ allOnes) eio do
      query (.writel .root 0x18 buses)
      let same ← readlIs .root 0x18 buses
      return if same then ret else eio).Every fun t ret' => ret' = 0 →
        t = [⟨.writel .root pciPrimaryBus buses, ()⟩, ⟨.readl .root pciPrimaryBus, buses⟩] := by
    refine .ite (fun _ => ?_) fun _ => .done fun zero => absurd zero nonzero
    refine .call fun _ => .call fun value => .done fun zero => ?_
    by_cases same : value = buses
    · rw [same]
    · simp [same, nonzero] at zero
  refine .bind restored fun t₃ ret back => .call fun _ => .done fun zero => ?_
  refine ⟨⟨.acquire .busNumbers, ()⟩ ::
    ⟨.writel .root 0x18 (buses &&& 0xff000000 ||| 0x010100), ()⟩ :: (t₁ ++ t₂ ++
      [⟨.teardown .busNumbers, ()⟩, ⟨.readl .root 0x18, accessible⟩]),
    [⟨.release .busNumbers, ()⟩], ?_, by simp [stores, storeOf]⟩
  simp [back zero]

/-- What the routed endpoint owes for a result of 0. -/
abbrev Routed (t : List KernelEvent) (ret : Int) : Prop :=
  ret = 0 → Unrouted (pciScan (scanOptions o parents)) t ∨ RoutedBack t

theorem Routed.within {o : ModuleOptions} {parents : ScanParents} {ret : Int}
    (inner : Routed o parents t ret) {before after : List KernelEvent} (first : Storeless before)
    (last : Storeless after) : Routed o parents (before ++ t ++ after) ret := by
  intro zero
  obtain unrouted | ⟨found, buses, used, tail, rfl, quiet, behind⟩ := inner zero
  · exact .inl (unrouted.within (not_routes_of_storeless first) (not_routes_of_storeless last))
  · exact .inr ⟨before ++ found, buses, used, tail ++ after, by simp,
      (storeless_append _ _).mpr ⟨first, quiet⟩, (storeless_append _ _).mpr ⟨behind, last⟩⟩

theorem routeEndpoint_routed : (routeEndpoint o parents).Every (Routed o parents) := by
  have nonzero : enodev ≠ 0 := by decide
  have stops {t : List KernelEvent} : Routed o parents t enodev := fun zero => absurd zero nonzero
  have known : Still (allOf [readlIs .root 0 0x1002106b, readlIs .root 8 0x06040001]) := by
    apply allOf_makes
    simp only [List.mem_cons, List.not_mem_nil, or_false, forall_eq_or_imp, forall_eq]
    exact ⟨⟨rfl, fun _ => trivial⟩, ⟨rfl, fun _ => trivial⟩⟩
  refine .bind known.storeless fun t₁ passed still => .ite (fun _ => .done stops) fun _ => ?_
  refine .call fun buses => .ite (fun _ => .done stops) fun _ => .ite (fun _ => ?_) fun _ => ?_
  · refine (holdBusNumbers_restored buses _).mono fun t ret back zero => ?_
    obtain ⟨used, tail, rfl, quiet⟩ := back zero
    exact .inr ⟨t₁, buses, used, tail, by simp [pciPrimaryBus], still, quiet⟩
  · refine (observeEndpoint_unrouted o parents).mono fun t ret unrouted => ?_
    have ahead : Storeless (t₁ ++ [⟨.readl .root 0x18, buses⟩]) := by simpa [stores, storeOf] using still
    have inner : Routed o parents t ret := fun _ => .inl unrouted
    have outer := inner.within ahead storeless_nil
    rwa [List.append_nil, List.append_assoc] at outer

theorem snapshotEndpoint_routed : (snapshotEndpoint o parents).Every (Routed o parents) := by
  have busy : ebusy ≠ 0 := by decide
  have nomem : enomem ≠ 0 := by decide
  have unmap (needed : Bool) (start : Nat) : Still (onlyIf needed () (query (.iounmap start))) :=
    onlyIf_makes ⟨rfl, fun _ => trivial⟩
  refine .call fun got => .ite (fun _ => .done fun zero => absurd zero busy) fun _ =>
    .call fun owned => ?_
  have mapped : (onlyIf owned ebusy do
      let rc ← query (.ioremap 0x610008000)
      let ep ← query (.ioremap 0x610100000)
      let ret ← onlyIf (rc && ep) enomem (routeEndpoint o parents)
      onlyIf ep () (query (.iounmap 0x610100000))
      onlyIf rc () (query (.iounmap 0x610008000))
      query (.releaseMemRegion 0x610100000)
      return ret).Every (Routed o parents) := by
    refine .ite (fun _ => ?_) fun _ => .done fun zero => absurd zero busy
    refine .call fun rc => .call fun ep => ?_
    have routed : (onlyIf (rc && ep) enomem (routeEndpoint o parents)).Every (Routed o parents) :=
      .ite (fun _ => routeEndpoint_routed o parents) fun _ => .done fun zero => absurd zero nomem
    refine .bind routed fun t₁ ret done => .bind (unmap _ _).storeless fun t₂ _ second => ?_
    refine .bind (unmap _ _).storeless fun t₃ _ third => .call fun _ => .done ?_
    have ahead : Storeless [⟨.ioremap 0x610008000, rc⟩, ⟨.ioremap 0x610100000, ep⟩] := by
      simp [stores, storeOf]
    have behind : Storeless (t₂ ++ (t₃ ++ [⟨.releaseMemRegion 0x610100000, ()⟩])) := by
      simpa [stores, storeOf] using ⟨second, third⟩
    simpa using done.within ahead behind
  refine .bind mapped fun t ret done => .call fun _ => .done ?_
  have ahead : Storeless [⟨.requestMemRegion 0x610008000, got⟩, ⟨.requestMemRegion 0x610100000, owned⟩] := by
    simp [stores, storeOf]
  have behind : Storeless [⟨.releaseMemRegion 0x610008000, ()⟩] := by simp [stores, storeOf]
  simpa using done.within ahead behind

/-- Both identifications, in every run and whatever is read. -/
theorem identification_rolled_back :
    (snapshotChip o).Every (Identified o) ∧
      (snapshotEndpoint o parents).Every (Routed o parents) :=
  ⟨snapshotChip_identified o, snapshotEndpoint_routed o parents⟩

/-- An endpoint with the 32 KiB aperture, a chip behind it, and a table with its PCIe2 core. -/
def chipBoard (past : List KernelEvent) : (c : Call) → Answer c
  | .requestMemRegion _ | .ioremap _ => true
  | .readl .root offset =>
    (ProbeLifetimes.lastStore past .root offset 4).getD
      (([(0, 0x1002106b), (8, 0x06040001)].lookup offset).getD 0)
  | .readl .endpoint offset =>
    let stored := (ProbeLifetimes.lastStore past .endpoint offset 4).getD
      (([(0, 0x43a314e4), (8, 0x02800008), (0x10, 4), (0x80, 0x18003000)].lookup offset).getD 0)
    if offset = 0x10 then stored &&& 0xffff8000 ||| 4 else stored
  | .readw window offset => ((ProbeLifetimes.lastStore past window offset 2).getD 0).setWidth 16
  | .readl .chip offset =>
    if ProbeLifetimes.lastStore past .endpoint 0x80 4 = some 0x1810d000 then
      [0, 0x4bf83c01, 0x13080001].getD (offset / 4) 0xf
    else if offset = 0xfc then 0x1810d000 else 0x84350
  | _ => default

def chipOptions : ModuleOptions :=
  { ProbeLifetimes.firmwareOptions with identifyChip := true, inspectErom := true, scanPci := false }

def chipRun : List KernelEvent × Int := Prog.exec chipBoard [] (snapshotChip chipOptions)

def endpointRun : List KernelEvent × Int :=
  Prog.exec chipBoard [] (snapshotEndpoint chipOptions ⟨false, false⟩)

theorem identification_rolled_back_on_board :
    (chipRun.2 = 0 ∧ Identified chipOptions chipRun.1 chipRun.2) ∧
      endpointRun.2 = 0 ∧ Routed chipOptions ⟨false, false⟩ endpointRun.1 endpointRun.2 := by
  obtain ⟨chip, endpoint⟩ := identification_rolled_back chipOptions ⟨false, false⟩
  exact ⟨⟨by decide +kernel, chip _ _ (Prog.exec_runs chipBoard _)⟩, by decide +kernel,
    endpoint _ _ (Prog.exec_runs chipBoard _)⟩

end Endpoint

end WinBoot.ChipRollback
