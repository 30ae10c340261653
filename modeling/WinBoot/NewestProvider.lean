import WinBoot.AlpineVersion
import WinBoot.ResolverRuns

/-! Which provider of an atom is selected: one whose version comes last as a text, and that order is
not the order of the versions. -/

namespace WinBoot.NewestProvider
open AlpineVersion Checks PackageResolver ResolverRuns

section Select

variable {notAfter : Text → Text → Bool} (fold : Text → Text) (index : List Package) (atom : Text)

def Provider (p : Package) : Prop :=
  p ∈ index ∧ ∃ provided ∈ p.provides, fold (stripConstraint provided) = fold (stripConstraint atom)

/-- An atom to resolve that has providers only: no package is named after it. -/
structure Virtual : Prop where
  loads : ∃ tables, indexTables fold index = .ok tables
  accepted : ∃ name, getA1625DependencyName atom = .ok name
  resolved : isConflict atom = false ∧ isBase fold atom = false
  unconstrained : hasConstraint atom = false
  unnamed : ∀ p ∈ index, fold p.name ≠ fold (stripConstraint atom)
  provided : ∃ p, Provider fold index atom p

/-- Of those who provide the atom, none is newer. -/
def Newest (c : Package) : Prop :=
  Provider fold index atom c ∧ ∀ q, Provider fold index atom q → ¬ Newer q.version c.version

/-- No provider's version comes later as a text. -/
def LastText (notAfter : Text → Text → Bool) (p : Package) : Prop :=
  Provider fold index atom p ∧ ∀ q, Provider fold index atom q → notAfter q.version p.version = true

variable {fold index atom} {tables : Tables} {sort : List Package → List Package} {c : Package}

theorem candidate_first {name : Text} (accepted : getA1625DependencyName atom = .ok name)
    (unconstrained : hasConstraint atom = false)
    (unnamed : tables.byName (fold (stripConstraint atom)) = none)
    (first : (sort (tables.providers (fold (stripConstraint atom)))).head? = some c) :
    candidate fold sort tables atom = .ok c := by
  obtain rfl := dependencyName_ok accepted
  refine bind_ok.mpr ⟨_, accepted, ?_⟩
  rw [unnamed]
  simp only [providerArray_packages, providerArray_isEmpty, unconstrained, first,
    Bool.false_eq_true, if_false]
  rfl

theorem Virtual.unlisted (virtual : Virtual fold index atom) (lists : Lists fold index tables) :
    tables.byName (fold (stripConstraint atom)) = none := by
  cases named : tables.byName (fold (stripConstraint atom)) with
  | none => rfl
  | some p =>
    obtain ⟨member, same⟩ := lists.named _ p named
    exact absurd same (virtual.unnamed p member)

/-- Whatever the sorting, the selected package is a provider whose version no other comes after. -/
theorem Virtual.selected (virtual : Virtual fold index atom) (sorting : Sorting notAfter)
    (total : ∀ a b, notAfter a b = true ∨ notAfter b a = true) :
    ∃ c, selected fold sorting.sort index atom = .ok c ∧ LastText fold index atom notAfter c := by
  obtain ⟨tables, indexed⟩ := virtual.loads
  obtain ⟨name, accepted⟩ := virtual.accepted
  have lists := indexTables_lists indexed
  obtain ⟨p, provides⟩ := virtual.provided
  have members (q : Package) : q ∈ sorting.sort (tables.providers (fold (stripConstraint atom))) ↔
      Provider fold index atom q := by
    rw [(sorting.perm _).mem_iff]
    exact lists.provided _ q
  have sorted := sorting.sorted (tables.providers (fold (stripConstraint atom)))
  cases ordered : sorting.sort (tables.providers (fold (stripConstraint atom))) with
  | nil =>
    have member := (members p).mpr provides
    rw [ordered] at member
    cases member
  | cons c rest =>
    rw [ordered] at sorted members
    refine ⟨c, ?_, (members c).mp List.mem_cons_self, fun q other => ?_⟩
    · have chosen := candidate_first accepted virtual.unconstrained (virtual.unlisted lists)
        (ordered ▸ rfl : (sorting.sort (tables.providers (fold (stripConstraint atom)))).head? = some c)
      exact bind_ok.mpr ⟨tables, indexed, chosen⟩
    · obtain rfl | later := List.mem_cons.mp ((members q).mpr other)
      · exact or_self_iff.mp (total q.version q.version)
      · exact (List.pairwise_cons.mp sorted).1 q later

/-- Versions whose texts come level may be left in any order, so any of the last may be the first. -/
def putFirst (sorting : Sorting notAfter) (p : Package) : Sorting notAfter where
  sort packages :=
    if p ∈ packages ∧ ∀ q ∈ packages, notAfter q.version p.version = true then
      p :: sorting.sort (packages.erase p)
    else sorting.sort packages
  perm packages := by
    split
    · next last => exact ((sorting.perm _).cons p).trans (List.perm_cons_erase last.1).symm
    · exact sorting.perm packages
  sorted packages := by
    split
    · next last =>
      refine List.pairwise_cons.mpr ⟨fun q other => ?_, sorting.sorted _⟩
      exact last.2 q (List.mem_of_mem_erase ((sorting.perm _).mem_iff.mp other))
    · exact sorting.sorted packages

theorem Virtual.selected_first (virtual : Virtual fold index atom) (sorting : Sorting notAfter)
    (last : LastText fold index atom notAfter c) :
    ResolverRuns.selected fold (putFirst sorting c).sort index atom = .ok c := by
  obtain ⟨tables, indexed⟩ := virtual.loads
  obtain ⟨name, accepted⟩ := virtual.accepted
  have lists := indexTables_lists indexed
  have first : (putFirst sorting c).sort (tables.providers (fold (stripConstraint atom))) =
      c :: sorting.sort ((tables.providers (fold (stripConstraint atom))).erase c) := by
    refine if_pos ⟨(lists.provided _ c).mpr last.1, fun q other => last.2 q ?_⟩
    exact (lists.provided _ q).mp other
  refine bind_ok.mpr ⟨tables, indexed, ?_⟩
  exact candidate_first accepted virtual.unconstrained (virtual.unlisted lists) (first ▸ rfl)

/-- The newest provider is selected whatever the sorting does just where the providers that come
last as texts are the newest. -/
theorem selects_newest_iff (virtual : Virtual fold index atom)
    (total : ∀ a b, notAfter a b = true ∨ notAfter b a = true)
    (trans : ∀ a b c, notAfter a b = true → notAfter b c = true → notAfter a c = true) :
    (∀ sorting : Sorting notAfter, ∃ c, ResolverRuns.selected fold sorting.sort index atom = .ok c ∧
        Newest fold index atom c) ↔
      ∀ p, LastText fold index atom notAfter p → Newest fold index atom p := by
  constructor
  · intro selects p last
    obtain ⟨c, chosen, newest⟩ := selects (putFirst (insertionSorting total trans) p)
    rw [virtual.selected_first _ last] at chosen
    obtain rfl := Except.ok.inj chosen
    exact newest
  · intro agrees sorting
    obtain ⟨c, chosen, last⟩ := virtual.selected sorting total
    exact ⟨c, chosen, agrees c last⟩

end Select

section Indexes

instance (fold : Text → Text) (index : List Package) (atom : Text) (p : Package) :
    Decidable (Provider fold index atom p) := inferInstanceAs (Decidable (_ ∧ _))

def libx : Text := "so:libx.so.1".toList

def git : Package := ⟨"git".toList, "1".toList, [libx], []⟩

/-- Two packages that provide one library. -/
def providers (version version' : String) : List Package :=
  [⟨"one".toList, version.toList, [], ["so:libx.so.1=1".toList]⟩,
    ⟨"two".toList, version'.toList, [], ["so:libx.so.1=2".toList]⟩]

def testIndex : List Package := providers "1" "2" ++ [git]

theorem testIndex_virtual : Virtual lowerCase testIndex libx where
  loads := exists_ok (by decide +kernel)
  accepted := exists_ok (by decide +kernel)
  resolved := by decide +kernel
  unconstrained := by decide +kernel
  unnamed := by decide +kernel
  provided := ⟨_, List.mem_cons_self, by decide +kernel⟩

/-- The versions 1 and 2 of the resolver's own test are in order as texts too. -/
theorem testIndex_selects_newest :
    resolveA1625AlpinePackages lowerCase textSorting.sort testIndex ["git".toList] =
        .ok [⟨"two".toList, "2".toList, [], ["so:libx.so.1=2".toList]⟩, git] ∧
      ∀ sorting : Sorting inTextOrder, ∃ c, selected lowerCase sorting.sort testIndex libx = .ok c ∧
        Newest lowerCase testIndex libx c := by
  have agrees : ∀ p ∈ testIndex, (∀ q ∈ testIndex, Provider lowerCase testIndex libx q →
      inTextOrder q.version p.version = true) → ∀ q ∈ testIndex, Provider lowerCase testIndex libx q →
        ¬ Newer q.version p.version := by
    decide +kernel
  refine ⟨by decide +kernel, ?_⟩
  refine (selects_newest_iff testIndex_virtual inTextOrder_total inTextOrder_trans).mpr
    (fun p last => ⟨last.1, fun q provides => ?_⟩)
  exact agrees p last.1.1 (fun q _ other => last.2 q other) q provides.1 provides

def historicalIndex : List Package := providers "1.9-r0" "1.10-r0" ++ [git]

theorem historicalIndex_virtual : Virtual lowerCase historicalIndex libx where
  loads := exists_ok (by decide +kernel)
  accepted := exists_ok (by decide +kernel)
  resolved := by decide +kernel
  unconstrained := by decide +kernel
  unnamed := by decide +kernel
  provided := ⟨_, List.mem_cons_self, by decide +kernel⟩

/-- Of the versions 1.9 and 1.10, the older is selected. -/
theorem historicalIndex_selects_older :
    Virtual lowerCase historicalIndex libx ∧
      resolveA1625AlpinePackages lowerCase textSorting.sort historicalIndex ["git".toList] =
        .ok [⟨"one".toList, "1.9-r0".toList, [], ["so:libx.so.1=1".toList]⟩, git] ∧
      ¬ ∃ c, selected lowerCase textSorting.sort historicalIndex libx = .ok c ∧
        Newest lowerCase historicalIndex libx c := by
  refine ⟨historicalIndex_virtual, by decide +kernel, ?_⟩
  rintro ⟨c, chosen, newest⟩
  have older : selected lowerCase textSorting.sort historicalIndex libx =
      .ok ⟨"one".toList, "1.9-r0".toList, [], ["so:libx.so.1=1".toList]⟩ := by
    decide +kernel
  rw [older] at chosen
  obtain rfl := Except.ok.inj chosen
  refine newest.2 ⟨"two".toList, "1.10-r0".toList, [], ["so:libx.so.1=2".toList]⟩ ?_ ?_
  · decide +kernel
  · decide +kernel

end Indexes

end WinBoot.NewestProvider
