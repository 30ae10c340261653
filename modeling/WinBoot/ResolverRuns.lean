import Mathlib.Data.List.Sort
import WinBoot.PackageResolver

/-! What a package resolution that returns has chosen: a closed set of the index, each package once
and behind its dependencies, whatever the index looks like. -/

namespace WinBoot.ResolverRuns
open Checks DepthFirst PackageResolver Relation

section Tables

variable {fold : Text → Text}

/-- The tables hold the packages of `index`, under their names and what they provide. -/
structure Lists (fold : Text → Text) (index : List Package) (tables : Tables) : Prop where
  named : ∀ key p, tables.byName key = some p → p ∈ index ∧ fold p.name = key
  known : ∀ p ∈ index, (tables.byName (fold p.name)).isSome
  provided : ∀ key p, p ∈ tables.providers key ↔
    p ∈ index ∧ ∃ atom ∈ p.provides, fold (stripConstraint atom) = key

theorem dependencyName_ok {dependency name : Text}
    (ok : getA1625DependencyName dependency = .ok name) : name = stripConstraint dependency := by
  unfold getA1625DependencyName at ok
  split at ok
  · cases ok
  split at ok
  · cases ok
  · exact (Except.ok.inj ok).symm

/-- The loop over what one package provides. -/
theorem addProvided_loop {package : Package} {provides : List Text} {tables tables' : Tables}
    (ok : provides.foldlM (addProvided fold package) tables = .ok tables') :
    tables'.byName = tables.byName ∧ ∀ key p, p ∈ tables'.providers key ↔
      p ∈ tables.providers key ∨
        p = package ∧ ∃ atom ∈ provides, fold (stripConstraint atom) = key := by
  induction provides generalizing tables with
  | nil =>
    obtain rfl := Except.ok.inj ok
    simp
  | cons atom provides ih =>
    rw [List.foldlM_cons] at ok
    obtain ⟨middle, added, rest⟩ := bind_ok.mp ok
    obtain ⟨name, stripped, made⟩ := bind_ok.mp added
    obtain rfl := Except.ok.inj made
    obtain rfl := dependencyName_ok stripped
    obtain ⟨same, providers⟩ := ih rest
    refine ⟨same, fun key p => (providers key p).trans ?_⟩
    by_cases here : key = fold (stripConstraint atom)
    · subst here
      simp [Function.update_self]
      tauto
    · simp [Function.update_of_ne here, Ne.symm here]

theorem addPackage_lists {index : List Package} {tables tables' : Tables} {package : Package}
    (lists : Lists fold index tables) (ok : addPackage fold tables package = .ok tables') :
    Lists fold (index ++ [package]) tables' := by
  obtain ⟨byName, providers⟩ := addProvided_loop ok
  dsimp only at byName providers
  refine ⟨fun key p found => ?_, fun p member => ?_, fun key p => ?_⟩
  · rw [byName] at found
    by_cases here : key = fold package.name
    · subst here
      rw [Function.update_self] at found
      obtain rfl := Option.some.inj found
      exact ⟨by simp, rfl⟩
    · rw [Function.update_of_ne here] at found
      obtain ⟨member, same⟩ := lists.named key p found
      exact ⟨List.mem_append_left _ member, same⟩
  · rw [byName]
    by_cases here : fold p.name = fold package.name
    · rw [here, Function.update_self]
      rfl
    · rw [Function.update_of_ne here]
      refine lists.known p ((List.mem_append.mp member).resolve_right fun last => here ?_)
      rw [List.mem_singleton.mp last]
  · rw [providers, lists.provided, List.mem_append, List.mem_singleton]
    constructor
    · rintro (⟨member, atom⟩ | ⟨rfl, atom⟩)
      · exact ⟨.inl member, atom⟩
      · exact ⟨.inr rfl, atom⟩
    · rintro ⟨member | rfl, atom⟩
      · exact .inl ⟨member, atom⟩
      · exact .inr ⟨rfl, atom⟩

theorem indexTables_lists {index : List Package} {tables : Tables}
    (ok : indexTables fold index = .ok tables) : Lists fold index tables := by
  have loop (before rest : List Package) (tables : Tables) (lists : Lists fold before tables)
      (tables' : Tables) (ok : rest.foldlM (addPackage fold) tables = .ok tables') :
      Lists fold (before ++ rest) tables' := by
    induction rest generalizing before tables with
    | nil =>
      obtain rfl := Except.ok.inj ok
      rwa [List.append_nil]
    | cons package rest ih =>
      rw [List.foldlM_cons] at ok
      obtain ⟨middle, added, later⟩ := bind_ok.mp ok
      simpa using ih (before ++ [package]) middle (addPackage_lists lists added) later
  exact loop [] index .empty ⟨by simp [Tables.empty], by simp, by simp [Tables.empty]⟩ tables ok

end Tables

section Search

variable (fold : Text → Text) (sort : List Package → List Package) (tables : Tables)

/-- The search that resolution is. -/
def graph : Graph Text Package Text Failure where
  node atom := if isConflict atom ∨ isBase fold atom then .ok none
    else some <$> candidate fold sort tables atom
  key package := fold package.name
  atoms package := package.depends

theorem visit_eq (depth : Nat) (s : Progress Package Text) (atom : Text) :
    visit fold sort tables depth s atom = search (graph fold sort tables) .callDepth depth s atom := by
  induction depth generalizing s atom with
  | zero => rfl
  | succ depth ih =>
    have same : visit fold sort tables depth = search (graph fold sort tables) .callDepth depth :=
      funext fun s => funext fun atom => ih s atom
    by_cases aside : isConflict atom = true ∨ isBase fold atom = true
    · have none : (graph fold sort tables).node atom = .ok none := if_pos aside
      rw [search, none, visit]
      obtain conflict | base := aside
      · rw [if_pos conflict]
        rfl
      · rw [if_pos base, ite_self]
        rfl
    · have looked : (graph fold sort tables).node atom = some <$> candidate fold sort tables atom :=
        if_neg aside
      obtain ⟨conflict, base⟩ := not_or.mp aside
      rw [visit, if_neg conflict, if_neg base, same]
      cases chosen : candidate fold sort tables atom with
      | error e =>
        rw [search, looked, chosen]
        rfl
      | ok package =>
        rw [chosen] at looked
        rw [search_some looked]
        by_cases seen : fold package.name ∈ s.seen
        · exact (if_pos seen).trans (if_pos seen).symm
        · exact (if_neg seen).trans (if_neg seen).symm

theorem graph_node {atom : Text} {p : Package} : (graph fold sort tables).node atom = .ok (some p) ↔
    isConflict atom = false ∧ isBase fold atom = false ∧ candidate fold sort tables atom = .ok p := by
  by_cases aside : isConflict atom = true ∨ isBase fold atom = true
  · have none : (graph fold sort tables).node atom = .ok none := if_pos aside
    rw [none]
    refine iff_of_false (by simp) fun ⟨conflict, base, _⟩ => ?_
    simp [conflict, base] at aside
  · have looked : (graph fold sort tables).node atom = some <$> candidate fold sort tables atom :=
      if_neg aside
    rw [looked]
    simp only [not_or, Bool.not_eq_true] at aside
    cases candidate fold sort tables atom <;> simp [aside, Functor.map, Except.map]

theorem graph_aside {atom : Text} (none : (graph fold sort tables).node atom = .ok none) :
    isConflict atom = true ∨ isBase fold atom = true := by
  by_contra aside
  have looked : (graph fold sort tables).node atom = some <$> candidate fold sort tables atom :=
    if_neg aside
  rw [looked] at none
  cases chosen : candidate fold sort tables atom with
  | error e => simp [chosen, Functor.map, Except.map] at none
  | ok p => simp [chosen, Functor.map, Except.map] at none

end Search

section Candidate

variable {fold : Text → Text} {sort : List Package → List Package} {index : List Package}
  {tables : Tables} {atom : Text} {p : Package}

theorem providerArray_packages (name : Text) :
    (providerArray fold tables name).filterMap id = tables.providers (fold name) := by
  unfold providerArray
  split
  · next none => exact none.symm
  · rw [List.filterMap_map]
    exact List.filterMap_some

theorem providerArray_isEmpty (name : Text) :
    (providerArray fold tables name).isEmpty = false := by
  unfold providerArray
  split
  · rfl
  · next packages some => rw [List.isEmpty_map, List.isEmpty_eq_false_iff]; exact some

/-- A candidate is listed under the name, or is the first of its providers. -/
theorem candidate_ok (ok : candidate fold sort tables atom = .ok p) :
    tables.byName (fold (stripConstraint atom)) = some p ∨
      tables.byName (fold (stripConstraint atom)) = none ∧ hasConstraint atom = false ∧
        (sort (tables.providers (fold (stripConstraint atom)))).head? = some p := by
  obtain ⟨name, stripped, chosen⟩ := bind_ok.mp ok
  obtain rfl := dependencyName_ok stripped
  cases named : tables.byName (fold (stripConstraint atom)) with
  | some q =>
    rw [named] at chosen
    exact .inl (congrArg some (Except.ok.inj chosen))
  | none =>
    rw [named] at chosen
    simp only [providerArray_packages, providerArray_isEmpty, Bool.false_eq_true, if_false] at chosen
    split at chosen
    · cases chosen
    · next unconstrained =>
      split at chosen
      · next q first =>
        obtain rfl := Except.ok.inj chosen
        exact .inr ⟨rfl, by simpa using unconstrained, first⟩
      · cases chosen

theorem candidate_listed (sorting : ∀ packages, (sort packages).Perm packages)
    (lists : Lists fold index tables) (ok : candidate fold sort tables atom = .ok p) :
    p ∈ index ∧ (fold p.name = fold (stripConstraint atom) ∨
      ∃ provided ∈ p.provides, fold (stripConstraint provided) = fold (stripConstraint atom)) := by
  obtain named | ⟨-, -, first⟩ := candidate_ok ok
  · obtain ⟨member, same⟩ := lists.named _ p named
    exact ⟨member, .inl same⟩
  · have member := (sorting _).mem_iff.mp (List.mem_of_head? first)
    obtain ⟨member, provides⟩ := (lists.provided _ p).mp member
    exact ⟨member, .inr provides⟩

end Candidate

section Resolution

variable (fold : Text → Text) (sort : List Package → List Package) (index : List Package)

/-- The package that resolution selects for an atom. -/
def selected (atom : Text) : Except Failure Package := do
  candidate fold sort (← indexTables fold index) atom

/-- `p` is a result, and `q` the package selected for one of its dependencies. -/
def Chosen (results : List Package) (p q : Package) : Prop :=
  p ∈ results ∧ ∃ atom ∈ p.depends, isConflict atom = false ∧ isBase fold atom = false ∧
    selected fold sort index atom = .ok q

/-- Nothing has to be installed for the atom, or a result carries or provides it. -/
def Met (results : List Package) (atom : Text) : Prop :=
  isBase fold atom = true ∨ ∃ p ∈ results, fold p.name = fold (stripConstraint atom) ∨
    ∃ provided ∈ p.provides, fold (stripConstraint provided) = fold (stripConstraint atom)

structure Resolution (roots : List Text) (results : List Package) : Prop where
  listed : ∀ p ∈ results, p ∈ index
  once : (results.map fun p => fold p.name).Nodup
  roots : ∀ atom ∈ roots, isConflict atom = false → Met fold results atom
  closed : ∀ p ∈ results, ∀ atom ∈ p.depends, isConflict atom = false → Met fold results atom
  compatible : ∀ p ∈ results, ∀ atom ∈ p.depends, isConflict atom = true →
    ∀ q ∈ results, fold q.name ≠ fold (stripConstraint (atom.drop 1))
  ordered : (∀ p, ¬ TransGen (Chosen fold sort index results) p p) →
    ∀ before p after, results = before ++ p :: after →
      ∀ q, Chosen fold sort index results p q → q ∈ before

variable {fold sort index} {roots : List Text} {results : List Package} {depth : Nat}

/-- What a resolution that returns has gone through. -/
theorem resolveWithin_ok (ok : resolveWithin fold sort depth index roots = .ok results) :
    ∃ tables s, indexTables fold index = .ok tables ∧
      Complete (graph fold sort tables) roots results s ∧
      ∀ p ∈ results, ∀ dependency ∈ p.depends, checkDependency fold s.seen dependency = .ok () := by
  unfold resolveWithin at ok
  split at ok
  · cases ok
  obtain ⟨tables, indexed, ok⟩ := bind_ok.mp ok
  obtain ⟨s, searched, ok⟩ := bind_ok.mp ok
  obtain ⟨_, checked, ok⟩ := bind_ok.mp ok
  obtain rfl := Except.ok.inj ok
  obtain ⟨new, grown⟩ := foldlM_grown (g := graph fold sort tables)
    (fun s atom s' visited => search_grown (visit_eq fold sort tables depth s atom ▸ visited)) searched
  obtain rfl : s.done = new := by simpa using grown.done
  refine ⟨tables, s, indexed, grown, fun p member => ?_⟩
  exact forM_ok.mp (forM_ok.mp checked p member)

/-- A dependency that is checked and starts with `!` names nothing seen. -/
theorem checkDependency_ok {seen : List Text} {dependency : Text}
    (conflict : isConflict dependency = true)
    (ok : checkDependency fold seen dependency = .ok ()) :
    fold (stripConstraint (dependency.drop 1)) ∉ seen := by
  rw [checkDependency, if_pos conflict] at ok
  obtain ⟨name, stripped, ok⟩ := bind_ok.mp ok
  obtain rfl := dependencyName_ok stripped
  split at ok
  · cases ok
  · assumption

theorem chosen_iff {p q : Package} (indexed : indexTables fold index = .ok tables) :
    Chosen fold sort index results p q ↔ p ∈ results ∧ Edge (graph fold sort tables) p q := by
  simp only [Chosen, selected, indexed, Edge, graph_node]
  rfl

theorem resolution (sorting : ∀ packages, (sort packages).Perm packages)
    (distinct : (index.map fun p => fold p.name).Nodup)
    (ok : resolveWithin fold sort depth index roots = .ok results) :
    Resolution fold sort index roots results := by
  obtain ⟨tables, s, indexed, grown, checked⟩ := resolveWithin_ok ok
  have lists := indexTables_lists indexed
  have found (p : Package) (found : Found (graph fold sort tables) p) : p ∈ index := by
    obtain ⟨atom, stands⟩ := found
    exact (candidate_listed sorting lists (graph_node fold sort tables |>.mp stands).2.2).1
  have told (p q : Package) (here : Found (graph fold sort tables) p)
      (there : Found (graph fold sort tables) q) (same : fold p.name = fold q.name) : p = q :=
    List.inj_on_of_nodup_map distinct (found p here) (found q there) same
  have met (atom : Text) (install : isConflict atom = false)
      (covered : Covered (graph fold sort tables) (· ∈ results.map fun p => fold p.name) atom) :
      Met fold results atom := by
    obtain none | ⟨p, stands, known⟩ := covered
    · exact .inl ((graph_aside fold sort tables none).resolve_left (by simp [install]))
    · obtain ⟨q, member, same⟩ := List.mem_map.mp known
      obtain rfl : q = p := told q p (grown.found member) ⟨atom, stands⟩ same
      have chosen := (graph_node fold sort tables).mp stands
      exact .inr ⟨q, member, (candidate_listed sorting lists chosen.2.2).2⟩
  refine ⟨fun p member => found p (grown.found member), grown.distinct, ?_, ?_, ?_, ?_⟩
  · intro atom member install
    exact met atom install (grown.closed.1 atom member)
  · intro p member atom own install
    exact met atom install (grown.closed.2 p member atom own)
  · intro p member atom own conflict q other same
    refine checkDependency_ok conflict (checked p member atom own)
      (same ▸ (grown.seen _).mpr (.inr ?_))
    exact List.mem_map.mpr ⟨q, other, rfl⟩
  · intro acyclic before p after split q chosen
    refine grown.topological told (fun n path => acyclic n ?_) split ((chosen_iff indexed).mp chosen).2
    exact TransGen.mono (fun p q edge => (chosen_iff indexed).mpr edge) n n path

end Resolution

section Termination

variable {fold : Text → Text} {sort : List Package → List Package} {index : List Package}
  {roots : List Text} {tables : Tables}

theorem dependencyName_error {dependency : Text} {e : Failure}
    (failed : getA1625DependencyName dependency = .error e) : e ≠ .callDepth := by
  unfold getA1625DependencyName at failed
  split at failed
  · cases failed
    rintro ⟨⟩
  split at failed
  · cases failed
    rintro ⟨⟩
  · cases failed

theorem indexTables_error {e : Failure} (failed : indexTables fold index = .error e) :
    e ≠ .callDepth := by
  obtain ⟨tables, package, -, failed⟩ := foldlM_error failed
  obtain ⟨tables, provided, -, failed⟩ := foldlM_error failed
  obtain failed | ⟨atom, -, failed⟩ := bind_error.mp failed
  · exact dependencyName_error failed
  · cases failed

theorem candidate_error {atom : Text} {e : Failure}
    (failed : candidate fold sort tables atom = .error e) : e ≠ .callDepth := by
  obtain failed | ⟨name, -, failed⟩ := bind_error.mp failed
  · exact dependencyName_error failed
  split at failed
  · cases failed
  simp only [providerArray_isEmpty, Bool.false_eq_true, if_false] at failed
  split at failed
  · cases failed
    rintro ⟨⟩
  split at failed
  · cases failed
  · cases failed
    rintro ⟨⟩

theorem checkDependency_error {seen : List Text} {dependency : Text} {e : Failure}
    (failed : checkDependency fold seen dependency = .error e) : e ≠ .callDepth := by
  unfold checkDependency at failed
  split at failed
  · obtain failed | ⟨name, -, failed⟩ := bind_error.mp failed
    · exact dependencyName_error failed
    split at failed
    · cases failed
      rintro ⟨⟩
    · cases failed
  · cases failed

theorem visit_search (depth : Nat) :
    visit fold sort tables depth = search (graph fold sort tables) .callDepth depth :=
  funext fun s => funext fun atom => visit_eq fold sort tables depth s atom

theorem graph_error {atom : Text} {e : Failure}
    (failed : (graph fold sort tables).node atom = .error e) : e ≠ .callDepth := by
  by_cases aside : isConflict atom = true ∨ isBase fold atom = true
  · have none : (graph fold sort tables).node atom = .ok none := if_pos aside
    rw [none] at failed
    cases failed
  · have looked : (graph fold sort tables).node atom = some <$> candidate fold sort tables atom :=
      if_neg aside
    rw [looked] at failed
    cases chosen : candidate fold sort tables atom with
    | error e' =>
      rw [chosen] at failed
      obtain rfl : e' = e := Except.error.inj failed
      exact candidate_error chosen
    | ok p =>
      rw [chosen] at failed
      cases failed

theorem names_remaining (fold : Text → Text) (index : List Package) :
    remaining (index.map fun p => fold p.name) [] < index.length + 1 := by
  have bound : remaining (index.map fun p => fold p.name) [] ≤ _ := remaining_le_length []
  rw [List.length_map] at bound
  exact Nat.lt_succ_of_le bound

section Depth

variable (sorting : ∀ packages, (sort packages).Perm packages)
include sorting

/-- The keys that a search can meet are the names in the index. -/
theorem graph_listed (indexed : indexTables fold index = .ok tables) (atom : Text) (p : Package)
    (stands : (graph fold sort tables).node atom = .ok (some p)) :
    fold p.name ∈ index.map fun p => fold p.name := by
  have chosen := ((graph_node fold sort tables).mp stands).2.2
  exact List.mem_map.mpr ⟨p, (candidate_listed sorting (indexTables_lists indexed) chosen).1, rfl⟩

variable {depth : Nat} (enough : index.length < depth)
include enough

theorem search_depth (indexed : indexTables fold index = .ok tables) :
    roots.foldlM (visit fold sort tables depth) ⟨[], []⟩ =
      roots.foldlM (visit fold sort tables (index.length + 1)) ⟨[], []⟩ := by
  have room := names_remaining fold index
  rw [visit_search, visit_search]
  refine foldlM_congr (fun _ _ _ => search_grown) (fun s atom few => ?_) room
  exact search_enough (graph_listed sorting indexed) (by omega) few

theorem search_ends (indexed : indexTables fold index = .ok tables) :
    roots.foldlM (visit fold sort tables depth) ⟨[], []⟩ ≠ .error .callDepth := by
  have room := names_remaining fold index
  rw [visit_search]
  refine foldlM_not_stuck (fun _ _ _ => search_grown) (fun s atom few => ?_) room
  exact search_not_stuck (graph_listed sorting indexed)
    (fun _ failed => graph_error failed rfl) (by omega)

/-- The depth that resolution has is enough on every index: more makes no difference. -/
theorem resolveWithin_depth : resolveWithin fold sort depth index roots =
    resolveA1625AlpinePackages fold sort index roots := by
  unfold resolveA1625AlpinePackages resolveWithin
  split
  · rfl
  cases indexed : indexTables fold index with
  | error e => rfl
  | ok tables =>
    change (roots.foldlM (visit fold sort tables depth) ⟨[], []⟩ >>= _) =
      roots.foldlM (visit fold sort tables (index.length + 1)) ⟨[], []⟩ >>= _
    rw [search_depth sorting enough indexed]

theorem resolveWithin_ends : resolveWithin fold sort depth index roots ≠ .error .callDepth := by
  unfold resolveWithin
  split
  · rintro ⟨⟩
  intro failed
  obtain failed | ⟨tables, indexed, failed⟩ := bind_error.mp failed
  · exact indexTables_error failed rfl
  obtain failed | ⟨s, -, failed⟩ := bind_error.mp failed
  · exact search_ends sorting enough indexed failed
  obtain failed | ⟨_, -, failed⟩ := bind_error.mp failed
  · obtain ⟨p, -, failed⟩ := forM_error failed
    obtain ⟨dependency, -, failed⟩ := forM_error failed
    exact checkDependency_error failed rfl
  · cases failed

end Depth

end Termination

section Sortings

def inTextOrder (text text' : Text) : Bool := decide (List.le text text')

theorem inTextOrder_total (text text' : Text) :
    inTextOrder text text' = true ∨ inTextOrder text' text = true := by
  simp only [inTextOrder, decide_eq_true_eq]
  exact List.le_total text text'

theorem inTextOrder_trans (a b c : Text) (first : inTextOrder a b = true)
    (rest : inTextOrder b c = true) : inTextOrder a c = true := by
  simp only [inTextOrder, decide_eq_true_eq] at *
  exact List.le_trans first rest

variable {notAfter : Text → Text → Bool}
  (total : ∀ a b, notAfter a b = true ∨ notAfter b a = true)
  (trans : ∀ a b c, notAfter a b = true → notAfter b c = true → notAfter a c = true)

/-- The later version first. -/
def Before (notAfter : Text → Text → Bool) (p q : Package) : Prop :=
  notAfter q.version p.version = true

instance (notAfter : Text → Text → Bool) : DecidableRel (Before notAfter) :=
  fun p q => inferInstanceAs (Decidable (notAfter q.version p.version = true))

/-- One sorting for each order that is total and transitive. -/
def insertionSorting : Sorting notAfter where
  sort := List.insertionSort (Before notAfter)
  perm := List.perm_insertionSort _
  sorted packages :=
    haveI : Std.Total (Before notAfter) := ⟨fun p q => total q.version p.version⟩
    haveI : IsTrans Package (Before notAfter) :=
      ⟨fun p q r first rest => trans r.version q.version p.version rest first⟩
    List.pairwise_insertionSort (Before notAfter) packages

def textSorting : Sorting inTextOrder := insertionSorting inTextOrder_total inTextOrder_trans

def lowerCase (text : Text) : Text := text.map Char.toLower

def testIndex : List Package :=
  [⟨"libx".toList, "1".toList, [], ["so:libx.so.1=1".toList]⟩,
    ⟨"git".toList, "1".toList, ["so:libx.so.1".toList], []⟩, ⟨"ca".toList, "1".toList, [], []⟩]

end Sortings

end WinBoot.ResolverRuns
