import WinBoot.AlpineVersion
import WinBoot.ResolverRuns

/-! Atoms with a version constraint. A package that is named is taken whatever its version, and an
atom that only providers answer is never resolved. -/

namespace WinBoot.ConstrainedAtoms
open AlpineVersion Checks DepthFirst PackageResolver ResolverRuns

section Constraint

structure Constraint where
  name : Text
  operator : Text
  bound : Text

def constraint (atom : Text) : Constraint where
  name := atom.takeWhile fun c => !isConstraint c
  operator := (atom.dropWhile fun c => !isConstraint c).takeWhile isConstraint
  bound := (atom.dropWhile fun c => !isConstraint c).dropWhile isConstraint

/-- What the operators ask of a version; other texts are only ever equal. -/
def Constraint.meets (c : Constraint) (version : Text) : Bool :=
  match parse c.bound, parse version with
  | some bound, some v =>
    '<' ∈ c.operator && decide (v.Before bound) || '>' ∈ c.operator && decide (bound.Before v) ||
      '=' ∈ c.operator && decide (v = bound) ||
        '~' ∈ c.operator && bound.components.isPrefixOf v.components
  | _, _ => '=' ∈ c.operator && decide (c.bound = version)

def Satisfied (fold : Text → Text) (results : List Package) (atom : Text) : Prop :=
  ∃ p ∈ results, fold p.name = fold (constraint atom).name ∧ (constraint atom).meets p.version = true ∨
    ∃ provided ∈ p.provides, fold (constraint provided).name = fold (constraint atom).name ∧
      (constraint atom).meets (constraint provided).bound = true

/-- Every constraint on what a result depends on is met by a result. -/
def HonoursConstraints (fold : Text → Text) (results : List Package) : Prop :=
  ∀ p ∈ results, ∀ atom ∈ p.depends, isConflict atom = false → hasConstraint atom = true →
    Satisfied fold results atom

end Constraint

section Reach

variable (fold : Text → Text) (sort : List Package → List Package) (index : List Package)
  (roots : List Text)

/-- The atoms that resolution comes to. Of packages with one name only one is gone through, so what
they do not all depend on may be passed over. -/
inductive Reached : Text → Prop
  | root {atom : Text} : atom ∈ roots → Reached atom
  | dependency {above atom : Text} {p : Package} : Reached above →
      isConflict above = false → isBase fold above = false → selected fold sort index above = .ok p →
      (∀ q ∈ index, fold q.name = fold p.name → atom ∈ q.depends) → Reached atom

/-- An atom with a constraint whose name is that of no package. -/
structure ConstrainedVirtual (atom : Text) : Prop where
  reached : Reached fold sort index roots atom
  resolved : isConflict atom = false ∧ isBase fold atom = false
  constrained : hasConstraint atom = true
  unnamed : ∀ p ∈ index, fold p.name ≠ fold (stripConstraint atom)

variable {fold sort index roots} {tables : Tables} {results : List Package} {atom : Text}
  {s : Progress Package Text}

/-- Where resolution returns, every atom it came to stands for a result, or for nothing. -/
theorem Reached.covered (sorting : ∀ packages, (sort packages).Perm packages)
    (indexed : indexTables fold index = .ok tables)
    (grown : Complete (graph fold sort tables) roots results s)
    (reached : Reached fold sort index roots atom) :
    Covered (graph fold sort tables) (· ∈ results.map fun p => fold p.name) atom := by
  induction reached with
  | root member => exact grown.closed.1 _ member
  | @dependency above atom p _ install base chosen depends ih =>
    have chosen : candidate fold sort tables above = .ok p := by
      rw [selected, indexed] at chosen
      exact chosen
    have stands := (graph_node fold sort tables).mpr ⟨install, base, chosen⟩
    obtain none | ⟨m, found, known⟩ := ih
    · rw [stands] at none
      cases none
    rw [stands] at found
    obtain rfl : p = m := by simpa using found
    obtain ⟨q, member, same⟩ := List.mem_map.mp known
    obtain ⟨a, there⟩ := grown.found member
    have listed := candidate_listed sorting (indexTables_lists indexed)
      ((graph_node fold sort tables).mp there).2.2
    exact grown.closed.2 q member atom (depends q listed.1 same)

/-- A constrained atom that stands for a package is named after it. -/
theorem covered_named (lists : Lists fold index tables) {keys : Text → Prop}
    (resolved : isConflict atom = false ∧ isBase fold atom = false)
    (constrained : hasConstraint atom = true)
    (covered : Covered (graph fold sort tables) keys atom) :
    ∃ p ∈ index, fold p.name = fold (stripConstraint atom) ∧ keys (fold p.name) := by
  obtain none | ⟨p, stands, known⟩ := covered
  · have aside := graph_aside fold sort tables none
    simp [resolved] at aside
  · obtain named | ⟨-, unconstrained, -⟩ := candidate_ok ((graph_node fold sort tables).mp stands).2.2
    · obtain ⟨member, same⟩ := lists.named _ p named
      exact ⟨p, member, same, known⟩
    · rw [constrained] at unconstrained
      cases unconstrained

theorem ConstrainedVirtual.throws (virtual : ConstrainedVirtual fold sort index roots atom)
    (sorting : ∀ packages, (sort packages).Perm packages) :
    ∃ e, resolveA1625AlpinePackages fold sort index roots = .error e := by
  cases resolved : resolveA1625AlpinePackages fold sort index roots with
  | error e => exact ⟨e, rfl⟩
  | ok results =>
    obtain ⟨tables, s, indexed, grown, -⟩ := resolveWithin_ok resolved
    obtain ⟨p, member, same, -⟩ := covered_named (indexTables_lists indexed) virtual.resolved
      virtual.constrained (virtual.reached.covered sorting indexed grown)
    exact absurd same (virtual.unnamed p member)

end Reach

section Results

variable {notAfter : Text → Text → Bool} (fold : Text → Text) (sorting : Sorting notAfter)
  (index : List Package) (roots : List Text)

/-- Some package lists the very atom. -/
def Provided (atom : Text) : Prop := ∃ p ∈ index, ∃ provided ∈ p.provides, fold provided = fold atom

/-- Constraints choose nothing: where a package is named, one of that name is a result, whatever its
version; where the atom is neither a name nor provided, there is no result. -/
theorem constraint_by_name :
    (∀ results, resolveA1625AlpinePackages fold sorting.sort index roots = .ok results →
      ∀ p ∈ results, ∀ atom ∈ p.depends, isConflict atom = false ∧ isBase fold atom = false →
        hasConstraint atom = true → (∃ q ∈ index, fold q.name = fold (stripConstraint atom)) →
          ∃ q ∈ results, fold q.name = fold (stripConstraint atom)) ∧
      ∀ atom, ConstrainedVirtual fold sorting.sort index roots atom → ¬ Provided fold index atom →
        ∃ e, resolveA1625AlpinePackages fold sorting.sort index roots = .error e := by
  constructor
  · intro results resolved p member atom own install constrained _
    obtain ⟨tables, s, indexed, grown, -⟩ := resolveWithin_ok resolved
    obtain ⟨q, -, same, known⟩ := covered_named (indexTables_lists indexed) install constrained
      (grown.closed.2 p member atom own)
    obtain ⟨r, listed, equal⟩ := List.mem_map.mp known
    exact ⟨r, listed, equal.trans same⟩
  · intro atom virtual _
    exact virtual.throws sorting.perm

/-- What a constrained atom that packages provide comes to. -/
def ResolvesProvided (atom : Text) : Prop :=
  ∃ results, resolveA1625AlpinePackages fold sorting.sort index roots = .ok results ∧
    ∃ p ∈ results, ∃ provided ∈ p.provides, fold provided = fold atom

/-- A constrained atom that is not the name of a package is never resolved, whoever provides it. -/
theorem constrained_virtual_never (atom : Text)
    (virtual : ConstrainedVirtual fold sorting.sort index roots atom) :
    ¬ ResolvesProvided fold sorting index roots atom := by
  obtain ⟨e, throws⟩ := virtual.throws sorting.perm
  rintro ⟨results, resolved, -⟩
  rw [throws] at resolved
  cases resolved

end Results

section Indexes

def libx : Package := ⟨"libx".toList, "1".toList, [], ["so:libx.so.1=1".toList]⟩

def gitOn (dependency : String) : Package := ⟨"git".toList, "1".toList, [dependency.toList], []⟩

def roots : List Text := ["git".toList]

/-- `libx` is a result though the constraint asks for a later version, which no package has. -/
theorem old_libx_resolved :
    resolveA1625AlpinePackages lowerCase textSorting.sort [libx, gitOn "libx>2"] roots =
        .ok [libx, gitOn "libx>2"] ∧
      ¬ Satisfied lowerCase [libx, gitOn "libx>2"] "libx>2".toList ∧
      ¬ HonoursConstraints lowerCase [libx, gitOn "libx>2"] := by
  have unmet : ¬ Satisfied lowerCase [libx, gitOn "libx>2"] "libx>2".toList := by
    unfold Satisfied
    decide +kernel
  refine ⟨by decide +kernel, unmet, fun honours => unmet ?_⟩
  exact honours (gitOn "libx>2") (by decide) _ (by decide) (by decide) (by decide)

/-- The named `libx` is a result all the same. -/
theorem libx_taken_by_name : ∃ q ∈ [libx, gitOn "libx>2"],
    lowerCase q.name = lowerCase (stripConstraint "libx>2".toList) :=
  (constraint_by_name lowerCase textSorting [libx, gitOn "libx>2"] roots).1
    [libx, gitOn "libx>2"] (by decide +kernel) (gitOn "libx>2") (by decide) "libx>2".toList
    (by decide) (by decide) (by decide) (by decide)

theorem libx_virtual : ConstrainedVirtual lowerCase textSorting.sort
    [libx, gitOn "so:libx.so.1=1"] roots "so:libx.so.1=1".toList where
  reached := by
    have chosen : selected lowerCase textSorting.sort [libx, gitOn "so:libx.so.1=1"] "git".toList =
        .ok (gitOn "so:libx.so.1=1") := by
      decide +kernel
    exact .dependency (.root List.mem_cons_self) (by decide) (by decide) chosen (by decide)
  resolved := by decide +kernel
  constrained := by decide +kernel
  unnamed := by decide +kernel

/-- `libx` lists the atom, and the search for its providers fails. Without the constraint the same
dependency resolves. -/
theorem provided_libx_unresolved :
    Provided lowerCase [libx, gitOn "so:libx.so.1=1"] "so:libx.so.1=1".toList ∧
      resolveA1625AlpinePackages lowerCase textSorting.sort [libx, gitOn "so:libx.so.1=1"] roots =
        .error (.propertyNotFound "Provides") ∧
      resolveA1625AlpinePackages lowerCase textSorting.sort [libx, gitOn "so:libx.so.1"] roots =
        .ok [libx, gitOn "so:libx.so.1"] ∧
      ¬ ResolvesProvided lowerCase textSorting [libx, gitOn "so:libx.so.1=1"] roots
        "so:libx.so.1=1".toList := by
  have provided : Provided lowerCase [libx, gitOn "so:libx.so.1=1"] "so:libx.so.1=1".toList := by
    unfold Provided
    decide +kernel
  have fails : resolveA1625AlpinePackages lowerCase textSorting.sort [libx, gitOn "so:libx.so.1=1"]
      roots = .error (.propertyNotFound "Provides") := by
    decide +kernel
  refine ⟨provided, fails, by decide +kernel, ?_⟩
  rintro ⟨results, resolved, -⟩
  rw [fails] at resolved
  cases resolved

theorem libx_never_resolved : ¬ ResolvesProvided lowerCase textSorting
    [libx, gitOn "so:libx.so.1=1"] roots "so:libx.so.1=1".toList :=
  constrained_virtual_never lowerCase textSorting _ roots _ libx_virtual

end Indexes

end WinBoot.ConstrainedAtoms
