import Mathlib.Logic.Function.Basic
import WinBoot.DepthFirst

/-! Package resolution from a pinned package index. Any error ends the call, as it does under the
preference `Stop` or inside a `try`. Letter case is folded where a hashtable or an operator ignores
it. -/

namespace WinBoot.PackageResolver
open Checks DepthFirst

abbrev Text : Type := List Char

structure Package where
  name : Text
  version : Text
  depends : List Text
  provides : List Text
deriving DecidableEq

inductive Failure
  | invalidArgument
  | unsupportedAlternative (dependency : Text)
  | propertyNotFound (property : String)
  | unresolved (atom : Text)
  | indexOutOfRange
  | conflictingDependency (dependency : Text)
  | callDepth
deriving DecidableEq

/-- `Sort-Object Version -Descending`. In what order it leaves packages that the order of their
version texts does not tell apart is open. -/
structure Sorting (notAfter : Text → Text → Bool) where
  sort : List Package → List Package
  perm : ∀ packages, (sort packages).Perm packages
  sorted : ∀ packages, (sort packages).Pairwise fun p q => notAfter q.version p.version = true

/-- `[<>=~]` -/
def isConstraint (c : Char) : Bool := c = '<' || c = '>' || c = '=' || c = '~'

/-- `-match '[<>=~]'` -/
def hasConstraint (atom : Text) : Bool := atom.any isConstraint

/-- `-replace '[<>=~].*$', ''`. The dot stops at a line feed, and the end may stand before a last
one, so only the last line can lose its tail. -/
def stripConstraint (atom : Text) : Text :=
  let body := if atom.getLast? = some '\n' then atom.dropLast else atom
  let line := (body.reverse.takeWhile (· ≠ '\n')).reverse
  body.take (body.length - line.length) ++ line.takeWhile (fun c => !isConstraint c) ++
    atom.drop body.length

/-- A mandatory string parameter takes no empty string. -/
def getA1625DependencyName (dependency : Text) : Except Failure Text :=
  if dependency = [] then .error .invalidArgument
  else if '|' ∈ dependency then .error (.unsupportedAlternative dependency)
  else .ok (stripConstraint dependency)

/-- `$byName` and `$providers`, by folded keys; no package is listed under a key that is absent. -/
structure Tables where
  byName : Text → Option Package
  providers : Text → List Package

def Tables.empty : Tables := ⟨fun _ => none, fun _ => []⟩

def baseAtoms : List Text := ["so:libc.musl-aarch64.so.1".toList]

/-- `$atom.StartsWith('!')` -/
def isConflict (atom : Text) : Bool := ['!'].isPrefixOf atom

section Resolve

variable (fold : Text → Text) (sort : List Package → List Package)

def addProvided (package : Package) (tables : Tables) (provided : Text) : Except Failure Tables := do
  let atom ← getA1625DependencyName provided
  return { tables with
    providers := Function.update tables.providers (fold atom)
      (tables.providers (fold atom) ++ [package]) }

def addPackage (tables : Tables) (package : Package) : Except Failure Tables :=
  package.provides.foldlM (addProvided fold package)
    { tables with byName := Function.update tables.byName (fold package.name) (some package) }

def indexTables (index : List Package) : Except Failure Tables :=
  index.foldlM (addPackage fold) .empty

/-- `$baseAtoms -contains $atom` -/
def isBase (atom : Text) : Bool := (baseAtoms.map fold).contains (fold atom)

/-- `@($providers[$name])`: under an absent key there is a null, which makes an array of one. -/
def providerArray (tables : Tables) (name : Text) : List (Option Package) :=
  match tables.providers (fold name) with
  | [] => [none]
  | packages => packages.map some

def candidate (tables : Tables) (atom : Text) : Except Failure Package := do
  let name ← getA1625DependencyName atom
  match tables.byName (fold name) with
  | some package => return package
  | none =>
    let providers := providerArray fold tables name
    -- a match that succeeds assigns `$Matches`, the variable that holds the providers: what is
    -- filtered is the match, and it has no property of that name
    if hasConstraint atom then .error (.propertyNotFound "Provides")
    else if providers.isEmpty then .error (.unresolved atom)
    else
      -- a null does not come out of the sorting, and there is no element 0 of nothing
      match (sort (providers.filterMap id)).head? with
      | some package => return package
      | none => .error .indexOutOfRange

/-- `& $visit`, to a depth that bounds the recursion. -/
def visit (tables : Tables) :
    Nat → Progress Package Text → Text → Except Failure (Progress Package Text)
  | 0, _, _ => .error .callDepth
  | depth + 1, s, atom =>
    if isConflict atom then .ok s
    else if isBase fold atom then .ok s
    else do
      let candidate ← candidate fold sort tables atom
      if fold candidate.name ∈ s.seen then return s
      let s ← candidate.depends.foldlM (visit tables depth)
        { s with seen := fold candidate.name :: s.seen }
      return { s with done := s.done ++ [candidate] }

def checkDependency (seen : List Text) (dependency : Text) : Except Failure Unit :=
  if isConflict dependency then do
    let name ← getA1625DependencyName (dependency.drop 1)
    if fold name ∈ seen then .error (.conflictingDependency dependency) else .ok ()
  else .ok ()

def resolveWithin (depth : Nat) (index : List Package) (roots : List Text) :
    Except Failure (List Package) :=
  if index = [] ∨ roots = [] ∨ [] ∈ roots then .error .invalidArgument
  else do
    let tables ← indexTables fold index
    let s ← roots.foldlM (visit fold sort tables depth) ⟨[], []⟩
    s.done.forM fun package => package.depends.forM (checkDependency fold s.seen)
    return s.done

/-- No path of the search is longer than the index. -/
def resolveA1625AlpinePackages (index : List Package) (roots : List Text) :
    Except Failure (List Package) := resolveWithin fold sort (index.length + 1) index roots

end Resolve

end WinBoot.PackageResolver
