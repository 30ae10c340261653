import Mathlib.Data.List.Infix
import Mathlib.Tactic.Common

/-! Files and directories as trees, and what `mv`, `cp -a`, `mkdir -p`, `chmod` and `rm -rf` make of
them. -/

namespace WinBoot.FileTree

inductive Node where
  | file (mode : Nat) (data : List UInt8)
  | link (target : String)
  | special
  | directory (mode : Nat) (entries : List (String × Node))

/-- What a node is, its mode and what lies in it left aside. -/
inductive Kind where
  | file (data : List UInt8)
  | link (target : String)
  | special
  | directory
deriving DecidableEq

namespace Node

def isDirectory : Node → Bool
  | directory _ _ => true
  | _ => false

def isFile : Node → Bool
  | file _ _ => true
  | _ => false

def isLink : Node → Bool
  | link _ => true
  | _ => false

def isSpecial : Node → Bool
  | special => true
  | _ => false

mutual

/-- A node of the tree passes the test, as `find` looks for one. -/
def any (test : Node → Bool) : Node → Bool
  | directory mode entries => test (directory mode entries) || anyEntry test entries
  | n => test n

def anyEntry (test : Node → Bool) : List (String × Node) → Bool
  | [] => false
  | entry :: rest => anyNamed test entry || anyEntry test rest

def anyNamed (test : Node → Bool) : String × Node → Bool
  | (_, n) => any test n

end

mutual

/-- The lengths of the files in a tree. -/
def sizes : Node → List Nat
  | file _ data => [data.length]
  | directory _ entries => entrySizes entries
  | _ => []

def entrySizes : List (String × Node) → List Nat
  | [] => []
  | entry :: rest => namedSizes entry ++ entrySizes rest

def namedSizes : String × Node → List Nat
  | (_, n) => sizes n

end

def entry (name : String) : Node → Option Node
  | directory _ entries => entries.lookup name
  | _ => none

/-- What lies at a path, links not followed. -/
def seek : List String → Node → Option Node
  | [], n => some n
  | name :: rest, n => (n.entry name).bind (seek rest)

def kind : Node → Kind
  | file _ data => .file data
  | link target => .link target
  | special => .special
  | directory _ _ => .directory

def kindAt (path : List String) (n : Node) : Option Kind := (n.seek path).map kind

def modify : List String → (Node → Node) → Node → Node
  | [], change, n => change n
  | name :: rest, change, directory mode entries =>
    directory mode (entries.map fun e => (e.1, if e.1 = name then modify rest change e.2 else e.2))
  | _, _, n => n

def remove (name : String) : Node → Node
  | directory mode entries => directory mode (entries.filter fun e => e.1 ≠ name)
  | n => n

def insert (n : Node) (name : String) (new : Node) : Node :=
  match n with
  | directory mode entries => directory mode (entries.filter (fun e => e.1 ≠ name) ++ [(name, new)])
  | n => n

/-- `mkdir -p` of one name, under a umask of 077. -/
def makeDirectory (name : String) (n : Node) : Node :=
  if (n.entry name).isSome then n else n.insert name (directory 0o700 [])

def chmod (mode : Nat) : Node → Node
  | file _ data => file mode data
  | directory _ entries => directory mode entries
  | n => n

/-- What `mv` or `cp -a` of a node to a place leaves there: into a directory it goes under its own
name. -/
def placed (name : String) (new : Node) : Option Node → Node
  | some (directory mode entries) => (directory mode entries).insert name new
  | _ => new

/-- `mv` and `cp -a` refuse to put a directory in the place of something else. -/
def fits (new : Node) : Option Node → Bool
  | none => true
  | some old => old.isDirectory || !new.isDirectory

theorem entry_remove {name other : String} (apart : other ≠ name) (n : Node) :
    (n.remove name).entry other = n.entry other := by
  cases n with
  | directory mode entries =>
    induction entries with
    | nil => rfl
    | cons e entries ih =>
      obtain ⟨key, child⟩ := e
      by_cases same : key = name
      · subst same
        have missed : (other == key) = false := by simpa using apart
        simpa [remove, entry, List.lookup_cons, missed] using ih
      · by_cases here : other = key
        · simp [remove, entry, same, here]
        · have missed : (other == key) = false := by simpa using here
          simpa [remove, entry, List.lookup_cons, same, missed] using ih
  | _ => rfl

theorem kind_directory {n : Node} : n.kind = .directory ↔ n.isDirectory := by
  cases n <;> simp [kind, isDirectory]

theorem lookup_removed (name : String) (entries : List (String × Node)) :
    (entries.filter fun e => e.1 ≠ name).lookup name = none := by
  rw [List.lookup_eq_none_iff]
  intro e member
  obtain ⟨-, other⟩ := List.mem_filter.mp member
  simpa using Ne.symm (of_decide_eq_true other)

theorem entry_insert (mode : Nat) (entries : List (String × Node)) (name : String) (new : Node)
    (other : String) : ((directory mode entries).insert name new).entry other =
      if other = name then some new else entries.lookup other := by
  rw [insert, entry, List.lookup_append]
  by_cases here : other = name
  · rw [here, lookup_removed, if_pos rfl]
    simp
  · have missed : (other == name) = false := by simpa using here
    have kept := entry_remove here (directory mode entries)
    rw [remove, entry, entry] at kept
    rw [kept, if_neg here]
    simp [List.lookup_cons, missed]

theorem seek_remove {name other : String} (apart : other ≠ name) (rest : List String) (n : Node) :
    (n.remove name).seek (other :: rest) = n.seek (other :: rest) := by
  simp only [seek, entry_remove apart]

theorem entry_modify (name : String) (rest : List String) (change : Node → Node) (other : String)
    (n : Node) : (n.modify (name :: rest) change).entry other =
      if other = name then (n.entry other).map (modify rest change) else n.entry other := by
  cases n with
  | directory mode entries =>
    induction entries with
    | nil => simp [modify, entry]
    | cons e entries ih =>
      obtain ⟨key, child⟩ := e
      simp only [modify, entry] at ih
      by_cases found : other = key
      · by_cases here : other = name
        · subst here found
          simp [modify, entry]
        · have away : key ≠ name := found ▸ here
          simp [modify, entry, found, away]
      · have missed : (other == key) = false := by simpa using found
        simpa [modify, entry, List.lookup_cons, missed] using ih
  | _ => simp [modify, entry]

theorem seek_append (front back : List String) (n : Node) :
    n.seek (front ++ back) = (n.seek front).bind (seek back) := by
  induction front generalizing n with
  | nil => rfl
  | cons name front ih => cases found : n.entry name <;> simp [seek, found, ih]

/-- At and below the place that is changed. -/
theorem seek_modify (path rest : List String) (change : Node → Node) (n : Node) :
    (n.modify path change).seek (path ++ rest) =
      (n.seek path).bind fun there => (change there).seek rest := by
  induction path generalizing n with
  | nil => simp [modify, seek]
  | cons name path ih =>
    rw [List.cons_append, seek, entry_modify, if_pos rfl, seek]
    cases n.entry name with
    | none => rfl
    | some child => exact ih child

theorem seek_modify_apart {path at_ : List String} (below : ¬path <+: at_) (above : ¬at_ <+: path)
    (change : Node → Node) (n : Node) : (n.modify path change).seek at_ = n.seek at_ := by
  induction path generalizing at_ n with
  | nil => exact absurd List.nil_prefix below
  | cons name path ih =>
    cases at_ with
    | nil => exact absurd List.nil_prefix above
    | cons other rest =>
      rw [seek, entry_modify, seek]
      split
      · next same =>
        subst same
        rw [List.cons_prefix_cons, not_and] at below above
        cases n.entry other with
        | none => rfl
        | some child => exact ih (below rfl) (above rfl) child
      · rfl

theorem kindAt_modify {path at_ : List String} (apart : ¬path <+: at_) (change : Node → Node)
    (n : Node) : (n.modify path change).kindAt at_ = n.kindAt at_ := by
  by_cases above : at_ <+: path
  · obtain ⟨rest, rfl⟩ := above
    induction at_ generalizing n with
    | nil =>
      cases rest with
      | nil => exact absurd List.prefix_rfl apart
      | cons name rest => cases n <;> rfl
    | cons other at_ ih =>
      rw [List.cons_append, List.cons_prefix_cons, not_and] at apart
      have step := fun child => ih child (apart rfl)
      simp only [kindAt, List.cons_append, seek, entry_modify, if_pos] at step ⊢
      cases n.entry other with
      | none => rfl
      | some child => exact step child
  · rw [kindAt, seek_modify_apart apart above, kindAt]

theorem seek_insert {name : String} {n : Node} (directory : n.isDirectory) (new : Node)
    (rest : List String) : (n.insert name new).seek (name :: rest) = new.seek rest := by
  cases n with
  | directory mode entries => rw [seek, entry_insert, if_pos rfl, Option.bind_some]
  | _ => cases directory

theorem seek_insert_apart {name other : String} (apart : other ≠ name) (n new : Node)
    (rest : List String) : (n.insert name new).seek (other :: rest) = n.seek (other :: rest) := by
  cases n with
  | directory mode entries => rw [seek, entry_insert, if_neg apart, seek, entry]
  | _ => rfl

theorem kind_insert (name : String) (n new : Node) : (n.insert name new).kind = n.kind := by
  cases n <;> rfl

/-! Insertion further down: the directory that takes the new node is there already. -/

section

variable {parents : List String} {name : String} (new : Node → Node) (n : Node)

theorem seek_insertAt {dir : Node} (there : n.seek parents = some dir)
    (directory : dir.isDirectory) :
    (n.modify parents fun d => d.insert name (new d)).seek (parents ++ [name]) = some (new dir) := by
  rw [seek_modify, there, Option.bind_some, seek_insert directory, seek]

theorem seek_insertAt_isSome
    (landed : ((n.modify parents fun d => d.insert name (new d)).seek (parents ++ [name])).isSome) :
    ∃ dir, n.seek parents = some dir ∧ dir.isDirectory := by
  rw [seek_modify] at landed
  cases there : n.seek parents with
  | none => simp [there] at landed
  | some dir =>
    refine ⟨dir, rfl, ?_⟩
    cases dir with
    | directory => rfl
    | _ => simp [there, insert, seek, entry] at landed

theorem kindAt_insertAt {at_ : List String} (apart : ¬parents ++ [name] <+: at_) :
    (n.modify parents fun d => d.insert name (new d)).kindAt at_ = n.kindAt at_ := by
  by_cases inside : parents <+: at_
  · obtain ⟨rest, rfl⟩ := inside
    rw [kindAt, seek_modify, kindAt, seek_append]
    cases n.seek parents with
    | none => rfl
    | some dir =>
      cases rest with
      | nil => exact congrArg some (kind_insert name dir (new dir))
      | cons other rest =>
        have differ : other ≠ name := by
          rintro rfl
          exact apart (by simp)
        rw [Option.bind_some, Option.bind_some, seek_insert_apart differ]
  · exact kindAt_modify inside _ n

theorem seek_insertAt_apart {at_ : List String} (below : ¬parents ++ [name] <+: at_)
    (above : ¬at_ <+: parents ++ [name]) :
    (n.modify parents fun d => d.insert name (new d)).seek at_ = n.seek at_ := by
  by_cases inside : parents <+: at_
  · obtain ⟨rest, rfl⟩ := inside
    rw [seek_modify, seek_append]
    cases n.seek parents with
    | none => rfl
    | some dir =>
      cases rest with
      | nil => exact absurd (by simp) above
      | cons other rest =>
        have differ : other ≠ name := by
          rintro rfl
          exact below (by simp)
        exact seek_insert_apart differ dir (new dir) rest
  · exact seek_modify_apart inside (fun up => above (up.trans (List.prefix_append ..))) _ n

end

theorem kind_chmod (mode : Nat) (n : Node) : (n.chmod mode).kind = n.kind := by
  cases n <;> rfl

theorem seek_chmod (mode : Nat) (name : String) (rest : List String) (n : Node) :
    (n.chmod mode).seek (name :: rest) = n.seek (name :: rest) := by
  cases n <;> rfl

theorem kindAt_chmod (mode : Nat) (path at_ : List String) (n : Node) :
    (n.modify path (chmod mode)).kindAt at_ = n.kindAt at_ := by
  by_cases inside : path <+: at_
  · obtain ⟨rest, rfl⟩ := inside
    rw [kindAt, seek_modify, kindAt, seek_append]
    cases n.seek path with
    | none => rfl
    | some there =>
      cases rest with
      | nil => exact congrArg some (kind_chmod mode there)
      | cons name rest => rw [Option.bind_some, Option.bind_some, seek_chmod]
  · exact kindAt_modify inside _ n

/-- Only what lies at the path itself and above it is changed. -/
theorem seek_chmod_apart (mode : Nat) {path at_ : List String} (apart : ¬at_ <+: path) (n : Node) :
    (n.modify path (chmod mode)).seek at_ = n.seek at_ := by
  by_cases inside : path <+: at_
  · obtain ⟨rest, rfl⟩ := inside
    rw [seek_modify, seek_append]
    cases rest with
    | nil => exact absurd (by simp) apart
    | cons name rest =>
      cases n.seek path with
      | none => rfl
      | some there => exact seek_chmod mode name rest there
  · exact seek_modify_apart inside apart _ n

theorem seek_makeDirectory {n : Node} {name : String} {at_ : List String} (some : at_ ≠ [])
    (apart : at_ ≠ [name]) : (n.makeDirectory name).seek at_ = n.seek at_ := by
  rw [makeDirectory]
  split
  · rfl
  · next absent =>
    cases at_ with
    | nil => exact absurd rfl some
    | cons other rest =>
      by_cases same : other = name
      · subst same
        cases rest with
        | nil => exact absurd rfl apart
        | cons next rest =>
          rw [Option.not_isSome_iff_eq_none] at absent
          have nothing : n.seek (other :: next :: rest) = none := by rw [seek, absent, Option.bind_none]
          rw [nothing]
          cases n with
          | directory mode entries =>
            rw [seek_insert rfl]
            rfl
          | _ => rfl
      · exact seek_insert_apart same ..

theorem kindAt_makeDirectory (n : Node) (name : String) (at_ : List String) :
    (n.makeDirectory name).kindAt at_ = n.kindAt at_ ∨ at_ = [name] ∧ n.kindAt at_ = none ∧
      (n.makeDirectory name).kindAt at_ = some .directory := by
  by_cases here : at_ = [name]
  · subst here
    rw [makeDirectory]
    split
    · exact .inl rfl
    · next absent =>
      rw [Option.not_isSome_iff_eq_none] at absent
      cases n with
      | directory mode entries =>
        refine .inr ⟨rfl, ?_, ?_⟩
        · rw [kindAt, seek, absent, Option.bind_none, Option.map_none]
        · rw [kindAt, seek_insert rfl]
          rfl
      | _ => exact .inl rfl
  · left
    cases at_ with
    | nil =>
      rw [makeDirectory]
      split
      · rfl
      · exact congrArg some (kind_insert name n _)
    | cons other rest => rw [kindAt, seek_makeDirectory (List.cons_ne_nil other rest) here, kindAt]

/-- What is removed from one directory is missed under its own name only. -/
theorem seek_modify_remove {name other : String} (apart : other ≠ name) (dir : String)
    (rest : List String) (n : Node) :
    (n.modify [dir] (remove name)).seek (dir :: other :: rest) = n.seek (dir :: other :: rest) := by
  rw [seek, entry_modify, if_pos rfl, seek]
  cases n.entry dir with
  | none => rfl
  | some child => exact seek_remove apart rest child

end Node

end WinBoot.FileTree
