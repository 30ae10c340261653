import Mathlib.Data.List.Infix
import Mathlib.Logic.Function.Basic
import Mathlib.Tactic.Common

/-! Extracting entries below a root where earlier entries may have left symbolic links. Names are
arbitrary. A place is either below the root or outside it, and a path that climbs above the root
or meets an absolute link is outside from there on. -/

namespace WinBoot.Extraction

variable {N : Type}

inductive Step (N : Type) where
  | up
  | down (name : N)
deriving DecidableEq

structure Target (N : Type) where
  absolute : Bool
  steps : List (Step N)
deriving DecidableEq

inductive Place (N : Type) where
  | inside (path : List N)
  | outside
deriving DecidableEq

/-- The symbolic links below the root. -/
abbrev Links (N : Type) : Type := List N → Option (Target N)

def Place.child : Place N → N → Place N
  | inside path, name => inside (path ++ [name])
  | outside, _ => outside

def Links.put [DecidableEq N] (links : Links N) (target : Option (Target N)) : Place N → Links N
  | .inside path => Function.update links path target
  | .outside => links

/-- Where a path leads, links followed; `none` when there are too many steps to it. -/
def walk (links : Links N) : Nat → List N → List (Step N) → Option (Place N)
  | _, here, [] => some (.inside here)
  | 0, _, _ :: _ => none
  | limit + 1, here, .up :: rest =>
    if here.isEmpty then some .outside else walk links limit here.dropLast rest
  | limit + 1, here, .down name :: rest =>
    match links (here ++ [name]) with
    | none => walk links limit (here ++ [name]) rest
    | some target =>
      if target.absolute then some .outside else walk links limit here (target.steps ++ rest)

inductive Kind (N : Type) where
  | file
  | directory
  | symlink (target : Target N)
  | hardlink (target : List (Step N))
deriving DecidableEq

structure Entry (N : Type) where
  parent : List N
  name : N
  kind : Kind N
deriving DecidableEq

def Entry.path (entry : Entry N) : List N := entry.parent ++ [entry.name]

/-- Where a last name comes to stand: links are followed up to it. -/
def land (links : Links N) (limit : Nat) (parent : List (Step N)) (name : N) : Option (Place N) :=
  (walk links limit [] parent).map fun place => place.child name

def Entry.landing (links : Links N) (limit : Nat) (entry : Entry N) : Option (Place N) :=
  land links limit (entry.parent.map .down) entry.name

/-- One entry and the places it touches. Any entry may be refused once its parents are there.
With `through`, a file may also be written through a link that stands at its place. -/
inductive Extract [DecidableEq N] (through : Bool) (limit : Nat) :
    Links N → Entry N → Links N → List (Place N) → Prop
  | refused {links : Links N} {entry : Entry N} :
    Extract through limit links entry links (entry.landing links limit).toList
  | plain {links : Links N} {entry : Entry N} {place : Place N}
    (kind : entry.kind = .file ∨ entry.kind = .directory)
    (landed : entry.landing links limit = some place) :
    Extract through limit links entry (links.put none place) [place]
  | written {links : Links N} {entry : Entry N} {place : Place N} (allowed : through = true)
    (kind : entry.kind = .file)
    (led : walk links limit [] (entry.path.map .down) = some place) :
    Extract through limit links entry links [place]
  | symlink {links : Links N} {entry : Entry N} {place : Place N} {target : Target N}
    (kind : entry.kind = .symlink target) (landed : entry.landing links limit = some place) :
    Extract through limit links entry (links.put (some target) place) [place]
  | hardlink {links : Links N} {entry : Entry N} {place source : Place N}
    {parent : List (Step N)} {name : N} (kind : entry.kind = .hardlink (parent ++ [.down name]))
    (landed : entry.landing links limit = some place)
    (found : land links limit parent name = some source) :
    Extract through limit links entry
      (links.put (match source with | .inside path => links path | .outside => none) place)
      [source, place]

/-- A series of entries, from no links at all. -/
inductive Extracts [DecidableEq N] (through : Bool) (limit : Nat) :
    List (Entry N) → Links N → List (Place N) → Prop
  | nil : Extracts through limit [] (fun _ => none) []
  | snoc {entries : List (Entry N)} {entry : Entry N} {links links' : Links N}
    {touched new : List (Place N)} (before : Extracts through limit entries links touched)
    (step : Extract through limit links entry links' new) :
    Extracts through limit (entries ++ [entry]) links' (touched ++ new)

/-! Paths that pass no link on their way. -/

/-- The path stays below the root, and nothing it goes through is in `blocked`; where it ends may
be. -/
def Clear (blocked : List N → Prop) : List N → List (Step N) → Prop
  | _, [] => True
  | here, .up :: rest => here ≠ [] ∧ Clear blocked here.dropLast rest
  | here, .down name :: rest =>
    (rest = [] ∨ ¬blocked (here ++ [name])) ∧ Clear blocked (here ++ [name]) rest

/-- The places a path goes through before its end, read without links. -/
def passed : List N → List (Step N) → List (List N)
  | _, [] => []
  | here, .up :: rest => passed here.dropLast rest
  | here, .down name :: rest =>
    (if rest.isEmpty then [] else [here ++ [name]]) ++ passed (here ++ [name]) rest

/-- No proper beginning of the path is in `blocked`. -/
def Direct (blocked : List N → Prop) (path : List N) : Prop :=
  ∀ front, front <+: path → front ≠ path → ¬blocked front

section

variable {blocked : List N → Prop} {links : Links N}

/-- Links stand only where they are expected. -/
def Within (blocked : List N → Prop) (links : Links N) : Prop :=
  ∀ path, links path ≠ none → blocked path

/-- Each link, read from where it stands, passes no other link before its end. -/
def Tame (blocked : List N → Prop) (links : Links N) : Prop :=
  ∀ path target, links path = some target →
    target.absolute = false ∧ Clear blocked path.dropLast target.steps

/-- Of a path that passes no link only the end can be one, and a tame link leads on below the
root. -/
theorem walk_clear (within : Within blocked links) (tame : Tame blocked links) (limit : Nat)
    {here : List N} {steps : List (Step N)} (clear : Clear blocked here steps) :
    walk links limit here steps ≠ some .outside := by
  induction limit generalizing here steps with
  | zero => cases steps <;> simp [walk]
  | succ limit ih =>
    match steps, clear with
    | [], _ => simp [walk]
    | .up :: rest, ⟨below, clear⟩ =>
      rw [walk, if_neg (by simpa using below)]
      exact ih clear
    | .down name :: rest, ⟨last, clear⟩ =>
      rw [walk]
      cases found : links (here ++ [name]) with
      | none => exact ih clear
      | some target =>
        have hit : blocked (here ++ [name]) := within _ (by simp [found])
        obtain rfl := last.resolve_right (not_not.mpr hit)
        obtain ⟨relative, clear⟩ := tame _ _ found
        rw [List.dropLast_concat] at clear
        simp only [relative, Bool.false_eq_true, if_false, List.append_nil]
        exact ih clear

/-- Plain names past no link lead to the path they spell. -/
theorem walk_free (limit : Nat) (here path : List N)
    (free : ∀ front, front <+: path → front ≠ [] → links (here ++ front) = none) :
    walk links limit here (path.map .down) = none ∨
      walk links limit here (path.map .down) = some (.inside (here ++ path)) := by
  induction path generalizing limit here with
  | nil => exact .inr (by cases limit <;> simp [walk])
  | cons name path ih =>
    cases limit with
    | zero => exact .inl rfl
    | succ limit =>
      have first : links (here ++ [name]) = none :=
        free [name] ⟨path, rfl⟩ (List.cons_ne_nil _ _)
      have rest := ih limit (here ++ [name]) fun front begins some => by
        rw [List.append_assoc]
        exact free (name :: front) (List.cons_prefix_cons.mpr ⟨rfl, begins⟩) (List.cons_ne_nil _ _)
      rw [List.map_cons, walk, first]
      simpa using rest

/-- An entry past no link lands on its own path. -/
theorem landing_direct (within : Within blocked links) {entry : Entry N}
    (direct : Direct blocked entry.path) (limit : Nat) {place : Place N}
    (landed : entry.landing links limit = some place) : place = .inside entry.path := by
  have free : ∀ front, front <+: entry.parent → front ≠ [] → links ([] ++ front) = none := by
    intro front begins _
    by_contra linked
    refine direct front (begins.trans (List.prefix_append _ _)) ?_ (within _ linked)
    rintro rfl
    have long := begins.length_le
    rw [Entry.path, List.length_append, List.length_singleton] at long
    omega
  obtain ⟨at_, led, rfl⟩ := Option.map_eq_some_iff.mp landed
  obtain none | some := walk_free limit [] entry.parent free
  · cases none.symm.trans led
  · obtain rfl := Option.some.inj (some.symm.trans led)
    rfl

/-- The way to a last name that passes no link stays below the root. -/
theorem walk_parent (within : Within blocked links) (limit : Nat) {here : List N}
    {steps : List (Step N)} {name : N} (clear : Clear blocked here (steps ++ [.down name])) :
    walk links limit here steps ≠ some .outside := by
  induction limit generalizing here steps with
  | zero => cases steps <;> simp [walk]
  | succ limit ih =>
    match steps, clear with
    | [], _ => simp [walk]
    | .up :: rest, ⟨below, clear⟩ =>
      rw [walk, if_neg (by simpa using below)]
      exact ih clear
    | .down first :: rest, ⟨last, clear⟩ =>
      have free : links (here ++ [first]) = none := by
        by_contra linked
        exact last.resolve_left (by simp) (within _ linked)
      rw [walk, free]
      exact ih clear

theorem Direct.clear {here path : List N} (direct : Direct blocked (here ++ path)) :
    Clear blocked here (path.map .down) := by
  induction path generalizing here with
  | nil => trivial
  | cons name rest ih =>
    have whole : here ++ name :: rest = here ++ [name] ++ rest := by simp
    rw [whole] at direct
    refine ⟨?_, ih direct⟩
    cases rest with
    | nil => exact .inl rfl
    | cons second rest => exact .inr (direct _ (List.prefix_append _ _) (by simp))

theorem clear_of_passed {here : List N} {steps : List (Step N)}
    (below : Clear (fun _ => False) here steps)
    (free : ∀ place ∈ passed here steps, ¬blocked place) :
    Clear blocked here steps := by
  match steps, below with
  | [], _ => trivial
  | .up :: rest, ⟨lower, below⟩ => exact ⟨lower, clear_of_passed below free⟩
  | .down name :: rest, ⟨_, below⟩ =>
    rw [passed] at free
    refine ⟨?_, clear_of_passed below fun place member => free place (by simp [member])⟩
    cases rest with
    | nil => exact .inl rfl
    | cons step rest => exact .inr (free _ (by simp))

/-- Plain names go through every proper beginning of the path they spell. -/
theorem mem_passed_down {here path front : List N} (begins : front <+: path) (proper : front ≠ path)
    (full : front ≠ []) : here ++ front ∈ passed here (path.map .down) := by
  induction path generalizing here front with
  | nil => exact absurd (List.prefix_nil.mp begins) full
  | cons name rest ih =>
    match front with
    | [] => exact absurd rfl full
    | first :: front =>
      obtain ⟨rfl, inner⟩ := List.cons_prefix_cons.mp begins
      have proper : front ≠ rest := fun same => proper (by rw [same])
      rw [List.map_cons, passed, List.mem_append]
      cases front with
      | nil => simp [Ne.symm proper]
      | cons second front =>
        have later : here ++ [first] ++ second :: front ∈ passed (here ++ [first]) (rest.map .down) :=
          ih inner proper (List.cons_ne_nil _ _)
        exact .inr (by simpa using later)

theorem Within.put [DecidableEq N] (within : Within blocked links) {path : List N}
    {target : Option (Target N)} (expected : target ≠ none → blocked path) :
    Within blocked (links.put target (.inside path)) := by
  intro other some
  by_cases same : other = path
  · subst same
    exact expected (by simpa [Links.put] using some)
  · rw [Links.put, Function.update_of_ne same] at some
    exact within other some

theorem Tame.put [DecidableEq N] (tame : Tame blocked links) {path : List N}
    {target : Option (Target N)} (good : ∀ t ∈ target, t.absolute = false ∧
      Clear blocked path.dropLast t.steps) :
    Tame blocked (links.put target (.inside path)) := by
  intro other t some
  by_cases same : other = path
  · subst same
    exact good t (by simpa [Links.put] using some)
  · rw [Links.put, Function.update_of_ne same] at some
    exact tame other t some

/-- What an entry needs so that links stay where they are expected: it passes none of them, and
neither does the name it is linked to. -/
structure Placed (blocked : List N → Prop) (entry : Entry N) : Prop where
  direct : Direct blocked entry.path
  symlink : ∀ target, entry.kind = .symlink target → blocked entry.path
  hardlink : ∀ target, entry.kind = .hardlink target → blocked entry.path ∧ Clear blocked [] target

/-- What a bundle of files and symbolic links needs so that every link leads on below the root. -/
structure Led (blocked : List N → Prop) (entry : Entry N) : Prop extends Placed blocked entry where
  single : ∀ target, entry.kind ≠ .hardlink target
  relative : ∀ target, entry.kind = .symlink target →
    target.absolute = false ∧ Clear blocked entry.parent target.steps

variable [DecidableEq N] {through : Bool} {limit : Nat} {entry : Entry N} {links' : Links N}
  {touched : List (Place N)}

theorem Extract.within (step : Extract through limit links entry links' touched)
    (placed : Placed blocked entry) (within : Within blocked links) : Within blocked links' := by
  cases step with
  | refused => exact within
  | plain kind landed =>
    obtain rfl := landing_direct within placed.direct limit landed
    exact within.put fun some => absurd rfl some
  | written => exact within
  | symlink kind landed =>
    obtain rfl := landing_direct within placed.direct limit landed
    exact within.put fun _ => placed.symlink _ kind
  | hardlink kind landed found =>
    obtain rfl := landing_direct within placed.direct limit landed
    exact within.put fun _ => (placed.hardlink _ kind).1

/-- What one entry touches is below the root, unless it is written through a link. -/
theorem Extract.inside (step : Extract false limit links entry links' touched)
    (placed : Placed blocked entry) (within : Within blocked links) : .outside ∉ touched := by
  have lands {place : Place N} (landed : entry.landing links limit = some place) :
      place ≠ .outside := by
    rw [landing_direct within placed.direct limit landed]
    exact nofun
  cases step with
  | refused =>
    intro member
    exact lands (Option.mem_toList.mp member) rfl
  | plain kind landed => simpa using (lands landed).symm
  | written allowed => cases allowed
  | symlink kind landed => simpa using (lands landed).symm
  | @hardlink place source parent name kind landed found =>
    have clear := (placed.hardlink _ kind).2
    have below : source ≠ .outside := by
      rintro rfl
      obtain ⟨directory, led, out⟩ := Option.map_eq_some_iff.mp found
      cases directory with
      | inside path => cases out
      | outside => exact walk_parent within limit clear led
    simpa using ⟨below.symm, (lands landed).symm⟩

theorem Extract.tame (step : Extract through limit links entry links' touched)
    (led : Led blocked entry) (within : Within blocked links) (tame : Tame blocked links) :
    Tame blocked links' := by
  cases step with
  | refused => exact tame
  | plain kind landed =>
    obtain rfl := landing_direct within led.direct limit landed
    exact tame.put nofun
  | written => exact tame
  | symlink kind landed =>
    obtain rfl := landing_direct within led.direct limit landed
    refine tame.put fun t here => ?_
    obtain rfl := Option.some.inj here
    rw [Entry.path, List.dropLast_concat]
    exact led.relative _ kind
  | hardlink kind => exact absurd kind (led.single _)

/-- What one entry touches is below the root, links at its place included. -/
theorem Extract.inside_led (step : Extract through limit links entry links' touched)
    (led : Led blocked entry) (within : Within blocked links) (tame : Tame blocked links) :
    .outside ∉ touched := by
  cases step with
  | refused => exact Extract.refused.inside led.toPlaced within
  | plain kind landed => exact (Extract.plain kind landed).inside led.toPlaced within
  | @written place allowed kind found =>
    have direct : Direct blocked ([] ++ entry.path) := led.direct
    have clear : Clear blocked [] (entry.path.map .down) := direct.clear
    have below : place ≠ .outside := by
      rintro rfl
      exact walk_clear within tame limit clear found
    simpa using below.symm
  | symlink kind landed => exact (Extract.symlink kind landed).inside led.toPlaced within
  | hardlink kind => exact absurd kind (led.single _)

variable {entries : List (Entry N)}

theorem Extracts.within (run : Extracts through limit entries links touched)
    (placed : ∀ entry ∈ entries, Placed blocked entry) : Within blocked links := by
  induction run with
  | nil => exact fun _ some => absurd rfl some
  | snoc before step ih =>
    have earlier := ih fun entry member => placed entry (List.mem_append_left _ member)
    exact step.within (placed _ (by simp)) earlier

/-- Entries past no link touch nothing outside the root. -/
theorem Extracts.inside (run : Extracts false limit entries links touched)
    (placed : ∀ entry ∈ entries, Placed blocked entry) : .outside ∉ touched := by
  induction run with
  | nil => exact List.not_mem_nil
  | snoc before step ih =>
    have earlier : ∀ entry ∈ _, Placed blocked entry :=
      fun entry member => placed entry (List.mem_append_left _ member)
    rw [List.mem_append, not_or]
    exact ⟨ih earlier, step.inside (placed _ (by simp)) (before.within earlier)⟩

/-- Files and symbolic links past no link touch nothing outside the root, and every link that is
left leads on below it. -/
theorem Extracts.led (run : Extracts through limit entries links touched)
    (led : ∀ entry ∈ entries, Led blocked entry) : Tame blocked links ∧ .outside ∉ touched := by
  induction run with
  | nil => exact ⟨nofun, List.not_mem_nil⟩
  | snoc before step ih =>
    have earlier : ∀ entry ∈ _, Led blocked entry :=
      fun entry member => led entry (List.mem_append_left _ member)
    have within := before.within fun entry member => (earlier entry member).toPlaced
    obtain ⟨tame, inside⟩ := ih earlier
    have last := led _ (List.mem_append_right _ (List.mem_singleton_self _))
    rw [List.mem_append, not_or]
    exact ⟨step.tame last within tame, inside, step.inside_led last within tame⟩

end

end WinBoot.Extraction
