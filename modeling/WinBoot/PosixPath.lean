import WinBoot.Extraction
import WinBoot.PathSegments

/-! Archive names as the bundle builders see them: the text functions they call, and the steps
that the extraction takes for the same text. -/

namespace WinBoot.PosixPath
open PathSegments Extraction

abbrev Text : Type := List Char

def dot : Text := ['.']
def dotDot : Text := ['.', '.']

/-- `PurePosixPath(path).parts` of a relative path: empty and `.` components are dropped. -/
def parts (path : Text) : List Text := (components '/' path).filter (· ≠ dot)

def isAbsolute (path : Text) : Bool := path.head? = some '/'

def joined (names : List Text) : Text := ['/'].intercalate names

/-- `str(PurePosixPath(path).parent)` of a relative path. -/
def parentText (path : Text) : Text :=
  match (parts path).dropLast with
  | [] => dot
  | names => joined names

/-- `posixpath.join` -/
def join (a b : Text) : Text :=
  if isAbsolute b then b
  else if a = [] ∨ a.getLast? = some '/' then a ++ b
  else a ++ '/' :: b

/-- The loop of `posixpath.normpath` over the components; `rooted` is whether the path begins
with a slash. -/
def normStep (rooted : Bool) (names : List Text) (component : Text) : List Text :=
  if component ≠ dotDot ∨ (!rooted ∧ names = []) ∨ names.getLast? = some dotDot then
    names ++ [component]
  else names.dropLast

/-- `posixpath.normpath` -/
def normpath (path : Text) : Text :=
  let slashes := if ['/', '/'].isPrefixOf path ∧ ¬['/', '/', '/'].isPrefixOf path then 2
    else if isAbsolute path then 1 else 0
  let names := (parts path).foldl (normStep (0 < slashes)) []
  let text := List.replicate slashes '/' ++ joined names
  if text = [] then dot else text

/-- The result of `normpath` begins above where the path starts. -/
def climbs (resolved : Text) : Bool := resolved = dotDot ∨ ['.', '.', '/'].isPrefixOf resolved

def stepOf (component : Text) : Step Text := if component = dotDot then .up else .down component

def stepsOf (path : Text) : List (Step Text) := (parts path).map stepOf

def targetOf (linkname : Text) : Target Text := ⟨isAbsolute linkname, stepsOf linkname⟩

theorem mem_parts {path name : Text} (member : name ∈ parts path) :
    name ≠ [] ∧ name ≠ dot ∧ '/' ∉ name := by
  simp only [parts, components, List.mem_filter, decide_eq_true_eq, Bool.not_eq_true',
    List.isEmpty_eq_false_iff] at member
  obtain ⟨⟨piece, some⟩, other⟩ := member
  exact ⟨some, other, segment_bare piece⟩

theorem stepsOf_down {path : Text} (level : dotDot ∉ parts path) :
    stepsOf path = (parts path).map .down := by
  refine List.map_congr_left fun name member => if_neg ?_
  rintro rfl
  exact level member

theorem parts_append_slash (front back : Text) :
    parts (front ++ '/' :: back) = parts front ++ parts back := by
  rw [parts, components, List.splitOn_append_cons_self, List.filter_append, List.filter_append]
  rfl

theorem parts_joined {names : List Text} (clean : ∀ name ∈ names,
    name ≠ [] ∧ name ≠ dot ∧ '/' ∉ name) : parts (joined names) = names := by
  cases names with
  | nil => rfl
  | cons first rest =>
    have bare : ∀ name ∈ first :: rest, '/' ∉ name := fun name member => (clean name member).2.2
    rw [parts, components, List.filter_filter, joined,
      List.splitOn_intercalate _ bare (List.cons_ne_nil _ _), List.filter_eq_self]
    intro name member
    simpa using ⟨(clean name member).2.1, (clean name member).1⟩

theorem parts_parentText (path : Text) : parts (parentText path) = (parts path).dropLast := by
  rw [parentText]
  split
  · next none => rw [none]; rfl
  · next names _ =>
    exact parts_joined fun name member => mem_parts (List.dropLast_subset _ member)

/-- What has climbed above the start stays there. -/
theorem normStep_above (components : List Text) {names : List Text}
    (above : names.head? = some dotDot) :
    (components.foldl (normStep false) names).head? = some dotDot := by
  induction components generalizing names with
  | nil => exact above
  | cons component rest ih =>
    refine ih ?_
    rw [normStep]
    split
    · rw [List.head?_append, above]
      rfl
    · next pops =>
      have last : names.getLast? ≠ some dotDot := fun last => pops (.inr (.inr last))
      match names with
      | [] => cases above
      | [name] => exact absurd above last
      | name :: second :: more => exact above

/-- A path that normalizes to one below its start never leaves it on the way. -/
theorem clear_of_normal (components : List Text) {names : List Text}
    (level : dotDot ∉ names)
    (below : (components.foldl (normStep false) names).head? ≠ some dotDot) :
    Clear (fun _ => False) names (components.map stepOf) := by
  induction components generalizing names with
  | nil => trivial
  | cons component rest ih =>
    rw [List.foldl_cons] at below
    have last : names.getLast? ≠ some dotDot := fun last => level (List.mem_of_getLast? last)
    by_cases up : component = dotDot
    · subst up
      have some : names ≠ [] := by
        rintro rfl
        exact below (normStep_above rest rfl)
      have pops : normStep false names dotDot = names.dropLast :=
        if_neg (by simp [some, last])
      rw [pops] at below
      rw [List.map_cons, stepOf, if_pos rfl]
      exact ⟨some, ih (fun member => level (List.dropLast_subset _ member)) below⟩
    · have pushes : normStep false names component = names ++ [component] := if_pos (.inl up)
      rw [pushes] at below
      rw [List.map_cons, stepOf, if_neg up]
      refine ⟨.inr id, ih ?_ below⟩
      simpa [level] using Ne.symm up

/-- A name that begins with `..` is seen to climb. -/
theorem climbs_joined {names : List Text} (above : names.head? = some dotDot) :
    climbs (joined names) := by
  match names with
  | [] => cases above
  | [name] =>
    obtain rfl : name = dotDot := Option.some.inj above
    decide
  | name :: second :: more =>
    obtain rfl : name = dotDot := Option.some.inj above
    simp [climbs, joined, dotDot, List.intercalate, List.intersperse]

theorem joined_begins (c : Char) (tail : Text) (more : List Text) :
    ∃ rest, joined ((c :: tail) :: more) = c :: rest := by
  cases more with
  | nil => exact ⟨tail, by simp [joined, List.intercalate]⟩
  | cons second more => exact ⟨_, by simp [joined, List.intercalate, List.intersperse]; rfl⟩

theorem foldl_level {names : List Text} (level : dotDot ∉ names) (before : List Text) :
    names.foldl (normStep false) before = before ++ names := by
  induction names generalizing before with
  | nil => simp
  | cons name rest ih =>
    rw [List.mem_cons, not_or] at level
    rw [List.foldl_cons, normStep, if_pos (.inl (Ne.symm level.1)), ih level.2]
    simp

theorem parentText_relative (path : Text) : ∃ c rest, parentText path = c :: rest ∧ c ≠ '/' := by
  rw [parentText]
  split
  · exact ⟨'.', [], rfl, by decide⟩
  · match shape : (parts path).dropLast with
    | [] => contradiction
    | name :: more =>
      obtain ⟨full, -, bare⟩ := mem_parts (List.dropLast_subset _ (shape ▸ List.mem_cons_self))
      obtain ⟨c, tail, rfl⟩ := List.exists_cons_of_ne_nil full
      obtain ⟨rest, begins⟩ := joined_begins c tail more
      refine ⟨c, rest, begins, ?_⟩
      rintro rfl
      exact bare List.mem_cons_self

theorem parts_join {a b : Text} (relative : isAbsolute b = false) :
    parts (join a b) = parts a ++ parts b := by
  rw [join, if_neg (by simp [relative])]
  split
  · next ends =>
    obtain rfl | last := ends
    · rfl
    · obtain ⟨front, rfl⟩ := List.getLast?_eq_some_iff.mp last
      rw [List.append_assoc, List.singleton_append, parts_append_slash, parts_append_slash]
      simp [parts, components]
  · exact parts_append_slash a b

/-- A link whose target normalizes below the root stays below it all along, as long as its path
passes no link. -/
theorem clear_of_resolved {name target : Text} (level : dotDot ∉ parts name)
    (relative : isAbsolute target = false)
    (below : climbs (normpath (join (parentText name) target)) = false) :
    Clear (fun _ => False) (parts name).dropLast (stepsOf target) := by
  have parent : dotDot ∉ (parts name).dropLast := fun up => level (List.dropLast_subset _ up)
  refine clear_of_normal (parts target) parent fun above => ?_
  obtain ⟨c, rest, begins, bare⟩ := parentText_relative name
  obtain ⟨more, whole⟩ : ∃ more, join (parentText name) target = c :: more := by
    rw [join, if_neg (by simp [relative]), begins]
    split <;> exact ⟨_, rfl⟩
  have names : (parts (join (parentText name) target)).foldl (normStep false) [] =
      (parts target).foldl (normStep false) (parts name).dropLast := by
    rw [parts_join relative, parts_parentText, List.foldl_append, foldl_level parent,
      List.nil_append]
  rw [← names, whole] at above
  have climbed := climbs_joined above
  have some : joined ((parts (c :: more)).foldl (normStep false) []) ≠ [] := by
    intro none
    rw [none] at climbed
    cases climbed
  rw [whole] at below
  simp [normpath, isAbsolute, bare, Ne.symm bare, some, climbed] at below

end WinBoot.PosixPath
