import Mathlib.Data.List.DropRight
import Mathlib.Data.List.Infix
import Mathlib.Tactic.Common

/-! Paths as lists cut at a separator. A path that neither begins nor ends with the separator and
never has two in a row is determined by its segments, none of which is empty. -/

namespace WinBoot.PathSegments

variable {α : Type} [DecidableEq α] {sep : α}

/-- What a path names: its segments without the empty ones. -/
def components (sep : α) (path : List α) : List (List α) :=
  (path.splitOn sep).filter fun segment => !segment.isEmpty

/-- A segment ends at a separator or an end of the path, on either side. -/
theorem segment_place {path segment : List α} (member : segment ∈ path.splitOn sep) :
    ∃ before after, path = before ++ segment ++ after ∧
      (before = [] ∨ ∃ b, before = b ++ [sep]) ∧ (after = [] ∨ ∃ a, after = sep :: a) := by
  induction size : path.length using Nat.strong_induction_on generalizing path with
  | _ n ih =>
    by_cases free : sep ∉ path
    · rw [List.splitOn_eq_singleton free, List.mem_singleton] at member
      exact ⟨[], [], by simp [member], .inl rfl, .inl rfl⟩
    · obtain ⟨front, back, rfl, bare⟩ := List.eq_append_cons_of_mem (not_not.mp free)
      rw [List.splitOn_append_cons_self, List.splitOn_eq_singleton bare, List.singleton_append,
        List.mem_cons] at member
      rcases member with rfl | later
      · exact ⟨[], sep :: back, by simp, .inl rfl, .inr ⟨back, rfl⟩⟩
      · have shorter : back.length < n := by
          rw [← size, List.length_append, List.length_cons]
          omega
        obtain ⟨before, after, rfl, open_, close⟩ := ih back.length shorter later rfl
        refine ⟨front ++ sep :: before, after, by simp, .inr ?_, close⟩
        rcases open_ with rfl | ⟨b, rfl⟩
        · exact ⟨front, rfl⟩
        · exact ⟨front ++ sep :: b, by simp⟩

theorem segment_bare {path segment : List α} (member : segment ∈ path.splitOn sep) :
    sep ∉ segment := by
  induction path generalizing segment with
  | nil =>
    rw [List.splitOn_nil, List.mem_singleton] at member
    simp [member]
  | cons a rest ih =>
    rw [List.splitOn_cons_eq_if_modifyHead] at member
    obtain ⟨first, more, pieces⟩ := List.exists_cons_of_ne_nil (List.splitOn_ne_nil sep rest)
    rw [pieces] at member ih
    split at member
    · obtain rfl | later := List.mem_cons.mp member
      · exact List.not_mem_nil
      · exact ih later
    · next other =>
      rw [List.modifyHead_cons, List.mem_cons] at member
      obtain rfl | later := member
      · have apart : a ≠ sep := by simpa using other
        simpa [apart.symm] using ih List.mem_cons_self
      · exact ih (List.mem_cons_of_mem _ later)

/-- A path with text at both ends and no empty segment between. -/
structure Plain (sep : α) (path : List α) : Prop where
  nonempty : path ≠ []
  head : path.head? ≠ some sep
  last : path.getLast? ≠ some sep
  single : ¬[sep, sep] <:+: path

theorem Plain.segment_some {path : List α} (plain : Plain sep path) :
    [] ∉ path.splitOn sep := by
  intro member
  obtain ⟨before, after, whole, open_, close⟩ := segment_place member
  rw [List.append_nil] at whole
  rcases open_ with rfl | ⟨b, rfl⟩
  · rcases close with rfl | ⟨a, rfl⟩
    · exact plain.nonempty whole
    · exact plain.head (by simp [whole])
  · rcases close with rfl | ⟨a, rfl⟩
    · exact plain.last (by simp [whole])
    · exact plain.single ⟨b, a, by simp [whole]⟩

theorem Plain.components_eq {path : List α} (plain : Plain sep path) :
    components sep path = path.splitOn sep := by
  refine List.filter_eq_self.mpr fun segment member => ?_
  have some : segment ≠ [] := fun empty => plain.segment_some (empty ▸ member)
  simpa using some

theorem components_trailing (path : List α) :
    components sep (path ++ [sep]) = components sep path := by
  rw [components, List.splitOn_append_cons_self, List.splitOn_nil, List.filter_append]
  simp [components]

theorem components_append (p q : List α) :
    components sep (p ++ sep :: q) = components sep p ++ components sep q := by
  rw [components, List.splitOn_append_cons_self, List.filter_append]
  rfl

theorem Plain.components_inj {p q : List α} (hp : Plain sep p) (hq : Plain sep q)
    (same : components sep p = components sep q) : p = q := by
  rw [hp.components_eq, hq.components_eq] at same
  have joined := congrArg (List.intercalate [sep]) same
  rwa [List.intercalate_splitOn, List.intercalate_splitOn] at joined

omit [DecidableEq α] in
theorem intercalate_append {front back : List (List α)} (some : front ≠ []) (more : back ≠ []) :
    [sep].intercalate (front ++ back) = [sep].intercalate front ++ sep :: [sep].intercalate back := by
  induction front with
  | nil => contradiction
  | cons a front ih =>
    cases front with
    | nil =>
      rw [List.singleton_append, List.intercalate_cons_of_ne_nil more, List.intercalate_singleton]
      simp
    | cons b front =>
      have rest := ih (List.cons_ne_nil b front)
      rw [List.cons_append, List.cons_append, List.intercalate_cons_cons, ← List.cons_append, rest,
        List.intercalate_cons_cons]
      simp

/-- The segments of one path go on those of another where its text does behind a separator. -/
theorem splitOn_begins {p q : List α} :
    p.splitOn sep <+: q.splitOn sep ↔ p = q ∨ p ++ [sep] <+: q := by
  constructor
  · rintro ⟨more, whole⟩
    have joined := congrArg (List.intercalate [sep]) whole
    rw [List.intercalate_splitOn] at joined
    by_cases last : more = []
    · rw [last, List.append_nil, List.intercalate_splitOn] at joined
      exact .inl joined
    · rw [intercalate_append (List.splitOn_ne_nil sep p) last, List.intercalate_splitOn] at joined
      exact .inr ⟨[sep].intercalate more, by rw [← joined, List.append_assoc]; rfl⟩
  · rintro (rfl | ⟨rest, rfl⟩)
    · exact List.prefix_rfl
    · rw [List.append_assoc, List.singleton_append, List.splitOn_append_cons_self]
      exact List.prefix_append ..

/-- Without a doubled or leading separator at most one trailing separator is cut off. -/
theorem trailing_cases {path : List α} (nonempty : path ≠ []) (head : path.head? ≠ some sep)
    (single : ¬[sep, sep] <:+: path) :
    Plain sep (path.rdropWhile (· == sep)) ∧ (path = path.rdropWhile (· == sep) ∨
      path = path.rdropWhile (· == sep) ++ [sep]) := by
  have front := List.rdropWhile_append_rtakeWhile (p := (· == sep)) (l := path)
  have back : ∀ a ∈ path.rtakeWhile (· == sep), a = sep := fun a member => by
    simpa using List.mem_rtakeWhile_imp member
  have short : path.rtakeWhile (· == sep) = [] ∨ path.rtakeWhile (· == sep) = [sep] := by
    match tail : path.rtakeWhile (· == sep) with
    | [] => exact .inl rfl
    | [a] => exact .inr (by rw [back a (by simp [tail])])
    | a :: b :: more =>
      refine absurd ⟨path.rdropWhile (· == sep), more, ?_⟩ single
      rw [tail, back a (by simp [tail]), back b (by simp [tail])] at front
      simpa using front
  have kept : path.rdropWhile (· == sep) ≠ [] := by
    intro none
    rw [none, List.nil_append] at front
    rcases short with empty | one
    · exact nonempty (front ▸ empty)
    · exact head (by rw [← front, one]; rfl)
  refine ⟨⟨kept, ?_, ?_, ?_⟩, ?_⟩
  · intro first
    refine head ?_
    rw [← front, List.head?_append, first]
    rfl
  · intro last
    have clean := List.rdropWhile_last_not (· == sep) path kept
    rw [List.getLast?_eq_some_getLast kept, Option.some.injEq] at last
    simp [last] at clean
  · exact fun doubled => single (doubled.trans (List.rdropWhile_prefix _ path).isInfix)
  · rcases short with empty | one
    · exact .inl (by rw [empty, List.append_nil] at front; exact front.symm)
    · exact .inr (by rw [one] at front; exact front.symm)

end WinBoot.PathSegments
