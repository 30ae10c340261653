import Mathlib.Data.List.DropRight
import Mathlib.Tactic.Common

/-! Text padded to a fixed width, read in two ways: stripped of its padding at both ends, or cut
at its first padding. The two agree when the stripped text holds no padding and the field does
not begin with it. Elements and the padding test are arbitrary. -/

namespace WinBoot.PaddedField

variable {α : Type} (pad : α → Bool)

/-- The field without the padding at either end. -/
def strip (field : List α) : List α := (field.dropWhile pad).rdropWhile pad

/-- The field up to its first padding. -/
def cut (field : List α) : List α := field.takeWhile fun a => !pad a

/-- A field that begins with padding holds nothing else. -/
def Anchored (field : List α) : Prop :=
  (field.head?.any pad → field.all pad)

instance (field : List α) : Decidable (Anchored pad field) :=
  inferInstanceAs (Decidable (_ → _))

variable {pad}

theorem strip_eq_nil {field : List α} : strip pad field = [] ↔ field.all pad := by
  rw [strip, List.rdropWhile_eq_nil_iff, List.all_eq_true]
  constructor
  · intro clear a member
    rw [← List.takeWhile_append_dropWhile (p := pad) (l := field), List.mem_append] at member
    rcases member with early | late
    · exact List.mem_takeWhile_imp early
    · exact clear a late
  · intro clear a member
    exact clear a ((List.dropWhile_suffix pad).mem member)

theorem strip_mem {field : List α} {a : α} (member : a ∈ strip pad field) : a ∈ field :=
  (List.dropWhile_suffix pad).mem ((List.rdropWhile_prefix _ _).mem member)

/-- Nothing but padding is stripped. -/
theorem mem_strip_or_pad (pad : α → Bool) {field : List α} {a : α} (member : a ∈ field) :
    a ∈ strip pad field ∨ pad a := by
  rw [← List.takeWhile_append_dropWhile (p := pad) (l := field), List.mem_append] at member
  rcases member with early | late
  · exact .inr (List.mem_takeWhile_imp early)
  · rw [← List.rdropWhile_append_rtakeWhile (p := pad) (l := field.dropWhile pad),
      List.mem_append] at late
    exact late.imp_right List.mem_rtakeWhile_imp

theorem strip_dropWhile {skip : α → Bool} (padding : ∀ a, skip a → pad a) (field : List α) :
    strip pad (field.dropWhile skip) = strip pad field := by
  induction field with
  | nil => rfl
  | cons a rest ih =>
    by_cases skipped : skip a
    · rw [List.dropWhile_cons_of_pos skipped, ih, strip, strip,
        List.dropWhile_cons_of_pos (padding a skipped)]
    · rw [List.dropWhile_cons_of_neg skipped]

theorem cut_of_head {field : List α} (head : field.head?.any pad) : cut pad field = [] := by
  cases field with
  | nil => rfl
  | cons a rest => exact List.takeWhile_cons_of_neg (by simpa using head)

theorem cut_append {text tail : List α} (clean : ∀ a ∈ text, ¬pad a) (rest : ∀ a ∈ tail, pad a) :
    cut pad (text ++ tail) = text := by
  rw [cut, List.takeWhile_append_of_pos fun a member => by simpa using clean a member]
  cases tail with
  | nil => simp
  | cons a tail => simp [rest a List.mem_cons_self]

/-- Padding removed from the right leaves a text whose first padding is where it ends. -/
theorem cut_of_clean {field : List α} (clean : ∀ a ∈ field.rdropWhile pad, ¬pad a) :
    cut pad field = field.rdropWhile pad := by
  have rest : ∀ a ∈ field.rtakeWhile pad, pad a := fun _ => List.mem_rtakeWhile_imp
  have whole := cut_append clean rest
  rwa [List.rdropWhile_append_rtakeWhile] at whole

theorem cut_eq_strip {field : List α} (clean : ∀ a ∈ strip pad field, ¬pad a)
    (head : ¬field.head?.any pad) : cut pad field = strip pad field := by
  have kept : field.dropWhile pad = field := by
    cases field with
    | nil => rfl
    | cons a rest => exact List.dropWhile_cons_of_neg (by simpa using head)
  rw [strip, kept] at clean ⊢
  exact cut_of_clean clean

/-- Either both readings agree, or a leading padding hides the text from the second. -/
theorem cut_cases {field : List α} (clean : ∀ a ∈ strip pad field, ¬pad a) :
    (Anchored pad field ∧ cut pad field = strip pad field) ∨
      (¬Anchored pad field ∧ cut pad field = [] ∧ strip pad field ≠ []) := by
  by_cases head : field.head?.any pad
  · by_cases all : field.all pad
    · exact .inl ⟨fun _ => all, by rw [cut_of_head head, strip_eq_nil.mpr all]⟩
    · exact .inr ⟨fun anchored => all (anchored head), cut_of_head head,
        fun empty => all (strip_eq_nil.mp empty)⟩
  · exact .inl ⟨fun hidden => absurd hidden head, cut_eq_strip clean head⟩

theorem rdropWhile_append {text tail : List α} (clean : ∀ a ∈ text, ¬pad a)
    (rest : ∀ a ∈ tail, pad a) : (text ++ tail).rdropWhile pad = text := by
  rw [List.rdropWhile, List.reverse_append,
    List.dropWhile_append_of_pos fun a member => rest a (List.mem_reverse.mp member)]
  change text.rdropWhile pad = text
  exact List.rdropWhile_eq_self_iff.mpr fun some => clean _ (List.getLast_mem some)

/-- Filling a clean text up with padding is undone by stripping. -/
theorem strip_append {text tail : List α} (clean : ∀ a ∈ text, ¬pad a)
    (rest : ∀ a ∈ tail, pad a) : strip pad (text ++ tail) = text := by
  cases text with
  | nil => exact strip_eq_nil.mpr (List.all_eq_true.mpr (by simpa using rest))
  | cons a text =>
    have head : ¬pad a := clean a List.mem_cons_self
    rw [strip, List.cons_append, List.dropWhile_cons_of_neg head]
    exact rdropWhile_append clean rest

end WinBoot.PaddedField
