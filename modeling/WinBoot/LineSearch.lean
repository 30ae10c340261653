import Mathlib.Data.List.Infix
import Mathlib.Tactic.Common

/-! Searches that start where a line begins, in a text that may not have arrived in full. Symbols and
hits are arbitrary. -/

namespace WinBoot.LineSearch

variable {α β : Type} [DecidableEq α] (ending : α)

/-- What is behind each line end. -/
def afterEnds : List α → List (List α)
  | [] => []
  | a :: rest => if a = ending then rest :: afterEnds rest else afterEnds rest

/-- A text from where each of its lines begins. -/
def lineStarts (text : List α) : List (List α) := text :: afterEnds ending text

/-- The first hit at the beginning of a line. -/
def search (hit : List α → Option β) (text : List α) : Option β :=
  (lineStarts ending text).findSome? hit

def unlines (lines : List (List α)) : List α := lines.flatMap (· ++ [ending])

variable {ending}

omit [DecidableEq α] in
theorem unlines_cons (line : List α) (lines : List (List α)) :
    unlines ending (line :: lines) = line ++ ending :: unlines ending lines := by
  simp [unlines]

omit [DecidableEq α] in
theorem unlines_append (lines lines' : List (List α)) :
    unlines ending (lines ++ lines') = unlines ending lines ++ unlines ending lines' :=
  List.flatMap_append

theorem afterEnds_line {line : List α} (whole : ending ∉ line) (rest : List α) :
    afterEnds ending (line ++ ending :: rest) = lineStarts ending rest := by
  induction line with
  | nil => simp [afterEnds, lineStarts]
  | cons a line ih =>
    obtain ⟨differs, whole⟩ := not_or.mp (List.mem_cons.not.mp whole)
    rw [List.cons_append, afterEnds, if_neg (Ne.symm differs), ih whole]

theorem afterEnds_bare {line : List α} (whole : ending ∉ line) : afterEnds ending line = [] := by
  induction line with
  | nil => rfl
  | cons a line ih =>
    obtain ⟨differs, whole⟩ := not_or.mp (List.mem_cons.not.mp whole)
    rw [afterEnds, if_neg (Ne.symm differs), ih whole]

section Search

variable {hit : List α → Option β} {text : List α} {lines : List (List α)}

theorem search_of_hit {b : β} (found : hit text = some b) : search ending hit text = some b := by
  rw [search, lineStarts, List.findSome?_cons_of_isSome (by simp [found]), found]

theorem search_bare {line : List α} (whole : ending ∉ line) :
    search ending hit line = hit line := by
  rw [search, lineStarts, afterEnds_bare whole, List.findSome?_singleton]

theorem search_line {line : List α} (whole : ending ∉ line) (rest : List α)
    (misses : hit (line ++ ending :: rest) = none) :
    search ending hit (line ++ ending :: rest) = search ending hit rest := by
  rw [search, lineStarts, List.findSome?_cons_of_isNone (by simp [misses]), afterEnds_line whole, search]

theorem mem_lineStarts (whole : ∀ line ∈ lines, ending ∉ line) :
    text ∈ lineStarts ending (unlines ending lines ++ text) := by
  induction lines with
  | nil => exact .head _
  | cons line lines ih =>
    obtain ⟨here, others⟩ := List.forall_mem_cons.mp whole
    rw [unlines_cons, List.append_assoc, List.cons_append, lineStarts, afterEnds_line here]
    exact .tail _ (ih others)

theorem search_isSome_of_line (whole : ∀ line ∈ lines, ending ∉ line) (found : (hit text).isSome) :
    (search ending hit (unlines ending lines ++ text)).isSome :=
  List.findSome?_isSome_iff.mpr ⟨text, mem_lineStarts whole, found⟩

/-- Lines that are no hits, whatever follows them and however they are cut. -/
structure Blind (hit : List α → Option β) (ending : α) (line : List α) : Prop where
  whole : ending ∉ line
  misses : ∀ rest, hit (line ++ ending :: rest) = none
  cut : ∀ shown, shown <+: line → hit shown = none

theorem search_unlines
    (blind : ∀ line ∈ lines, ending ∉ line ∧ ∀ rest, hit (line ++ ending :: rest) = none) :
    search ending hit (unlines ending lines ++ text) = search ending hit text := by
  induction lines with
  | nil => rfl
  | cons line lines ih =>
    obtain ⟨⟨whole, misses⟩, others⟩ := List.forall_mem_cons.mp blind
    rw [unlines_cons, List.append_assoc, List.cons_append, search_line whole _ (misses _), ih others]

/-- A front part of a text in which something is found shows all of the lines that are no hits. -/
theorem shown_of_search {more : List α} (blind : ∀ line ∈ lines, Blind hit ending line)
    (front : text <+: unlines ending lines ++ more) (found : (search ending hit text).isSome) :
    ∃ rest, text = unlines ending lines ++ rest ∧ rest <+: more ∧
      (search ending hit rest).isSome := by
  induction lines generalizing text with
  | nil => exact ⟨text, rfl, front, found⟩
  | cons line lines ih =>
    obtain ⟨here, others⟩ := List.forall_mem_cons.mp blind
    rw [unlines_cons, List.append_assoc, List.cons_append] at front
    obtain short | long := List.prefix_or_prefix_of_prefix front (List.prefix_append line _)
    · have bare : ending ∉ text := fun member => here.whole (short.subset member)
      rw [search_bare bare, here.cut text short] at found
      cases found
    · obtain ⟨rest, rfl⟩ := long
      cases rest with
      | nil =>
        rw [List.append_nil, search_bare here.whole, here.cut line (List.prefix_refl line)] at found
        cases found
      | cons a rest =>
        obtain ⟨rfl, later⟩ := List.cons_prefix_cons.mp ((List.prefix_append_right_inj line).mp front)
        rw [search_line here.whole rest (here.misses rest)] at found
        obtain ⟨after, rfl, shown, found⟩ := ih others later found
        exact ⟨after, by rw [unlines_cons, List.append_assoc, List.cons_append], shown, found⟩

end Search

end WinBoot.LineSearch
