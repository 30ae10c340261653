import Mathlib.Data.List.Basic

/-! Readers that go through lines one by one and gather them until a blank one. Each run of lines
between blank ones is read by itself. -/

namespace WinBoot.Stanzas

variable {Line Gathered Item : Type} (blank : Line → Bool) (start : Gathered)
  (gather : Gathered → Line → Gathered) (finish : Gathered → Option Item)

/-- One line: a blank one finishes what was gathered. -/
def readLine (state : Gathered × List Item) (line : Line) : Gathered × List Item :=
  if blank line then (start, state.2 ++ (finish state.1).toList) else (gather state.1 line, state.2)

def readLines (lines : List Line) : List Item := (lines.foldl (readLine blank start gather finish) (start, [])).2

/-- Stanzas with a separator between them. -/
def separated (separator : Line) : List (List Line) → List Line
  | [] => []
  | [stanza] => stanza
  | stanza :: rest => stanza ++ separator :: separated separator rest

variable {blank start gather finish}

theorem separated_end (separator : Line) {stanzas : List (List Line)} (any : stanzas ≠ []) :
    separated separator stanzas ++ [separator] = stanzas.flatMap (· ++ [separator]) := by
  induction stanzas with
  | nil => exact absurd rfl any
  | cons stanza rest ih =>
    cases rest with
    | nil => simp [separated]
    | cons next rest =>
      have more := ih (List.cons_ne_nil next rest)
      rw [separated, List.flatMap_cons, ← more]
      · simp
      · exact List.cons_ne_nil next rest

theorem foldl_stanza {stanza : List Line} (full : ∀ line ∈ stanza, blank line = false)
    (g : Gathered)
    (items : List Item) : stanza.foldl (readLine blank start gather finish) (g, items) =
      (stanza.foldl gather g, items) := by
  induction stanza generalizing g with
  | nil => rfl
  | cons line stanza ih =>
    have lines := List.forall_mem_cons.mp full
    rw [List.foldl_cons, readLine, lines.1]
    exact ih lines.2 (gather g line)

theorem foldl_stanzas {separator : Line} (empty : blank separator = true)
    {stanzas : List (List Line)}
    (full : ∀ stanza ∈ stanzas, ∀ line ∈ stanza, blank line = false) (items : List Item) :
    (stanzas.flatMap (· ++ [separator])).foldl (readLine blank start gather finish) (start, items) =
      (start, items ++ stanzas.filterMap fun stanza => finish (stanza.foldl gather start)) := by
  induction stanzas generalizing items with
  | nil => rw [List.filterMap_nil, List.append_nil]; rfl
  | cons stanza stanzas ih =>
    have lines := List.forall_mem_cons.mp full
    rw [List.flatMap_cons, List.foldl_append, List.foldl_append, foldl_stanza lines.1, List.foldl_cons,
      readLine, if_pos empty, List.foldl_nil, ih lines.2, List.filterMap_cons]
    cases finish (stanza.foldl gather start) <;> simp

/-- What is read of stanzas that end with a separator each. -/
theorem readLines_stanzas {separator : Line} (empty : blank separator = true)
    {stanzas : List (List Line)}
    (full : ∀ stanza ∈ stanzas, ∀ line ∈ stanza, blank line = false) :
    readLines blank start gather finish (stanzas.flatMap (· ++ [separator])) =
      stanzas.filterMap fun stanza => finish (stanza.foldl gather start) :=
  congrArg Prod.snd (foldl_stanzas empty full [])

end WinBoot.Stanzas
