import Mathlib.Data.List.Basic
import Mathlib.Tactic.Common
import WinBoot.Interaction

/-! Programs that were written for a narrower interface. Each of their calls is made as a call of
the wider one, and their runs are found again in what the wider interface has seen. -/

namespace WinBoot.Interaction.Prog

variable {C C' : Type} {R : C → Type} {R' : C' → Type} {α : Type}

def embed (wide : C → C') (narrow : ∀ c, R' (wide c) → R c) : Prog C R α → Prog C' R' α
  | done a => done a
  | ask c next => ask (wide c) fun r => (next (narrow c r)).embed wide narrow

section Embed

variable {wide : C → C'} {narrow : ∀ c, R' (wide c) → R c}

theorem embed_makes {uses : C' → Prop} (p : Prog C R α) (used : ∀ c, uses (wide c)) :
    (p.embed wide narrow).Makes uses := by
  induction p with
  | done a => trivial
  | ask c next ih => exact ⟨used c, fun r => ih (narrow c r)⟩

/-- `seen` finds the narrow events. -/
theorem embed_runs {seen : Event C' R' → Option (Event C R)}
    (finds : ∀ c r, seen ⟨wide c, r⟩ = some ⟨c, narrow c r⟩) {p : Prog C R α}
    {t : List (Event C' R')} {a : α} (run : (p.embed wide narrow).Runs t a) :
    p.Runs (t.filterMap seen) a := by
  induction p generalizing t with
  | done b =>
    obtain ⟨rfl, rfl⟩ := run
    exact ⟨rfl, rfl⟩
  | ask c next ih =>
    obtain ⟨r, rest, rfl, later⟩ := run
    rw [List.filterMap_cons_some (finds c r)]
    exact ⟨narrow c r, _, rfl, ih _ later⟩

theorem runs_embed (widen : ∀ c, R c → R' (wide c)) (inverse : ∀ c r, narrow c (widen c r) = r)
    {p : Prog C R α} {t : List (Event C R)} {a : α} (run : p.Runs t a) :
    (p.embed wide narrow).Runs (t.map fun e => ⟨wide e.1, widen e.1 e.2⟩) a := by
  induction p generalizing t with
  | done b =>
    obtain ⟨rfl, rfl⟩ := run
    exact ⟨rfl, rfl⟩
  | ask c next ih =>
    obtain ⟨r, rest, rfl, later⟩ := run
    refine ⟨widen c r, _, rfl, ?_⟩
    change ((next (narrow c (widen c r))).embed wide narrow).Runs _ a
    rw [inverse]
    exact ih r later

end Embed

end WinBoot.Interaction.Prog
