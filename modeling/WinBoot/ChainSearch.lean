import Mathlib.Data.Finset.Card
import Mathlib.Data.Finset.Range
import Mathlib.Logic.Function.Iterate

/-! Chains of positions. From a position that is fit, a search either stops, because it is the one
wanted, or goes on to the next. -/

namespace WinBoot.ChainSearch

variable {α : Type} {fit wanted : α → Prop} {next : α → α}

/-- The first wanted position on the chain from a given one. -/
inductive First (fit wanted : α → Prop) (next : α → α) : α → α → Prop
  | here {a : α} : fit a → wanted a → First fit wanted next a a
  | further {a b : α} : fit a → ¬wanted a → First fit wanted next (next a) b →
    First fit wanted next a b

theorem First.is_fit {a b : α} (first : First fit wanted next a b) : fit b := by
  induction first with
  | here fits => exact fits
  | further _ _ _ ih => exact ih

theorem First.unique {a b b' : α} (first : First fit wanted next a b)
    (other : First fit wanted next a b') : b = b' := by
  induction first with
  | here _ here =>
    cases other with
    | here => rfl
    | further _ missed => exact absurd here missed
  | further _ missed _ ih =>
    cases other with
    | here _ here => exact absurd here missed
    | further _ _ rest => exact ih rest

/-- It is found after so many others. -/
inductive FirstAt (fit wanted : α → Prop) (next : α → α) : ℕ → α → α → Prop
  | here {a : α} : fit a → wanted a → FirstAt fit wanted next 0 a a
  | further {n : ℕ} {a b : α} : fit a → ¬wanted a → FirstAt fit wanted next n (next a) b →
    FirstAt fit wanted next (n + 1) a b

variable {n : ℕ} {a b : α}

theorem FirstAt.first (one : FirstAt fit wanted next n a b) : First fit wanted next a b := by
  induction one with
  | here fits is => exact .here fits is
  | further fits missed _ ih => exact .further fits missed ih

theorem First.at_some (first : First fit wanted next a b) : ∃ n, FirstAt fit wanted next n a b := by
  induction first with
  | here fits is => exact ⟨0, .here fits is⟩
  | further fits missed _ ih =>
    obtain ⟨n, rest⟩ := ih
    exact ⟨n + 1, .further fits missed rest⟩

theorem FirstAt.unique {n' : ℕ} {b' : α} (one : FirstAt fit wanted next n a b)
    (other : FirstAt fit wanted next n' a b') : n = n' := by
  induction one generalizing n' with
  | here _ is =>
    cases other with
    | here => rfl
    | further _ missed _ => exact absurd is missed
  | further _ missed _ ih =>
    cases other with
    | here _ is => exact absurd is missed
    | further _ _ rest => rw [ih rest]

/-- Any position before it is fit, and nearer to it. -/
theorem FirstAt.drop {k : ℕ} (one : FirstAt fit wanted next n a b) (early : k ≤ n) :
    fit (next^[k] a) ∧ FirstAt fit wanted next (n - k) (next^[k] a) b := by
  induction one generalizing k with
  | here fits is =>
    rw [Nat.le_zero.mp early]
    exact ⟨fits, .here fits is⟩
  | further fits missed rest ih =>
    cases k with
    | zero => exact ⟨fits, .further fits missed rest⟩
    | succ k =>
      rw [Nat.add_sub_add_right, Function.iterate_succ_apply]
      exact ih (Nat.le_of_succ_le_succ early)

/-- On its way to it a chain repeats no position. -/
theorem FirstAt.injective (one : FirstAt fit wanted next n a b) {k m : ℕ} (k_early : k ≤ n)
    (m_early : m ≤ n) (same : next^[k] a = next^[m] a) : k = m := by
  have here := (one.drop k_early).2
  rw [same] at here
  have left := here.unique (one.drop m_early).2
  omega

/-- It is found within as many steps as there are fit positions. -/
theorem FirstAt.lt_card [DecidableEq α] {places : Finset α} (covers : ∀ a, fit a → a ∈ places)
    (one : FirstAt fit wanted next n a b) : n < places.card := by
  have early : ∀ k ∈ Finset.range (n + 1), k ≤ n := fun k member =>
    Nat.le_of_lt_succ (Finset.mem_range.mp member)
  have within : ∀ k ∈ Finset.range (n + 1), next^[k] a ∈ places := fun k member =>
    covers _ (one.drop (early k member)).1
  have bound := Finset.card_le_card_of_injOn (fun k => next^[k] a) within fun k k_in m m_in same =>
    one.injective (early k k_in) (early m m_in) same
  rwa [Finset.card_range] at bound

section Search

variable (fit wanted) (next) [DecidablePred fit] [DecidablePred wanted]

/-- The search in so many steps. -/
def search : ℕ → α → Option α
  | 0, _ => none
  | n + 1, a => if fit a then if wanted a then some a else search n (next a) else none

variable {fit wanted next}

/-- What a search finds in so many steps is the first wanted position, if it is one of as many. -/
theorem search_some {count : ℕ} :
    search fit wanted next count a = some b ↔ ∃ n < count, FirstAt fit wanted next n a b := by
  induction count generalizing a with
  | zero =>
      exact iff_of_false (fun found => by cases found) fun ⟨n, small, _⟩ => Nat.not_lt_zero n small
  | succ count ih =>
    rw [search]
    split
    · next fits =>
      split
      · next is =>
        constructor
        · intro found
          obtain rfl := Option.some.inj found
          exact ⟨0, Nat.zero_lt_succ count, .here fits is⟩
        · rintro ⟨n, -, one⟩
          cases one with
          | here => rfl
          | further _ missed _ => exact absurd is missed
      · next missed =>
        rw [ih]
        constructor
        · rintro ⟨n, small, rest⟩
          exact ⟨n + 1, Nat.succ_lt_succ small, .further fits missed rest⟩
        · rintro ⟨n, small, one⟩
          cases one with
          | here _ is => exact absurd is missed
          | further _ _ rest => exact ⟨_, Nat.lt_of_succ_lt_succ small, rest⟩
    · next unfit =>
      refine iff_of_false (fun found => by cases found) fun ⟨n, _, one⟩ => unfit ?_
      cases one with
      | here fits _ => exact fits
      | further fits _ _ => exact fits

end Search

end WinBoot.ChainSearch
