import Mathlib.Logic.Function.Basic
import Mathlib.Tactic.Common
import WinBoot.Monitor

/-! Resources that a program takes from its environment and gives back. A ledger follows what is
held; the program owes that it takes nothing twice, gives back only what it holds, and calls only
what its resources allow. `Settles` is checked along the program with finite lists. -/

namespace WinBoot.ResourceLedger
open Interaction

/-- What the calls of an interface do to resources of `K`. -/
structure Accounts (C : Type) (R : C → Type) (K : Type) where
  /-- The resource that is handed out with an answer. -/
  takes : Event C R → Option K
  /-- The resource that is taken back with an answer. -/
  gives : Event C R → Option K
  /-- What must be held for a call. -/
  needs : C → List K
  /-- What must not be held for a call. -/
  bars : C → List K
  /-- What the environment promises about an answer while these are held. -/
  honest : (K → Bool) → Event C R → Prop

abbrev Holding (K : Type) : Type := K → Bool

def Holding.none {K : Type} : Holding K := fun _ => false

section Holding

variable {K : Type} [DecidableEq K] {held : Holding K} {owned : List K} {k : K}

/-- What is held when these are taken on top. -/
def Holding.with (held : Holding K) (owned : List K) : Holding K :=
  fun k => owned.contains k || held k

@[simp] theorem Holding.with_nil : held.with [] = held := rfl

theorem Holding.with_apply : held.with owned k = true ↔ k ∈ owned ∨ held k = true := by
  simp [Holding.with]

theorem Holding.with_append (owned' : List K) :
    held.with (owned' ++ owned) = (held.with owned).with owned' := by
  funext k
  simp [Holding.with, Bool.or_assoc]

theorem Holding.with_take : Function.update (held.with owned) k true = held.with (k :: owned) := by
  funext other
  by_cases same : other = k <;> simp [Holding.with, same]

theorem Holding.with_give (free : held k = false) :
    Function.update (held.with owned) k false = held.with (owned.filter (· ≠ k)) := by
  funext other
  by_cases same : other = k <;> simp [Holding.with, same, free]

end Holding

variable {C : Type} {R : C → Type} {K : Type} [DecidableEq K] (acc : Accounts C R K)

def Accounts.move (held : Holding K) (e : Event C R) : Holding K :=
  let rest := match acc.gives e with
    | some k => Function.update held k false
    | .none => held
  match acc.takes e with
  | some k => Function.update rest k true
  | .none => rest

/-- What the program owes at a call. -/
structure Accounts.Fair (held : Holding K) (e : Event C R) : Prop where
  needs : ∀ k ∈ acc.needs e.1, held k = true
  bars : ∀ k ∈ acc.bars e.1, held k = false
  takes : ∀ k, acc.takes e = some k → held k = false
  gives : ∀ k, acc.gives e = some k → held k = true

def Accounts.ledger : Monitor C R (Holding K) where
  admits := acc.honest
  allows := acc.Fair
  next := acc.move

instance admitsDecidable [∀ held e, Decidable (acc.honest held e)] :
    (held : Holding K) → (t : List (Event C R)) → Decidable (acc.ledger.Admits held t)
  | _, [] => isTrue trivial
  | held, e :: t =>
    have := admitsDecidable (acc.move held e) t
    inferInstanceAs (Decidable (acc.honest held e ∧ acc.ledger.Admits (acc.move held e) t))

/-- A call that moves nothing, made with no more than `owned`. -/
structure Accounts.Quiet (owned : List K) (c : C) : Prop where
  takes : ∀ r, acc.takes ⟨c, r⟩ = none
  gives : ∀ r, acc.gives ⟨c, r⟩ = none
  needs : acc.needs c ⊆ owned
  bars : acc.bars c = []

/-- Wherever `needs` are held and `frees` are not, the program goes from `owned` on top of what is
held to something that is `left` with its result. -/
def Leaves {α : Type} (owned needs frees : List K) (left : α → List K → Prop) (p : Prog C R α) :
    Prop :=
  ∀ held : Holding K, (∀ k ∈ needs, held k = true) → (∀ k ∈ owned ++ frees, held k = false) →
    p.Safe acc.ledger (fun after a => ∃ rest, left a rest ∧ (∀ k ∈ rest, held k = false) ∧
      after = held.with rest) (held.with owned)

/-- The program ends with what was held, having given back `owned`. -/
abbrev Settles {α : Type} (owned needs frees : List K) (p : Prog C R α) : Prop :=
  Leaves acc owned needs frees (fun _ rest => rest = []) p

section Rules

variable {acc} {α β : Type} {owned needs frees : List K} {left : α → List K → Prop}
  {held : Holding K} {k : K} {c : C}

theorem fair_quiet (still : acc.Quiet (owned ++ needs) c) (r : R c)
    (present : ∀ k ∈ needs, held k = true) :
    acc.Fair (held.with owned) ⟨c, r⟩ ∧ acc.move (held.with owned) ⟨c, r⟩ = held.with owned := by
  refine ⟨⟨fun k needed => ?_, by simp [still.bars], by simp [still.takes], by simp [still.gives]⟩, ?_⟩
  · rw [Holding.with_apply]
    exact (List.mem_append.mp (still.needs needed)).imp_right (present k)
  · simp [Accounts.move, still.takes, still.gives]

theorem Leaves.done {a : α} (settled : left a owned) :
    Leaves acc owned needs frees left (pure a : Prog C R α) :=
  fun _ _ absent => ⟨owned, settled, fun k own => absent k (List.mem_append_left _ own), rfl⟩

theorem Leaves.ite {q : Prop} {_ : Decidable q} {p p' : Prog C R α}
    (yes : q → Leaves acc owned needs frees left p)
    (no : ¬ q → Leaves acc owned needs frees left p') :
    Leaves acc owned needs frees left (if q then p else p') := by
  split_ifs with h
  · exact yes h
  · exact no h

theorem Leaves.quiet {f : R c → Prog C R α} (still : acc.Quiet (owned ++ needs) c)
    (rest : ∀ r, Leaves acc owned needs frees left (f r)) :
    Leaves acc owned needs frees left (Prog.call c >>= f) := by
  intro held present free
  refine (Prog.safe_call_bind _ _ _ _ _).mpr fun r _ => ?_
  obtain ⟨fair, stays⟩ := fair_quiet still r present
  refine ⟨fair, ?_⟩
  change (f r).Safe acc.ledger _ (acc.move (held.with owned) ⟨c, r⟩)
  rw [stays]
  exact rest r held present free

/-- Quiet calls with any result. -/
theorem Leaves.quietly {p : Prog C R β} {f : β → Prog C R α}
    (quiet : p.Makes (acc.Quiet (owned ++ needs)))
    (rest : ∀ b, Leaves acc owned needs frees left (f b)) :
    Leaves acc owned needs frees left (p >>= f) := by
  intro held present free
  refine (quiet.safe acc.ledger fun c r still => fair_quiet still r present).bind _ ?_
  rintro _ b ⟨rfl, -⟩
  exact rest b held present free

theorem Settles.quietly {p : Prog C R α} (quiet : p.Makes (acc.Quiet needs)) :
    Settles acc [] needs frees p := by
  intro held present _
  have start (c : C) (r : R c) (still : acc.Quiet needs c) :
      acc.Fair (held.with []) ⟨c, r⟩ ∧ acc.move (held.with []) ⟨c, r⟩ = held.with [] :=
    fair_quiet still r present
  refine (quiet.safe acc.ledger start).mono _ ?_
  rintro _ a ⟨rfl, -⟩
  exact ⟨[], rfl, nofun, rfl⟩

/-- A call that may hand out a resource, which is not held yet. -/
theorem Leaves.takeFresh {f : R c → Prog C R α} (k : R c → K) {granted : R c → Prop}
    {_ : DecidablePred granted} {promise : R c → Prop}
    (promised : ∀ held r, acc.honest held ⟨c, r⟩ → promise r)
    (takes : ∀ r, acc.takes ⟨c, r⟩ = if granted r then some (k r) else none)
    (gives : ∀ r, acc.gives ⟨c, r⟩ = none) (needed : acc.needs c ⊆ owned ++ needs)
    (bars : acc.bars c = [])
    (fresh : ∀ held : Holding K, (∀ k ∈ owned ++ frees, held k = false) → ∀ r,
      acc.honest (held.with owned) ⟨c, r⟩ → granted r → held.with owned (k r) = false)
    (taken : ∀ r, promise r → granted r → k r ∉ owned →
      Leaves acc (k r :: owned) needs frees left (f r))
    (refused : ∀ r, promise r → ¬ granted r → Leaves acc owned needs frees left (f r)) :
    Leaves acc owned needs frees left (Prog.call c >>= f) := by
  intro held present absent
  refine (Prog.safe_call_bind _ _ _ _ _).mpr fun r honest =>
    ⟨⟨fun k' need => ?_, by simp [bars], ?_,
    by simp [gives]⟩, ?_⟩
  · rw [Holding.with_apply]
    exact (List.mem_append.mp (needed need)).imp_right (present k')
  · intro k' handed
    rw [takes, Option.ite_none_right_eq_some] at handed
    obtain rfl := Option.some.inj handed.2
    exact fresh held absent r honest handed.1
  · change (f r).Safe acc.ledger _ (acc.move (held.with owned) ⟨c, r⟩)
    by_cases grant : granted r
    · simp only [Accounts.move, gives, takes, if_pos grant, Holding.with_take]
      have missing := fresh held absent r honest grant
      simp only [Holding.with, Bool.or_eq_false_iff, List.contains_eq_mem, decide_eq_false_iff_not] at missing
      refine taken r (promised _ r honest) grant missing.1 held present fun k' member => ?_
      obtain rfl | member := List.mem_cons.mp member
      · exact missing.2
      · exact absent k' member
    · simp only [Accounts.move, gives, takes, if_neg grant]
      exact refused r (promised _ r honest) grant held present absent

/-- A call that may hand out `k`, with what is promised about its answer. -/
theorem Leaves.takePromised {f : R c → Prog C R α} (k : K) {granted : R c → Prop}
    {_ : DecidablePred granted} {promise : R c → Prop}
    (promised : ∀ held r, acc.honest held ⟨c, r⟩ → promise r)
    (takes : ∀ r, acc.takes ⟨c, r⟩ = if granted r then some k else none)
    (gives : ∀ r, acc.gives ⟨c, r⟩ = none) (needed : acc.needs c ⊆ owned ++ needs)
    (bars : acc.bars c = []) (free : k ∈ frees) (unowned : k ∉ owned)
    (taken : ∀ r, promise r → granted r → Leaves acc (k :: owned) needs frees left (f r))
    (refused : ∀ r, promise r → ¬ granted r → Leaves acc owned needs frees left (f r)) :
    Leaves acc owned needs frees left (Prog.call c >>= f) :=
  Leaves.takeFresh (fun _ => k) promised takes gives needed bars
    (fun held absent _ _ _ => by
      simp [Holding.with, unowned, absent k (List.mem_append_right _ free)])
    (fun r kept granted _ => taken r kept granted) refused

theorem Leaves.take {f : R c → Prog C R α} (k : K) {granted : R c → Prop}
    {_ : DecidablePred granted}
    (takes : ∀ r, acc.takes ⟨c, r⟩ = if granted r then some k else none)
    (gives : ∀ r, acc.gives ⟨c, r⟩ = none) (needed : acc.needs c ⊆ owned ++ needs)
    (bars : acc.bars c = []) (free : k ∈ frees) (unowned : k ∉ owned)
    (taken : ∀ r, granted r → Leaves acc (k :: owned) needs frees left (f r))
    (refused : ∀ r, ¬ granted r → Leaves acc owned needs frees left (f r)) :
    Leaves acc owned needs frees left (Prog.call c >>= f) :=
  Leaves.takePromised k (fun _ _ _ => trivial) takes gives needed bars free unowned
    (fun r _ => taken r) fun r _ => refused r

/-- A call that may take `k` back. -/
theorem Leaves.giveWhen {f : R c → Prog C R α} (k : K) {granted : R c → Prop}
    {_ : DecidablePred granted} {promise : R c → Prop}
    (promised : ∀ held r, acc.honest held ⟨c, r⟩ → promise r) (takes : ∀ r, acc.takes ⟨c, r⟩ = none)
    (gives : ∀ r, acc.gives ⟨c, r⟩ = if granted r then some k else none)
    (needed : acc.needs c ⊆ owned ++ needs)
    (barred : ∀ k' ∈ acc.bars c, k' ∈ frees ∧ k' ∉ owned) (own : k ∈ owned)
    (given : ∀ r, promise r → granted r → Leaves acc (owned.filter (· ≠ k)) needs frees left (f r))
    (refused : ∀ r, promise r → ¬ granted r → Leaves acc owned needs frees left (f r)) :
    Leaves acc owned needs frees left (Prog.call c >>= f) := by
  intro held present absent
  have missing : held k = false := absent k (List.mem_append_left _ own)
  refine (Prog.safe_call_bind _ _ _ _ _).mpr fun r honest => ⟨⟨fun k' need => ?_, fun k' bar => ?_,
    by simp [takes], ?_⟩, ?_⟩
  · rw [Holding.with_apply]
    exact (List.mem_append.mp (needed need)).imp_right (present k')
  · obtain ⟨free, unowned⟩ := barred k' bar
    simp [Holding.with, unowned, absent k' (List.mem_append_right _ free)]
  · intro k' back
    rw [gives, Option.ite_none_right_eq_some] at back
    obtain rfl := Option.some.inj back.2
    simp [Holding.with, own]
  · change (f r).Safe acc.ledger _ (acc.move (held.with owned) ⟨c, r⟩)
    by_cases grant : granted r
    · simp only [Accounts.move, gives, takes, if_pos grant, Holding.with_give missing]
      refine given r (promised _ r honest) grant held present fun k' member => absent k' ?_
      simp only [List.mem_append, List.mem_filter] at member ⊢
      exact member.imp_left And.left
    · simp only [Accounts.move, gives, takes, if_neg grant]
      exact refused r (promised _ r honest) grant held present absent

/-- A call that takes `k` back. -/
theorem Leaves.give {f : R c → Prog C R α} (k : K) (takes : ∀ r, acc.takes ⟨c, r⟩ = none)
    (gives : ∀ r, acc.gives ⟨c, r⟩ = some k) (needed : acc.needs c ⊆ owned ++ needs)
    (barred : ∀ k' ∈ acc.bars c, k' ∈ frees ∧ k' ∉ owned) (own : k ∈ owned)
    (rest : ∀ r, Leaves acc (owned.filter (· ≠ k)) needs frees left (f r)) :
    Leaves acc owned needs frees left (Prog.call c >>= f) := by
  have always (r : R c) : acc.gives ⟨c, r⟩ = if True then some k else none := by simpa using gives r
  exact Leaves.giveWhen k (fun _ _ _ => trivial) takes always needed barred own (fun r _ _ => rest r)
    fun _ _ no => absurd trivial no

/-- What is held beside it is held on. -/
theorem Leaves.frame {owned' needs' frees' : List K} {p : Prog C R α}
    (leaves : Leaves acc owned' needs' frees' left p) (enough : needs' ⊆ owned ++ needs)
    (room : frees' ⊆ frees) (apart : ∀ k ∈ owned' ++ frees', k ∉ owned) :
    Leaves acc (owned' ++ owned) needs frees (fun a rest => ∃ more, left a more ∧ rest = more ++ owned)
      p := by
  intro held present absent
  rw [Holding.with_append]
  have start := leaves (held.with owned) (fun k need => ?_) fun k member => ?_
  · refine start.mono _ ?_
    rintro _ a ⟨more, known, free, rfl⟩
    refine ⟨more ++ owned, ⟨more, known, rfl⟩, fun k member => ?_, (Holding.with_append _).symm⟩
    obtain left | own := List.mem_append.mp member
    · exact (Bool.or_eq_false_iff.mp (free k left)).2
    · exact absent k (List.mem_append_left _ (List.mem_append_right _ own))
  · rw [Holding.with_apply]
    exact (List.mem_append.mp (enough need)).imp_right (present k)
  · have free : held k = false := by
      refine absent k ?_
      obtain own | spare := List.mem_append.mp member
      · exact List.mem_append_left _ (List.mem_append_left _ own)
      · exact List.mem_append_right _ (room spare)
    simp [Holding.with, apart k member, free]

/-- A part that needs only some of what is held, with what is known about its results. -/
theorem Leaves.bindYields {owned' needs' frees' : List K} {left' : β → List K → Prop}
    {p : Prog C R β} {f : β → Prog C R α} {result : β → Prop}
    (first : Leaves acc owned' needs' frees' left' p) (yields : p.Yields (fun _ => True) result)
    (enough : needs' ⊆ owned ++ needs) (room : frees' ⊆ frees)
    (apart : ∀ k ∈ owned' ++ frees', k ∉ owned)
    (rest : ∀ b more, result b → left' b more → Leaves acc (more ++ owned) needs frees left (f b)) :
    Leaves acc (owned' ++ owned) needs frees left (p >>= f) := by
  intro held present absent
  have start := Leaves.frame first enough room apart held present absent
  refine (start.yields _ yields).bind _ ?_
  rintro _ b ⟨⟨_, ⟨more, leaves, rfl⟩, free, rfl⟩, known⟩
  refine rest b more known leaves held present fun k member => ?_
  obtain own | spare := List.mem_append.mp member
  · exact free k own
  · exact absent k (List.mem_append_right _ spare)

theorem yields_true (p : Prog C R α) : p.Yields (fun _ => True) fun _ => True := by
  induction p with
  | done a => trivial
  | ask c next ih => exact ⟨trivial, ih⟩

theorem Leaves.bind {owned' needs' frees' : List K} {left' : β → List K → Prop} {p : Prog C R β}
    {f : β → Prog C R α} (first : Leaves acc owned' needs' frees' left' p)
    (enough : needs' ⊆ owned ++ needs) (room : frees' ⊆ frees)
    (apart : ∀ k ∈ owned' ++ frees', k ∉ owned)
    (rest : ∀ b more, left' b more → Leaves acc (more ++ owned) needs frees left (f b)) :
    Leaves acc (owned' ++ owned) needs frees left (p >>= f) :=
  Leaves.bindYields first (yields_true p) enough room apart fun b more _ => rest b more

/-- A part that gives back what it is to give back. -/
theorem Leaves.settle {owned' needs' frees' : List K} {p : Prog C R β} {f : β → Prog C R α}
    (inner : Settles acc owned' needs' frees' p) (enough : needs' ⊆ owned ++ needs)
    (room : frees' ⊆ frees) (apart : ∀ k ∈ owned' ++ frees', k ∉ owned)
    (rest : ∀ b, Leaves acc owned needs frees left (f b)) :
    Leaves acc (owned' ++ owned) needs frees left (p >>= f) :=
  Leaves.bind inner enough room apart fun b _ nothing => nothing ▸ rest b

/-- A part that takes nothing over. -/
theorem Leaves.tidy {needs' frees' : List K} {p : Prog C R β} {f : β → Prog C R α}
    (inner : Settles acc [] needs' frees' p) (enough : needs' ⊆ owned ++ needs)
    (room : frees' ⊆ frees) (apart : ∀ k ∈ frees', k ∉ owned)
    (rest : ∀ b, Leaves acc owned needs frees left (f b)) :
    Leaves acc owned needs frees left (p >>= f) :=
  Leaves.settle inner enough room apart rest

theorem Leaves.weaken {needs' frees' : List K} {p : Prog C R α}
    (inner : Leaves acc owned needs' frees' left p) (enough : needs' ⊆ needs)
    (room : frees' ⊆ frees) :
    Leaves acc owned needs frees left p :=
  fun held present absent => inner held (fun k need => present k (enough need)) fun k member =>
    absent k (List.mem_append.mpr ((List.mem_append.mp member).imp_right fun free => room free))

/-- What is owned matters as a set. -/
theorem Leaves.same (owned' : List K) {p : Prog C R α}
    (inner : Leaves acc owned' needs frees left p)
    (same : ∀ k, k ∈ owned ↔ k ∈ owned') : Leaves acc owned needs frees left p := by
  intro held present absent
  have equal : held.with owned = held.with owned' := by
    funext k
    simp [Holding.with, same]
  rw [equal]
  refine inner held present fun k member => absent k ?_
  simp only [List.mem_append, same] at member ⊢
  exact member

/-- The same accounts with more known about the answers. -/
def Accounts.assuming (acc : Accounts C R K) (promise : Event C R → Prop) : Accounts C R K :=
  { acc with honest := fun held e => acc.honest held e ∧ promise e }

section Assuming

variable {promise : Event C R → Prop}

omit [DecidableEq K] in
theorem Accounts.Quiet.assuming (quiet : acc.Quiet owned c) :
    (acc.assuming promise).Quiet owned c :=
  ⟨quiet.takes, quiet.gives, quiet.needs, quiet.bars⟩

theorem safe_assuming {p : Prog C R α} {post : Holding K → α → Prop} {s : Holding K}
    (safe : p.Safe acc.ledger post s) : p.Safe (acc.assuming promise).ledger post s := by
  induction p generalizing s with
  | done a => exact safe
  | ask c next ih =>
    intro r admitted
    obtain ⟨fair, rest⟩ := safe r admitted.1
    exact ⟨⟨fair.needs, fair.bars, fair.takes, fair.gives⟩, ih r rest⟩

theorem Leaves.assuming {p : Prog C R α} (leaves : Leaves acc owned needs frees left p) :
    Leaves (acc.assuming promise) owned needs frees left p :=
  fun held present absent => safe_assuming (leaves held present absent)

theorem Leaves.mono {left' : α → List K → Prop} {p : Prog C R α}
    (leaves : Leaves acc owned needs frees left p) (more : ∀ a rest, left a rest → left' a rest) :
    Leaves acc owned needs frees left' p := by
  intro held present absent
  refine (leaves held present absent).mono _ ?_
  rintro after a ⟨rest, known, free, same⟩
  exact ⟨rest, more a rest known, free, same⟩

theorem admits_assuming {s : Holding K} {t : List (Event C R)} (admitted : acc.ledger.Admits s t)
    (promised : ∀ e ∈ t, promise e) : (acc.assuming promise).ledger.Admits s t := by
  induction t generalizing s with
  | nil => trivial
  | cons e t ih =>
    exact ⟨⟨admitted.1, promised e (.head _)⟩, ih admitted.2 fun e member => promised e (.tail _ member)⟩

theorem allows_of_assuming {s : Holding K} {t : List (Event C R)}
    (allowed : (acc.assuming promise).ledger.Allows s t) : acc.ledger.Allows s t := by
  induction t generalizing s with
  | nil => trivial
  | cons e t ih =>
    obtain ⟨fair, rest⟩ := allowed
    exact ⟨⟨fair.needs, fair.bars, fair.takes, fair.gives⟩, ih rest⟩

/-- A whole run from nothing: every call is fair, and what is left may rest on the run's answers. -/
theorem Leaves.run {p : Prog C R α} {t : List (Event C R)} {a : α}
    (leaves : Leaves (acc.assuming (· ∈ t)) [] [] frees left p) (run : p.Runs t a)
    (admitted : acc.ledger.Admits Holding.none t) :
    acc.ledger.Allows Holding.none t ∧
      ∃ rest, left a rest ∧ acc.ledger.after Holding.none t = Holding.none.with rest := by
  have safe := leaves Holding.none nofun fun _ _ => rfl
  obtain ⟨allowed, rest, known, -, after⟩ :=
    Prog.safe_runs _ safe run (admits_assuming admitted fun _ => id)
  exact ⟨allows_of_assuming allowed, rest, known, after⟩

end Assuming

end Rules

end WinBoot.ResourceLedger
