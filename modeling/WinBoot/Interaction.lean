/-! Programs that talk to an environment they do not control. A program asks a call and
continues with whatever answer the environment gives; a run is the list of calls with their
answers, so a statement about every run covers every pattern of answers and failures.
Loops are ordinary Lean recursion, hence every program here returns. -/

namespace WinBoot.Interaction

universe u

/-- A program over calls `C`, where call `c` is answered by a value of `R c`. -/
inductive Prog (C : Type) (R : C → Type) (α : Type u) : Type u where
  | done (a : α)
  | ask (c : C) (next : R c → Prog C R α)

/-- One call together with the answer it received. -/
abbrev Event (C : Type) (R : C → Type) : Type := (c : C) × R c

namespace Prog

variable {C : Type} {R : C → Type} {α β : Type}

def bind : Prog C R α → (α → Prog C R β) → Prog C R β
  | done a, f => f a
  | ask c next, f => ask c (fun r => (next r).bind f)

def call (c : C) : Prog C R (R c) := ask c done

instance : Monad (Prog C R) where
  pure := done
  bind := bind

/-- `p.Runs t a`: in some environment the program makes exactly the calls of `t`, gets the
answers recorded there, and returns `a`. -/
def Runs : Prog C R α → List (Event C R) → α → Prop
  | done a, t, b => t = [] ∧ a = b
  | ask c next, t, b => ∃ r rest, t = ⟨c, r⟩ :: rest ∧ (next r).Runs rest b

@[simp] theorem runs_done (a b : α) (t : List (Event C R)) :
    (done a : Prog C R α).Runs t b ↔ t = [] ∧ a = b := Iff.rfl

@[simp] theorem runs_pure (a b : α) (t : List (Event C R)) :
    (pure a : Prog C R α).Runs t b ↔ t = [] ∧ a = b := Iff.rfl

theorem runs_ask (c : C) (next : R c → Prog C R α) (t : List (Event C R)) (b : α) :
    (ask c next).Runs t b ↔ ∃ r rest, t = ⟨c, r⟩ :: rest ∧ (next r).Runs rest b := Iff.rfl

theorem runs_bind (p : Prog C R α) (f : α → Prog C R β) (t : List (Event C R)) (b : β) :
    (p >>= f).Runs t b ↔ ∃ t₁ t₂ a, t = t₁ ++ t₂ ∧ p.Runs t₁ a ∧ (f a).Runs t₂ b := by
  change (p.bind f).Runs t b ↔ _
  induction p generalizing t with
  | done a =>
    constructor
    · intro h
      exact ⟨[], t, a, rfl, ⟨rfl, rfl⟩, h⟩
    · rintro ⟨t₁, t₂, a', rfl, ⟨rfl, rfl⟩, h⟩
      exact h
  | ask c next ih =>
    constructor
    · rintro ⟨r, rest, rfl, h⟩
      obtain ⟨t₁, t₂, a, rfl, h₁, h₂⟩ := (ih r rest).mp h
      exact ⟨⟨c, r⟩ :: t₁, t₂, a, rfl, ⟨r, t₁, rfl, h₁⟩, h₂⟩
    · rintro ⟨t₁, t₂, a, rfl, ⟨r, t₁', rfl, h₁⟩, h₂⟩
      exact ⟨r, t₁' ++ t₂, rfl, (ih r _).mpr ⟨t₁', t₂, a, rfl, h₁, h₂⟩⟩

@[simp] theorem runs_call (c : C) (t : List (Event C R)) (r : R c) :
    (call c : Prog C R (R c)).Runs t r ↔ t = [⟨c, r⟩] := by
  simp only [call, runs_ask, runs_done]
  constructor
  · rintro ⟨r', rest, rfl, rfl, rfl⟩
    rfl
  · rintro rfl
    exact ⟨r, [], rfl, rfl, rfl⟩

theorem runs_call_bind (c : C) (f : R c → Prog C R α) (t : List (Event C R)) (a : α) :
    (call c >>= f).Runs t a ↔ ∃ r rest, t = ⟨c, r⟩ :: rest ∧ (f r).Runs rest a := Iff.rfl

/-- The program makes only calls of `uses`, and every result it can return satisfies `post`. -/
def Yields (uses : C → Prop) (post : α → Prop) : Prog C R α → Prop
  | done a => post a
  | ask c next => uses c ∧ ∀ r, (next r).Yields uses post

section Yields

variable {uses uses' : C → Prop} {post post' : α → Prop} {mid : β → Prop}

@[simp] theorem yields_done (a : α) : (done a : Prog C R α).Yields uses post ↔ post a := Iff.rfl

@[simp] theorem yields_pure (a : α) : (pure a : Prog C R α).Yields uses post ↔ post a := Iff.rfl

@[simp] theorem yields_call (c : C) (post : R c → Prop) :
    (call c : Prog C R (R c)).Yields uses post ↔ uses c ∧ ∀ r, post r := Iff.rfl

theorem yields_bind (p : Prog C R α) (f : α → Prog C R β) :
    (p >>= f).Yields uses mid ↔ p.Yields uses (fun a => (f a).Yields uses mid) := by
  change (p.bind f).Yields uses mid ↔ _
  induction p with
  | done a => rfl
  | ask c next ih => exact and_congr_right' (forall_congr' ih)

@[simp] theorem yields_call_bind (c : C) (f : R c → Prog C R β) :
    (call c >>= f).Yields uses mid ↔ uses c ∧ ∀ r, (f r).Yields uses mid := Iff.rfl

theorem yields_ite {c : Prop} [Decidable c] {p q : Prog C R α} :
    (if c then p else q).Yields uses post ↔
      (c → p.Yields uses post) ∧ (¬ c → q.Yields uses post) := by
  by_cases h : c <;> simp [h]

theorem Yields.mono {p : Prog C R α} (yields : p.Yields uses post)
    (more : ∀ c, uses c → uses' c) (weaker : ∀ a, post a → post' a) : p.Yields uses' post' := by
  induction p with
  | done a => exact weaker a yields
  | ask c next ih => exact ⟨more c yields.1, fun r => ih r (yields.2 r)⟩

theorem Yields.bind {p : Prog C R α} {f : α → Prog C R β} (first : p.Yields uses post)
    (rest : ∀ a, post a → (f a).Yields uses mid) : (p >>= f).Yields uses mid :=
  (yields_bind p f).mpr (first.mono (fun _ used => used) rest)

theorem Yields.runs {p : Prog C R α} (yields : p.Yields uses post) {t : List (Event C R)} {a : α}
    (run : p.Runs t a) : (∀ e ∈ t, uses e.1) ∧ post a := by
  induction p generalizing t with
  | done b =>
    obtain ⟨rfl, rfl⟩ := run
    exact ⟨by simp, yields⟩
  | ask c next ih =>
    obtain ⟨r, rest, rfl, run⟩ := run
    obtain ⟨used, result⟩ := ih r (yields.2 r) run
    refine ⟨?_, result⟩
    rintro e (_ | ⟨_, member⟩)
    · exact yields.1
    · exact used e member

/-- Whatever it is answered, the program makes only calls of `uses`. -/
abbrev Makes (uses : C → Prop) (p : Prog C R α) : Prop := p.Yields uses fun _ => True

theorem Makes.bind {p : Prog C R α} {f : α → Prog C R β} (first : p.Makes uses)
    (rest : ∀ a, (f a).Makes uses) : (p >>= f).Makes uses :=
  Yields.bind first fun a _ => rest a

theorem Makes.call {c : C} {f : R c → Prog C R α} (used : uses c) (rest : ∀ r, (f r).Makes uses) :
    (Prog.call c >>= f).Makes uses := ⟨used, rest⟩

theorem Yields.after {p : Prog C R α} {f : α → Prog C R β} (first : p.Makes uses)
    (rest : ∀ a, (f a).Yields uses mid) : (p >>= f).Yields uses mid :=
  Yields.bind first fun a _ => rest a

theorem Yields.ite {c : Prop} {_ : Decidable c} {p q : Prog C R α} (yes : c → p.Yields uses post)
    (no : ¬ c → q.Yields uses post) : (if c then p else q).Yields uses post :=
  yields_ite.mpr ⟨yes, no⟩

theorem Makes.ite {c : Prop} {_ : Decidable c} {p q : Prog C R α} (yes : c → p.Makes uses)
    (no : ¬ c → q.Makes uses) : (if c then p else q).Makes uses := Yields.ite yes no

end Yields

/-- Every run of the program, with what it returns, satisfies `post`. -/
def Every (post : List (Event C R) → α → Prop) (p : Prog C R α) : Prop := ∀ t a, p.Runs t a → post t a

section Every

variable {post : List (Event C R) → α → Prop} {mid : List (Event C R) → β → Prop}

theorem Every.done {a : α} (final : post [] a) : (done a : Prog C R α).Every post := by
  rintro t b ⟨rfl, rfl⟩
  exact final

theorem Every.call {c : C} {f : R c → Prog C R α}
    (rest : ∀ r, (f r).Every fun t a => post (⟨c, r⟩ :: t) a) : (Prog.call c >>= f).Every post := by
  intro t a run
  obtain ⟨r, u, rfl, later⟩ := (runs_call_bind c f t a).mp run
  exact rest r u a later

theorem Every.bind {p : Prog C R β} {f : β → Prog C R α} (first : p.Every mid)
    (rest : ∀ t b, mid t b → (f b).Every fun u a => post (t ++ u) a) : (p >>= f).Every post := by
  intro t a run
  obtain ⟨u, v, b, rfl, begins, ends⟩ := (runs_bind p f t a).mp run
  exact rest u b (first u b begins) v a ends

theorem Every.ite {c : Prop} {_ : Decidable c} {p q : Prog C R α} (yes : c → p.Every post)
    (no : ¬ c → q.Every post) : (if c then p else q).Every post := by
  split
  · next h => exact yes h
  · next h => exact no h

theorem Every.mono {post' : List (Event C R) → α → Prop} {p : Prog C R α} (every : p.Every post)
    (weaker : ∀ t a, post t a → post' t a) : p.Every post' :=
  fun t a run => weaker t a (every t a run)

theorem Makes.every {uses : C → Prop} {p : Prog C R α} (makes : p.Makes uses) :
    p.Every fun t _ => ∀ e ∈ t, uses e.1 := fun _ _ run => (makes.runs run).1

end Every

/-- Run the program against an environment that answers from the calls made so far. -/
def exec (answer : List (Event C R) → (c : C) → R c) :
    List (Event C R) → Prog C R α → List (Event C R) × α
  | past, done a => (past, a)
  | past, ask c next => exec answer (past ++ [⟨c, answer past c⟩]) (next (answer past c))

theorem exec_extends (answer : List (Event C R) → (c : C) → R c) (p : Prog C R α)
    (past : List (Event C R)) :
    ∃ t, (exec answer past p).1 = past ++ t ∧ p.Runs t (exec answer past p).2 := by
  induction p generalizing past with
  | done a => exact ⟨[], by simp [exec], rfl, rfl⟩
  | ask c next ih =>
    obtain ⟨t, ht, hr⟩ := ih (answer past c) (past ++ [⟨c, answer past c⟩])
    exact ⟨⟨c, answer past c⟩ :: t, by simpa [exec] using ht, answer past c, t, rfl, hr⟩

/-- Whatever the environment answers, the executed trace is a run. -/
theorem exec_runs (answer : List (Event C R) → (c : C) → R c) (p : Prog C R α) :
    p.Runs (exec answer [] p).1 (exec answer [] p).2 := by
  obtain ⟨t, ht, hr⟩ := exec_extends answer p []
  rw [ht]
  simpa using hr

/-- The result under answers that depend on nothing but the call. -/
def eval (answer : (c : C) → R c) : Prog C R α → α
  | done a => a
  | ask c next => eval answer (next (answer c))

theorem exec_eval (answer : (c : C) → R c) (past : List (Event C R)) (p : Prog C R α) :
    (exec (fun _ => answer) past p).2 = eval answer p := by
  induction p generalizing past with
  | done a => rfl
  | ask c next ih => exact ih (answer c) _

section Eval

variable (answer : (c : C) → R c)

@[simp] theorem eval_pure (a : α) : eval answer (pure a : Prog C R α) = a := rfl

@[simp] theorem eval_call (c : C) : eval answer (call c : Prog C R (R c)) = answer c := rfl

@[simp high] theorem eval_call_bind (c : C) (f : R c → Prog C R α) :
    eval answer (call c >>= f) = eval answer (f (answer c)) := rfl

@[simp] theorem eval_bind (p : Prog C R α) (f : α → Prog C R β) :
    eval answer (p >>= f) = eval answer (f (eval answer p)) := by
  change eval answer (p.bind f) = _
  induction p with
  | done a => rfl
  | ask c next ih => exact ih (answer c)

@[simp] theorem eval_ite (c : Prop) [Decidable c] (p q : Prog C R α) :
    eval answer (if c then p else q) = if c then eval answer p else eval answer q :=
  apply_ite (eval answer) c p q

end Eval

end Prog

end WinBoot.Interaction
