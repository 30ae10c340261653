import WinBoot.Interaction

/-! Monitors: a ghost state that follows the calls of a program. `admits` is what the
environment promises about its answers, `allows` what the program owes at each call. `Safe`
is the weakest precondition, computed along the program; `safe_runs` takes it to whole runs. -/

namespace WinBoot.Interaction

structure Monitor (C : Type) (R : C → Type) (σ : Type) where
  admits : σ → Event C R → Prop
  allows : σ → Event C R → Prop
  next : σ → Event C R → σ

namespace Monitor

variable {C : Type} {R : C → Type} {σ : Type} (m : Monitor C R σ)

/-- The monitor's state after a trace. -/
def after (s : σ) (t : List (Event C R)) : σ := t.foldl m.next s

/-- The environment keeps its promise along the trace. -/
def Admits : σ → List (Event C R) → Prop
  | _, [] => True
  | s, e :: t => m.admits s e ∧ Admits (m.next s e) t

/-- The program keeps its obligation along the trace. -/
def Allows : σ → List (Event C R) → Prop
  | _, [] => True
  | s, e :: t => m.allows s e ∧ Allows (m.next s e) t

@[simp] theorem after_nil (s : σ) : m.after s [] = s := rfl

@[simp] theorem after_cons (s : σ) (e : Event C R) (t : List (Event C R)) :
    m.after s (e :: t) = m.after (m.next s e) t := rfl

theorem after_append (s : σ) (t u : List (Event C R)) :
    m.after s (t ++ u) = m.after (m.after s t) u := List.foldl_append

theorem admits_append (s : σ) (t u : List (Event C R)) :
    m.Admits s (t ++ u) ↔ m.Admits s t ∧ m.Admits (m.after s t) u := by
  induction t generalizing s with
  | nil => simp [Admits]
  | cons e t ih => simp [Admits, ih, and_assoc]

theorem allows_append (s : σ) (t u : List (Event C R)) :
    m.Allows s (t ++ u) ↔ m.Allows s t ∧ m.Allows (m.after s t) u := by
  induction t generalizing s with
  | nil => simp [Allows]
  | cons e t ih => simp [Allows, ih, and_assoc]

theorem admits_of_forall (all : ∀ s e, m.admits s e) (s : σ) (t : List (Event C R)) :
    m.Admits s t := by
  induction t generalizing s with
  | nil => trivial
  | cons e t ih => exact ⟨all s e, ih _⟩

theorem allows_of_mem {s : σ} {t : List (Event C R)} (allowed : m.Allows s t) {e : Event C R}
    (member : e ∈ t) : ∃ s', m.allows s' e := by
  induction member generalizing s with
  | head => exact ⟨s, allowed.1⟩
  | tail _ _ ih => exact ih allowed.2

end Monitor

namespace Prog

variable {C : Type} {R : C → Type} {σ α β : Type} (m : Monitor C R σ)

/-- From `s`, every admitted run is allowed and ends in `post`. -/
def Safe : Prog C R α → (σ → α → Prop) → σ → Prop
  | done a, post, s => post s a
  | ask c next, post, s => ∀ r, m.admits s ⟨c, r⟩ →
      m.allows s ⟨c, r⟩ ∧ (next r).Safe post (m.next s ⟨c, r⟩)

@[simp] theorem safe_done (a : α) (post : σ → α → Prop) (s : σ) :
    (done a : Prog C R α).Safe m post s ↔ post s a := Iff.rfl

@[simp] theorem safe_pure (a : α) (post : σ → α → Prop) (s : σ) :
    (pure a : Prog C R α).Safe m post s ↔ post s a := Iff.rfl

@[simp] theorem safe_call (c : C) (post : σ → R c → Prop) (s : σ) :
    (call c : Prog C R (R c)).Safe m post s ↔ ∀ r, m.admits s ⟨c, r⟩ →
      m.allows s ⟨c, r⟩ ∧ post (m.next s ⟨c, r⟩) r := Iff.rfl

theorem safe_call_bind (c : C) (f : R c → Prog C R α) (post : σ → α → Prop) (s : σ) :
    (call c >>= f).Safe m post s ↔ ∀ r, m.admits s ⟨c, r⟩ →
      m.allows s ⟨c, r⟩ ∧ (f r).Safe m post (m.next s ⟨c, r⟩) := Iff.rfl

theorem safe_bind (p : Prog C R α) (f : α → Prog C R β) (post : σ → β → Prop) (s : σ) :
    (p >>= f).Safe m post s ↔ p.Safe m (fun s a => (f a).Safe m post s) s := by
  change (p.bind f).Safe m post s ↔ _
  induction p generalizing s with
  | done a => rfl
  | ask c next ih => exact forall_congr' fun r => imp_congr_right fun _ => and_congr_right' (ih r _)

theorem Safe.mono {p : Prog C R α} {post post' : σ → α → Prop} {s : σ}
    (safe : p.Safe m post s) (weaker : ∀ s a, post s a → post' s a) : p.Safe m post' s := by
  induction p generalizing s with
  | done a => exact weaker s a safe
  | ask c next ih =>
    intro r admitted
    obtain ⟨allowed, rest⟩ := safe r admitted
    exact ⟨allowed, ih r rest⟩

/-- Sequencing: what the first part establishes is where the second part starts. -/
theorem Safe.bind {p : Prog C R α} {f : α → Prog C R β} {mid : σ → α → Prop}
    {post : σ → β → Prop} {s : σ} (first : p.Safe m mid s)
    (rest : ∀ s a, mid s a → (f a).Safe m post s) : (p >>= f).Safe m post s :=
  (safe_bind m p f post s).mpr (first.mono m rest)

theorem Safe.ite {c : Prop} {_ : Decidable c} {p q : Prog C R α} {post : σ → α → Prop} {s : σ}
    (yes : c → p.Safe m post s) (no : ¬ c → q.Safe m post s) :
    (if c then p else q).Safe m post s := by
  split
  · next h => exact yes h
  · next h => exact no h

/-- A call is inert where the monitor allows it and stays in its state. -/
theorem Yields.safe {uses : C → Prop} {p : Prog C R α} {result : α → Prop} {s : σ}
    (yields : p.Yields uses result)
    (inert : ∀ c r, uses c → m.allows s ⟨c, r⟩ ∧ m.next s ⟨c, r⟩ = s) :
    p.Safe m (fun s' a => s' = s ∧ result a) s := by
  induction p with
  | done a => exact ⟨rfl, yields⟩
  | ask c next ih =>
    intro r _
    obtain ⟨allowed, stays⟩ := inert c r yields.1
    exact ⟨allowed, stays.symm ▸ ih r (yields.2 r)⟩

/-- An invariant that every call of the program keeps, whatever it is answered. -/
theorem Yields.keeps {uses : C → Prop} {p : Prog C R α} {result : α → Prop} {inv : σ → Prop}
    (yields : p.Yields uses result)
    (step : ∀ s c r, inv s → uses c → m.admits s ⟨c, r⟩ →
      m.allows s ⟨c, r⟩ ∧ inv (m.next s ⟨c, r⟩)) {s : σ} (start : inv s) :
    p.Safe m (fun s' a => inv s' ∧ result a) s := by
  induction p generalizing s with
  | done a => exact ⟨start, yields⟩
  | ask c next ih =>
    intro r admitted
    obtain ⟨allowed, kept⟩ := step s c r start yields.1 admitted
    exact ⟨allowed, ih r (yields.2 r) kept⟩

/-- What every result satisfies holds where a safe run ends, too. -/
theorem Safe.yields {uses : C → Prop} {p : Prog C R α} {post : σ → α → Prop} {result : α → Prop}
    {s : σ} (safe : p.Safe m post s) (yields : p.Yields uses result) :
    p.Safe m (fun after a => post after a ∧ result a) s := by
  induction p generalizing s with
  | done a => exact ⟨safe, yields⟩
  | ask c next ih =>
    intro r admitted
    exact ⟨(safe r admitted).1, ih r (safe r admitted).2 (yields.2 r)⟩

/-- A program whose answers are pinned returns what it returns against those answers. -/
theorem Yields.determined {uses : C → Prop} {p : Prog C R α} {result : α → Prop} {s : σ}
    (yields : p.Yields uses result) (answer : (c : C) → R c)
    (pinned : ∀ c r, uses c → m.admits s ⟨c, r⟩ →
      r = answer c ∧ m.allows s ⟨c, r⟩ ∧ m.next s ⟨c, r⟩ = s) (past : List (Event C R)) :
    p.Safe m (fun after a => after = s ∧ a = (exec (fun _ => answer) past p).2) s := by
  induction p generalizing past with
  | done a => exact ⟨rfl, rfl⟩
  | ask c next ih =>
    intro r admitted
    obtain ⟨rfl, allowed, stays⟩ := pinned c r yields.1 admitted
    refine ⟨allowed, ?_⟩
    rw [stays]
    exact ih _ (yields.2 _) _

/-- Against admitted answers that change nothing, the result is what the postcondition says. -/
theorem Safe.exec {uses : C → Prop} {p : Prog C R α} {result : α → Prop} {post : σ → α → Prop}
    {s : σ} (safe : p.Safe m post s) (yields : p.Yields uses result) (answer : (c : C) → R c)
    (answers : ∀ c, uses c → m.admits s ⟨c, answer c⟩ ∧ m.next s ⟨c, answer c⟩ = s)
    (past : List (Event C R)) : post s (exec (fun _ => answer) past p).2 := by
  induction p generalizing past with
  | done a => exact safe
  | ask c next ih =>
    obtain ⟨admitted, stays⟩ := answers c yields.1
    have rest := (safe (answer c) admitted).2
    rw [stays] at rest
    exact ih _ rest (yields.2 _) _

theorem safe_of_allows (allows : ∀ s e, m.allows s e) (p : Prog C R α) (s : σ) :
    p.Safe m (fun _ _ => True) s := by
  induction p generalizing s with
  | done a => trivial
  | ask c next ih => exact fun r _ => ⟨allows s _, ih r _⟩

theorem Safe.all {ι : Type} {p : Prog C R α} {post : ι → σ → α → Prop} {s : σ}
    (base : p.Safe m (fun _ _ => True) s) (safe : ∀ i, p.Safe m (post i) s) :
    p.Safe m (fun s a => ∀ i, post i s a) s := by
  induction p generalizing s with
  | done a => exact safe
  | ask c next ih =>
    intro r admitted
    exact ⟨(base r admitted).1, ih r (base r admitted).2 fun i => (safe i r admitted).2⟩

/-- An environment that answers as promised from every state is admitted. -/
theorem exec_admits {answer : List (Event C R) → (c : C) → R c} {s : σ}
    (promised : ∀ past c, m.admits (m.after s past) ⟨c, answer past c⟩) (p : Prog C R α) :
    m.Admits s (exec answer [] p).1 := by
  have extended (past : List (Event C R)) (before : m.Admits s past) :
      m.Admits s (exec answer past p).1 := by
    induction p generalizing past with
    | done a => exact before
    | ask c next ih =>
      refine ih _ _ ((m.admits_append s past _).mpr ⟨before, promised past c, trivial⟩)
  exact extended [] trivial

/-- A safe program does in every admitted run what its postcondition says. -/
theorem safe_runs {p : Prog C R α} {post : σ → α → Prop} {s : σ} (safe : p.Safe m post s)
    {t : List (Event C R)} {a : α} (run : p.Runs t a) (admitted : m.Admits s t) :
    m.Allows s t ∧ post (m.after s t) a := by
  induction p generalizing s t with
  | done b =>
    obtain ⟨rfl, rfl⟩ := run
    exact ⟨trivial, safe⟩
  | ask c next ih =>
    obtain ⟨r, rest, rfl, run⟩ := run
    obtain ⟨allowed, safe⟩ := safe r admitted.1
    obtain ⟨tail, final⟩ := ih r safe run admitted.2
    exact ⟨⟨allowed, tail⟩, final⟩

end Prog

/-- The monitor that only allows some calls. -/
def Monitor.only {C : Type} {R : C → Type} (uses : C → Prop) : Monitor C R Unit where
  admits _ _ := True
  allows _ event := uses event.1
  next _ _ := ()

theorem Monitor.Allows.only {C : Type} {R : C → Type} {uses : C → Prop} {t : List (Event C R)}
    (allowed : (Monitor.only uses).Allows () t) : ∀ e ∈ t, uses e.1 := by
  intro e member
  obtain ⟨_, used⟩ := (Monitor.only uses).allows_of_mem allowed member
  exact used

theorem Prog.Safe.onlyYields {C : Type} {R : C → Type} [∀ c, Inhabited (R c)] {α : Type}
    {uses : C → Prop} {p : Prog C R α} {post : Unit → α → Prop}
    (safe : p.Safe (Monitor.only uses) post ()) : p.Yields uses (post ()) := by
  induction p with
  | done a => exact safe
  | ask c next ih => exact ⟨(safe default trivial).1, fun r => ih r (safe r trivial).2⟩

end WinBoot.Interaction
