import WinBoot.Monitor

/-! Programs with a callback. The calls of the callback are its own affair: a monitor follows the
calls that the program makes before and after it, and the callback is entered only in states that
are fit for it. -/

namespace WinBoot.Interaction

namespace Monitor

variable {C : Type} {R : C → Type} {σ : Type} (m : Monitor C R σ)

/-- What is held changes by what each allowed event gains or loses, so over a trace the gains and
the losses differ by what is held at its ends. -/
theorem balance (held : σ → Bool) (gains loses : Event C R → Bool)
    (step : ∀ s e, m.allows s e →
      (held (m.next s e)).toNat + (loses e).toNat = (held s).toNat + (gains e).toNat)
    {s : σ} {t : List (Event C R)} (allowed : m.Allows s t) :
    (held (m.after s t)).toNat + t.countP loses = (held s).toNat + t.countP gains := by
  induction t generalizing s with
  | nil => simp
  | cons e t ih =>
    have first := step s e allowed.1
    have rest := ih allowed.2
    have count (p : Event C R → Bool) : (e :: t).countP p = t.countP p + (p e).toNat := by
      rw [List.countP_cons]
      cases p e <;> rfl
    rw [after_cons, count, count]
    omega

end Monitor

namespace Prog

variable {C : Type} {R : C → Type} {σ α β : Type}

/-- A callback that was not called makes no calls of its own. -/
def Called (callback : Prog C R β) : Option β → List (Event C R) → Prop
  | none, during => during = []
  | some r, during => callback.Runs during r

/-- Every run of `p` is allowed from `s` outside its callback, enters that where `entered` holds,
and ends in `post`. -/
def Around (p : Prog C R α) (m : Monitor C R σ) (callback : Prog C R β) (entered : σ → Prop)
    (post : Option β → σ → α → Prop) (s : σ) : Prop :=
  ∀ t a, p.Runs t a → ∃ before during after called, t = before ++ during ++ after ∧
    callback.Called called during ∧ (called.isSome → entered (m.after s before)) ∧
    m.Allows s (before ++ after) ∧ post called (m.after s (before ++ after)) a

section Rules

variable {m : Monitor C R σ} (free : ∀ s e, m.admits s e) {callback : Prog C R β}
  {entered : σ → Prop} {post : Option β → σ → α → Prop} {s : σ}

include free in
theorem Around.safe {p : Prog C R α} (safe : p.Safe m (post none) s) :
    p.Around m callback entered post s := by
  intro t a run
  obtain ⟨allowed, final⟩ := safe_runs m safe run (m.admits_of_forall free s t)
  exact ⟨t, [], [], none, by simp, rfl, by simp, by simpa using allowed, by simpa using final⟩

include free in
theorem Around.bind {γ : Type} {p : Prog C R γ} {f : γ → Prog C R α} {mid : σ → γ → Prop}
    (first : p.Safe m mid s)
    (rest : ∀ s a, mid s a → (f a).Around m callback entered post s) :
    (p >>= f).Around m callback entered post s := by
  intro t a run
  obtain ⟨u, v, b, rfl, begins, ends⟩ := (runs_bind p f t a).mp run
  obtain ⟨allowed, reached⟩ := safe_runs m first begins (m.admits_of_forall free s u)
  obtain ⟨before, during, after, called, rfl, calls, fit, later, final⟩ := rest _ b reached v a ends
  refine ⟨u ++ before, during, after, called, by simp, calls, ?_, ?_, ?_⟩
  · simpa [m.after_append] using fit
  · simpa [m.allows_append, allowed] using later
  · simpa [m.after_append] using final

include free in
theorem Around.call {c : C} {f : R c → Prog C R α}
    (rest : ∀ r, m.allows s ⟨c, r⟩ ∧ (f r).Around m callback entered post (m.next s ⟨c, r⟩)) :
    (Prog.call c >>= f).Around m callback entered post s := by
  have first : (Prog.call c : Prog C R (R c)).Safe m (fun s' r => s' = m.next s ⟨c, r⟩) s :=
    fun r _ => ⟨(rest r).1, rfl⟩
  refine Around.bind free first ?_
  rintro _ r rfl
  exact (rest r).2

theorem Around.ite {c : Prop} {_ : Decidable c} {p q : Prog C R α}
    (yes : c → p.Around m callback entered post s) (no : ¬ c → q.Around m callback entered post s) :
    (if c then p else q).Around m callback entered post s := by
  split
  · next h => exact yes h
  · next h => exact no h

include free in
/-- The callback is called where the program is fit for it, and the program goes on from there. -/
theorem Around.enter {f : β → Prog C R α} (fit : entered s)
    (rest : ∀ r, (f r).Safe m (post (some r)) s) :
    (callback >>= f).Around m callback entered post s := by
  intro t a run
  obtain ⟨during, after, r, rfl, calls, ends⟩ := (runs_bind callback f t a).mp run
  obtain ⟨allowed, final⟩ := safe_runs m (rest r) ends (m.admits_of_forall free s after)
  exact ⟨[], during, after, some r, by simp, calls, fun _ => fit, allowed, final⟩

include free in
/-- The callback was called in the first part, if at all. -/
theorem Around.seq {γ : Type} {p : Prog C R γ} {f : γ → Prog C R α} {mid : Option β → σ → γ → Prop}
    (first : p.Around m callback entered mid s)
    (rest : ∀ called s a, mid called s a → (f a).Safe m (post called) s) :
    (p >>= f).Around m callback entered post s := by
  intro t a run
  obtain ⟨u, v, b, rfl, begins, ends⟩ := (runs_bind p f t a).mp run
  obtain ⟨before, during, after, called, rfl, calls, fit, allowed, reached⟩ := first u b begins
  obtain ⟨later, final⟩ := safe_runs m (rest called _ b reached) ends (m.admits_of_forall free _ v)
  refine ⟨before, during, after ++ v, called, by simp, calls, fit, ?_, ?_⟩
  · rw [← List.append_assoc]
    exact (m.allows_append s _ _).mpr ⟨allowed, later⟩
  · rw [← List.append_assoc, m.after_append]
    exact final

end Rules

end Prog

end WinBoot.Interaction
