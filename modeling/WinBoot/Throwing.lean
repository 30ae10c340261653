import WinBoot.Monitor

/-! Programs that may also throw. `Ensures` is the weakest precondition of a normal return: a
throw ends the program, and nothing is asked of it but what the monitor asks of the calls. -/

namespace WinBoot.Interaction

abbrev Script (C : Type) (R : C → Type) (E α : Type) : Type := ExceptT E (Prog C R) α

namespace Script

variable {C : Type} {R : C → Type} {E α β σ : Type}

/-- A call that cannot fail. -/
def ask (c : C) : Script C R E (R c) := ExceptT.lift (Prog.call c)

/-- A call whose failure is thrown on. -/
def attempt (c : C) (reply : R c = Except E α) : Script C R E α :=
  ExceptT.mk (Prog.call c >>= fun r => pure (cast reply r))

def throwIf (condition : Bool) (e : E) : Script C R E Unit :=
  if condition then throw e else pure ()

def Ensures (m : Monitor C R σ) (p : Script C R E α) (post : σ → α → Prop) (s : σ) : Prop :=
  (ExceptT.run p).Safe m (fun s r => ∀ a, r = .ok a → post s a) s

/-- A run of a sequence ends where its first part throws, or goes on with what that returns. -/
theorem runs_bind (p : Script C R E α) (f : α → Script C R E β) (t : List (Event C R))
    (result : Except E β) : (ExceptT.run (p >>= f)).Runs t result ↔
      (∃ e, (ExceptT.run p).Runs t (.error e) ∧ result = .error e) ∨
      ∃ t₁ t₂ a, t = t₁ ++ t₂ ∧ (ExceptT.run p).Runs t₁ (.ok a) ∧
        (ExceptT.run (f a)).Runs t₂ result := by
  refine (Prog.runs_bind (ExceptT.run p) (ExceptT.bindCont f) t result).trans ?_
  constructor
  · rintro ⟨t₁, t₂, e | a, rfl, first, rest⟩
    · obtain ⟨rfl, rfl⟩ := rest
      exact .inl ⟨e, by simpa using first, rfl⟩
    · exact .inr ⟨t₁, t₂, a, rfl, first, rest⟩
  · rintro (⟨e, first, rfl⟩ | ⟨t₁, t₂, a, rfl, first, rest⟩)
    · exact ⟨t, [], .error e, by simp, first, rfl, rfl⟩
    · exact ⟨t₁, t₂, .ok a, rfl, first, rest⟩

section Rules

variable (m : Monitor C R σ)

theorem ensures_pure (a : α) (post : σ → α → Prop) (s : σ) :
    (pure a : Script C R E α).Ensures m post s ↔ post s a := by
  change (∀ b, (Except.ok a : Except E α) = .ok b → post s b) ↔ _
  constructor
  · intro all
    exact all a rfl
  · rintro here b ⟨⟩
    exact here

theorem ensures_throw (e : E) (post : σ → α → Prop) (s : σ) :
    (throw e : Script C R E α).Ensures m post s :=
  fun _ equal => nomatch equal

theorem Ensures.mono {p : Script C R E α} {post post' : σ → α → Prop} {s : σ}
    (ensures : p.Ensures m post s) (weaker : ∀ s a, post s a → post' s a) :
    p.Ensures m post' s :=
  Prog.Safe.mono m ensures fun s _ holds a ok => weaker s a (holds a ok)

theorem Ensures.bind {p : Script C R E α} {f : α → Script C R E β} {mid : σ → α → Prop}
    {post : σ → β → Prop} {s : σ} (first : p.Ensures m mid s)
    (rest : ∀ s a, mid s a → (f a).Ensures m post s) : (p >>= f).Ensures m post s := by
  refine Prog.Safe.bind m first ?_
  rintro s (e | a) holds
  · exact ensures_throw m e post s
  · exact rest s a (holds a rfl)

/-- `Ensures.bind` where what holds between the two parts has to be said. -/
theorem Ensures.through {p : Script C R E α} {f : α → Script C R E β} {post : σ → β → Prop} {s : σ}
    (mid : σ → α → Prop) (first : p.Ensures m mid s)
    (rest : ∀ s a, mid s a → (f a).Ensures m post s) : (p >>= f).Ensures m post s :=
  Ensures.bind m first rest

theorem ensures_attempt (c : C) (reply : R c = Except E α) (post : σ → α → Prop) (s : σ) :
    (attempt c reply).Ensures m post s ↔ ∀ r, m.admits s ⟨c, r⟩ →
      m.allows s ⟨c, r⟩ ∧ ∀ a, cast reply r = .ok a → post (m.next s ⟨c, r⟩) a := Iff.rfl

theorem ensures_throwIf (condition : Bool) (e : E) (post : σ → Unit → Prop) (s : σ) :
    (throwIf condition e : Script C R E Unit).Ensures m post s ↔ (condition = false → post s ()) := by
  cases condition with
  | false => simp [throwIf, ensures_pure]
  | true => simp [throwIf, ensures_throw]

/-- A check passes or ends the script; the rest runs where it passed. -/
theorem Ensures.check {condition : Bool} {e : E} {f : Unit → Script C R E β} {post : σ → β → Prop}
    {s : σ} (rest : condition = false → (f ()).Ensures m post s) :
    (throwIf condition e >>= f).Ensures m post s := by
  refine Ensures.through m (fun after _ => after = s ∧ condition = false) ?_ ?_
  · exact (ensures_throwIf m condition e _ s).mpr fun passed => ⟨rfl, passed⟩
  · rintro _ ⟨⟩ ⟨rfl, passed⟩
    exact rest passed

end Rules

/-- A script that makes only calls the monitor lets pass unnoticed. -/
def Within (uses : C → Prop) (p : Script C R E α) : Prop :=
  (ExceptT.run p).Yields uses fun _ => True

theorem within_pure (uses : C → Prop) (a : α) : (pure a : Script C R E α).Within uses := trivial

theorem within_throwIf (uses : C → Prop) (condition : Bool) (e : E) :
    (throwIf condition e : Script C R E Unit).Within uses := by
  cases condition <;> trivial

theorem within_ask {uses : C → Prop} {c : C} (used : uses c) :
    (ask c : Script C R E (R c)).Within uses := ⟨used, fun _ => trivial⟩

theorem within_attempt {uses : C → Prop} {c : C} (reply : R c = Except E α) (used : uses c) :
    (attempt c reply).Within uses := ⟨used, fun _ => trivial⟩

theorem Within.bind {uses : C → Prop} {p : Script C R E α} {f : α → Script C R E β}
    (first : p.Within uses) (rest : ∀ a, (f a).Within uses) : (p >>= f).Within uses := by
  refine Prog.Yields.bind first ?_
  rintro (e | a) -
  · trivial
  · exact rest a

theorem Within.forM {uses : C → Prop} {f : β → Script C R E Unit} (each : ∀ b, (f b).Within uses)
    (items : List β) : (items.forM f).Within uses := by
  induction items with
  | nil => exact within_pure uses ()
  | cons item items ih => exact Within.bind (each item) fun _ => ih

theorem Within.runs {uses : C → Prop} {p : Script C R E α} (within : p.Within uses)
    {t : List (Event C R)} {result : Except E α} (run : (ExceptT.run p).Runs t result) :
    ∀ e ∈ t, uses e.1 := (Prog.Yields.runs within run).1

theorem runs_bind_ok (p : Script C R E α) (f : α → Script C R E β) (t : List (Event C R)) (b : β) :
    (ExceptT.run (p >>= f)).Runs t (.ok b) ↔ ∃ t₁ t₂ a, t = t₁ ++ t₂ ∧
      (ExceptT.run p).Runs t₁ (.ok a) ∧ (ExceptT.run (f a)).Runs t₂ (.ok b) := by
  refine (runs_bind p f t _).trans (or_iff_right ?_)
  rintro ⟨e, -, thrown⟩
  cases thrown

theorem runs_ask (c : C) (t : List (Event C R)) (r : R c) :
    (ExceptT.run (ask c : Script C R E (R c))).Runs t (.ok r) ↔ t = [⟨c, r⟩] := by
  constructor
  · rintro ⟨_, _, rfl, rfl, ⟨⟩⟩
    rfl
  · rintro rfl
    exact ⟨r, [], rfl, rfl, rfl⟩

theorem runs_attempt (c : C) (reply : R c = Except E α) (t : List (Event C R)) (a : α) :
    (ExceptT.run (attempt c reply)).Runs t (.ok a) ↔
      ∃ r, t = [⟨c, r⟩] ∧ cast reply r = .ok a := by
  constructor
  · rintro ⟨r, _, rfl, rfl, same⟩
    exact ⟨r, rfl, same⟩
  · rintro ⟨r, rfl, same⟩
    exact ⟨r, [], rfl, rfl, same⟩

theorem runs_throwIf (condition : Bool) (e : E) (t : List (Event C R)) :
    (ExceptT.run (throwIf condition e : Script C R E Unit)).Runs t (.ok ()) ↔
      t = [] ∧ condition = false := by
  cases condition with
  | false =>
    constructor
    · rintro ⟨here, -⟩
      exact ⟨here, rfl⟩
    · rintro ⟨here, -⟩
      exact ⟨here, rfl⟩
  | true =>
    constructor
    · rintro ⟨-, thrown⟩
      cases thrown
    · rintro ⟨-, ⟨⟩⟩

theorem runs_forM {f : β → Script C R E Unit} {items : List β} {t : List (Event C R)}
    (run : (ExceptT.run (items.forM f)).Runs t (.ok ())) {item : β} (member : item ∈ items) :
    ∃ before own after, t = before ++ own ++ after ∧ (ExceptT.run (f item)).Runs own (.ok ()) := by
  induction items generalizing t with
  | nil => simp at member
  | cons first items ih =>
    obtain ⟨t₁, t₂, _, rfl, own, rest⟩ := (runs_bind_ok _ _ t _).mp run
    obtain rfl | member := List.mem_cons.mp member
    · exact ⟨[], t₁, t₂, rfl, own⟩
    · obtain ⟨before, mine, after, rfl, here⟩ := ih rest member
      exact ⟨t₁ ++ before, mine, after, by simp, here⟩

/-- A call that the first part cannot make comes after that part has returned. -/
theorem Within.runs_before {uses : C → Prop} {p : Script C R E α} {f : α → Script C R E β}
    (within : p.Within uses) {before after : List (Event C R)} {event : Event C R}
    {result : Except E β} (other : ¬uses event.1)
    (run : (ExceptT.run (p >>= f)).Runs (before ++ event :: after) result) :
    ∃ first rest a, before = first ++ rest ∧ (ExceptT.run p).Runs first (.ok a) ∧
      (ExceptT.run (f a)).Runs (rest ++ event :: after) result := by
  obtain ⟨e, only, -⟩ | ⟨first, second, a, split, returned, rest⟩ :=
    (runs_bind p f _ result).mp run
  · exact absurd (within.runs only event (by simp)) other
  · have apart : event ∉ first := fun member => other (within.runs returned event member)
    obtain ⟨more, rfl, here⟩ | ⟨more, rfl, here⟩ := List.append_eq_append_iff.mp split
    · cases more with
      | nil => exact ⟨before, [], a, by simp, by simpa using returned, by simpa [here] using rest⟩
      | cons e more =>
        obtain ⟨rfl, -⟩ := List.cons.inj here
        exact absurd (by simp) apart
    · exact ⟨first, more, a, rfl, returned, here ▸ rest⟩

/-- Calls that go unnoticed leave the monitor where it was. -/
theorem Within.ensures {uses : C → Prop} {p : Script C R E α} (within : p.Within uses)
    {m : Monitor C R σ} {s : σ}
    (inert : ∀ c r, uses c → m.allows s ⟨c, r⟩ ∧ m.next s ⟨c, r⟩ = s) :
    p.Ensures m (fun after _ => after = s) s :=
  Prog.Safe.mono m (Prog.Yields.safe m within inert) fun _ _ holds _ _ => holds.1

end Script

/-- The monitor that remembers every call and its answer. -/
def Monitor.history {C : Type} {R : C → Type} (allows : List (Event C R) → Event C R → Prop) :
    Monitor C R (List (Event C R)) where
  admits _ _ := True
  allows := allows
  next past event := past ++ [event]

section History

variable {C : Type} {R : C → Type} {E α : Type} (allows : List (Event C R) → Event C R → Prop)

theorem Monitor.after_history (past t : List (Event C R)) :
    (Monitor.history allows).after past t = past ++ t := by
  induction t generalizing past with
  | nil => simp
  | cons e t ih =>
    rw [Monitor.after_cons, ih]
    simp [Monitor.history]

/-- What none of a script's calls undoes still holds after it, if they are always allowed. -/
theorem Script.Within.keeps {uses : C → Prop} {p : Script C R E α} (within : p.Within uses)
    {stays : List (Event C R) → Prop} {past : List (Event C R)}
    (always : ∀ past c r, uses c → allows past ⟨c, r⟩)
    (stable : ∀ past c r, uses c → stays past → stays (past ++ [⟨c, r⟩])) (here : stays past) :
    p.Ensures (Monitor.history allows) (fun after _ => stays after) past := by
  have keeps : ∀ {q : Prog C R (Except E α)}, q.Yields uses (fun _ => True) →
      ∀ {past}, stays past → q.Safe (Monitor.history allows) (fun after _ => stays after) past := by
    intro q yields
    induction q with
    | done a => exact fun here => here
    | ask c next ih => exact fun here r _ =>
        ⟨always _ c r yields.1, ih r (yields.2 r) (stable _ c r yields.1 here)⟩
  exact Prog.Safe.mono _ (keeps within here) fun _ _ holds _ _ => holds

/-- In a run of a script that meets its obligations, every call was allowed by what had gone
before it. -/
theorem Script.Ensures.allowed {p : Script C R E α} {post : List (Event C R) → α → Prop}
    (ensures : p.Ensures (Monitor.history allows) post []) {before after : List (Event C R)}
    {event : Event C R} {result : Except E α}
    (run : (ExceptT.run p).Runs (before ++ event :: after) result) : allows before event := by
  have admitted := (Monitor.history allows).admits_of_forall (fun _ _ => trivial) []
    (before ++ event :: after)
  have allowed := (Prog.safe_runs _ ensures run admitted).1
  have here := ((Monitor.history allows).allows_append [] before (event :: after)).mp allowed
  rw [Monitor.after_history] at here
  exact here.2.1

end History

end WinBoot.Interaction
