import WinBoot.Throwing

/-! Programs that clean up after themselves. `Concludes` says what holds where a program returns
and what holds where it throws, and `onExit` runs a cleanup in either case. -/

namespace WinBoot.Interaction.Script

variable {C : Type} {R : C → Type} {E α β ι σ : Type}

def Concluded (throws : σ → E → Prop) (post : σ → α → Prop) (s : σ) (r : Except E α) : Prop :=
  (∀ a, r = .ok a → post s a) ∧ ∀ e, r = .error e → throws s e

theorem concluded_ok {throws : σ → E → Prop} {post : σ → α → Prop} {s : σ} {a : α} :
    Concluded throws post s (.ok a) ↔ post s a := by
  simp [Concluded]

theorem concluded_error {throws : σ → E → Prop} {post : σ → α → Prop} {s : σ} {e : E} :
    Concluded throws post s (.error e) ↔ throws s e := by
  simp [Concluded]

/-- `Ensures` that also says what holds where the script throws. -/
def Concludes (m : Monitor C R σ) (throws : σ → E → Prop) (p : Script C R E α) (post : σ → α → Prop)
    (s : σ) : Prop :=
  (ExceptT.run p).Safe m (Concluded throws post) s

/-- A result that was computed without a call. -/
def lift (x : Except E α) : Script C R E α := ExceptT.mk (pure x)

/-- The cleanup is told how the script has ended. Where it throws itself, that is the end. -/
def onExit (p : Script C R E α) (cleanup : Except E α → Script C R E Unit) : Script C R E α :=
  ExceptT.mk do
    let r ← ExceptT.run p
    let done ← ExceptT.run (cleanup r)
    pure (done >>= fun _ => r)

section Rules

variable (m : Monitor C R σ) {throws : σ → E → Prop}

theorem concludes_pure (a : α) (post : σ → α → Prop) (s : σ) :
    (pure a : Script C R E α).Concludes m throws post s ↔ post s a := concluded_ok

theorem concludes_throw (e : E) (post : σ → α → Prop) (s : σ) :
    (throw e : Script C R E α).Concludes m throws post s ↔ throws s e := concluded_error

theorem concludes_lift (x : Except E α) (post : σ → α → Prop) (s : σ) :
    (lift x : Script C R E α).Concludes m throws post s ↔ Concluded throws post s x := Iff.rfl

theorem concludes_ask (c : C) (post : σ → R c → Prop) (s : σ) :
    (ask c : Script C R E (R c)).Concludes m throws post s ↔ ∀ r, m.admits s ⟨c, r⟩ →
      m.allows s ⟨c, r⟩ ∧ post (m.next s ⟨c, r⟩) r := by
  refine forall_congr' fun r => imp_congr_right fun _ => and_congr_right' ?_
  exact concludes_pure m r post _

theorem Concludes.mono {p : Script C R E α} {throws' : σ → E → Prop} {post post' : σ → α → Prop}
    {s : σ}
    (concludes : p.Concludes m throws post s) (weaker : ∀ s a, post s a → post' s a)
    (caught : ∀ s e, throws s e → throws' s e) : p.Concludes m throws' post' s :=
  Prog.Safe.mono m concludes fun s _ holds =>
    ⟨fun a ok => weaker s a (holds.1 a ok), fun e thrown => caught s e (holds.2 e thrown)⟩

theorem Concludes.bind {p : Script C R E α} {f : α → Script C R E β} {mid : σ → α → Prop}
    {post : σ → β → Prop} {s : σ} (first : p.Concludes m throws mid s)
    (rest : ∀ s a, mid s a → (f a).Concludes m throws post s) :
    (p >>= f).Concludes m throws post s := by
  refine Prog.Safe.bind m first ?_
  rintro s (e | a) holds
  · exact (concludes_throw m e post s).mpr (concluded_error.mp holds)
  · exact rest s a (concluded_ok.mp holds)

/-- `Concludes.bind` where what holds between the two parts has to be said. -/
theorem Concludes.through {p : Script C R E α} {f : α → Script C R E β} {post : σ → β → Prop}
    {s : σ}
    (mid : σ → α → Prop) (first : p.Concludes m throws mid s)
    (rest : ∀ s a, mid s a → (f a).Concludes m throws post s) :
    (p >>= f).Concludes m throws post s :=
  Concludes.bind m first rest

/-- A check passes or ends the script, and the rest runs where it passed. -/
theorem Concludes.check {condition : Bool} {e : E} {f : Unit → Script C R E β} {post : σ → β → Prop}
    {s : σ} (caught : condition = true → throws s e)
    (rest : condition = false → (f ()).Concludes m throws post s) :
    (throwIf condition e >>= f).Concludes m throws post s := by
  cases condition with
  | false => exact rest rfl
  | true => exact (concludes_throw m e post s).mpr (caught rfl)

/-- A loop with an accumulator keeps what is said of the items so far. -/
theorem Concludes.foldlM {f : β → ι → Script C R E β} (inv : List ι → σ → β → Prop) {items : List ι}
    (step : ∀ front item, front ++ [item] <+: items → ∀ s b, inv front s b →
      (f b item).Concludes m throws (inv (front ++ [item])) s)
    {s : σ} {b : β} (start : inv [] s b) : (items.foldlM f b).Concludes m throws (inv items) s := by
  suffices from_ : ∀ front back, items = front ++ back → ∀ s b, inv front s b →
      (back.foldlM f b).Concludes m throws (inv items) s from from_ [] items rfl s b start
  intro front back
  induction back generalizing front with
  | nil =>
    rintro rfl s b here
    rw [List.append_nil]
    exact (concludes_pure m b _ s).mpr here
  | cons item back ih =>
    intro whole s b here
    rw [List.foldlM_cons]
    refine Concludes.bind m (step front item ⟨back, ?_⟩ s b here) fun s b next => ?_
    · rw [whole, List.append_assoc, List.singleton_append]
    · exact ih (front ++ [item]) (by rw [whole, List.append_assoc, List.singleton_append]) s b next

theorem Concludes.onExit {p : Script C R E α} {cleanup : Except E α → Script C R E Unit}
    {mid post : σ → α → Prop} {caught : σ → E → Prop} {s : σ} (body : p.Concludes m caught mid s)
    (returned : ∀ s a, mid s a → (cleanup (.ok a)).Concludes m throws (fun s _ => post s a) s)
    (thrown : ∀ s e, caught s e → (cleanup (.error e)).Concludes m throws (fun s _ => throws s e) s) :
    (onExit p cleanup).Concludes m throws post s := by
  refine Prog.Safe.bind m body ?_
  rintro s (e | a) holds
  · refine Prog.Safe.bind m (thrown s e (concluded_error.mp holds)) ?_
    rintro s (failed | _) after
    · exact concluded_error.mpr (concluded_error.mp after)
    · exact concluded_error.mpr (after.1 () rfl)
  · refine Prog.Safe.bind m (returned s a (concluded_ok.mp holds)) ?_
    rintro s (failed | _) after
    · exact concluded_error.mpr (concluded_error.mp after)
    · exact concluded_ok.mpr (after.1 () rfl)

end Rules

end WinBoot.Interaction.Script
