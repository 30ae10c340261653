import Mathlib.Logic.Function.Basic
import WinBoot.MaskedRegister
import WinBoot.PciePhy

/-! The core registers around the PHY's callback. A register keeps what is written to its
implemented bits; a core that stops answering reads as all ones from then on. Whatever step fails,
the controls that were changed are taken back in reverse order. -/

namespace WinBoot.PhyRollback
open Interaction KernelCalls PciePhy MaskedRegister

structure Core where
  content : Nat → U32
  dark : Bool
  /-- The steps still to be applied, and those applied, newest first. -/
  ahead : List CoreStep
  behind : List CoreStep
  /-- The step that was written and not yet read back. -/
  pending : Option CoreStep
  missed : Bool
  rolling : Bool
  /-- A read was all ones during rollback. -/
  lost : Bool

def Core.start (content : Nat → U32) (steps : List CoreStep) : Core :=
  ⟨content, false, steps, [], none, false, false, false⟩

def Core.reads (core : Core) (offset : Nat) (value : U32) : Prop :=
  value = allOnes ∨ core.dark = false ∧ value = core.content offset

def Core.misses (core : Core) (offset : Nat) (value : U32) : Bool :=
  core.pending.any fun step =>
    step.offset ≠ offset || value = allOnes || value &&& step.mask ≠ step.bits

def Core.read (core : Core) (offset : Nat) (value : U32) : Core :=
  { core with
    dark := core.dark || value ≠ core.content offset
    pending := none
    missed := core.missed || core.misses offset value
    lost := core.lost || core.rolling && value = allOnes }

def Core.current (core : Core) : Option CoreStep :=
  if core.rolling then core.behind.head? else core.ahead.head?

/-- A write is the current step's, and changes no bit outside its mask. -/
def Core.permits (core : Core) (offset : Nat) (value : U32) : Prop :=
  core.lost = false ∧ ∃ step ∈ core.current,
    step.offset = offset ∧ (value ^^^ core.content offset) &&& ~~~step.mask = 0

section Registers

variable (implemented : Nat → U32)

def put (content : Nat → U32) (offset : Nat) (value : U32) : Nat → U32 :=
  Function.update content offset (store (implemented offset) (content offset) value)

def Core.write (core : Core) (offset : Nat) (value : U32) : Core :=
  let content := put implemented core.content offset value
  if core.rolling then { core with content := content, behind := core.behind.tail }
  else
    { core with
      content := content
      ahead := core.ahead.tail
      behind := core.ahead.take 1 ++ core.behind
      pending := core.ahead.head? }

/-- The registers with their implemented bits, following the steps applied and taken back. -/
def registers : Monitor Call Answer Core where
  admits core
    | ⟨.readl .core offset, value⟩ => core.reads offset value
    | _ => True
  allows core
    | ⟨.writel .core offset value, _⟩ => core.permits offset value
    | ⟨.writew .core _ _, _⟩ => False
    | _ => True
  next core
    | ⟨.readl .core offset, value⟩ => core.read offset value
    | ⟨.writel .core offset value, _⟩ => core.write implemented offset value
    | ⟨.teardown .phy, _⟩ => { core with rolling := true }
    | _ => core

end Registers

/-- A call that writes no core register. -/
def leavesCore : Call → Bool
  | .writel .core _ _ | .writew .core _ _ | .teardown .phy => false
  | _ => true

section Undo

variable (implemented : Nat → U32) (initial : Nat → U32)

/-- The content with the step's saved bits back under its mask. -/
def undo (last : AppliedStep) (content : Nat → U32) : Nat → U32 :=
  put implemented content last.step.offset
    (merge last.step.mask last.saved (content last.step.offset))

/-- Taking the applied steps back in turn leads to the initial content, over content that every
step has read. -/
def Unwinds : List AppliedStep → (Nat → U32) → Prop
  | [], content => content = initial
  | last :: applied, content =>
    last.saved &&& ~~~last.step.mask = 0 ∧
      undo implemented last content last.step.offset ≠ allOnes ∧
      Unwinds applied (undo implemented last content)

variable {implemented initial}

theorem undo_put {step : CoreStep} (within : step.bits &&& ~~~step.mask = 0) (content : Nat → U32) :
    undo implemented ⟨step, content step.offset &&& step.mask⟩
      (put implemented content step.offset (merge step.mask step.bits (content step.offset))) =
        content := by
  simp only [undo, put, Function.update_self, Function.update_idem]
  rw [store_restore within, Function.update_eq_self]

theorem Unwinds.push {applied : List AppliedStep} {content : Nat → U32}
    (unwinds : Unwinds implemented initial applied content) {step : CoreStep}
    (within : step.bits &&& ~~~step.mask = 0) (answers : content step.offset ≠ allOnes) :
    Unwinds implemented initial (⟨step, content step.offset &&& step.mask⟩ :: applied)
      (put implemented content step.offset (merge step.mask step.bits (content step.offset))) := by
  have back : undo implemented ⟨step, content step.offset &&& step.mask⟩
      (put implemented content step.offset (merge step.mask step.bits (content step.offset))) =
        content := undo_put within content
  refine ⟨masked_within _ _, ?_, ?_⟩
  · rw [back]
    exact answers
  · rw [back]
    exact unwinds

end Undo

theorem chosenSteps_within (inspectPrefix testRefclk : Bool) :
    ∀ step ∈ chosenSteps inspectPrefix testRefclk, step.bits &&& ~~~step.mask = 0 := by
  cases inspectPrefix <;> cases testRefclk <;> decide

section Forward

variable (implemented : Nat → U32) (initial : Nat → U32)

/-- Between two steps on the way forward. -/
structure Forward (core : Core) (applied : List AppliedStep) : Prop where
  unwinds : Unwinds implemented initial applied core.content
  behind : core.behind = applied.map (·.step)
  settled : core.pending = none
  onward : core.rolling = false
  found : core.lost = false

variable {implemented initial} {core : Core} {applied : List AppliedStep} {α : Type}
  {post : Core → α → Prop}

theorem Forward.read (forward : Forward implemented initial core applied) (offset : Nat)
    (value : U32) :
    core.read offset value = { core with dark := core.dark || value ≠ core.content offset } := by
  simp [Core.read, Core.misses, forward.settled, forward.onward]

theorem Forward.darken (forward : Forward implemented initial core applied) (dark : Bool) :
    Forward implemented initial { core with dark := dark } applied := { forward with }

theorem safe_quiet {c : Call} {f : Answer c → Kernel α}
    (quiet : ∀ s r, (registers implemented).allows s ⟨c, r⟩ ∧ (registers implemented).next s ⟨c, r⟩ = s)
    (rest : ∀ r, (f r).Safe (registers implemented) post core) :
    (query c >>= f).Safe (registers implemented) post core := by
  apply (Prog.safe_call_bind (registers implemented) c f post core).mpr
  intro r _
  refine ⟨(quiet core r).1, ?_⟩
  rw [(quiet core r).2]
  exact rest r

theorem safe_onlyIf {needed : Bool} {c : Call} {unchanged : Answer c} {f : Answer c → Kernel α}
    (quiet : ∀ s r, (registers implemented).allows s ⟨c, r⟩ ∧ (registers implemented).next s ⟨c, r⟩ = s)
    (rest : ∀ r, (f r).Safe (registers implemented) post core) :
    (onlyIf needed unchanged (query c) >>= f).Safe (registers implemented) post core := by
  cases needed with
  | true => exact safe_quiet quiet rest
  | false => exact rest unchanged

theorem safe_read {offset : Nat} {f : U32 → Kernel α}
    (rest : ∀ value, core.reads offset value →
      (f value).Safe (registers implemented) post (core.read offset value)) :
    (query (.readl .core offset) >>= f).Safe (registers implemented) post core :=
  (Prog.safe_call_bind (registers implemented) (.readl .core offset) f post core).mpr
    fun value admitted => ⟨trivial, rest value admitted⟩

theorem safe_write {offset : Nat} {value : U32} {f : Unit → Kernel α}
    (permits : core.permits offset value)
    (rest : (f ()).Safe (registers implemented) post (core.write implemented offset value)) :
    (query (.writel .core offset value) >>= f).Safe (registers implemented) post core :=
  (Prog.safe_call_bind (registers implemented) (.writel .core offset value) f post core).mpr
    fun _ _ => ⟨permits, rest⟩

theorem Core.reads.content {offset : Nat} {value : U32} (reads : core.reads offset value)
    (answers : value ≠ allOnes) : value = core.content offset :=
  (reads.resolve_left answers).2

/-- A step is written over what it read, and can be undone by what it saved. -/
theorem Forward.write (forward : Forward implemented initial core applied) {step : CoreStep}
    {steps : List CoreStep} (ahead : core.ahead = step :: steps)
    (within : step.bits &&& ~~~step.mask = 0) (answers : core.content step.offset ≠ allOnes) :
    Forward implemented initial
        { core.write implemented step.offset
            (merge step.mask step.bits (core.content step.offset)) with pending := none }
        (⟨step, core.content step.offset &&& step.mask⟩ :: applied) := by
  have onward := forward.onward
  refine ⟨?_, ?_, rfl, ?_, ?_⟩
  · simpa [Core.write, onward] using forward.unwinds.push within answers
  · simp [Core.write, onward, ahead, forward.behind]
  · simp [Core.write, onward]
  · simp [Core.write, onward, forward.found]

theorem Forward.readBack (written : Forward implemented initial { core with pending := none } applied)
    (offset : Nat) (value : U32) : Forward implemented initial (core.read offset value) applied := by
  obtain ⟨unwinds, behind, -, onward, found⟩ := written
  refine ⟨unwinds, behind, rfl, onward, ?_⟩
  simp only at onward found
  simp [Core.read, onward, found]

variable (implemented initial) in
/-- What a program has done that only went forward. -/
def Went (after : Core) (result : Int × List AppliedStep) : Prop :=
  Forward implemented initial after result.2 ∧ (after.missed = true → result.1 ≠ 0)

theorem applySteps_went {steps : List CoreStep}
    (within : ∀ step ∈ steps, step.bits &&& ~~~step.mask = 0)
    (forward : Forward implemented initial core applied) (ahead : core.ahead = steps)
    (hit : core.missed = false) :
    (applySteps steps applied).Safe (registers implemented)
      (Went implemented initial) core := by
  induction steps generalizing core applied with
  | nil => exact ⟨forward, fun missed => absurd (hit ▸ missed) Bool.false_ne_true⟩
  | cons step steps ih =>
    refine safe_read fun value admitted => ?_
    rw [forward.read]
    generalize (core.dark || decide (value ≠ core.content step.offset)) = dark
    have nodev : enodev ≠ 0 := by decide
    refine Prog.Safe.ite (registers implemented)
      (fun missing => ⟨forward.darken dark, fun _ => nodev⟩) fun answers => ?_
    obtain rfl := admitted.content answers
    have forward := forward.darken dark
    have inside := within step (.head _)
    refine safe_onlyIf (fun _ _ => ⟨trivial, rfl⟩) fun _ => safe_write ?_ ?_
    · have onward := forward.onward
      simp only at onward
      refine ⟨forward.found, step, ?_, rfl, merge_xor inside _⟩
      simp [Core.current, onward, ahead]
    have written := (forward.write ahead inside answers).readBack step.offset
    refine safe_read fun back _ => ?_
    refine Prog.Safe.ite (registers implemented)
      (fun wrong => ⟨written back, fun _ => by change eio ≠ 0; decide⟩) fun right => ?_
    obtain ⟨shown, equal⟩ := not_or.mp right
    refine ih (fun other member => within other (.tail _ member)) (written back) ?_ ?_
    · have onward := forward.onward
      simp only at onward
      simp [Core.read, Core.write, onward, ahead]
    · have onward := forward.onward
      simp only at onward
      simp [Core.read, Core.write, Core.misses, onward, ahead, hit, shown, not_not.mp equal]

/-- Calls that write no core register change nothing on the way forward, but may find it dark. -/
theorem leavesCore_darkens {s : Core} {c : Call} {r : Answer c}
    (forward : Forward implemented initial core applied)
    (same : ∃ dark, s = { core with dark := dark })
    (leaves : leavesCore c = true) :
    (registers implemented).allows s ⟨c, r⟩ ∧
      ∃ dark, (registers implemented).next s ⟨c, r⟩ = { core with dark := dark } := by
  cases c with
  | readl window offset =>
    cases window with
    | core =>
      obtain ⟨dark, rfl⟩ := same
      exact ⟨trivial, _, (forward.darken dark).read offset r⟩
    | _ => exact ⟨trivial, same⟩
  | writel window offset value =>
    cases window with
    | core => cases leaves
    | _ => exact ⟨trivial, same⟩
  | writew window offset value =>
    cases window with
    | core => cases leaves
    | _ => exact ⟨trivial, same⟩
  | teardown layer =>
    cases layer with
    | phy => cases leaves
    | _ => exact ⟨trivial, same⟩
  | _ => exact ⟨trivial, same⟩

/-- The program writes no core register. -/
abbrev Leaves (p : Kernel α) : Prop := p.Yields (fun c => leavesCore c = true) fun _ => True

theorem Leaves.safe {p : Kernel α} (leaves : Leaves p)
    (forward : Forward implemented initial core applied) :
    p.Safe (registers implemented) (fun after _ => ∃ dark, after = { core with dark := dark }) core :=
  (leaves.keeps (registers implemented)
    (fun _ _ _ same used _ => leavesCore_darkens forward same used) ⟨core.dark, rfl⟩).mono _
      fun _ _ kept => kept.1

theorem Leaves.bind {β : Type} {p : Kernel β} {f : β → Kernel α} (leaves : Leaves p)
    (forward : Forward implemented initial core applied)
    (rest : ∀ dark b, (f b).Safe (registers implemented) post { core with dark := dark }) :
    (p >>= f).Safe (registers implemented) post core := by
  refine Prog.Safe.bind _ (leaves.safe forward) ?_
  rintro _ b ⟨dark, rfl⟩
  exact rest dark b

theorem radioIsOff_leaves : Leaves radioIsOff := by
  simp [radioIsOff, Prog.yields_ite, leavesCore]

theorem readOffsets_leaves (window : Window) (offsets : List Nat) :
    Leaves (readOffsets window offsets) := by
  induction offsets with
  | nil => trivial
  | cons offset offsets ih =>
      exact ⟨rfl, fun _ => Prog.yields_ite.mpr ⟨fun _ => trivial, fun _ => ih⟩⟩

theorem Forward.went (forward : Forward implemented initial core applied)
    (hit : core.missed = false)
    (ret : Int) : Went implemented initial core (ret, applied) :=
  ⟨forward, fun missed => absurd (hit ▸ missed) Bool.false_ne_true⟩

theorem preparePort_went (inspectPrefix testRefclk : Bool)
    (forward : Forward implemented initial core [])
    (ahead : core.ahead = chosenSteps inspectPrefix testRefclk) (hit : core.missed = false) :
    (preparePort inspectPrefix testRefclk).Safe (registers implemented)
      (Went implemented initial) core := by
  refine radioIsOff_leaves.bind forward fun dark ret => ?_
  have forward := forward.darken dark
  refine Prog.Safe.ite (registers implemented) (fun _ => forward.went hit ret) fun _ => ?_
  exact applySteps_went (chosenSteps_within inspectPrefix testRefclk) forward ahead hit

theorem usePhy_went {operate : Option (Kernel Int)} (alone : Leaves (operate.getD (pure 0)))
    (preparing inspectPrefix testRefclk : Bool) (forward : Forward implemented initial core [])
    (ahead : core.ahead = chosenSteps inspectPrefix testRefclk) (hit : core.missed = false) :
    (usePhy preparing inspectPrefix testRefclk operate).Safe (registers implemented)
      (Went implemented initial) core := by
  have prepared : (onlyIf preparing (0, []) (preparePort inspectPrefix testRefclk)).Safe
      (registers implemented) (Went implemented initial) core := by
    cases preparing with
    | true => exact preparePort_went inspectPrefix testRefclk forward ahead hit
    | false => exact forward.went hit 0
  refine Prog.Safe.bind _ prepared ?_
  rintro s ⟨ret, applied⟩ ⟨forward, told⟩
  refine Prog.Safe.ite (registers implemented) (fun _ => ⟨forward, told⟩) fun success => ?_
  have hit : s.missed = false := by
    cases missed : s.missed with
    | false => rfl
    | true => exact absurd (told missed) success
  refine (readOffsets_leaves .core coreOffsets).bind forward fun dark ret => ?_
  have forward := forward.darken dark
  refine Prog.Safe.ite (registers implemented) (fun _ => forward.went hit ret) fun _ => ?_
  refine (readOffsets_leaves .port portOffsets).bind forward fun dark ret => ?_
  have forward := forward.darken dark
  refine Prog.Safe.ite (registers implemented) (fun _ => forward.went hit ret) fun _ => ?_
  exact alone.bind forward fun dark ret => (forward.darken dark).went hit ret

end Forward

section Rollback

variable {implemented initial : Nat → U32} {core : Core} {applied : List AppliedStep} {ret : Int}

/-- Between two turns of the rollback loop, with the result so far. -/
structure Rolling (implemented initial : Nat → U32) (core : Core) (applied : List AppliedStep)
    (ret : Int) : Prop where
  unwinds : core.lost = false → Unwinds implemented initial applied core.content
  behind : core.behind = applied.map (·.step)
  settled : core.pending = none
  rolling : core.rolling = true
  blind : core.lost = true → core.dark = true
  told : core.lost = true ∨ core.missed = true → ret ≠ 0

/-- After the rollback the registers are as they were, unless a read was all ones on the way. -/
structure RolledBack (initial : Nat → U32) (after : Core) (ret : Int) : Prop where
  restored : after.lost = false → after.content = initial
  settled : after.pending = none
  told : after.lost = true ∨ after.missed = true → ret ≠ 0

theorem rollBackSteps_rolledBack (rolling : Rolling implemented initial core applied ret) :
    (rollBackSteps applied ret).Safe (registers implemented) (RolledBack initial) core := by
  induction applied generalizing core ret with
  | nil => exact ⟨rolling.unwinds, rolling.settled, rolling.told⟩
  | cons last applied ih =>
    obtain ⟨step, saved⟩ := last
    obtain ⟨unwinds, behind, settled, rolls, blind, told⟩ := rolling
    have failing : eio ≠ 0 := by decide
    refine safe_read fun value admitted => Prog.Safe.ite (registers implemented)
      (fun missing => ?_) fun answers => ?_
    · refine ⟨fun found => ?_, rfl, fun _ => failing⟩
      simp [Core.read, rolls, missing] at found
    have seen : core.dark = false := (admitted.resolve_left answers).1
    obtain rfl := admitted.content answers
    have found : core.lost = false := by
      cases lost : core.lost with
      | false => rfl
      | true => simp [blind lost] at seen
    obtain ⟨within, answers, rest⟩ := unwinds found
    have same : core.read step.offset (core.content step.offset) = core := by
      obtain ⟨content, dark, ahead, stack, pending, missed, _, lost⟩ := core
      simp_all [Core.read, Core.misses]
    rw [same]
    refine safe_write ⟨found, step, ?_, rfl, merge_xor within _⟩ ?_
    · simp [Core.current, rolls, behind]
    have written : core.write implemented step.offset
        (core.content step.offset &&& ~~~step.mask ||| saved) =
          { core with
            content := undo implemented ⟨step, saved⟩ core.content
            behind := applied.map (·.step) } := by
      simp [Core.write, rolls, behind, undo, merge]
    rw [written]
    refine safe_read fun back _ => ih ?_
    refine ⟨fun _ => rest, rfl, rfl, rolls, fun lost => ?_, fun either => ?_⟩
    · have shown : back = allOnes := by simpa [Core.read, rolls, found] using lost
      subst shown
      exact Bool.or_eq_true_iff.mpr (.inr (decide_eq_true answers.symm))
    · split_ifs with wrong
      · exact failing
      · obtain ⟨shown, -⟩ := not_or.mp wrong
        refine told (.inr ?_)
        simpa [Core.read, Core.misses, rolls, found, settled, shown] using either

theorem rollBackPhy_rolledBack (forward : Forward implemented initial core applied)
    (told : core.missed = true → ret ≠ 0) :
    (rollBackPhy applied ret).Safe (registers implemented) (RolledBack initial) core := by
  have told' : core.lost = true ∨ core.missed = true → ret ≠ 0 := by
    simpa [forward.found] using told
  cases applied with
  | nil => exact ⟨fun _ => forward.unwinds, forward.settled, told'⟩
  | cons last applied =>
    apply (Prog.safe_call_bind (registers implemented) (.teardown .phy) _ _ core).mpr
    refine fun _ _ => ⟨trivial, ?_⟩
    have rolling : Rolling implemented initial { core with rolling := true }
      (last :: applied) ret :=
      ⟨fun _ => forward.unwinds, forward.behind, forward.settled, rfl,
        fun lost => absurd (forward.found ▸ lost) Bool.false_ne_true, told'⟩
    refine Prog.Safe.bind _ (rollBackSteps_rolledBack rolling) ?_
    intro after ret done
    exact safe_quiet (fun _ _ => ⟨trivial, rfl⟩) fun _ => done

theorem Forward.unchanged (forward : Forward implemented initial core [])
    (hit : core.missed = false)
    (ret : Int) : RolledBack initial core ret :=
  ⟨fun _ => forward.unwinds, forward.settled, by simp [forward.found, hit]⟩

theorem isJ42dT7000_leaves : Leaves isJ42dT7000 :=
  ⟨rfl, fun _ => Prog.yields_ite.mpr ⟨fun _ => trivial, fun _ => ⟨rfl, fun _ => trivial⟩⟩⟩

theorem withPciePhy_rolledBack {operate : Option (Kernel Int)}
    (alone : Leaves (operate.getD (pure 0)))
    (preparing inspectPrefix testRefclk : Bool) (forward : Forward implemented initial core [])
    (ahead : core.ahead = chosenSteps inspectPrefix testRefclk) (hit : core.missed = false) :
    (withPciePhy preparing inspectPrefix testRefclk operate).Safe (registers implemented)
      (RolledBack initial) core := by
  refine Prog.Safe.ite (registers implemented) (fun _ => forward.unchanged hit _) fun _ => ?_
  refine isJ42dT7000_leaves.bind forward fun dark known => ?_
  have forward := forward.darken dark
  refine Prog.Safe.ite (registers implemented) (fun _ => forward.unchanged hit _) fun _ => ?_
  refine safe_quiet (fun _ _ => ⟨trivial, rfl⟩) fun owned => ?_
  refine Prog.Safe.ite (registers implemented) (fun _ => forward.unchanged hit _) fun _ => ?_
  refine safe_quiet (fun _ _ => ⟨trivial, rfl⟩) fun port => ?_
  have mapped : (mapPhy preparing inspectPrefix testRefclk operate).Safe (registers implemented)
      (RolledBack initial) { core with dark := dark } := by
    refine safe_quiet (fun _ _ => ⟨trivial, rfl⟩) fun core' => ?_
    refine safe_quiet (fun _ _ => ⟨trivial, rfl⟩) fun port' => ?_
    have used : (onlyIf (core' && port') (enomem, [])
        (usePhy preparing inspectPrefix testRefclk operate)).Safe (registers implemented)
          (Went implemented initial) { core with dark := dark } := by
      cases core' && port' with
      | true => exact usePhy_went alone preparing inspectPrefix testRefclk forward ahead hit
      | false => exact forward.went hit enomem
    refine Prog.Safe.bind _ used ?_
    rintro s ⟨ret, applied⟩ ⟨forward, told⟩
    refine Prog.Safe.bind _ (rollBackPhy_rolledBack forward told) fun after ret done => ?_
    refine safe_onlyIf (fun _ _ => ⟨trivial, rfl⟩) fun _ => ?_
    exact safe_onlyIf (fun _ _ => ⟨trivial, rfl⟩) fun _ => done
  have used : (onlyIf port ebusy (mapPhy preparing inspectPrefix testRefclk operate)).Safe
      (registers implemented) (RolledBack initial) { core with dark := dark } := by
    cases port with
    | true => exact mapped
    | false => exact forward.unchanged hit ebusy
  refine Prog.Safe.bind _ used fun after ret done => ?_
  refine safe_onlyIf (fun _ _ => ⟨trivial, rfl⟩) fun _ => ?_
  exact safe_quiet (fun _ _ => ⟨trivial, rfl⟩) fun _ => done

end Rollback

section Lost

variable {implemented : Nat → U32}

theorem lost_next {core : Core} {e : KernelEvent}
    (lost : ((registers implemented).next core e).lost = true) :
    core.lost = true ∨ ∃ offset, e = ⟨.readl .core offset, allOnes⟩ := by
  obtain ⟨c, r⟩ := e
  cases c with
  | readl window offset =>
    cases window with
    | core =>
      obtain before | now := Bool.or_eq_true_iff.mp lost
      · exact .inl before
      · have shown : r = allOnes := of_decide_eq_true (Bool.and_eq_true_iff.mp now).2
        exact .inr ⟨offset, by rw [shown]⟩
    | _ => exact .inl lost
  | writel window offset value =>
    cases window with
    | core =>
      change (core.write implemented offset value).lost = true at lost
      left
      unfold Core.write at lost
      split at lost <;> exact lost
    | _ => exact .inl lost
  | teardown layer => cases layer <;> exact .inl lost
  | _ => exact .inl lost

/-- What is lost was read as all ones. -/
theorem lost_read {core : Core} {t : List KernelEvent}
    (lost : ((registers implemented).after core t).lost = true) :
    core.lost = true ∨ ∃ offset, ⟨.readl .core offset, allOnes⟩ ∈ t := by
  induction t generalizing core with
  | nil => exact .inl lost
  | cons e t ih =>
    obtain before | ⟨offset, member⟩ := ih lost
    · obtain earlier | ⟨offset, rfl⟩ := lost_next before
      · exact .inl earlier
      · exact .inr ⟨offset, .head _⟩
    · exact .inr ⟨offset, .tail _ member⟩

end Lost

/-- A machine on which everything is found, with the registers of `core`. -/
def machine (implemented : Nat → U32) (core : Core) (past : List KernelEvent) : (c : Call) → Answer c
  | .readl .core offset =>
    let now := (registers implemented).after core past
    if now.dark then allOnes else now.content offset
  | .ofDeviceIsCompatible _ _ | .ofFindNodeByPath _ | .ofFindDevice _ | .devDriverBound _
  | .devGetRegmap _ | .requestMemRegion _ | .ioremap _ => true
  | .i2cAddr _ => (0x74 : Nat)
  | _ => default

theorem machine_admitted (implemented : Nat → U32) (core : Core) (p : Kernel Int) :
    (registers implemented).Admits core (Prog.exec (machine implemented core) [] p).1 := by
  refine Prog.exec_admits (registers implemented) (fun past c => ?_) p
  cases c with
  | readl window offset =>
    cases window with
    | core =>
      change Core.reads _ offset (machine implemented core past (.readl .core offset))
      unfold Core.reads machine
      by_cases dark : ((registers implemented).after core past).dark = true <;> simp [dark]
    | _ => trivial
  | _ => trivial

/-- The third control cannot be set. -/
def fixedControl (offset : Nat) : U32 := if offset = 0x118 then 0 else allOnes

end WinBoot.PhyRollback
