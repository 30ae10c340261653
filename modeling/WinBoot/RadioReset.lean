import WinBoot.Callback
import WinBoot.EndpointCalls
import WinBoot.ProbeLifetimes

/-! Radio power and the reset line. The rail is switched on behind a reset that read back as driven
low, the observer alone releases it, and it is given back only behind a rail that read back off. -/

namespace WinBoot.RadioReset
open Interaction Interaction.Prog KernelCalls RadioPulse EndpointProbe EndpointCalls

/-- The reset register with the line not driven, and with the line driven low. -/
def undriven : U32 := 0x76200
def drivenLow : U32 := 0x76202

def linkControl : Nat := 0x80

/-- What the calls so far tell of the reset line, the rail and the port's link control. What a
register read back as is forgotten when it is changed. -/
structure Radio where
  low : Bool
  assertion : Option Int
  reset : Option U32
  powered : Bool
  rail : Option U32
  found : Option U32
  control : Option U32

def Radio.start : Radio := ⟨false, none, none, false, none, none, none⟩

def readBack (answer : Int × U32) : Option U32 := if answer.1 = 0 then some answer.2 else none

def Radio.next (s : Radio) : KernelEvent → Radio
  | ⟨.gpiodDirectionOutputRaw false, ret⟩ =>
    { s with low := decide (ret = 0), assertion := some ret, reset := none }
  | ⟨.gpiodDirectionOutputRaw true, _⟩ => { s with low := false, reset := none }
  | ⟨.regmapWrite .gpio reg _, _⟩ =>
    if reg = resetReg then { s with low := false, reset := none } else s
  | ⟨.regmapReadBypassed .gpio reg, answer⟩ =>
    if reg = resetReg then { s with reset := readBack answer } else s
  | ⟨.regmapWrite .pmu reg value, _⟩ =>
    if reg = railReg then { s with powered := s.powered || value ≠ 0, rail := none } else s
  | ⟨.regmapReadBypassed .pmu reg, answer⟩ =>
    if reg = railReg then { s with rail := readBack answer } else s
  -- before the first write the register map's cache is as good as the register
  | ⟨.regmapRead .pmu reg, answer⟩ =>
    if reg = railReg ∧ s.powered = false then { s with rail := readBack answer } else s
  | ⟨.writel .port offset _, _⟩ => if offset = linkControl then { s with control := none } else s
  | ⟨.readl .port offset, value⟩ =>
    if offset = linkControl then { s with found := s.found.or (some value), control := some value }
    else s
  | _ => s

/-- The rail is switched on only while the reset read back low, and the reset register written
only while the rail was never on or read back off. -/
def Radio.allows (s : Radio) : KernelEvent → Prop
  | ⟨.regmapWrite .pmu _ value, _⟩ => value = 0 ∨ s.reset = some drivenLow
  | ⟨.regmapWrite .gpio _ _, _⟩ => s.powered = false ∨ s.rail = some 0
  | _ => True

def radio : Monitor Call Answer Radio := ⟨fun _ _ => True, Radio.allows, Radio.next⟩

def releases : Call → Bool
  | .gpiodDirectionOutputRaw true => true
  | _ => false

/-- The run ends by asserting the reset, and its result is that of a failed assertion. -/
def Reasserted (t : List KernelEvent) (ret : Int) : Prop :=
  (∃ past code, t = past ++ [⟨.gpiodDirectionOutputRaw false, code⟩] ∧ code ≠ 0 ∧ ret = code) ∨
  ∃ past code value, t = past ++ [⟨.gpiodDirectionOutputRaw false, (0 : Int)⟩,
      ⟨.regmapReadBypassed .gpio resetReg, ((code, value) : Int × U32)⟩] ∧
    (code ≠ 0 → ret = code) ∧ (code = 0 → value ≠ drivenLow → ret = eio)

/-- The reset is released by the observer alone, and asserted again when it is through. -/
def ReleasedInside (observe : Kernel Int) (t : List KernelEvent) : Prop :=
  ∃ before during after called, t = before ++ during ++ after ∧ observe.Called called during ∧
    (∀ e ∈ before ++ after, releases e.1 = false) ∧
    ∀ ret, called = some ret → (∃ e ∈ during, releases e.1 = true) → Reasserted during ret

/-- What a run owes that ends in `s` with `ret`. -/
structure Radio.Closed (s : Radio) (ret : Int) : Prop where
  held : s.powered = true → s.rail ≠ some 0 → ret ≠ 0 ∧ (s.assertion = some 0 → s.low = true)
  restored : ret = 0 → s.rail = some 0 ∧ s.reset = some undriven ∧ s.control = s.found

structure Ordered (observe : Kernel Int) (t : List KernelEvent) (ret : Int) : Prop where
  released : ReleasedInside observe t
  allowed : radio.Allows .start t
  closed : (radio.after .start t).Closed ret

section Observer

variable {t : List KernelEvent} {ret : Int}

abbrev Unreleased {α : Type} (p : Kernel α) : Prop := p.Makes fun c => releases c = false

theorem readEqual_unreleased (map : RegMap) (reg : Nat) (expected : U32) :
    Unreleased (readEqual map reg expected) := ⟨rfl, fun _ => trivial⟩

/-- Whatever happened while the reset was released, the last thing done is to assert it. -/
theorem releasePerst_reasserts {control : U32} {observe : Kernel Int}
    (run : (releasePerst control observe).Runs t ret) : Reasserted t ret := by
  obtain ⟨t₁, u₁, first, rfl, -, later⟩ := (runs_bind _ _ _ _).mp run
  obtain ⟨t₂, u₂, second, rfl, -, later⟩ := (runs_bind _ _ _ _).mp later
  obtain ⟨t₃, u₃, third, rfl, -, closes⟩ := (runs_bind _ _ _ _).mp later
  obtain ⟨code, rest, rfl, checks⟩ := (runs_call_bind _ _ _ _).mp closes
  obtain ⟨t₄, u₄, cleanup, rfl, checked, ends⟩ := (runs_bind _ _ _ _).mp checks
  obtain ⟨rfl, result⟩ := ends
  unfold andThen at checked
  split at checked
  · next asserted =>
    obtain ⟨⟨code', value⟩, _, rfl, rfl, read⟩ := checked
    obtain rfl : code = 0 := asserted
    refine .inr ⟨t₁ ++ (t₂ ++ t₃), code', value, by simp, ?_, ?_⟩
    · intro failed
      have kept : cleanup = code' := by simpa [failed] using read.symm
      rw [← result, kept, if_pos failed]
    · intro answered differs
      have kept : cleanup = eio := by
        rw [← read, if_neg (not_not.mpr answered)]
        exact if_pos differs
      rw [← result, kept, if_pos (by decide)]
  · next failed =>
    obtain ⟨rfl, rfl⟩ := checked
    rw [if_pos failed] at result
    exact .inl ⟨t₁ ++ (t₂ ++ t₃), code, by simp, failed, result.symm⟩

/-- A run of the program that released the reset asserts it again. -/
def Reasserts (p : Kernel Int) : Prop :=
  ∀ t ret, p.Runs t ret → (∃ e ∈ t, releases e.1 = true) → Reasserted t ret

theorem Unreleased.reasserts {p : Kernel Int} (quiet : Unreleased p) : Reasserts p := by
  rintro t ret run ⟨e, member, released⟩
  rw [(quiet.runs run).1 e member] at released
  cases released

theorem Reasserts.bind {α : Type} {p : Kernel α} {f : α → Kernel Int} (quiet : Unreleased p)
    (rest : ∀ a, Reasserts (f a)) : Reasserts (p >>= f) := by
  intro t ret run released
  obtain ⟨u, v, a, rfl, begins, ends⟩ := (runs_bind p f t ret).mp run
  have within : ∃ e ∈ v, releases e.1 = true := by
    obtain ⟨e, member, releasing⟩ := released
    obtain before | later := List.mem_append.mp member
    · rw [(quiet.runs begins).1 e before] at releasing
      cases releasing
    · exact ⟨e, later, releasing⟩
  obtain ⟨past, code, rfl, failed⟩ | ⟨past, code, value, rfl, told⟩ := rest a v ret ends within
  · exact .inl ⟨u ++ past, code, by simp, failed⟩
  · exact .inr ⟨u ++ past, code, value, by simp, told⟩

theorem Reasserts.ite {c : Prop} {_ : Decidable c} {p q : Kernel Int} (yes : Reasserts p)
    (no : Reasserts q) : Reasserts (if c then p else q) := by
  split
  · exact yes
  · exact no

theorem observeHeldRadio_reasserts (o : ModuleOptions) (parents : ScanParents) :
    Reasserts (observeHeldRadio o parents) := by
  have stops (ret : Int) : Reasserts (pure ret) := Unreleased.reasserts trivial
  refine .bind ⟨rfl, fun _ => trivial⟩ fun control => .ite (stops _) ?_
  refine .bind ⟨rfl, fun _ => trivial⟩ fun status => .ite (stops _) (.ite (stops _) ?_)
  refine .bind (readEqual_unreleased _ _ _) fun ret => .ite (stops _) ?_
  exact fun t ret run _ => releasePerst_reasserts run

end Observer

section Around

variable {observe : Kernel Int}

/-- The program releases the reset nowhere but in the observer. -/
abbrev Inside {α : Type} (observe : Kernel Int) (p : Kernel α) : Prop :=
  p.Around (Monitor.only fun c => releases c = false) observe (fun _ => True)
    (fun _ _ _ => True) ()

theorem Unreleased.safe {α : Type} {p : Kernel α} (quiet : Unreleased p) :
    p.Safe (Monitor.only fun c => releases c = false) (fun _ _ => True) () :=
  (Yields.safe _ quiet fun _ _ used => ⟨used, rfl⟩).mono _ fun _ _ _ => trivial

theorem Inside.bind {α β : Type} {p : Kernel α} {f : α → Kernel β} (quiet : Unreleased p)
    (rest : ∀ a, Inside observe (f a)) : Inside observe (p >>= f) :=
  Around.bind (fun _ _ => trivial) quiet.safe fun _ a _ => rest a

theorem Unreleased.inside {α : Type} {p : Kernel α} (quiet : Unreleased p) : Inside observe p :=
  Around.safe (fun _ _ => trivial) quiet.safe

theorem powerRadio_inside : Inside observe (powerRadio (some observe)) := by
  have enter (ret : Int) : Inside observe (andThen ret observe >>= fun ret => pure (ret, true)) := by
    by_cases ok : ret = 0
    · rw [andThen, if_pos ok]
      exact Around.enter (fun _ _ => trivial) trivial fun _ => trivial
    · rw [andThen, if_neg ok]
      exact Unreleased.inside trivial
  refine Inside.bind ⟨rfl, fun _ => trivial⟩ fun ret => ?_
  refine Inside.bind (andThen_makes (readEqual_unreleased _ _ _)) fun ret => ?_
  refine Around.ite (fun _ => Unreleased.inside trivial) fun _ => ?_
  refine Inside.bind ⟨rfl, fun _ => trivial⟩ fun ret => ?_
  refine Inside.bind (andThen_makes (readEqual_unreleased _ _ _)) fun ret => ?_
  refine Inside.bind (andThen_makes (readEqual_unreleased _ _ _)) fun ret => ?_
  refine Around.ite (fun _ => Unreleased.inside trivial) fun _ => ?_
  exact Inside.bind ⟨rfl, fun _ => trivial⟩ fun ⟨ret, _⟩ => enter ret

theorem isJ42dT7000_aside : Aside isJ42dT7000 :=
  Makes.call rfl fun _ => Makes.ite (fun _ => trivial) fun _ => ⟨rfl, fun _ => trivial⟩

theorem radioDevices_aside : Aside radioDevices := by
  refine Makes.call rfl fun _ => Makes.ite (fun _ => trivial) fun _ => ?_
  refine Makes.call rfl fun _ => Makes.ite (fun _ => trivial) fun _ => ?_
  refine Makes.call rfl fun _ => Makes.ite (fun _ => trivial) fun _ => ?_
  refine Makes.call rfl fun _ => Makes.ite (fun _ => trivial) fun _ => ?_
  refine Makes.call rfl fun _ => Makes.ite (fun _ => trivial) fun _ => ?_
  refine Makes.call rfl fun _ => Makes.ite (fun _ => trivial) fun _ => ?_
  refine Makes.call rfl fun _ => Makes.ite (fun _ => trivial) fun _ => ?_
  refine Makes.call rfl fun _ => Makes.ite (fun _ => trivial) fun _ => ?_
  refine Makes.call rfl fun _ => Makes.ite (fun _ => trivial) fun _ => ?_
  exact Makes.call rfl fun _ => Makes.call rfl fun _ => trivial

theorem Unreleased.of_aside {α : Type} {p : Kernel α} (quiet : Aside p) : Unreleased p := by
  refine quiet.mono (fun c used => ?_) fun _ _ => trivial
  cases c <;> first | rfl | cases used

theorem radioBaseline_unreleased : Unreleased radioBaseline := by
  refine Makes.call rfl fun _ => Makes.ite (fun _ => trivial) fun _ => ?_
  refine Makes.call rfl fun _ => Makes.ite (fun _ => trivial) fun _ => ?_
  refine Makes.ite (fun _ => trivial) fun _ => Makes.bind (readEqual_unreleased _ _ _) fun _ => ?_
  refine Makes.bind (andThen_makes (readEqual_unreleased _ _ _)) fun _ => ?_
  exact andThen_makes (readEqual_unreleased _ _ _)

theorem writeBack_unreleased (map : RegMap) (reg : Nat) (saved : U32) :
    Unreleased (writeBack map reg saved) :=
  Makes.call rfl fun _ => andThen_makes (readEqual_unreleased _ _ _)

theorem restoreRadio_unreleased (powered : Bool) (ret : Int) :
    Unreleased (restoreRadio powered ret) := by
  have rail : Unreleased (onlyIf powered 0 (writeBack .pmu railReg 0)) :=
    Makes.ite (fun _ => writeBack_unreleased _ _ _) fun _ => trivial
  refine Makes.bind rail fun _ => Makes.ite (fun _ => trivial) fun _ => ?_
  exact Makes.bind (writeBack_unreleased _ _ _) fun _ => trivial

theorem radioPulse_inside (pulse : Bool) : Inside observe (radioPulse pulse (some observe)) := by
  have ends (ret : Int) (powered : Bool) : Unreleased (do
      query (.teardown .radio)
      let ret ← restoreRadio powered ret
      query .gpiodPut
      query (.release .radio)
      return ret) := by
    refine Makes.call rfl fun _ => Makes.bind (restoreRadio_unreleased _ _) fun _ => ?_
    exact Makes.call rfl fun _ => Makes.call rfl fun _ => trivial
  refine Inside.bind (Unreleased.of_aside isJ42dT7000_aside) fun known => ?_
  refine Around.ite (fun _ => Unreleased.inside trivial) fun _ => ?_
  refine Inside.bind (Unreleased.of_aside radioDevices_aside) fun found => ?_
  refine Around.ite (fun _ => Unreleased.inside trivial) fun _ => ?_
  refine Inside.bind radioBaseline_unreleased fun ret => ?_
  refine Around.ite (fun _ => Unreleased.inside trivial) fun _ => ?_
  refine Around.ite (fun _ => Unreleased.inside trivial) fun _ => ?_
  refine Inside.bind ⟨rfl, fun _ => trivial⟩ fun reset => ?_
  refine Around.ite (fun _ => Unreleased.inside trivial) fun _ => ?_
  refine Inside.bind ⟨rfl, fun _ => trivial⟩ fun _ => ?_
  exact Around.seq (fun _ _ => trivial) powerRadio_inside fun _ _ used _ =>
    (ends used.1 used.2).safe

theorem radioPulse_releasedInside {pulse : Bool} {t : List KernelEvent} {ret : Int}
    (reasserts : Reasserts observe) (run : (radioPulse pulse (some observe)).Runs t ret) :
    ReleasedInside observe t := by
  obtain ⟨before, during, after, called, rfl, calls, -, allowed, -⟩ := radioPulse_inside pulse t ret run
  refine ⟨before, during, after, called, rfl, calls, allowed.only, ?_⟩
  rintro r rfl released
  exact reasserts during r calls released

end Around

section Steps

variable {s : Radio} {post : Radio → Int → Prop}

theorem aside_inert {c : Call} (r : Answer c) (quiet : aside c = true) (s : Radio) :
    radio.allows s ⟨c, r⟩ ∧ radio.next s ⟨c, r⟩ = s := by
  cases c with
  | readl window offset =>
    cases window with
    | port => cases quiet
    | _ => exact ⟨trivial, rfl⟩
  | writel window offset value =>
    cases window with
    | port => cases quiet
    | _ => exact ⟨trivial, rfl⟩
  | regmapRead map reg => cases quiet
  | regmapReadBypassed map reg => cases quiet
  | regmapWrite map reg value => cases quiet
  | gpiodDirectionOutputRaw value => cases quiet
  | _ => exact ⟨trivial, rfl⟩

theorem aside_stays {α : Type} {p : Kernel α} (quiet : Aside p) :
    p.Safe radio (fun after _ => after = s) s :=
  (Yields.safe radio quiet fun _ r used => aside_inert r used s).mono radio fun _ _ kept => kept.1

theorem aside_bind {α β : Type} {p : Kernel α} {f : α → Kernel β} {post : Radio → β → Prop}
    (quiet : Aside p) (rest : ∀ a, (f a).Safe radio post s) : (p >>= f).Safe radio post s := by
  refine Safe.bind radio (aside_stays quiet) ?_
  rintro _ a rfl
  exact rest a

theorem andThen_safe {ret : Int} {next : Kernel Int} (goes : ret = 0 → next.Safe radio post s)
    (stops : ret ≠ 0 → post s ret) : (andThen ret next).Safe radio post s :=
  Safe.ite radio goes stops

theorem verdict_zero {ret : Int} {value expected : U32}
    (zero : (if ret ≠ 0 then ret else if value ≠ expected then eio else 0) = 0) :
    readBack (ret, value) = some expected := by
  have nonzero : eio ≠ 0 := by decide
  split at zero
  · next failed => exact absurd zero failed
  · next answered =>
    split at zero
    · exact absurd zero nonzero
    · next same => simp [readBack, not_not.mp answered, not_not.mp same]

theorem readReset_safe (expected : U32) :
    (readEqual .gpio resetReg expected).Safe radio
      (fun after ret => ∃ reset, after = { s with reset := reset } ∧
        (ret = 0 → reset = some expected)) s :=
  fun answer _ => ⟨trivial, readBack answer, rfl, verdict_zero⟩

theorem readRail_safe (expected : U32) :
    (readEqual .pmu railReg expected).Safe radio
      (fun after ret => ∃ rail, after = { s with rail := rail } ∧ (ret = 0 → rail = some expected)) s :=
  fun answer _ => ⟨trivial, readBack answer, rfl, verdict_zero⟩

theorem readOther_safe {reg : Nat} (other : reg ≠ resetReg) (expected : U32) :
    (readEqual .gpio reg expected).Safe radio (fun after _ => after = s) s :=
  fun _ _ => ⟨trivial, if_neg other⟩

theorem andThen_readReset (ret : Int) (expected : U32) :
    (andThen ret (readEqual .gpio resetReg expected)).Safe radio
      (fun after ret' => ∃ reset, after = { s with reset := reset } ∧
        (ret' = 0 → ret = 0 ∧ reset = some expected)) s := by
  refine andThen_safe (fun ok => (readReset_safe expected).mono radio ?_) fun failed =>
    ⟨_, rfl, fun zero => absurd zero failed⟩
  rintro _ ret' ⟨reset, rfl, right⟩
  exact ⟨reset, rfl, fun zero => ⟨ok, right zero⟩⟩

theorem andThen_readOther {reg : Nat} (other : reg ≠ resetReg) (ret : Int) (expected : U32) :
    (andThen ret (readEqual .gpio reg expected)).Safe radio
      (fun after ret' => after = s ∧ (ret' = 0 → ret = 0)) s := by
  refine andThen_safe (fun ok => (readOther_safe other expected).mono radio ?_) fun failed =>
    ⟨rfl, fun zero => absurd zero failed⟩
  exact fun _ _ kept => ⟨kept, fun _ => ok⟩

theorem andThen_readRail (ret : Int) (expected : U32) :
    (andThen ret (readEqual .pmu railReg expected)).Safe radio
      (fun after _ => ∃ rail, after = { s with rail := rail }) s := by
  refine andThen_safe (fun ok => (readRail_safe expected).mono radio ?_) fun _ => ⟨_, rfl⟩
  rintro _ ret' ⟨rail, rfl, -⟩
  exact ⟨rail, rfl⟩

variable {α : Type} {result : Radio → α → Prop}

theorem call_bind {c : Call} {f : Answer c → Kernel α}
    (rest : ∀ r, radio.allows s ⟨c, r⟩ ∧ (f r).Safe radio result (radio.next s ⟨c, r⟩)) :
    (query c >>= f).Safe radio result s := fun r _ => rest r

theorem quiet_bind {c : Call} {f : Answer c → Kernel α} (quiet : aside c = true)
    (rest : ∀ r, (f r).Safe radio result s) : (query c >>= f).Safe radio result s := by
  intro r _
  obtain ⟨allowed, stays⟩ := aside_inert r quiet s
  rw [stays]
  exact ⟨allowed, rest r⟩

theorem writeControl_bind {value : U32} {f : Unit → Kernel α}
    (rest : (f ()).Safe radio result { s with control := none }) :
    (query (.writel .port linkControl value) >>= f).Safe radio result s := fun _ _ => ⟨trivial, rest⟩

/-- Once the port's control was found, a read only tells what it is now. -/
theorem readControl_bind {control : U32} {f : U32 → Kernel α} (found : s.found = some control)
    (rest : ∀ value, (f value).Safe radio result { s with control := some value }) :
    (query (.readl .port linkControl) >>= f).Safe radio result s := by
  intro value _
  refine ⟨trivial, ?_⟩
  have same : radio.next s ⟨.readl .port linkControl, value⟩ = { s with control := some value } := by
    change ({ s with found := s.found.or (some value), control := some value } : Radio) = _
    simp [found]
  rw [same]
  exact rest value

end Steps

section Observed

variable {s : Radio}

theorem restoreLink_safe {control : U32} {ret : Int} (found : s.found = some control) :
    (do
      query (.writel .port 0x80 control)
      let same ← readlIs .port 0x80 control
      return if same then ret else eio : Kernel Int).Safe radio
      (fun after ret => ∃ now, after = { s with control := now } ∧ (ret = 0 → now = s.found)) s := by
  have nonzero : eio ≠ 0 := by decide
  refine writeControl_bind (readControl_bind found fun value => ⟨some value, rfl, fun zero => ?_⟩)
  by_cases same : value = control
  · rw [same, found]
  · simp [same, nonzero] at zero

/-- The link's control is as it was found, or the result is an error. -/
theorem holdLink_safe {control : U32} {observe : Kernel Int} (quiet : Aside observe)
    (found : s.found = some control) :
    (holdLink control observe).Safe radio
      (fun after ret => ∃ now, after = { s with control := now } ∧ (ret = 0 → now = s.found)) s := by
  have nonzero : enodev ≠ 0 := by decide
  refine quiet_bind rfl fun _ => writeControl_bind (readControl_bind found fun started => ?_)
  refine aside_bind (onlyIf_makes (Makes.call rfl fun _ => andThen_makes quiet)) fun ret => ?_
  refine quiet_bind rfl fun _ => readControl_bind found fun status => ?_
  have restored : (onlyIf (status ≠ allOnes) enodev do
      query (.writel .port 0x80 control)
      let same ← readlIs .port 0x80 control
      return if same then ret else eio).Safe radio
        (fun after ret => ∃ now, after = { s with control := now } ∧ (ret = 0 → now = s.found))
        { s with control := some status } := by
    by_cases accessible : status = allOnes
    · simp only [accessible, ne_eq, not_true_eq_false, decide_false]
      exact ⟨_, rfl, fun zero => absurd zero nonzero⟩
    · simp only [accessible, ne_eq, not_false_eq_true, decide_true]
      exact restoreLink_safe found
  refine Safe.bind radio restored fun after ret done => quiet_bind rfl fun _ => done

/-- What the observer leaves: the rail as it was, and the reset low if it was asserted. -/
structure Observed (s after : Radio) (ret : Int) : Prop where
  powered : after.powered = s.powered
  steady : after.assertion = some 0 → after.low = true
  linked : ret = 0 → after.control = after.found

theorem releasePerst_observed {control : U32} {observe : Kernel Int} (quiet : Aside observe)
    (found : s.found = some control) :
    (releasePerst control observe).Safe radio (Observed s) s := by
  refine call_bind fun ret => ⟨trivial, ?_⟩
  refine Safe.bind radio (andThen_readReset ret 0x76203) ?_
  rintro _ ret ⟨reset, rfl, -⟩
  have held : (andThen ret (holdLink control observe)).Safe radio
      (fun after ret' => ∃ now, after = { s with low := false, reset := reset, control := now } ∧
        (ret' = 0 → now = s.found)) { s with low := false, reset := reset } :=
    andThen_safe (fun _ => holdLink_safe quiet found) fun failed =>
      ⟨s.control, rfl, fun zero => absurd zero failed⟩
  refine Safe.bind radio held ?_
  rintro _ ret ⟨now, rfl, linked⟩
  refine call_bind fun code => ⟨trivial, ?_⟩
  refine Safe.bind radio (andThen_readReset code 0x76202) ?_
  rintro _ cleanup ⟨reset', rfl, -⟩
  refine ⟨rfl, ?_, ?_⟩
  · intro asserted
    exact decide_eq_true (Option.some.inj asserted)
  · intro zero
    split at zero
    · next failed => exact absurd zero failed
    · exact linked zero

theorem observeHeldRadio_observed (o : ModuleOptions) (parents : ScanParents)
    (fresh : s.found = none) (steady : s.assertion = some 0 → s.low = true) :
    (observeHeldRadio o parents).Safe radio (Observed s) s := by
  have nonzero : eio ≠ 0 := by decide
  refine call_bind fun control => ⟨trivial, ?_⟩
  have found : radio.next s ⟨.readl .port 0x80, control⟩ =
      { s with found := some control, control := some control } := by
    change ({ s with found := s.found.or (some control), control := some control } : Radio) = _
    rw [fresh]
    rfl
  rw [found]
  have stops (ret : Int) : (pure ret : Kernel Int).Safe radio (Observed s)
      { s with found := some control, control := some control } := ⟨rfl, steady, fun _ => rfl⟩
  refine Safe.ite radio (fun _ => stops _) fun _ => call_bind fun status => ⟨trivial, ?_⟩
  refine Safe.ite radio (fun _ => stops _) fun _ => Safe.ite radio (fun _ => stops _) fun _ => ?_
  refine Safe.bind radio (readOther_safe (by decide) _) ?_
  rintro _ ret rfl
  refine Safe.ite radio (fun _ => stops _) fun _ => ?_
  have quiet : Aside (onlyIf o.identifyEndpoint 0 (snapshotEndpoint o parents)) :=
    onlyIf_makes (snapshotEndpoint_aside o parents)
  refine (releasePerst_observed quiet rfl).mono radio fun after ret done => ?_
  exact ⟨done.powered, done.steady, done.linked⟩

end Observed

section Pulse

variable {s : Radio}

/-- Before the reset line is taken; the baseline is what both registers read as. -/
structure Idle (s : Radio) : Prop where
  powered : s.powered = false
  assertion : s.assertion = none
  found : s.found = none
  control : s.control = none

theorem radioBaseline_idle :
    radioBaseline.Safe radio
      (fun after ret => Idle after ∧ (ret = 0 → after.rail = some 0 ∧ after.reset = some undriven))
      .start := by
  have busy : ebusy ≠ 0 := by decide
  have idle (reset rail : Option U32) : Idle { Radio.start with reset := reset, rail := rail } :=
    ⟨rfl, rfl, rfl, rfl⟩
  refine call_bind fun ⟨ret, resetSaved⟩ => ⟨trivial, ?_⟩
  refine Safe.ite radio (fun failed => ⟨idle none none, fun zero => absurd zero failed⟩) fun _ => ?_
  refine call_bind fun ⟨ret, pmuSaved⟩ => ⟨trivial, ?_⟩
  change Safe radio _ _ { Radio.start with rail := readBack (ret, pmuSaved) }
  refine Safe.ite radio (fun failed => ⟨idle _ _, fun zero => absurd zero failed⟩) fun answered => ?_
  refine Safe.ite radio (fun _ => ⟨idle _ _, fun zero => absurd zero busy⟩) fun baseline => ?_
  have rail : readBack (ret, pmuSaved) = some 0 := by
    rw [readBack, if_pos (not_not.mp answered), not_not.mp (not_or.mp baseline).2]
  rw [rail]
  refine Safe.bind radio (readReset_safe 0x76200) ?_
  rintro _ ret ⟨reset, rfl, right⟩
  refine Safe.bind radio (andThen_readOther (by decide) ret 0x76221) ?_
  rintro _ ret₁ ⟨rfl, first⟩
  refine (andThen_readOther (by decide) ret₁ 0x72202).mono radio ?_
  rintro _ ret₂ ⟨rfl, second⟩
  exact ⟨idle _ _, fun zero => ⟨rfl, right (first (second zero))⟩⟩

/-- With the rail taken back or never on: whether it was touched, and what is left to do. -/
structure Powered (s : Radio) (used : Int × Bool) : Prop where
  powered : s.powered = used.2
  steady : s.assertion = some 0 → s.low = true
  failed : used.2 = false → used.1 ≠ 0
  linked : used.1 = 0 → s.control = s.found

theorem powerRadio_powered {observe : Kernel Int} (idle : Idle s)
    (observed : ∀ s, s.found = none → (s.assertion = some 0 → s.low = true) →
      observe.Safe radio (Observed s) s) :
    (powerRadio (some observe)).Safe radio Powered s := by
  obtain ⟨low, assertion, reset, powered, rail, found, control⟩ := s
  obtain rfl : powered = false := idle.powered
  obtain rfl : found = none := idle.found
  obtain rfl : control = none := idle.control
  refine call_bind fun code => ⟨trivial, ?_⟩
  refine Safe.bind radio (andThen_readReset code 0x76202) ?_
  rintro _ ret ⟨reset, rfl, right⟩
  have steady : some code = some 0 → decide (code = 0) = true := fun same =>
    decide_eq_true (Option.some.inj same)
  refine Safe.ite radio (fun failed => ?_) fun asserted => ?_
  · exact ⟨rfl, steady, fun _ => failed, fun zero => absurd zero failed⟩
  obtain ⟨-, rfl⟩ := right (not_not.mp asserted)
  refine call_bind fun ret => ⟨.inr rfl, ?_⟩
  change Safe radio _ _ ⟨decide (code = 0), some code, some drivenLow, true, none, none, none⟩
  refine Safe.bind radio (andThen_readRail ret 0x02) ?_
  rintro _ ret ⟨rail, rfl⟩
  refine Safe.bind radio (andThen_readReset ret 0x76202) ?_
  rintro _ ret ⟨reset, rfl, -⟩
  have stops (ret : Int) (failed : ret ≠ 0) :
      Powered ⟨decide (code = 0), some code, reset, true, rail, none, none⟩ (ret, true) :=
    ⟨rfl, steady, fun off => absurd off.symm Bool.false_ne_true, fun zero => absurd zero failed⟩
  refine Safe.ite radio (fun failed => stops ret failed) fun _ => ?_
  refine call_bind fun ⟨ret, _⟩ => ⟨trivial, ?_⟩
  change Safe radio _ _ ⟨decide (code = 0), some code, reset, true, rail, none, none⟩
  have watched : (andThen ret observe).Safe radio (fun after ret => Powered after (ret, true))
      ⟨decide (code = 0), some code, reset, true, rail, none, none⟩ := by
    refine andThen_safe (fun _ => (observed _ rfl steady).mono radio ?_) fun failed =>
      stops ret failed
    exact fun after ret done =>
      ⟨done.powered, done.steady, fun off => absurd off.symm Bool.false_ne_true,
      done.linked⟩
  exact Safe.bind radio watched fun _ _ done => done

theorem writeBack_rail :
    (writeBack .pmu railReg 0).Safe radio
      (fun after ret => ∃ rail, after = { s with rail := rail } ∧ (ret = 0 → rail = some 0)) s := by
  refine call_bind fun ret => ⟨.inl rfl, ?_⟩
  have written : radio.next s ⟨.regmapWrite .pmu railReg 0, ret⟩ = { s with rail := none } := by
    change ({ s with powered := s.powered || false, rail := none } : Radio) = _
    rw [Bool.or_false]
  rw [written]
  refine andThen_safe (fun _ => (readRail_safe 0).mono radio ?_) fun failed =>
    ⟨none, rfl, fun zero => absurd zero failed⟩
  rintro _ ret ⟨rail, rfl, right⟩
  exact ⟨rail, rfl, right⟩

theorem writeBack_reset (off : s.powered = false ∨ s.rail = some 0) :
    (writeBack .gpio resetReg 0x76200).Safe radio
      (fun after ret => ∃ reset, after = { s with low := false, reset := reset } ∧
        (ret = 0 → reset = some undriven)) s := by
  refine call_bind fun ret => ⟨off, (andThen_readReset ret 0x76200).mono radio ?_⟩
  rintro _ ret ⟨reset, rfl, right⟩
  exact ⟨reset, rfl, fun zero => (right zero).2⟩

theorem restoreRadio_closed {powered : Bool} {ret : Int} (used : Powered s (ret, powered)) :
    (restoreRadio powered ret).Safe radio Radio.Closed s := by
  have rail : (onlyIf powered 0 (writeBack .pmu railReg 0)).Safe radio
      (fun after back => ∃ rail, after = { s with rail := rail } ∧
        (back = 0 → powered = true → rail = some 0)) s := by
    cases powered with
    | true =>
      refine writeBack_rail.mono radio ?_
      rintro _ back ⟨rail, rfl, right⟩
      exact ⟨rail, rfl, fun zero _ => right zero⟩
    | false => exact ⟨s.rail, rfl, fun _ off => absurd off Bool.false_ne_true⟩
  refine Safe.bind radio rail ?_
  rintro _ back ⟨rail, rfl, right⟩
  refine Safe.ite radio (fun failed => ⟨fun _ _ => ⟨failed, used.steady⟩, fun zero => absurd zero failed⟩)
    fun back => ?_
  have off : powered = false ∨ rail = some 0 := by
    cases powered with
    | true => exact .inr (right (not_not.mp back) rfl)
    | false => exact .inl rfl
  have back : (writeBack .gpio resetReg 0x76200).Safe radio
      (fun after ret => ∃ reset, after = { s with rail := rail, low := false, reset := reset } ∧
        (ret = 0 → reset = some undriven)) { s with rail := rail } := by
    refine writeBack_reset (off.imp (fun untouched => ?_) id)
    rw [← untouched]
    exact used.powered
  refine Safe.bind radio back ?_
  rintro _ resetBack ⟨reset, rfl, right⟩
  refine ⟨fun on dark => ?_, fun zero => ?_⟩
  · obtain untouched | off := off
    · rw [untouched] at used
      exact absurd (on.symm.trans used.powered) Bool.true_eq_false.mp
    · exact absurd off dark
  · split at zero
    · next failed => exact absurd zero failed
    · next ok =>
      obtain untouched | off := off
      · exact absurd zero (used.failed untouched)
      · exact ⟨off, right (not_not.mp ok), used.linked zero⟩

theorem radioPulse_closed {observe : Kernel Int} (pulse : Bool)
    (observed : ∀ s, s.found = none → (s.assertion = some 0 → s.low = true) →
      observe.Safe radio (Observed s) s) :
    (radioPulse pulse (some observe)).Safe radio Radio.Closed .start := by
  have nodev : enodev ≠ 0 := by decide
  have unpowered {s : Radio} (idle : Idle s) {ret : Int} (failed : ret ≠ 0) : s.Closed ret :=
    ⟨fun on => absurd (idle.powered.symm.trans on) Bool.false_ne_true, fun zero => absurd zero failed⟩
  have start : Idle .start := ⟨rfl, rfl, rfl, rfl⟩
  refine aside_bind isJ42dT7000_aside fun known => ?_
  refine Safe.ite radio (fun _ => unpowered start nodev) fun _ => ?_
  refine aside_bind radioDevices_aside fun found => ?_
  refine Safe.ite radio (fun _ => unpowered start nodev) fun _ => ?_
  refine Safe.bind radio radioBaseline_idle fun s ret ⟨idle, baseline⟩ => ?_
  refine Safe.ite radio (fun failed => unpowered idle failed) fun ok => ?_
  obtain ⟨rail, reset⟩ := baseline (not_not.mp ok)
  refine Safe.ite radio (fun _ => ?_) fun _ => quiet_bind rfl fun line => ?_
  · exact ⟨fun _ dark => absurd rail dark, fun _ => ⟨rail, reset, idle.control.trans idle.found.symm⟩⟩
  refine Safe.ite radio (fun refused => unpowered idle (Int.ne_of_lt refused)) fun _ => ?_
  refine quiet_bind rfl fun _ => ?_
  refine Safe.bind radio (powerRadio_powered idle observed) fun s used done => ?_
  refine quiet_bind rfl fun _ => Safe.bind radio (restoreRadio_closed done) fun s ret closed => ?_
  exact quiet_bind rfl fun _ => quiet_bind rfl fun _ => closed

/-- The order of rail and reset in every run of the pulse with the held radio as its observer. -/
theorem radio_ordered (pulse : Bool) (o : ModuleOptions) (parents : ScanParents)
    (t : List KernelEvent) (ret : Int)
    (run : (radioPulse pulse (some (observeHeldRadio o parents))).Runs t ret) :
    Ordered (observeHeldRadio o parents) t ret := by
  have closed := radioPulse_closed pulse fun s => observeHeldRadio_observed (s := s) o parents
  obtain ⟨allowed, closed⟩ := safe_runs radio closed run (radio.admits_of_forall (fun _ _ => trivial) _ _)
  exact ⟨radioPulse_releasedInside (observeHeldRadio_reasserts o parents) run, allowed, closed⟩

/-- The run on the board: the link is trained, and the endpoint observed behind it. -/
def heldRun : List KernelEvent × Int :=
  Prog.exec ProbeLifetimes.boardAnswer []
    (radioPulse true (some (observeHeldRadio ProbeLifetimes.firmwareOptions ⟨true, true⟩)))

theorem radio_ordered_on_board :
    heldRun.2 = 0 ∧ heldRun.1.any (fun e => releases e.1) = true ∧
      Ordered (observeHeldRadio ProbeLifetimes.firmwareOptions ⟨true, true⟩) heldRun.1 heldRun.2 :=
  ⟨by decide +kernel, by decide +kernel,
    radio_ordered true ProbeLifetimes.firmwareOptions ⟨true, true⟩ heldRun.1 heldRun.2
      (Prog.exec_runs ProbeLifetimes.boardAnswer _)⟩

end Pulse

end WinBoot.RadioReset
