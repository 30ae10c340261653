import WinBoot.BootGate

/-! What stands before every process that the restore command starts. The history of calls is the
state: each stage is shown to leave a history in which the last observation identifies the device
that the next process is started for. -/

namespace WinBoot.BootGate
open Interaction Interaction.Script

/-- The devices an enumeration that did not fail has shown. -/
def observation : HostEvent → Option (List UsbDevice)
  | ⟨.getAtvUsbDetails, reply⟩ => Except.toOption (ε := String) reply
  | _ => none

def observations (past : List HostEvent) : List (List UsbDevice) := past.filterMap observation

section

variable (culture : Culture) (options : Options)

/-- The devices of the product in the last observation. -/
def Seen (productId : String) (past : List HostEvent) (devices : List UsbDevice) : Prop :=
  ∃ all, (observations past).getLast? = some all ∧
    all.filter (ofProduct culture productId) = devices

/-- The ECID of the command line or, without one, that of the device configuration. -/
def ExpectedEcid (past : List HostEvent) (ecid : String) : Prop :=
  (!isNullOrWhiteSpace options.expectedEcid ∧ ecid = toUpperInvariant options.expectedEcid) ∨
    isNullOrWhiteSpace options.expectedEcid ∧ ∃ configuredEcid,
      ⟨HostCall.readDeviceConfig deviceConfig, Except.ok configuredEcid⟩ ∈ past ∧
        isEcid configuredEcid ∧ ecid = toUpperInvariant configuredEcid

/-- Only the baseline may be booted where the first observation shows a Linux gadget. -/
def FreshStage (past : List HostEvent) : Prop :=
  options.bootProfile = .baseline ∨ ∃ first, (observations past).head? = some first ∧
    first.filter (ofProduct culture "4142") = []

/-- The last observation holds one device of the product, healthy and of the right identity. -/
structure Identified (ecid productId : String) (past : List HostEvent) (device : UsbDevice) :
    Prop where
  seen : Seen culture productId past [device]
  healthy : healthy culture device
  authorized : authorized culture ecid device

structure Cleared (past : List HostEvent) (ecid : String) : Prop where
  ecid : ExpectedEcid options past ecid
  fresh : FreshStage culture options past

/-- When a process may be started. -/
def Gate (past : List HostEvent) (file : String) (arguments : List String) : Prop :=
  ∃ ecid device, Cleared culture options past ecid ∧
    (file = openra1n ∧ Identified culture ecid "1227" past device ∧
        ("--upload-only" ∈ arguments → isYolo culture device) ∨
      file = uploader ∧ Identified culture ecid "4141" past device)

def GateAllows (past : List HostEvent) (event : HostEvent) : Prop :=
  ∀ file arguments stopOn, event.1 = .invokeBoundedProcess file arguments stopOn →
    Gate culture options past file arguments

end

/-- The calls that neither start a process nor look for devices. -/
def Quiet : HostCall → Prop
  | .invokeBoundedProcess _ _ _ => False
  | .getAtvUsbDetails => False
  | _ => True

theorem observations_append (past more : List HostEvent) :
    observations (past ++ more) = observations past ++ observations more := List.filterMap_append

theorem observations_observed (past : List HostEvent) (devices : List UsbDevice) :
    observations (past ++ [⟨.getAtvUsbDetails, .ok devices⟩]) = observations past ++ [devices] :=
  observations_append past _

theorem seen_observed (culture : Culture) (productId : String) (past : List HostEvent)
    (devices : List UsbDevice) :
    Seen culture productId (past ++ [⟨.getAtvUsbDetails, .ok devices⟩])
      (devices.filter (ofProduct culture productId)) :=
  ⟨devices, by rw [observations_observed, List.getLast?_concat], rfl⟩

section

variable {culture : Culture} {options : Options}

theorem ExpectedEcid.extend {past : List HostEvent} {ecid : String}
    (expected : ExpectedEcid options past ecid) (event : HostEvent) :
    ExpectedEcid options (past ++ [event]) ecid := by
  obtain given | ⟨blank, configured, member, valid, same⟩ := expected
  · exact .inl given
  · exact .inr ⟨blank, configured, List.mem_append_left _ member, valid, same⟩

theorem FreshStage.extend {past : List HostEvent} (fresh : FreshStage culture options past)
    (event : HostEvent) : FreshStage culture options (past ++ [event]) := by
  obtain baseline | ⟨first, head, none⟩ := fresh
  · exact .inl baseline
  · refine .inr ⟨first, ?_, none⟩
    rw [observations_append, List.head?_append, head, Option.some_or]

theorem Cleared.extend {past : List HostEvent} {ecid : String}
    (cleared : Cleared culture options past ecid) (event : HostEvent) :
    Cleared culture options (past ++ [event]) ecid :=
  ⟨cleared.ecid.extend event, cleared.fresh.extend event⟩

theorem quiet_allows (past : List HostEvent) (c : HostCall) (r : c.Reply) (quiet : Quiet c) :
    GateAllows culture options past ⟨c, r⟩ := by
  rintro file arguments stopOn rfl
  exact quiet.elim

end

/-! The scripts that start nothing. -/

theorem within_throwUnless (condition : Bool) (message : String) :
    (throwUnless condition message).Within Quiet := within_throwIf Quiet _ _

theorem within_whenever {condition : Bool} {action : Host Unit} (quiet : action.Within Quiet) :
    (whenever condition action).Within Quiet := by
  cases condition with
  | false => exact within_pure Quiet ()
  | true => exact quiet

theorem within_invokeStep (step : Step) : (invokeStep step).Within Quiet :=
  Within.bind (within_attempt rfl trivial) fun _ => within_pure Quiet ()

theorem within_requireFile (path : String) : (requireFile path).Within Quiet :=
  Within.bind (within_ask trivial) fun _ => within_throwUnless _ _

theorem within_assertFileHash (culture : Culture) (path expected : String) :
    (assertFileHash culture path expected).Within Quiet := by
  refine Within.bind (within_requireFile path) fun _ => ?_
  exact Within.bind (within_attempt rfl trivial) fun _ => within_throwUnless _ _

theorem within_requireTool (tool : String) : (requireTool tool).Within Quiet :=
  Within.bind (within_ask trivial) fun _ => within_throwUnless _ _

theorem within_assertOptions (options : Options) : (assertOptions options).Within Quiet := by
  refine Within.bind (within_throwUnless _ _) fun _ => ?_
  exact Within.bind (within_throwIf Quiet _ _) fun _ => within_throwIf Quiet _ _

theorem assertOptions_runs {options : Options} {t : List HostEvent} {result : Except String Unit}
    (run : (ExceptT.run (assertOptions options)).Runs t result) : t = [] := by
  have silent : (assertOptions options).Within fun _ => False := by
    refine Within.bind (within_throwIf _ _ _) fun _ => ?_
    exact Within.bind (within_throwIf _ _ _) fun _ => within_throwIf _ _ _
  exact List.eq_nil_iff_forall_not_mem.mpr fun e member => silent.runs run e member

theorem within_assertLocalPreflight (culture : Culture) (options : Options) :
    (assertLocalPreflight culture options).Within Quiet := by
  refine Within.bind (Within.forM (fun _ => within_assertFileHash culture _ _) _) fun _ => ?_
  refine Within.bind (Within.forM within_requireFile _) fun _ => ?_
  refine Within.bind (within_attempt rfl trivial) fun manifest => ?_
  refine Within.bind (within_throwUnless _ _) fun _ => ?_
  refine Within.bind (within_attempt rfl trivial) fun pages => ?_
  exact Within.bind (within_throwUnless _ _) fun _ => Within.forM within_requireTool _

theorem within_prepareDevelopmentLayer (options : Options) :
    (prepareDevelopmentLayer options).Within Quiet := by
  refine Within.bind (within_invokeStep _) fun _ => ?_
  refine Within.bind (within_attempt rfl trivial) fun _ => ?_
  exact Within.bind (within_throwIf Quiet _ _) fun _ => within_whenever (within_invokeStep _)

theorem within_restoreLinux (options : Options) : (restoreLinux options).Within Quiet := by
  refine Within.bind (Within.forM within_invokeStep _) fun _ => ?_
  refine Within.bind (within_whenever (within_invokeStep _)) fun _ => ?_
  refine Within.bind (within_whenever (within_invokeStep _)) fun _ => ?_
  split
  · exact within_invokeStep _
  · exact within_whenever (within_invokeStep _)

/-! The scripts that observe devices, from a history with any property that later calls keep. -/

section

variable {culture : Culture} {options : Options} {stays : List HostEvent → Prop}

abbrev gate (culture : Culture) (options : Options) :
    Monitor HostCall HostCall.Reply (List HostEvent) :=
  Monitor.history (GateAllows culture options)

theorem quiet_ensures {α : Type} {p : Host α} (quiet : p.Within Quiet)
    (stable : ∀ past event, stays past → stays (past ++ [event])) {past : List HostEvent}
    (here : stays past) : p.Ensures (gate culture options) (fun after _ => stays after) past :=
  quiet.keeps _ quiet_allows (fun past c r _ => stable past ⟨c, r⟩) here

theorem getProductDetails_ensures
    (stable : ∀ past event, stays past → stays (past ++ [event])) (productId : String)
    {past : List HostEvent} (here : stays past) :
    (getProductDetails culture productId).Ensures (gate culture options)
      (fun after devices => stays after ∧ Seen culture productId after devices) past := by
  refine Ensures.through _ (fun after devices => stays after ∧
    Seen culture productId after (devices.filter (ofProduct culture productId))) ?_ ?_
  · refine (ensures_attempt _ _ rfl _ past).mpr fun reply _ =>
      ⟨nofun, ?_⟩
    rintro devices (rfl : reply = .ok devices)
    exact ⟨stable _ _ here, seen_observed culture productId past devices⟩
  · intro after devices seen
    exact (ensures_pure _ _ _ after).mpr seen

theorem waitProductDetails_ensures
    (stable : ∀ past event, stays past → stays (past ++ [event])) (productId : String)
    (polls : Nat) {past : List HostEvent} (here : stays past) :
    (waitProductDetails culture productId polls).Ensures (gate culture options)
      (fun after devices => stays after ∧ (devices = [] ∨ Seen culture productId after devices))
      past := by
  induction polls generalizing past with
  | zero => exact (ensures_pure _ _ _ past).mpr ⟨here, .inl rfl⟩
  | succ polls ih =>
    rw [waitProductDetails]
    refine Ensures.bind _ (quiet_ensures (by exact within_ask trivial) stable here) ?_
    intro after early here
    split
    · exact (ensures_pure _ _ _ after).mpr ⟨here, .inl rfl⟩
    · refine Ensures.bind _ (getProductDetails_ensures stable productId here) ?_
      rintro after devices ⟨here, seen⟩
      split
      · exact (ensures_pure _ _ _ after).mpr ⟨here, .inr seen⟩
      · exact ih here

theorem assertSingleDevice_ensures (details : List UsbDevice) (description : String)
    (past : List HostEvent) :
    (assertSingleDevice culture details description).Ensures (gate culture options)
      (fun after device => after = past ∧ details = [device] ∧ healthy culture device) past := by
  match details with
  | [] => exact ensures_throw _ _ _ past
  | [device] =>
    refine Ensures.check _ fun passed => (ensures_pure _ _ _ past).mpr ⟨rfl, rfl, ?_⟩
    simpa using passed
  | _ :: _ :: _ => exact ensures_throw _ _ _ past

theorem assertDfuIdentity_ensures (ecid : String) (requireYolo : Bool) (device : UsbDevice)
    (past : List HostEvent) :
    (assertDfuIdentity culture ecid requireYolo device).Ensures (gate culture options)
      (fun after _ => after = past ∧ authorized culture ecid device ∧
        (requireYolo → isYolo culture device)) past := by
  refine Ensures.check _ fun passed => (ensures_throwIf _ _ _ _ past).mpr fun yolo => ?_
  refine ⟨rfl, by simpa using passed, fun required => ?_⟩
  simpa [required] using yolo

/-- Whoever comes out of the driver check was observed last, alone and healthy, and as a DFU
device carries the identity. -/
theorem confirmLibusbK_ensures
    (stable : ∀ past event, stays past → stays (past ++ [event])) (ecid productId label : String)
    (requireYolo : Bool) (polls attempts : Nat) {past : List HostEvent} (here : stays past) :
    (confirmLibusbK culture ecid productId label requireYolo polls attempts).Ensures
      (gate culture options)
      (fun after device => stays after ∧ Seen culture productId after [device] ∧
        healthy culture device ∧ (productId = "1227" → authorized culture ecid device ∧
          (requireYolo → isYolo culture device))) past := by
  induction attempts generalizing past with
  | zero => exact ensures_throw _ _ _ past
  | succ attempts ih =>
    rw [confirmLibusbK]
    refine Ensures.bind _ (waitProductDetails_ensures stable productId polls here) ?_
    rintro after items ⟨here, seen⟩
    refine Ensures.bind _ (assertSingleDevice_ensures items label after) ?_
    rintro after device ⟨rfl, rfl, good⟩
    have seen := seen.resolve_left (List.cons_ne_nil _ _)
    refine Ensures.through _ (fun past _ => past = after ∧ (productId = "1227" →
      authorized culture ecid device ∧ (requireYolo → isYolo culture device))) ?_ ?_
    · by_cases dfu : productId = "1227"
      · simp only [whenever, dfu, decide_true, if_true]
        exact (assertDfuIdentity_ensures ecid requireYolo device after).mono _
          fun _ _ done => ⟨done.1, fun _ => done.2⟩
      · simp only [whenever, dfu, decide_false, Bool.false_eq_true, if_false]
        exact (ensures_pure _ _ _ after).mpr ⟨rfl, fun same => same.elim⟩
    · rintro _ - ⟨rfl, identity⟩
      split
      · exact (ensures_pure _ _ _ _).mpr ⟨here, seen, good, identity⟩
      · refine Ensures.bind _ (quiet_ensures (by exact within_ask trivial) stable here) ?_
        intro after redirected here
        refine Ensures.check _ fun _ => ?_
        refine Ensures.bind _ (quiet_ensures (by exact within_attempt rfl trivial) stable here) ?_
        intro after _ here
        exact ih here

/-- A process whose gate stands open may be started. -/
theorem invokeBoundedProcess_ensures
    (stable : ∀ past event, stays past → stays (past ++ [event])) {file : String}
    {arguments : List String} (stopOn : List String) {past : List HostEvent} (here : stays past)
    (may : Gate culture options past file arguments) :
    (attempt (HostCall.invokeBoundedProcess file arguments stopOn) rfl :
        Host ProcessResult).Ensures (gate culture options) (fun after _ => stays after) past := by
  refine (ensures_attempt _ _ rfl _ past).mpr fun reply _ => ⟨?_, fun _ _ => stable _ _ here⟩
  rintro _ _ _ ⟨⟩
  exact may

end

/-! The stages, each from a history that is cleared for an ECID. -/

section

variable {culture : Culture} {options : Options} {ecid : String} {past : List HostEvent}

theorem cleared_stable (ecid : String) (past : List HostEvent) (event : HostEvent)
    (cleared : Cleared culture options past ecid) :
    Cleared culture options (past ++ [event]) ecid := cleared.extend event

theorem isEcid_length {text : String} (valid : isEcid text) : 16 ≤ text.toList.length := by
  simp only [isEcid, Bool.and_eq_true, decide_eq_true_eq] at valid
  split at valid
  · have drop := valid.1
    rw [List.length_dropLast] at drop
    omega
  · exact valid.1.ge

/-- An ECID is longer than any option of openra1n. -/
theorem ExpectedEcid.length (expected : ExpectedEcid options past ecid) :
    16 ≤ ecid.toList.length := by
  have upper (text : String) : (toUpperInvariant text).toList.length = text.toList.length := by
    simp [toUpperInvariant]
  obtain ⟨given, rfl⟩ | ⟨-, configured, -, valid, rfl⟩ := expected
  · rw [upper]
    refine isEcid_length (options.ecidPattern.resolve_left fun empty => ?_)
    simp [empty, isNullOrWhiteSpace] at given
  · rw [upper]
    exact isEcid_length valid

theorem ExpectedEcid.ne_uploadOnly (expected : ExpectedEcid options past ecid) :
    "--upload-only" ≠ ecid := by
  rintro rfl
  have long := expected.length
  simp at long

/-- Clean DFU goes through checkm8 only where it is the one authorized device, and comes out as
an authorized YOLO DFU. -/
theorem runCheckm8_ensures {device : UsbDevice} (polls attempts : Nat)
    (cleared : Cleared culture options past ecid)
    (identified : Identified culture ecid "1227" past device) :
    (runCheckm8 culture ecid polls attempts).Ensures (gate culture options)
      (fun after _ => Cleared culture options after ecid ∧ ∃ device,
        Identified culture ecid "1227" after device ∧ isYolo culture device) past := by
  have may : Gate culture options past openra1n ["--confirm-a1625", "--expected-ecid", ecid] := by
    refine ⟨ecid, device, cleared, .inl ⟨rfl, identified, fun member => ?_⟩⟩
    simp [cleared.ecid.ne_uploadOnly] at member
  refine Ensures.bind _ (invokeBoundedProcess_ensures (cleared_stable ecid) _ cleared may) ?_
  intro after phase1 cleared
  refine Ensures.check _ fun _ => Ensures.check _ fun _ => ?_
  refine Ensures.bind _ (confirmLibusbK_ensures (cleared_stable ecid) ecid "1227" _ true polls
    attempts cleared) ?_
  rintro after dfu ⟨cleared, seen, good, identity⟩
  obtain ⟨right, yolo⟩ := identity rfl
  exact (ensures_pure _ _ _ after).mpr ⟨cleared, dfu, ⟨seen, good, right⟩, yolo rfl⟩

/-- Pongo is uploaded only to an authorized YOLO DFU. -/
theorem uploadPongo_ensures {device : UsbDevice} (polls : Nat)
    (cleared : Cleared culture options past ecid)
    (identified : Identified culture ecid "1227" past device) (yolo : isYolo culture device) :
    (uploadPongo culture ecid polls).Ensures (gate culture options)
      (fun after _ => Cleared culture options after ecid) past := by
  have may : Gate culture options past openra1n
      ["--upload-only", "--confirm-a1625", "--expected-ecid", ecid] :=
    ⟨ecid, device, cleared, .inl ⟨rfl, identified, fun _ => yolo⟩⟩
  refine Ensures.bind _ (invokeBoundedProcess_ensures (cleared_stable ecid) _ cleared may) ?_
  intro after phase2 cleared
  refine Ensures.check _ fun _ => ?_
  refine Ensures.bind _ (waitProductDetails_ensures (cleared_stable ecid) "4141" polls cleared) ?_
  rintro after _ ⟨cleared, -⟩
  exact (ensures_pure _ _ _ after).mpr cleared

theorem bootPongo_ensures (polls attempts : Nat) (cleared : Cleared culture options past ecid) :
    (bootPongo culture ecid polls attempts).Ensures (gate culture options)
      (fun after _ => Cleared culture options after ecid) past := by
  refine Ensures.bind _ (confirmLibusbK_ensures (cleared_stable ecid) ecid "1227" _ false polls
    attempts cleared) ?_
  rintro after dfu ⟨cleared, seen, good, identity⟩
  have identified : Identified culture ecid "1227" after dfu := ⟨seen, good, (identity rfl).1⟩
  refine Ensures.through _ (fun after _ => Cleared culture options after ecid ∧ ∃ device,
    Identified culture ecid "1227" after device ∧ isYolo culture device) ?_ ?_
  · split
    · exact runCheckm8_ensures polls attempts cleared identified
    · refine (assertDfuIdentity_ensures ecid true dfu after).mono _ ?_
      rintro _ _ ⟨rfl, -, yolo⟩
      exact ⟨cleared, dfu, identified, yolo rfl⟩
  · rintro after _ ⟨cleared, device, identified, yolo⟩
    exact uploadPongo_ensures polls cleared identified yolo

/-- The payload is uploaded only to an authorized Pongo. -/
theorem bootLinux_ensures (polls attempts : Nat) (cleared : Cleared culture options past ecid) :
    (bootLinux culture options ecid polls attempts).Ensures (gate culture options)
      (fun after _ => Cleared culture options after ecid) past := by
  refine Ensures.bind _ (confirmLibusbK_ensures (cleared_stable ecid) ecid "4141" _ false polls
    attempts cleared) ?_
  rintro after pongo ⟨cleared, seen, good, -⟩
  refine Ensures.check _ fun passed => ?_
  have right : authorized culture ecid pongo := by simpa using passed
  have may : Gate culture options after uploader
      ["upload", payload options.bootProfile, "--libusb", libusb, "--confirm-ram-boot"] :=
    ⟨ecid, pongo, cleared, .inr ⟨rfl, seen, good, right⟩⟩
  refine Ensures.bind _ (invokeBoundedProcess_ensures (cleared_stable ecid) _ cleared may) ?_
  intro after boot cleared
  refine Ensures.check _ fun _ => ?_
  refine Ensures.bind _ (waitProductDetails_ensures (cleared_stable ecid) "4142" polls cleared) ?_
  rintro after _ ⟨cleared, -⟩
  exact (ensures_pure _ _ _ after).mpr cleared

end

section

variable {culture : Culture} {options : Options} {past : List HostEvent}

theorem unobserved_quiet (past : List HostEvent) (c : HostCall) (r : c.Reply) (quiet : Quiet c)
    (unobserved : observations past = []) : observations (past ++ [⟨c, r⟩]) = [] := by
  rw [observations_append, unobserved, List.nil_append]
  cases c with
  | getAtvUsbDetails => exact quiet.elim
  | _ => rfl

theorem unobserved_ensures {α : Type} {p : Host α} (quiet : p.Within Quiet)
    (unobserved : observations past = []) :
    p.Ensures (gate culture options) (fun after _ => observations after = []) past :=
  quiet.keeps _ quiet_allows unobserved_quiet unobserved

theorem resolveExpectedEcid_ensures (unobserved : observations past = []) :
    (resolveExpectedEcid options).Ensures (gate culture options)
      (fun after ecid => observations after = [] ∧ ExpectedEcid options after ecid) past := by
  rw [resolveExpectedEcid]
  split
  · next given => exact (ensures_pure _ _ _ past).mpr ⟨unobserved, .inl ⟨given, rfl⟩⟩
  · next blank =>
    have blank : isNullOrWhiteSpace options.expectedEcid := by simpa using blank
    refine Ensures.bind _ (unobserved_ensures (by exact within_ask trivial) unobserved) ?_
    intro after found unobserved
    refine Ensures.check _ fun _ => ?_
    refine Ensures.through _ (fun after configured => observations after = [] ∧
      ⟨HostCall.readDeviceConfig deviceConfig, Except.ok configured⟩ ∈ after) ?_ ?_
    · refine (ensures_attempt _ _ rfl _ after).mpr fun reply _ =>
        ⟨quiet_allows after _ reply trivial, ?_⟩
      rintro configured (rfl : reply = .ok configured)
      exact ⟨unobserved_quiet after _ _ trivial unobserved, by simp [Monitor.history]⟩
    · rintro after configured ⟨unobserved, member⟩
      refine Ensures.check _ fun valid => (ensures_pure _ _ _ after).mpr ⟨unobserved, .inr ?_⟩
      exact ⟨blank, configured, member, by simpa using valid, rfl⟩

/-- The first observation decides whether a profile other than the baseline may go on. -/
theorem firstObservation_ensures {ecid : String} (unobserved : observations past = [])
    (expected : ExpectedEcid options past ecid) :
    (getProductDetails culture "4142").Ensures (gate culture options)
      (fun after devices => ExpectedEcid options after ecid ∧
        ∃ first, (observations after).head? = some first ∧
          first.filter (ofProduct culture "4142") = devices) past := by
  refine Ensures.through _ (fun after devices => ExpectedEcid options after ecid ∧
    observations after = [devices]) ?_ ?_
  · refine (ensures_attempt _ _ rfl _ past).mpr fun reply _ => ⟨nofun, ?_⟩
    rintro devices (rfl : reply = .ok devices)
    refine ⟨expected.extend _, ?_⟩
    exact (observations_observed past devices).trans (by rw [unobserved, List.nil_append])
  · rintro after devices ⟨expected, once⟩
    exact (ensures_pure _ _ _ after).mpr ⟨expected, devices, by rw [once, List.head?_cons], rfl⟩

theorem whenever_ensures {condition : Bool} {action : Host Unit} {stays : List HostEvent → Prop}
    (here : stays past)
    (ensures : action.Ensures (gate culture options) (fun after _ => stays after) past) :
    (whenever condition action).Ensures (gate culture options) (fun after _ => stays after)
      past := by
  cases condition with
  | false => exact (ensures_pure _ _ _ past).mpr here
  | true => exact ensures

theorem bootAndRestore_ensures (polls attempts : Nat) (unobserved : observations past = []) :
    (bootAndRestore culture options polls attempts).Ensures (gate culture options)
      (fun _ _ => True) past := by
  refine Ensures.bind _ (resolveExpectedEcid_ensures unobserved) ?_
  rintro after ecid ⟨unobserved, expected⟩
  have stable (past : List HostEvent) (c : HostCall) (r : c.Reply) (quiet : Quiet c)
      (both : observations past = [] ∧ ExpectedEcid options past ecid) :
      observations (past ++ [⟨c, r⟩]) = [] ∧ ExpectedEcid options (past ++ [⟨c, r⟩]) ecid :=
    ⟨unobserved_quiet past c r quiet both.1, both.2.extend _⟩
  refine Ensures.bind _ (Within.keeps _ (by exact within_attempt rfl trivial) quiet_allows stable
    ⟨unobserved, expected⟩) ?_
  rintro after _ ⟨unobserved, expected⟩
  refine Ensures.bind _ (firstObservation_ensures unobserved expected) ?_
  rintro after linuxDevices ⟨expected, first, head, here⟩
  refine Ensures.check _ fun passed => ?_
  have cleared : Cleared culture options after ecid := by
    refine ⟨expected, ?_⟩
    by_cases baseline : options.bootProfile = .baseline
    · exact .inl baseline
    · have none : linuxDevices.length = 0 := by simpa [baseline] using passed
      exact .inr ⟨first, head, here.trans (List.length_eq_zero_iff.mp none)⟩
  refine Ensures.through _ (fun after _ => Cleared culture options after ecid)
    (whenever_ensures cleared ?_) ?_
  · refine Ensures.bind _ (getProductDetails_ensures (cleared_stable ecid) "4141" cleared) ?_
    rintro after pongoDevices ⟨cleared, -⟩
    refine Ensures.bind _ (whenever_ensures cleared (bootPongo_ensures polls attempts cleared)) ?_
    intro after _ cleared
    exact bootLinux_ensures polls attempts cleared
  · intro after _ _
    exact quiet_ensures (within_restoreLinux options) (fun _ _ _ => trivial) trivial

theorem mainFlow_ensures (polls attempts : Nat) :
    (mainFlow culture options polls attempts).Ensures (gate culture options)
      (fun _ _ => True) [] := by
  refine Ensures.bind _ (unobserved_ensures (within_assertOptions options) rfl) ?_
  intro after _ unobserved
  refine Ensures.bind _
    (unobserved_ensures (within_assertLocalPreflight culture options) unobserved) ?_
  intro after _ unobserved
  refine Ensures.bind _ (unobserved_ensures
    (within_whenever (within_prepareDevelopmentLayer options)) unobserved) ?_
  intro after _ unobserved
  exact whenever_ensures trivial (bootAndRestore_ensures polls attempts unobserved)

/-- A call that starts a process or looks for devices comes after a local preflight that has
passed, and not at all when only a validation was asked for. -/
theorem mainFlow_preflight {polls attempts : Nat} {before after : List HostEvent}
    {event : HostEvent} {result : Except String Unit} (loud : ¬Quiet event.1)
    (run : (ExceptT.run (mainFlow culture options polls attempts)).Runs
      (before ++ event :: after) result) :
    options.validateOnly = false ∧ ∃ checked rest, before = checked ++ rest ∧
      (ExceptT.run (assertLocalPreflight culture options)).Runs checked (.ok ()) := by
  obtain ⟨first, rest, _, rfl, asserted, next⟩ :=
    (within_assertOptions options).runs_before loud run
  obtain rfl := assertOptions_runs asserted
  obtain ⟨checked, rest, _, rfl, passed, next⟩ :=
    (within_assertLocalPreflight culture options).runs_before loud next
  obtain ⟨prepared, rest, _, rfl, -, next⟩ :=
    (within_whenever (within_prepareDevelopmentLayer options)).runs_before loud next
  refine ⟨?_, checked, _, rfl, passed⟩
  cases validate : options.validateOnly with
  | false => rfl
  | true =>
    rw [validate] at next
    have quiet := (within_pure Quiet ()).runs next event (by simp)
    exact absurd quiet loud

theorem throwUnless_runs {condition : Bool} {message : String} {t : List HostEvent}
    (run : (ExceptT.run (throwUnless condition message)).Runs t (.ok ())) :
    t = [] ∧ condition = true := by
  simpa using (runs_throwIf _ _ t).mp run

theorem assertFileHash_runs {path expected : String} {t : List HostEvent}
    (run : (ExceptT.run (assertFileHash culture path expected)).Runs t (.ok ())) :
    ∃ actual, t = [⟨.testPath path, true⟩, ⟨.getFileHash path, Except.ok actual⟩] ∧
      sameText culture actual expected := by
  obtain ⟨t₁, t₂, _, rfl, present, rest⟩ := (runs_bind_ok _ _ t _).mp run
  obtain ⟨asked, none, found, rfl, answer, checked⟩ := (runs_bind_ok _ _ _ _).mp present
  obtain rfl := (runs_ask _ _ _).mp answer
  obtain ⟨rfl, rfl⟩ := throwUnless_runs checked
  obtain ⟨hashed, none, actual, rfl, answer, compared⟩ := (runs_bind_ok _ _ _ _).mp rest
  obtain ⟨reply, rfl, same⟩ := (runs_attempt _ rfl _ _).mp answer
  obtain rfl : reply = .ok actual := same
  obtain ⟨rfl, equal⟩ := throwUnless_runs compared
  exact ⟨actual, rfl, equal⟩

/-- What a run of the preflight that returned has found of each pinned artifact. -/
theorem preflight_artifacts {t : List HostEvent}
    (run : (ExceptT.run (assertLocalPreflight culture options)).Runs t (.ok ()))
    {artifact : String × String} (pinned : artifact ∈ artifacts options.bootProfile) :
    ⟨HostCall.testPath artifact.1, true⟩ ∈ t ∧ ∃ actual,
      ⟨HostCall.getFileHash artifact.1, Except.ok actual⟩ ∈ t ∧
        sameText culture actual artifact.2 := by
  obtain ⟨t₁, t₂, _, rfl, hashes, -⟩ := (runs_bind_ok _ _ t _).mp run
  obtain ⟨before, own, after, rfl, here⟩ := runs_forM hashes pinned
  obtain ⟨actual, rfl, same⟩ := assertFileHash_runs here
  exact ⟨by simp, actual, by simp, same⟩

/-- Each process the command starts, in any run, comes after the local preflight and at a moment
when the last observation identifies its device; a validation starts none. -/
theorem boot_identity_gate (culture : Culture) (options : Options) (polls attempts : Nat)
    {before after : List HostEvent} {file : String} {arguments stopOn : List String}
    {reply : Except String ProcessResult} {result : Except String Unit}
    (run : (ExceptT.run (mainFlow culture options polls attempts)).Runs
      (before ++ ⟨.invokeBoundedProcess file arguments stopOn, reply⟩ :: after) result) :
    options.validateOnly = false ∧
    (∃ checked rest, before = checked ++ rest ∧
      (ExceptT.run (assertLocalPreflight culture options)).Runs checked (.ok ())) ∧
    Gate culture options before file arguments := by
  obtain ⟨boots, passed⟩ := mainFlow_preflight (by exact id) run
  have allowed := (mainFlow_ensures polls attempts).allowed _ run
  exact ⟨boots, passed, allowed file arguments stopOn rfl⟩

end

/-! A device in the Pongo stage on a machine where everything is in place. -/

def pongo : UsbDevice where
  usbId := "05AC:4141"
  status := "OK"
  problemCode := "0"
  busDescription := "PongoOS"
  driverService := "libusbK"
  instanceId := "USB\\VID_05AC&PID_4141\\CPID:7000_BDID:34_ECID:0123456789ABCDEF"

def pongoOptions : Options where
  confirmRamBoot := true
  bootProfile := .wifiT7000Leaf
  expectedEcid := "0123456789abcdef"
  startCodex := false
  enterShell := false
  developmentProfile := .none
  enableZram := false
  restoreRamState := false
  validateOnly := false
  ecidPattern := by decide

def pongoAnswer : (c : HostCall) → c.Reply
  | .testPath _ => true
  | .getFileHash path => .ok (((artifacts .wifiT7000Leaf).lookup path).getD "")
  | .readManifest _ => .ok
    ⟨"Apple TV HD A1625 / AppleTV5,3 / J42d / T7000", "RAM-only PongoOS m1n1 Linux boot",
      expectedPayloadHash .wifiT7000Leaf⟩
  | .selectString _ _ => .ok true
  | .getCommand _ => true
  | .readDeviceConfig _ => .ok ""
  | .importModule _ => .ok ()
  | .getAtvUsbDetails => .ok [pongo]
  | .beforeDeadline => true
  | .isInputRedirected => false
  | .readHost => .ok ()
  | .invokeBoundedProcess _ _ _ => .ok ⟨0, false, "sent bootm to PongoOS", "", ""⟩
  | .invoke _ => .ok ""

def pongoRun : List HostEvent :=
  (Prog.exec (fun _ => pongoAnswer) []
    (ExceptT.run (mainFlow Culture.invariant pongoOptions 1 1))).1

theorem boot_identity_gate_pongo : ∃ before, observations before = [[pongo], [pongo], [pongo]] ∧
    Gate Culture.invariant pongoOptions before uploader
      ["upload", payload .wifiT7000Leaf, "--libusb", libusb, "--confirm-ram-boot"] := by
  have run := Prog.exec_runs (fun _ => pongoAnswer)
    (ExceptT.run (mainFlow Culture.invariant pongoOptions 1 1))
  have split : pongoRun = pongoRun.take 26 ++
      ⟨.invokeBoundedProcess uploader ["upload", payload .wifiT7000Leaf, "--libusb", libusb,
        "--confirm-ram-boot"] [], .ok ⟨0, false, "sent bootm to PongoOS", "", ""⟩⟩ ::
        pongoRun.drop 27 := by
    rfl
  rw [show (Prog.exec _ _ _).1 = _ by exact split] at run
  exact ⟨_, by rfl, (boot_identity_gate _ _ _ _ run).2.2⟩

end WinBoot.BootGate
