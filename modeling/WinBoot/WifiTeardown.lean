import WinBoot.WifiSession

/-! What a session has torn down when its cleanup is through, in whatever order its script, the DHCP
script and the daemons have moved. -/

namespace WinBoot.WifiSession
open Transitions World

/-- What the session has recorded. -/
structure Before where
  resolv : String
  defaults : List (Nat × Route)

def Before.table (before : Before) (metric : Nat) : Option Route := before.defaults.lookup metric

/-- The EXIT trap has been set. -/
def World.initial (before : Before) : World where
  session := .trapTerm
  wpa := .absent
  dhcp := .absent
  dhcpTold := false
  script := none
  listeners := []
  nextPid := 1
  networkPid := false
  wpaPid := false
  dhcpPid := false
  dropbearPid := none
  listenAddress := none
  leaseStatus := none
  lock := true
  resolv := before.resolv
  resolvBefore := before.resolv
  routes := before.table
  defaultBefore := before.defaults

structure TornDown (before : Before) (w : World) : Prop where
  listeners : w.listeners = []
  resolv : w.resolv = before.resolv
  routes : w.routes = before.table
  pidFiles : w.networkPid = false ∧ w.wpaPid = false ∧ w.dhcpPid = false ∧ w.dropbearPid = none
  lock : w.lock = false

/-- The cleanup has looked for a listener. -/
def Session.looked : Session → Bool
  | .test .wpa | .kill .wpa | .wait | .flushRoutes | .clearAddress | .restorePowerSave
  | .restoreResolv | .addRoutes _ | .removePids | .removeLock | .finished => true
  | _ => false

/-- The cleanup has waited for the daemons. -/
def Session.waited : Session → Bool
  | .flushRoutes | .clearAddress | .restorePowerSave | .restoreResolv | .addRoutes _ | .removePids
  | .removeLock | .finished => true
  | _ => false

def Script.starts : Script → Bool
  | .startListener _ _ => true
  | _ => false

/-- A listener that is started when the cleanup has looked for one, and a wait that leaves a script
running, of a udhcpc that did not end by itself. -/
def World.late (w : World) : Move → Bool
  | .script true _ => w.script.any Script.starts && w.session.looked
  | .session _ => w.session = .wait && w.script.isSome
  | _ => false

def Timely (w : World) (m : Move) : Prop := w.late m = false

instance (w : World) (m : Move) : Decidable (Timely w m) := inferInstanceAs (Decidable (_ = false))

/-- No listener is there when the script is about to start one, or to forget one. -/
def Script.alone : Script → Bool
  | .startListener _ _ | .removeFiles => true
  | _ => false

section Listeners

/-- A listener has its PID in the file, and there is none where none may be. -/
structure Tracked (w : World) : Prop where
  filed : ∀ pid ∈ w.listeners, w.dropbearPid = some pid
  alone : w.script.any Script.alone = true → w.listeners = []
  looked : w.session.looked = true → w.listeners = []

variable {w w' : World} {ok : Bool} {part : String} {script : Script}

theorem branch_ok {answer ok : Bool} {yes no : World} (step : branch answer ok yes no = some w') :
    answer = true ∧ w' = yes ∨ answer = false ∧ w' = no := by
  unfold branch at step
  split at step
  · next same =>
    subst same
    cases ok with
    | true => exact .inl ⟨rfl, (Option.some.inj step).symm⟩
    | false => exact .inr ⟨rfl, (Option.some.inj step).symm⟩
  · cases step

/-- What the DHCP script leaves to the session and to udhcpc. -/
theorem scriptStep_frame (step : w.scriptStep ok part script = some w') :
    w'.session = w.session ∧ w'.dhcp = w.dhcp ∧ w'.resolvBefore = w.resolvBefore ∧
      w'.defaultBefore = w.defaultBefore := by
  cases script with
  | testDropbear | checkLease | testListener | probeListener | killListener =>
    obtain ⟨-, rfl⟩ | ⟨-, rfl⟩ := branch_ok step <;> exact ⟨rfl, rfl, rfl, rfl⟩
  | _ =>
    obtain rfl := Option.some.inj step
    cases ok <;> exact ⟨rfl, rfl, rfl, rfl⟩

theorem terminate_listeners (tracked : Tracked w) : (w.terminate w.dropbearPid).listeners = [] := by
  refine List.filter_eq_nil_iff.mpr fun pid member => ?_
  simp [tracked.filed pid member]

theorem listeners_of_silent (tracked : Tracked w) (silent : w.listening = false) :
    w.listeners = [] := by
  refine List.eq_nil_iff_forall_not_mem.mpr fun pid member => ?_
  have missed := List.any_eq_false.mp silent pid member
  exact missed (by simpa using tracked.filed pid member)

theorem listeners_of_unfiled (tracked : Tracked w) (unfiled : w.dropbearPid.isSome = false) :
    w.listeners = [] := by
  refine List.eq_nil_iff_forall_not_mem.mpr fun pid member => ?_
  simp [tracked.filed pid member] at unfiled

theorem Tracked.none_left (none : w'.listeners = []) : Tracked w' :=
  ⟨by simp [none], fun _ => none, fun _ => none⟩

/-- The script goes on to a command that may find a listener. -/
theorem Tracked.turned (tracked : Tracked w) (listeners : w'.listeners = w.listeners)
    (file : w'.dropbearPid = w.dropbearPid) (session : w'.session = w.session)
    (alone : w'.script.any Script.alone = false) : Tracked w' := by
  refine ⟨?_, fun there => by simp [alone] at there, ?_⟩
  · rw [listeners, file]
    exact tracked.filed
  · rw [listeners, session]
    exact tracked.looked

theorem afterRoute_alone (event : LeaseEvent) (lease : Lease) :
    (lease.afterRoute event).alone = false := by
  unfold Lease.afterRoute
  split <;> rfl

theorem afterAddress_alone (event : LeaseEvent) (lease : Lease) :
    (lease.afterAddress event).alone = false := by
  unfold Lease.afterAddress
  split
  · exact afterRoute_alone event lease
  · rfl

/-- Over a live listener none is started. -/
theorem rebind_alone (event : LeaseEvent) (lease : Lease) (previousIp : String) :
    (lease.rebind event previousIp true).alone = false := by
  unfold Lease.rebind
  split <;> rfl

/-- A listener is started only where none is left: the file had no PID, the one in it was dead, or
it has been told to end. -/
theorem scriptStep_tracked (tracked : Tracked w) (here : w.script = some script)
    (timely : ok = true → script.starts = true → w.session.looked = false)
    (step : w.scriptStep ok part script = some w') : Tracked w' := by
  have terminated := terminate_listeners tracked
  have alone (is : script.alone = true) : w.listeners = [] := tracked.alone (by simpa [here] using is)
  cases script with
  | testDropbear =>
    obtain ⟨-, rfl⟩ | ⟨absent, rfl⟩ := branch_ok step
    · exact tracked.turned rfl rfl rfl rfl
    · have none := listeners_of_unfiled tracked absent
      exact .none_left none
  | killDropbear =>
    obtain rfl := Option.some.inj step
    exact .none_left terminated
  | removeFiles =>
    obtain rfl := Option.some.inj step
    cases ok <;> exact .none_left (alone rfl)
  | testListener event lease previousIp =>
    obtain ⟨-, rfl⟩ | ⟨absent, rfl⟩ := branch_ok step
    · exact tracked.turned rfl rfl rfl rfl
    · have none := listeners_of_unfiled tracked absent
      exact .none_left none
  | probeListener event lease previousIp =>
    obtain ⟨-, rfl⟩ | ⟨silent, rfl⟩ := branch_ok step
    · exact tracked.turned rfl rfl rfl (rebind_alone event lease previousIp)
    · have none := listeners_of_silent tracked silent
      exact .none_left none
  | killListener event lease =>
    obtain ⟨-, rfl⟩ | ⟨-, rfl⟩ := branch_ok step
    · exact .none_left terminated
    · exact tracked.turned rfl rfl rfl rfl
  | startListener event lease =>
    obtain rfl := Option.some.inj step
    cases ok with
    | false => exact .none_left (alone rfl)
    | true =>
      have early := timely rfl rfl
      refine ⟨fun pid member => ?_, fun there => absurd there Bool.false_ne_true, fun late => ?_⟩
      · have only : pid ∈ w.nextPid :: w.listeners := member
        rw [alone rfl] at only
        exact congrArg some (List.mem_singleton.mp only).symm
      · exact absurd (early.symm.trans late) Bool.false_ne_true
  | checkLease event lease =>
    obtain ⟨-, rfl⟩ | ⟨-, rfl⟩ := branch_ok step <;> exact tracked.turned rfl rfl rfl rfl
  | setAddress event lease =>
    obtain rfl := Option.some.inj step
    cases ok with
    | false => exact tracked.turned rfl rfl rfl rfl
    | true => exact tracked.turned rfl rfl rfl (afterAddress_alone event lease)
  | replaceRoute event lease gateway =>
    obtain rfl := Option.some.inj step
    cases ok with
    | false => exact tracked.turned rfl rfl rfl rfl
    | true => exact tracked.turned rfl rfl rfl (afterRoute_alone event lease)
  | _ =>
    obtain rfl := Option.some.inj step
    cases ok <;> exact tracked.turned rfl rfl rfl rfl

/-- A command that has nothing to do with the listeners. -/
theorem Tracked.same (tracked : Tracked w) (listeners : w'.listeners = w.listeners)
    (file : w'.dropbearPid = w.dropbearPid) (script : w'.script = w.script)
    (looked : w'.session.looked = true → w.session.looked = true) : Tracked w' := by
  refine ⟨?_, ?_, fun later => listeners.trans (tracked.looked (looked later))⟩
  · rw [listeners, file]
    exact tracked.filed
  · rw [script, listeners]
    exact tracked.alone

end Listeners

section Records

/-- The table is the recorded one but for these routes, which are still to be added. -/
def Missing (before : Before) (rest : List (Nat × Route)) (w : World) : Prop :=
  ∀ metric, w.routes metric = before.table metric ∨
    w.routes metric = none ∧ metric ∈ rest.map Prod.fst

def NoPidFiles (w : World) : Prop :=
  w.networkPid = false ∧ w.wpaPid = false ∧ w.dhcpPid = false ∧ w.dropbearPid = none

/-- How far the cleanup has come when it has waited. -/
def Settled (before : Before) (w : World) : Session → Prop
  | .clearAddress | .restorePowerSave | .restoreResolv => Missing before before.defaults w
  | .addRoutes rest => w.resolv = before.resolv ∧ rest <:+ before.defaults ∧ Missing before rest w
  | .removePids => w.resolv = before.resolv ∧ w.routes = before.table
  | .removeLock => w.resolv = before.resolv ∧ w.routes = before.table ∧ NoPidFiles w
  | .finished =>
    w.resolv = before.resolv ∧ w.routes = before.table ∧ NoPidFiles w ∧ w.lock = false
  | _ => True

/-- Where the table is not the recorded one, a route is on wlan0. -/
def Wireless (before : Before) (w : World) : Prop :=
  ∀ metric, w.routes metric = before.table metric ∨
    ∀ route, w.routes metric = some route → route.dev = "wlan0"

theorem Missing.wireless {before : Before} {rest : List (Nat × Route)} {w : World}
    (missing : Missing before rest w) : Wireless before w := by
  intro metric
  obtain same | ⟨gone, -⟩ := missing metric
  · exact .inl same
  · right
    simp [gone]

/-- What was recorded can be restored, and from the wait on nothing else touches it. -/
structure Restorable (before : Before) (w : World) : Prop where
  recorded : w.resolvBefore = before.resolv ∧ w.defaultBefore = before.defaults
  waited : w.session.waited = true → w.dhcp ≠ .running ∧ w.script = none
  routes : Wireless before w
  settled : Settled before w w.session

/-- The session's own default routes are told by their metric, and none is on wlan0. -/
structure Before.Apart (before : Before) : Prop where
  metrics : (before.defaults.map Prod.fst).Nodup
  elsewhere : ∀ entry ∈ before.defaults, entry.2.dev ≠ "wlan0"

variable {before : Before} {w w' : World} {ok : Bool} {part : String} {script : Script}

theorem Before.listed {metric : Nat} {route : Route} (found : before.table metric = some route) :
    (metric, route) ∈ before.defaults := by
  obtain ⟨first, rest, whole, -⟩ := List.lookup_eq_some_iff.mp found
  rw [whole]
  simp

theorem Before.Apart.found (apart : before.Apart) {metric : Nat} {route : Route}
    (member : (metric, route) ∈ before.defaults) : before.table metric = some route := by
  obtain ⟨first, rest, whole⟩ := List.append_of_mem member
  refine List.lookup_eq_some_iff.mpr ⟨first, rest, whole, fun entry early => ?_⟩
  have metrics := apart.metrics
  rw [whole, List.map_append] at metrics
  have other := (List.nodup_append.mp metrics).2.2 entry.1 (List.mem_map.mpr ⟨entry, early, rfl⟩)
    metric (by simp)
  simpa using Ne.symm other

/-- Flushing wlan0 takes no recorded route away. -/
theorem Restorable.flushed (restorable : Restorable before w) (apart : before.Apart) :
    Missing before before.defaults w.flush := by
  intro metric
  have flushed : w.flush.routes metric = (w.routes metric).filter fun route => route.dev ≠ "wlan0" := rfl
  obtain same | wireless := restorable.routes metric
  · left
    rw [flushed, same]
    cases found : before.table metric with
    | none => rfl
    | some route => simpa using apart.elsewhere _ (before.listed found)
  · have gone : w.flush.routes metric = none := by
      rw [flushed, Option.filter_eq_none_iff]
      intro route here
      simpa using wireless route here
    cases found : before.table metric with
    | none => exact .inl gone
    | some route => exact .inr ⟨gone, List.mem_map.mpr ⟨_, before.listed found, rfl⟩⟩

/-- Adding back one route leaves the later ones missing. -/
theorem Missing.add {metric : Nat} {route : Route} {rest : List (Nat × Route)}
    (missing : Missing before ((metric, route) :: rest) w)
    (table : before.table metric = some route)
    (added : w'.routes = if (w.routes metric).isSome then w.routes else
      Function.update w.routes metric (some route)) : Missing before rest w' := by
  intro other
  rw [added]
  by_cases here : other = metric
  · subst here
    left
    split
    · next there =>
      obtain same | ⟨gone, -⟩ := missing other
      · exact same
      · simp [gone] at there
    · rw [Function.update_self, table]
  · have kept : (if (w.routes metric).isSome then w.routes else
        Function.update w.routes metric (some route)) other = w.routes other := by
      split
      · rfl
      · exact Function.update_of_ne here ..
    rw [kept]
    obtain same | ⟨gone, member⟩ := missing other
    · exact .inl same
    · exact .inr ⟨gone, (List.mem_cons.mp member).resolve_left here⟩

theorem Missing.none_left (missing : Missing before [] w) : w.routes = before.table := by
  funext metric
  exact (missing metric).resolve_right fun gone => by simpa using gone.2

/-- Before the wait is over nothing is asked of what is restored. -/
theorem settled_of_not_waited {pc : Session} (early : pc.waited = false) : Settled before w pc := by
  cases pc <;> first | exact trivial | cases early

/-- What the DHCP script does to the default routes. -/
theorem scriptStep_routes (step : w.scriptStep ok part script = some w') :
    w'.routes = w.routes ∨ w'.routes = w.flush.routes ∨
      ∃ gateway, w'.routes = Function.update w.routes 0 (some ⟨gateway, "wlan0"⟩) := by
  cases script with
  | testDropbear | checkLease | testListener | probeListener | killListener =>
    obtain ⟨-, rfl⟩ | ⟨-, rfl⟩ := branch_ok step <;> exact .inl rfl
  | flushRoutes =>
    obtain rfl := Option.some.inj step
    exact .inr (.inl rfl)
  | replaceRoute event lease gateway =>
    obtain rfl := Option.some.inj step
    cases ok with
    | false => exact .inl rfl
    | true => exact .inr (.inr ⟨gateway, rfl⟩)
  | _ =>
    obtain rfl := Option.some.inj step
    cases ok <;> exact .inl rfl

theorem scriptStep_wireless (restorable : Restorable before w) (apart : before.Apart)
    (step : w.scriptStep ok part script = some w') : Wireless before w' := by
  intro metric
  obtain same | flushed | ⟨gateway, replaced⟩ := scriptStep_routes step
  · rw [same]
    exact restorable.routes metric
  · rw [flushed]
    exact (restorable.flushed apart).wireless metric
  · rw [replaced]
    by_cases zero : metric = 0
    · right
      intro route found
      rw [zero, Function.update_self] at found
      rw [← Option.some.inj found]
    · rw [Function.update_of_ne zero]
      exact restorable.routes metric

theorem scriptStep_restorable (restorable : Restorable before w) (apart : before.Apart)
    (here : w.script = some script) (step : w.scriptStep ok part script = some w') :
    Restorable before w' := by
  obtain ⟨session, -, resolv, defaults⟩ := scriptStep_frame step
  have early : w'.session.waited = false := by
    rw [session, Bool.eq_false_iff]
    intro waited
    simp [(restorable.waited waited).2] at here
  refine ⟨⟨resolv.trans restorable.recorded.1, defaults.trans restorable.recorded.2⟩,
    fun waited => by simp [early] at waited, scriptStep_wireless restorable apart step, ?_⟩
  exact settled_of_not_waited early

/-- A command before the wait is over. -/
theorem Restorable.early (restorable : Restorable before w) (same : w'.routes = w.routes)
    (resolv : w'.resolvBefore = w.resolvBefore) (defaults : w'.defaultBefore = w.defaultBefore)
    (early : w'.session.waited = false) : Restorable before w' := by
  refine ⟨⟨resolv.trans restorable.recorded.1, defaults.trans restorable.recorded.2⟩,
    fun waited => by simp [early] at waited, fun metric => ?_, settled_of_not_waited early⟩
  rw [same]
  exact restorable.routes metric

/-- A command of the cleanup behind the wait. -/
theorem Restorable.late (restorable : Restorable before w) (waited : w.session.waited = true)
    (dhcp : w'.dhcp = w.dhcp) (script : w'.script = w.script)
    (resolv : w'.resolvBefore = w.resolvBefore) (defaults : w'.defaultBefore = w.defaultBefore)
    (routes : Wireless before w') (settled : Settled before w' w'.session) :
    Restorable before w' := by
  refine ⟨⟨resolv.trans restorable.recorded.1, defaults.trans restorable.recorded.2⟩, fun _ => ?_,
    routes, settled⟩
  rw [dhcp, script]
  exact restorable.waited waited

end Records

section Runs

variable {before : Before} {w w' : World} {m : Move}

structure Sound (before : Before) (w : World) : Prop where
  tracked : Tracked w
  restorable : Restorable before w

/-- Listeners that end leave what is known of the others. -/
theorem Sound.terminate (sound : Sound before w) (pid : Option Nat) :
    Sound before (w.terminate pid) := by
  obtain ⟨⟨filed, alone, looked⟩, restorable⟩ := sound
  refine ⟨⟨fun p member => filed p (List.mem_filter.mp member).1, fun there => ?_, fun there => ?_⟩, ?_⟩
  · simp [World.terminate, alone there]
  · simp [World.terminate, looked there]
  · exact ⟨restorable.recorded, restorable.waited, restorable.routes, restorable.settled⟩

/-- A command that neither touches the listeners nor ends the wait. -/
theorem Sound.quiet (sound : Sound before w) (listeners : w'.listeners = w.listeners)
    (file : w'.dropbearPid = w.dropbearPid) (script : w'.script = w.script)
    (looked : w'.session.looked = true → w.session.looked = true)
    (early : w'.session.waited = false) (routes : w'.routes = w.routes)
    (resolv : w'.resolvBefore = w.resolvBefore) (defaults : w'.defaultBefore = w.defaultBefore) :
    Sound before w' :=
  ⟨sound.tracked.same listeners file script looked,
    sound.restorable.early routes resolv defaults early⟩

/-- A command behind the wait. -/
theorem Sound.late (sound : Sound before w) (waited : w.session.waited = true)
    (listeners : w'.listeners = w.listeners) (dhcp : w'.dhcp = w.dhcp)
    (script : w'.script = w.script)
    (resolv : w'.resolvBefore = w.resolvBefore) (defaults : w'.defaultBefore = w.defaultBefore)
    (routes : Wireless before w') (settled : Settled before w' w'.session) : Sound before w' := by
  have looked : w.session.looked = true := by
    cases here : w.session <;> rw [here] at waited <;> first | rfl | cases waited
  exact ⟨.none_left (listeners.trans (sound.tracked.looked looked)),
    sound.restorable.late waited dhcp script resolv defaults routes settled⟩

/-- The cleanup looks for the PID files, and tells those who are there to end. -/
theorem test_sound (sound : Sound before w) {ok : Bool} {name : Daemon}
    (here : w.session = .test name) (step : w.sessionStep ok (.test name) = some w') :
    Sound before w' := by
  obtain ⟨-, rfl⟩ | ⟨absent, rfl⟩ := branch_ok step
  · refine sound.quiet rfl rfl rfl ?_ rfl rfl rfl rfl
    cases name <;> simp [here, goto, Session.looked]
  · cases name with
    | dropbear =>
      have none := listeners_of_unfiled sound.tracked absent
      exact ⟨.none_left none, sound.restorable.early rfl rfl rfl rfl⟩
    | dhcp =>
        exact sound.quiet rfl rfl rfl (by simp [goto, Daemon.after, Session.looked]) rfl rfl rfl rfl
    | wpa => exact sound.quiet rfl rfl rfl (by simp [here, Session.looked]) rfl rfl rfl rfl

theorem kill_sound (sound : Sound before w) {name : Daemon} (here : w.session = .kill name) :
    Sound before ((w.tell name).goto name.after) := by
  cases name with
  | dropbear =>
    have none : ((w.tell .dropbear).goto (Daemon.after .dropbear)).listeners = [] :=
      terminate_listeners sound.tracked
    exact ⟨.none_left none, sound.restorable.early rfl rfl rfl rfl⟩
  | dhcp =>
      exact sound.quiet rfl rfl rfl (by simp [goto, Daemon.after, Session.looked]) rfl rfl rfl rfl
  | wpa => exact sound.quiet rfl rfl rfl (by simp [here, Session.looked]) rfl rfl rfl rfl

/-- What a command before the cleanup leaves. -/
theorem body_frame {ok : Bool} {pc : Session} (body : pc.cleaning = false)
    (step : w.sessionStep ok pc = some w') : w'.listeners = w.listeners ∧
      w'.dropbearPid = w.dropbearPid ∧ w'.script = w.script ∧ w'.routes = w.routes ∧
        w'.resolvBefore = w.resolvBefore ∧ w'.defaultBefore = w.defaultBefore ∧
          w'.session.looked = false ∧ w'.session.waited = false := by
  cases pc with
  | trapTerm | trapInt | startWpa | startDhcp =>
    obtain rfl := Option.some.inj step
    exact ⟨rfl, rfl, rfl, rfl, rfl, rfl, rfl, rfl⟩
  | writePid | getPowerSave | setPowerSave | writeWpaPid | askStatus | writeDhcpPid =>
    obtain rfl := Option.some.inj step
    cases ok <;> exact ⟨rfl, rfl, rfl, rfl, rfl, rfl, rfl, rfl⟩
  | checkWpa | supervise =>
    simp only [sessionStep] at step
    split at step
    · cases step
    · obtain rfl := Option.some.inj step
      cases ok <;> exact ⟨rfl, rfl, rfl, rfl, rfl, rfl, rfl, rfl⟩
  | countAttempt =>
    obtain ⟨-, rfl⟩ | ⟨-, rfl⟩ := branch_ok step <;>
      exact ⟨rfl, rfl, rfl, rfl, rfl, rfl, rfl, rfl⟩
  | _ => cases body

theorem body_sound (sound : Sound before w) {ok : Bool} (body : w.session.cleaning = false)
    (step : w.sessionStep ok w.session = some w') : Sound before w' := by
  obtain ⟨listeners, file, script, routes, resolv, defaults, looked, early⟩ := body_frame body step
  exact sound.quiet listeners file script (fun later => by simp [looked] at later) early routes resolv
    defaults

theorem sessionStep_sound (sound : Sound before w) (apart : before.Apart) {ok : Bool}
    (timely : w.session = .wait → w.script = none)
    (step : w.sessionStep ok w.session = some w') : Sound before w' := by
  have restorable := sound.restorable
  have settled := restorable.settled
  cases here : w.session with
  | wait =>
    rw [here] at step
    simp only [sessionStep] at step
    split at step
    · cases step
    · next ended =>
      obtain rfl := Option.some.inj step
      exact ⟨sound.tracked.same rfl rfl rfl fun _ => here ▸ rfl, restorable.recorded,
        fun _ => ⟨(not_or.mp ended).1, timely here⟩, restorable.routes, trivial⟩
  | flushRoutes =>
    rw [here] at step
    obtain rfl := Option.some.inj step
    have missing := restorable.flushed apart
    exact sound.late (here ▸ rfl) rfl rfl rfl rfl rfl missing.wireless missing
  | clearAddress =>
    rw [here] at step settled
    obtain rfl := Option.some.inj step
    exact sound.late (here ▸ rfl) rfl rfl rfl rfl rfl restorable.routes settled
  | restorePowerSave =>
    rw [here] at step settled
    obtain rfl := Option.some.inj step
    exact sound.late (here ▸ rfl) rfl rfl rfl rfl rfl restorable.routes settled
  | restoreResolv =>
    rw [here] at step settled
    obtain rfl := Option.some.inj step
    cases ok with
    | false => exact sound.quiet rfl rfl rfl (by simp [goto, Session.looked]) rfl rfl rfl rfl
    | true =>
      obtain ⟨resolv, defaults⟩ := restorable.recorded
      refine sound.late (here ▸ rfl) rfl rfl rfl rfl rfl restorable.routes ⟨resolv, ?_, ?_⟩
      · exact defaults ▸ List.suffix_refl _
      · exact defaults ▸ settled
  | addRoutes rest =>
    rw [here] at step settled
    obtain ⟨resolv, suffix, missing⟩ := settled
    cases rest with
    | nil =>
      obtain rfl := Option.some.inj step
      exact sound.late (here ▸ rfl) rfl rfl rfl rfl rfl restorable.routes
        ⟨resolv, missing.none_left⟩
    | cons entry rest =>
      obtain ⟨metric, route⟩ := entry
      have member : (metric, route) ∈ before.defaults := suffix.subset List.mem_cons_self
      have reached := apart.elsewhere _ member
      have later : rest <:+ before.defaults := (List.suffix_cons _ rest).trans suffix
      simp only [sessionStep, reached, and_false, or_false] at step
      split at step
      · next there =>
        obtain rfl := Option.some.inj step
        have less : Missing before rest w := missing.add (apart.found member) (if_pos there).symm
        exact sound.late (here ▸ rfl) rfl rfl rfl rfl rfl less.wireless ⟨resolv, later, less⟩
      · next absent =>
        obtain rfl := Option.some.inj step
        have less : Missing before rest { w with
            routes := Function.update w.routes metric (some route) } :=
          missing.add (apart.found member) (if_neg absent).symm
        exact sound.late (here ▸ rfl) rfl rfl rfl rfl rfl less.wireless ⟨resolv, later, less⟩
  | removePids =>
    rw [here] at step settled
    obtain rfl := Option.some.inj step
    cases ok with
    | false => exact sound.quiet rfl rfl rfl (by simp [goto, Session.looked]) rfl rfl rfl rfl
    | true =>
      exact sound.late (here ▸ rfl) rfl rfl rfl rfl rfl restorable.routes
        ⟨settled.1, settled.2, rfl, rfl, rfl, rfl⟩
  | removeLock =>
    rw [here] at step settled
    obtain rfl := Option.some.inj step
    cases ok with
    | false => exact sound.quiet rfl rfl rfl (by simp [goto, Session.looked]) rfl rfl rfl rfl
    | true =>
      exact sound.late (here ▸ rfl) rfl rfl rfl rfl rfl restorable.routes
        ⟨settled.1, settled.2.1, settled.2.2, rfl⟩
  | test name => exact test_sound sound here (here ▸ step)
  | kill name =>
    rw [here] at step
    obtain rfl := Option.some.inj step
    exact kill_sound sound here
  | finished | killed =>
    rw [here] at step
    cases step
  | _ => exact body_sound sound (here ▸ rfl) step

theorem signalled_sound (sound : Sound before w) {signal : Signal}
    (signalled : w.signalled signal = some w') : Sound before w' := by
  obtain ⟨⟨filed, alone, looked⟩, restorable⟩ := sound
  unfold World.signalled at signalled
  split at signalled
  · cases signalled
  split at signalled
  · obtain rfl := Option.some.inj signalled
    exact ⟨⟨filed, alone, fun none => by cases none⟩, restorable.early rfl rfl rfl rfl⟩
  · obtain rfl := Option.some.inj signalled
    exact ⟨⟨filed, alone, fun none => by cases none⟩, restorable.early rfl rfl rfl rfl⟩

/-- The DHCP script begins, which it does not once the session has waited for udhcpc. -/
theorem event_sound (sound : Sound before w) {first : Script} (begins : first.alone = false)
    (event : w.event first = some w') : Sound before w' := by
  obtain ⟨⟨filed, alone, looked⟩, restorable⟩ := sound
  unfold World.event at event
  split at event
  · next idle =>
    obtain rfl := Option.some.inj event
    have early : w.session.waited = false := by
      rw [Bool.eq_false_iff]
      exact fun waited => (restorable.waited waited).1 idle.1
    refine ⟨⟨filed, fun there => ?_, looked⟩, restorable.early rfl rfl rfl early⟩
    have there : first.alone = true := by simpa [World.turn] using there
    rw [begins] at there
    cases there
  · cases event

theorem exited_sound (sound : Sound before w) : Sound before { w with dhcp := .exited } := by
  obtain ⟨⟨filed, alone, looked⟩, recorded, waited, routes, settled⟩ := sound
  exact ⟨⟨filed, alone, looked⟩, recorded, fun there => ⟨by simp, (waited there).2⟩, routes, settled⟩

theorem move_sound (apart : before.Apart) (sound : Sound before w) (timely : Timely w m)
    (moved : w.move m = some w') : Sound before w' := by
  cases m with
  | session ok =>
    refine sessionStep_sound sound apart (fun here => ?_) moved
    simpa [Timely, World.late, here] using timely
  | signal signal => exact signalled_sound sound moved
  | deconfig => exact event_sound sound rfl moved
  | lease event lease => exact event_sound sound rfl moved
  | script ok part =>
    obtain ⟨script, here, step⟩ := Option.bind_eq_some_iff.mp moved
    refine ⟨scriptStep_tracked sound.tracked here ?_ step, scriptStep_restorable sound.restorable apart here step⟩
    rintro rfl starts
    simpa [Timely, World.late, here, starts] using timely
  | dhcpExits =>
    simp only [World.move] at moved
    split at moved
    · obtain rfl := Option.some.inj moved
      exact exited_sound sound
    · cases moved
  | dhcpDies =>
    simp only [World.move] at moved
    split at moved
    · obtain rfl := Option.some.inj moved
      exact exited_sound sound
    · cases moved
  | wpaExits =>
    simp only [World.move] at moved
    split at moved
    · obtain rfl := Option.some.inj moved
      obtain ⟨⟨filed, alone, looked⟩, recorded, waited, routes, settled⟩ := sound
      exact ⟨⟨filed, alone, looked⟩, recorded, waited, routes, settled⟩
    · cases moved
  | listenerExits pid =>
    obtain rfl := Option.some.inj moved
    exact sound.terminate (some pid)

theorem initial_sound (before : Before) : Sound before (.initial before) :=
  ⟨⟨by simp [World.initial], by simp [World.initial], by simp [World.initial]⟩,
    ⟨rfl, rfl⟩, by simp [World.initial, Session.waited], fun _ => .inl rfl, trivial⟩

/-- A session whose cleanup is through has torn down what it and its DHCP script have set up, unless
the script has started a listener too late or was left behind. -/
theorem session_torn_down (before : Before) (apart : before.Apart) {w : World}
    (reach : Reach World.move Timely (.initial before) w) (finished : w.session = .finished) :
    TornDown before w := by
  have sound : Sound before w := reach.invariant (initial_sound before)
    fun s m s' sound timely moved => move_sound apart sound timely moved
  have settled := sound.restorable.settled
  rw [finished] at settled
  obtain ⟨resolv, routes, pidFiles, lock⟩ := settled
  exact ⟨sound.tracked.looked (finished ▸ rfl), resolv, routes, pidFiles, lock⟩

end Runs

section Terminated

def usbOnly : Before where
  resolv := "nameserver 172.16.42.2\n"
  defaults := [(0, ⟨"172.16.42.2", "usb0"⟩)]

def homeLease : Lease := ⟨"192.168.1.20", "255.255.255.0", ["192.168.1.1"], ["192.168.1.1"]⟩

/-- The session up to its supervision, and a lease up to the listener. -/
def connected : List Move :=
  List.replicate 12 (.session true) ++ [.lease .bound homeLease] ++
    List.replicate 6 (.script true "") ++ [.script false ""]

/-- The listener, the address and the status. -/
def bound : List Move := List.replicate 3 (.script true "")

/-- The cleanup from `wpa` on. -/
def cleaned : List Move := List.replicate 2 (.session true) ++ [.wpaExits] ++
  List.replicate 9 (.session true)

theorem usbOnly_torn_down : ∃ w, play World.move Timely
    (connected ++ bound ++ [.signal .term] ++ List.replicate 2 (.session true) ++ [.dhcpExits] ++
      List.replicate 2 (.session true) ++ cleaned) (.initial usbOnly) = some w ∧ TornDown usbOnly w := by
  have ended : (play World.move Timely
      (connected ++ bound ++ [.signal .term] ++ List.replicate 2 (.session true) ++ [.dhcpExits] ++
        List.replicate 2 (.session true) ++ cleaned) (.initial usbOnly)).map World.session =
      some .finished := by
    decide +kernel
  obtain ⟨w, played, finished⟩ := Option.map_eq_some_iff.mp ended
  exact ⟨w, played, session_torn_down usbOnly ⟨by decide, by decide⟩ (Reach.start.play played) finished⟩

def Anytime (_ : World) (_ : Move) : Prop := True

instance (w : World) (m : Move) : Decidable (Anytime w m) := inferInstanceAs (Decidable True)

/-- The cleanup looks for a listener just before the script starts one: it is there in the end. -/
theorem listener_left : ∃ w, Reach World.move Anytime (.initial usbOnly) w ∧ w.session = .finished ∧
    w.listeners = [1] ∧ ¬ TornDown usbOnly w := by
  have ended : (play World.move Anytime
      (connected ++ [.signal .term] ++ List.replicate 2 (.session true) ++ [.session false] ++ bound ++
        [.dhcpExits] ++ cleaned) (.initial usbOnly)).map (fun w => (w.session, w.listeners)) =
      some (.finished, [1]) := by
    decide +kernel
  obtain ⟨w, played, same⟩ := Option.map_eq_some_iff.mp ended
  obtain ⟨finished, listeners⟩ := Prod.mk.injEq .. ▸ same
  refine ⟨w, Reach.start.play played, finished, listeners, fun torn => ?_⟩
  rw [torn.listeners] at listeners
  cases listeners

end Terminated

end WinBoot.WifiSession
