import Mathlib.Data.List.Induction
import Mathlib.Logic.Function.Iterate
import WinBoot.WifiTeardown

/-! The DHCP script, one invocation after the other: the listener, the files that describe it and the
address of wlan0, when Dropbear may fail to start. -/

namespace WinBoot.WifiSession
open Transitions World

/-- The device, with the address of wlan0 and the address that each Dropbear has been started on. -/
structure Wlan where
  world : World
  address : String
  boundTo : Nat → Option String

inductive Invocation
  | deconfig
  | lease (event : LeaseEvent) (granted : Lease) (started : Bool)
deriving DecidableEq

def Invocation.first : Invocation → Script
  | deconfig => .testDropbear
  | lease event granted _ => .checkLease event granted

/-- Whether Dropbear starts, if it is told to. -/
def Invocation.started : Invocation → Bool
  | deconfig => true
  | lease _ _ started => started

/-- The status of a command when none fails but Dropbear, and ifconfig on no address. -/
def World.status (w : World) (started : Bool) : Script → Bool
  | .testDropbear | .testListener _ _ _ => w.dropbearPid.isSome
  | .checkLease _ lease => lease.ip = "" || lease.subnet ≠ ""
  | .setAddress _ lease => lease.ip ≠ ""
  | .probeListener _ _ _ | .killListener _ _ => w.listening
  | .startListener _ _ => started
  | _ => true

namespace Wlan

/-- The address of wlan0 after a command. -/
def configured (w : Wlan) (ok : Bool) : Script → String
  | .clearAddress => if ok then "0.0.0.0" else w.address
  | .setAddress _ lease => if ok then lease.ip else w.address
  | _ => w.address

def bound (w : Wlan) (ok : Bool) : Script → Nat → Option String
  | .startListener _ lease =>
    if ok then Function.update w.boundTo w.world.nextPid (some lease.ip) else w.boundTo
  | _ => w.boundTo

def command (w : Wlan) (ok : Bool) (script : Script) : Option Wlan :=
  (w.world.scriptStep ok "" script).map fun world => ⟨world, w.configured ok script, w.bound ok script⟩

/-- The next command, if there is one. -/
def next (started : Bool) (w : Wlan) : Wlan :=
  (w.world.script.bind fun script => w.command (w.world.status started script) script).getD w

def begin (w : Wlan) (i : Invocation) : Wlan := { w with world := w.world.turn i.first }

/-- An invocation has at most twelve commands. -/
def invoke (w : Wlan) (i : Invocation) : Wlan := (next i.started)^[12] (w.begin i)

def run (w : Wlan) (invocations : List Invocation) : Wlan := invocations.foldl invoke w

end Wlan

/-- One turn of the loop of `Get-WifiAddress`. -/
def World.readAddress (w : World) : Option String :=
  match w.listenAddress, w.leaseStatus with
  | some address, some status =>
    if address ≠ "" ∧ (status.toList.splitOn '\n').contains "lease_acquired=1".toList then some address
    else none
  | _, _ => none

/-! ### What an invocation leaves -/

/-- At most so many commands are left of an invocation. -/
def Script.left : Script → ℕ
  | .testDropbear => 6
  | .killDropbear => 5
  | .removeFiles => 4
  | .flushRoutes => 3
  | .clearAddress => 2
  | .copyResolv => 1
  | .checkLease _ _ => 12
  | .setAddress _ _ => 11
  | .replaceRoute _ _ _ => 10
  | .writeServers _ _ => 9
  | .catServers _ _ => 8
  | .readAddress _ _ => 7
  | .testListener _ _ _ => 6
  | .probeListener _ _ _ => 5
  | .killListener _ _ => 4
  | .startListener _ _ => 3
  | .writeAddress _ _ => 2
  | .writeStatus _ => 1

def World.left (w : World) : ℕ := w.script.elim 0 Script.left

def Lease.Usable (lease : Lease) : Prop := lease.ip ≠ "" ∧ lease.subnet ≠ ""

namespace Wlan

/-- A listener is the one in the PID file, and listens where the file says. -/
inductive Tidy (w : Wlan) : Prop
  | silent (none : w.world.listeners = [])
  | live (pid : Nat) (only : w.world.listeners = [pid]) (filed : w.world.dropbearPid = some pid)
      (bound : w.boundTo pid = w.world.listenAddress)

structure Cleared (w : Wlan) : Prop where
  listeners : w.world.listeners = []
  listenAddress : w.world.listenAddress = none
  leaseStatus : w.world.leaseStatus = none

/-- A lease status is there only with a listener on the address of wlan0. -/
def Recorded (w : Wlan) : Prop :=
  w.world.leaseStatus.isSome → w.world.listenAddress = some w.address ∧
    ∃ pid ∈ w.world.listeners, w.boundTo pid = some w.address

/-- Dropbear has to be started for the lease. -/
def Rebinds (w : Wlan) (lease : Lease) : Prop :=
  w.world.listenAddress ≠ some lease.ip ∨ w.world.listeners = []

structure Untouched (s w : Wlan) : Prop where
  listeners : w.world.listeners = s.world.listeners
  nextPid : w.world.nextPid = s.world.nextPid
  dropbearPid : w.world.dropbearPid = s.world.dropbearPid
  listenAddress : w.world.listenAddress = s.world.listenAddress
  leaseStatus : w.world.leaseStatus = s.world.leaseStatus
  boundTo : w.boundTo = s.boundTo

/-- The address has been set, the listener is as it was. -/
structure Moved (s : Wlan) (lease : Lease) (w : Wlan) : Prop where
  untouched : Untouched s w
  usable : lease.Usable
  address : w.address = lease.ip

/-- No listener is left, and the files are as they were. -/
structure Stopped (s : Wlan) (lease : Lease) (w : Wlan) : Prop where
  usable : lease.Usable
  rebinds : s.Rebinds lease
  listeners : w.world.listeners = []
  listenAddress : w.world.listenAddress = s.world.listenAddress
  leaseStatus : w.world.leaseStatus = s.world.leaseStatus
  address : w.address = lease.ip

/-- One listener is left, on the address of wlan0. -/
structure Serving (lease : Lease) (w : Wlan) : Prop where
  usable : lease.Usable
  listener : ∃ pid, w.world.listeners = [pid] ∧ w.world.dropbearPid = some pid ∧
    w.boundTo pid = some lease.ip
  address : w.address = lease.ip

/-- Whether the listener has been replaced. -/
inductive Replaced (s : Wlan) (lease : Lease) (started : Bool) (w : Wlan) : Prop
  | new (rebinds : s.Rebinds lease) (starts : started = true)
  | old (stays : ¬ s.Rebinds lease) (listeners : w.world.listeners = s.world.listeners)
      (nextPid : w.world.nextPid = s.world.nextPid)

/-- What holds before each command of `bound` and `renew`, and when they have ended. -/
inductive Leasing (s : Wlan) (event : LeaseEvent) (lease : Lease) (started : Bool) :
    Option Script → Wlan → Prop
  | check {w : Wlan} (untouched : Untouched s w) (address : w.address = s.address) :
      Leasing s event lease started (some (.checkLease event lease)) w
  | set {w : Wlan} (checked : lease.ip = "" ∨ lease.subnet ≠ "") (untouched : Untouched s w)
      (address : w.address = s.address) : Leasing s event lease started (some (.setAddress event lease)) w
  | route {w : Wlan} (gateway : String) (moved : Moved s lease w) :
      Leasing s event lease started (some (.replaceRoute event lease gateway)) w
  | write {w : Wlan} (moved : Moved s lease w) :
      Leasing s event lease started (some (.writeServers event lease)) w
  | cat {w : Wlan} (moved : Moved s lease w) :
      Leasing s event lease started (some (.catServers event lease)) w
  | read {w : Wlan} (moved : Moved s lease w) :
      Leasing s event lease started (some (.readAddress event lease)) w
  | test {w : Wlan} {previousIp : String} (moved : Moved s lease w)
      (read : s.world.listenAddress.getD "" = previousIp) :
      Leasing s event lease started (some (.testListener event lease previousIp)) w
  | probe {w : Wlan} {previousIp : String} (moved : Moved s lease w)
      (read : s.world.listenAddress.getD "" = previousIp) :
      Leasing s event lease started (some (.probeListener event lease previousIp)) w
  | kill {w : Wlan} (moved : Moved s lease w) (rebinds : s.Rebinds lease) (live : w.world.listening = true) :
      Leasing s event lease started (some (.killListener event lease)) w
  | start {w : Wlan} (stopped : Stopped s lease w) :
      Leasing s event lease started (some (.startListener event lease)) w
  | record {w : Wlan} (serving : Serving lease w) (replaced : Replaced s lease started w) :
      Leasing s event lease started (some (.writeAddress event lease)) w
  | report {w : Wlan} (serving : Serving lease w) (recorded : w.world.listenAddress = some lease.ip)
      (replaced : Replaced s lease started w) : Leasing s event lease started (some (.writeStatus event)) w
  | refused {w : Wlan} (unusable : ¬ lease.Usable) (untouched : Untouched s w)
      (address : w.address = s.address) : Leasing s event lease started none w
  | failed {w : Wlan} (unstarted : started = false) (stopped : Stopped s lease w) :
      Leasing s event lease started none w
  | done {w : Wlan} (serving : Serving lease w) (recorded : w.world.listenAddress = some lease.ip)
      (reported : w.world.leaseStatus = some event.status) (replaced : Replaced s lease started w) :
      Leasing s event lease started none w

/-- What holds before each command of `deconfig`, and when it has ended. -/
inductive Clearing : Option Script → Wlan → Prop
  | test {w : Wlan} (tidy : Tidy w) : Clearing (some .testDropbear) w
  | kill {w : Wlan} (tidy : Tidy w) : Clearing (some .killDropbear) w
  | remove {w : Wlan} (none : w.world.listeners = []) : Clearing (some .removeFiles) w
  | flush {w : Wlan} (cleared : Cleared w) : Clearing (some .flushRoutes) w
  | clear {w : Wlan} (cleared : Cleared w) : Clearing (some .clearAddress) w
  | copy {w : Wlan} (cleared : Cleared w) : Clearing (some .copyResolv) w
  | done {w : Wlan} (cleared : Cleared w) : Clearing none w

section

variable {s w : Wlan} {event : LeaseEvent} {lease : Lease} {started : Bool} {script : Script}

theorem next_command {world : World} (ok : Bool) (here : w.world.script = some script)
    (status : w.world.status started script = ok) (stepped : w.world.scriptStep ok "" script = some world) :
    w.next started = ⟨world, w.configured ok script, w.bound ok script⟩ := by
  rw [next, here, Option.bind_some, status, command, stepped]
  rfl

theorem next_ended (ended : w.world.script = none) : w.next started = w := by
  rw [next, ended]
  rfl

theorem afterRoute_left (event : LeaseEvent) (lease : Lease) :
    (lease.afterRoute event).left < 10 := by
  rw [Lease.afterRoute]
  split <;> simp [Script.left]

theorem afterAddress_left (event : LeaseEvent) (lease : Lease) :
    (lease.afterAddress event).left < 11 := by
  rw [Lease.afterAddress]
  split
  · exact Nat.lt_succ_of_lt (afterRoute_left event lease)
  · exact Nat.lt_succ_self 10

theorem rebind_left (event : LeaseEvent) (lease : Lease) (previousIp : String) (alive : Bool) :
    (lease.rebind event previousIp alive).left < 5 := by
  rw [Lease.rebind]
  split
  · cases alive <;> simp [Script.left]
  · simp [Script.left]

theorem scriptStep_left {w w' : World} {ok : Bool} {part : String}
    (step : w.scriptStep ok part script = some w') : w'.left < script.left := by
  cases script with
  | testDropbear | checkLease | killListener =>
    obtain ⟨-, rfl⟩ | ⟨-, rfl⟩ := branch_ok step <;> simp [World.left, World.turn, World.leave, Script.left]
  | testListener event lease previousIp =>
    have rebound := rebind_left event lease previousIp false
    obtain ⟨-, rfl⟩ | ⟨-, rfl⟩ := branch_ok step
    · exact Nat.lt_succ_self 5
    · exact Nat.lt_succ_of_lt rebound
  | probeListener event lease previousIp =>
    obtain ⟨-, rfl⟩ | ⟨-, rfl⟩ := branch_ok step
    · exact rebind_left event lease previousIp true
    · exact rebind_left event lease previousIp false
  | setAddress event lease =>
    obtain rfl := Option.some.inj step
    cases ok with
    | false => exact Nat.zero_lt_succ 10
    | true => exact afterAddress_left event lease
  | replaceRoute event lease gateway =>
    obtain rfl := Option.some.inj step
    cases ok with
    | false => exact Nat.zero_lt_succ 9
    | true => exact afterRoute_left event lease
  | _ =>
    obtain rfl := Option.some.inj step
    cases ok <;> simp [World.left, World.turn, World.leave, Script.left]

theorem branch_answer {answer ok : Bool} {yes no : World} (status : answer = ok) :
    branch answer ok yes no = some (if ok then yes else no) := if_pos status.symm

theorem Tidy.same (tidy : Tidy s) (untouched : Untouched s w) : Tidy w := by
  cases tidy with
  | silent none => exact .silent (untouched.listeners.trans none)
  | live pid only filed bound =>
    refine .live pid (untouched.listeners.trans only) (untouched.dropbearPid.trans filed) ?_
    rw [untouched.boundTo, untouched.listenAddress]
    exact bound

theorem Tidy.terminated (tidy : Tidy w) :
    (w.world.terminate w.world.dropbearPid).listeners = [] := by
  refine List.filter_eq_nil_iff.mpr fun pid member => ?_
  cases tidy with
  | silent none => simp [none] at member
  | live other only filed _ =>
    rw [only, List.mem_singleton] at member
    simp [filed, member]

theorem Tidy.unfiled (tidy : Tidy w) (unfiled : w.world.dropbearPid = none) :
    w.world.listeners = [] := by
  cases tidy with
  | silent none => exact none
  | live pid _ filed _ => cases filed.symm.trans unfiled

theorem Tidy.unheard (tidy : Tidy w) (unheard : w.world.listening = false) :
    w.world.listeners = [] := by
  cases tidy with
  | silent none => exact none
  | live pid only filed _ =>
    rw [World.listening, only, filed] at unheard
    simp at unheard

theorem Tidy.heard (tidy : Tidy w) (heard : w.world.listening = true) :
    ∃ pid, w.world.listeners = [pid] ∧ w.world.dropbearPid = some pid ∧
      w.boundTo pid = w.world.listenAddress := by
  cases tidy with
  | silent none =>
    rw [World.listening, none] at heard
    cases heard
  | live pid only filed bound => exact ⟨pid, only, filed, bound⟩

/-- Each command of `deconfig` leads to what holds before the next. -/
theorem Clearing.next (clearing : Clearing w.world.script w) :
    Clearing (w.next started).world.script (w.next started) := by
  generalize here : w.world.script = script at clearing
  cases clearing with
  | test tidy =>
    cases filed : w.world.dropbearPid with
    | none =>
      have status := congrArg Option.isSome filed
      rw [next_command false here status (branch_answer status)]
      exact .remove (tidy.unfiled filed)
    | some pid =>
      have status := congrArg Option.isSome filed
      rw [next_command true here status (branch_answer status)]
      exact .kill (tidy.same ⟨rfl, rfl, rfl, rfl, rfl, rfl⟩)
  | kill tidy =>
    rw [next_command true here rfl rfl]
    exact .remove tidy.terminated
  | remove none =>
    rw [next_command true here rfl rfl]
    exact .flush ⟨none, rfl, rfl⟩
  | flush cleared =>
    rw [next_command true here rfl rfl]
    exact .clear ⟨cleared.listeners, cleared.listenAddress, cleared.leaseStatus⟩
  | clear cleared =>
    rw [next_command true here rfl rfl]
    exact .copy ⟨cleared.listeners, cleared.listenAddress, cleared.leaseStatus⟩
  | copy cleared =>
    rw [next_command true here rfl rfl]
    exact .done ⟨cleared.listeners, cleared.listenAddress, cleared.leaseStatus⟩
  | done cleared =>
    rw [next_ended here, here]
    exact .done cleared

theorem Untouched.trans {w' : Wlan} (first : Untouched s w) (second : Untouched w w') :
    Untouched s w' where
  listeners := second.listeners.trans first.listeners
  nextPid := second.nextPid.trans first.nextPid
  dropbearPid := second.dropbearPid.trans first.dropbearPid
  listenAddress := second.listenAddress.trans first.listenAddress
  leaseStatus := second.leaseStatus.trans first.leaseStatus
  boundTo := second.boundTo.trans first.boundTo

theorem Moved.trans {w' : Wlan} (moved : Moved s lease w) (untouched : Untouched w w')
    (address : w'.address = w.address) : Moved s lease w' :=
  ⟨moved.untouched.trans untouched, moved.usable, address.trans moved.address⟩

theorem Moved.stopped {w' : Wlan} (moved : Moved s lease w) (rebinds : s.Rebinds lease)
    (none : w'.world.listeners = [])
    (listenAddress : w'.world.listenAddress = w.world.listenAddress)
    (leaseStatus : w'.world.leaseStatus = w.world.leaseStatus) (address : w'.address = w.address) :
    Stopped s lease w' where
  usable := moved.usable
  rebinds := rebinds
  listeners := none
  listenAddress := listenAddress.trans moved.untouched.listenAddress
  leaseStatus := leaseStatus.trans moved.untouched.leaseStatus
  address := address.trans moved.address

theorem Leasing.routed (moved : Moved s lease w) :
    Leasing s event lease started (some (lease.afterRoute event)) w := by
  rw [Lease.afterRoute]
  split
  · exact .read moved
  · exact .write moved

theorem Leasing.addressed (moved : Moved s lease w) :
    Leasing s event lease started (some (lease.afterAddress event)) w := by
  rw [Lease.afterAddress]
  split
  · exact .routed moved
  · exact .route _ moved

theorem Replaced.same {w' : Wlan} (replaced : Replaced s lease started w)
    (listeners : w'.world.listeners = w.world.listeners)
    (nextPid : w'.world.nextPid = w.world.nextPid) :
    Replaced s lease started w' := by
  cases replaced with
  | new rebinds starts => exact .new rebinds starts
  | old stays same fresh => exact .old stays (listeners.trans same) (nextPid.trans fresh)

/-- Without a listener one is started. -/
theorem Leasing.rebind_dead {previousIp : String} (moved : Moved s lease w)
    (none : w.world.listeners = []) :
    Leasing s event lease started (some (lease.rebind event previousIp false)) w := by
  have rebinds : s.Rebinds lease := .inr (moved.untouched.listeners.symm.trans none)
  rw [Lease.rebind, if_pos (.inr rfl)]
  exact .start (moved.stopped rebinds none rfl rfl rfl)

/-- A listener stays when it is on the address of the lease. -/
theorem Leasing.rebind_live {previousIp : String} (tidy : Tidy s) (moved : Moved s lease w)
    (read : s.world.listenAddress.getD "" = previousIp) (live : w.world.listening = true) :
    Leasing s event lease started (some (lease.rebind event previousIp true)) w := by
  obtain ⟨pid, only, filed, bound⟩ := (tidy.same moved.untouched).heard live
  have listeners : s.world.listeners = [pid] := moved.untouched.listeners.symm.trans only
  rw [Lease.rebind]
  by_cases same : previousIp = lease.ip
  · have recorded : s.world.listenAddress = some lease.ip := by
      cases found : s.world.listenAddress with
      | none => exact absurd (same.symm.trans (read.symm.trans (congrArg (Option.getD · "") found))) moved.usable.1
      | some address =>
        have address_eq : address = previousIp := (congrArg (Option.getD · "") found).symm.trans read
        rw [address_eq, same]
    have there := moved.untouched.listenAddress.trans recorded
    have stays : ¬ s.Rebinds lease := by
      rintro (other | none)
      · exact other recorded
      · cases listeners.symm.trans none
    rw [if_neg (by simp [same])]
    exact .report ⟨moved.usable, ⟨pid, only, filed, bound.trans there⟩, moved.address⟩ there
      (.old stays moved.untouched.listeners moved.untouched.nextPid)
  · have rebinds : s.Rebinds lease := by
      refine .inl fun recorded => same ?_
      rw [← read, recorded]
      rfl
    rw [if_pos (.inl same)]
    exact .kill moved rebinds live

/-- Each command of `bound` and `renew` leads to what holds before the next. -/
theorem Leasing.next (tidy : Tidy s) (leasing : Leasing s event lease started w.world.script w) :
    Leasing s event lease started (w.next started).world.script (w.next started) := by
  generalize here : w.world.script = script at leasing
  cases leasing with
  | check untouched address =>
    cases status : (lease.ip = "" || lease.subnet ≠ "" : Bool) with
    | false =>
      rw [next_command false here status (branch_answer status)]
      have unusable : ¬ lease.Usable := fun usable => by simp [usable.2] at status
      exact .refused unusable (untouched.trans ⟨rfl, rfl, rfl, rfl, rfl, rfl⟩) address
    | true =>
      rw [next_command true here status (branch_answer status)]
      exact .set (by simpa using status) (untouched.trans ⟨rfl, rfl, rfl, rfl, rfl, rfl⟩) address
  | set checked untouched address =>
    by_cases empty : lease.ip = ""
    · rw [next_command false here (decide_eq_false (not_not.mpr empty)) rfl]
      exact .refused (fun usable => usable.1 empty)
        (untouched.trans ⟨rfl, rfl, rfl, rfl, rfl, rfl⟩) address
    · rw [next_command true here (decide_eq_true empty) rfl]
      have usable : lease.Usable := ⟨empty, checked.resolve_left empty⟩
      exact .addressed ⟨untouched.trans ⟨rfl, rfl, rfl, rfl, rfl, rfl⟩, usable, rfl⟩
  | route gateway moved =>
    rw [next_command true here rfl rfl]
    exact .routed (moved.trans ⟨rfl, rfl, rfl, rfl, rfl, rfl⟩ rfl)
  | write moved =>
    rw [next_command true here rfl rfl]
    exact .cat (moved.trans ⟨rfl, rfl, rfl, rfl, rfl, rfl⟩ rfl)
  | cat moved =>
    rw [next_command true here rfl rfl]
    exact .read (moved.trans ⟨rfl, rfl, rfl, rfl, rfl, rfl⟩ rfl)
  | read moved =>
    rw [next_command true here rfl rfl]
    exact .test (moved.trans ⟨rfl, rfl, rfl, rfl, rfl, rfl⟩ rfl)
      (congrArg (Option.getD · "") moved.untouched.listenAddress).symm
  | test moved read =>
    cases filed : w.world.dropbearPid with
    | none =>
      have status := congrArg Option.isSome filed
      have none := (tidy.same moved.untouched).unfiled filed
      rw [next_command false here status (branch_answer status)]
      exact .rebind_dead (moved.trans ⟨rfl, rfl, rfl, rfl, rfl, rfl⟩ rfl) none
    | some pid =>
      have status := congrArg Option.isSome filed
      rw [next_command true here status (branch_answer status)]
      exact .probe (moved.trans ⟨rfl, rfl, rfl, rfl, rfl, rfl⟩ rfl) read
  | probe moved read =>
    cases status : w.world.listening with
    | false =>
      have none : w.world.listeners = [] := (tidy.same moved.untouched).unheard status
      rw [next_command false here status (branch_answer status)]
      exact .rebind_dead (moved.trans ⟨rfl, rfl, rfl, rfl, rfl, rfl⟩ rfl) none
    | true =>
      rw [next_command true here status (branch_answer status)]
      exact .rebind_live tidy (moved.trans ⟨rfl, rfl, rfl, rfl, rfl, rfl⟩ rfl) read status
  | kill moved rebinds live =>
    rw [next_command true here live (branch_answer live)]
    exact .start (moved.stopped rebinds (tidy.same moved.untouched).terminated rfl rfl rfl)
  | start stopped =>
    cases started with
    | false =>
      rw [next_command false here rfl rfl]
      exact .failed rfl ⟨stopped.usable, stopped.rebinds, stopped.listeners, stopped.listenAddress,
        stopped.leaseStatus, stopped.address⟩
    | true =>
      have only : w.world.nextPid :: w.world.listeners = [w.world.nextPid] := by rw [stopped.listeners]
      rw [next_command true here rfl rfl]
      exact .record ⟨stopped.usable, ⟨_, only, rfl, Function.update_self ..⟩, stopped.address⟩
        (.new stopped.rebinds rfl)
  | record serving replaced =>
    rw [next_command true here rfl rfl]
    exact .report ⟨serving.usable, serving.listener, serving.address⟩ rfl (replaced.same rfl rfl)
  | report serving recorded replaced =>
    rw [next_command true here rfl rfl]
    exact .done ⟨serving.usable, serving.listener, serving.address⟩ recorded rfl (replaced.same rfl rfl)
  | refused unusable untouched address =>
    rw [next_ended here, here]
    exact .refused unusable untouched address
  | failed unstarted stopped =>
    rw [next_ended here, here]
    exact .failed unstarted stopped
  | done serving recorded reported replaced =>
    rw [next_ended here, here]
    exact .done serving recorded reported replaced

theorem next_moves (here : w.world.script = some script) :
    w.world.scriptStep (w.world.status started script) "" script = some (w.next started).world := by
  have moves : ∃ world, w.world.scriptStep (w.world.status started script) "" script = some world := by
    cases script with
    | testDropbear | checkLease | testListener | probeListener | killListener =>
      exact ⟨_, branch_answer rfl⟩
    | _ => exact ⟨_, rfl⟩
  obtain ⟨world, stepped⟩ := moves
  rw [next_command _ here rfl stepped]
  exact stepped

theorem next_left (w : Wlan) : (w.next started).world.left ≤ w.world.left - 1 := by
  cases here : w.world.script with
  | none =>
    rw [next_ended here, World.left, here]
    exact Nat.le_refl 0
  | some script =>
    have fewer := scriptStep_left (next_moves here : _ = some (w.next started).world)
    have before : w.world.left = script.left := congrArg (Option.elim · 0 Script.left) here
    rw [before]
    exact Nat.le_sub_one_of_lt fewer

theorem iterate_left (w : Wlan) (n : ℕ) : ((next started)^[n] w).world.left ≤ w.world.left - n := by
  induction n with
  | zero => exact Nat.le_refl _
  | succ n ih =>
    rw [Function.iterate_succ_apply']
    have step : (((next started)^[n] w).next started).world.left ≤ _ := next_left _
    omega

/-- An invocation ends. -/
theorem invoke_ends (w : Wlan) (i : Invocation) : (w.invoke i).world.script = none := by
  have first : (w.begin i).world.left ≤ 12 := by
    cases i with
    | deconfig => exact Nat.le_add_left 6 6
    | lease event granted started => exact Nat.le_refl 12
  have last : ((next i.started)^[12] (w.begin i)).world.left ≤ _ := iterate_left _ 12
  rw [invoke]
  cases here : ((next i.started)^[12] (w.begin i)).world.script with
  | none => rfl
  | some script =>
    have positive : 0 < script.left := by cases script <;> simp [Script.left]
    rw [World.left, here, Option.elim_some] at last
    omega

theorem clearing_always (tidy : Tidy s) (n : ℕ) :
    Clearing ((next started)^[n] (s.begin .deconfig)).world.script ((next started)^[n] (s.begin .deconfig)) := by
  induction n with
  | zero => exact .test (tidy.same ⟨rfl, rfl, rfl, rfl, rfl, rfl⟩)
  | succ n ih =>
    rw [Function.iterate_succ_apply']
    exact ih.next

theorem leasing_always (tidy : Tidy s) (n : ℕ) : Leasing s event lease started
    ((next started)^[n] (s.begin (.lease event lease started))).world.script
    ((next started)^[n] (s.begin (.lease event lease started))) := by
  induction n with
  | zero => exact .check ⟨rfl, rfl, rfl, rfl, rfl, rfl⟩ rfl
  | succ n ih =>
    rw [Function.iterate_succ_apply']
    exact ih.next tidy

theorem invoke_deconfig (tidy : Tidy s) : Cleared (s.invoke .deconfig) := by
  have none := invoke_ends s .deconfig
  have ended : Clearing (s.invoke .deconfig).world.script (s.invoke .deconfig) := clearing_always tidy 12
  rw [none] at ended
  cases ended with
  | done cleared => exact cleared

theorem invoke_lease (tidy : Tidy s) :
    Leasing s event lease started none (s.invoke (.lease event lease started)) := by
  have none := invoke_ends s (.lease event lease started)
  rw [← none]
  exact leasing_always tidy 12

theorem Tidy.length (tidy : Tidy w) : w.world.listeners.length ≤ 1 := by
  cases tidy with
  | silent none => simp [none]
  | live pid only _ _ => simp [only]

theorem Clearing.length (clearing : Clearing w.world.script w) : w.world.listeners.length ≤ 1 := by
  generalize w.world.script = script at clearing
  cases clearing with
  | test tidy | kill tidy => exact tidy.length
  | remove none => simp [none]
  | flush cleared | clear cleared | copy cleared | done cleared => simp [cleared.listeners]

theorem Serving.length (serving : Serving lease w) : w.world.listeners.length ≤ 1 := by
  obtain ⟨pid, only, -⟩ := serving.listener
  simp [only]

theorem Leasing.length (tidy : Tidy s) (leasing : Leasing s event lease started w.world.script w) :
    w.world.listeners.length ≤ 1 := by
  generalize w.world.script = script at leasing
  cases leasing with
  | check untouched _ | set _ untouched _ | refused _ untouched _ =>
      exact (tidy.same untouched).length
  | route _ moved | write moved | cat moved | read moved | test moved _ | probe moved _ | kill moved _ _ =>
    exact (tidy.same moved.untouched).length
  | start stopped | failed _ stopped => simp [stopped.listeners]
  | record serving _ | report serving _ _ | done serving _ _ _ => exact serving.length

theorem Cleared.tidy (cleared : Cleared w) : Tidy w := .silent cleared.listeners

theorem Leasing.tidy (tidy : Tidy s) (leasing : Leasing s event lease started none w) : Tidy w := by
  cases leasing with
  | refused _ untouched _ => exact tidy.same untouched
  | failed _ stopped => exact .silent stopped.listeners
  | done serving recorded _ _ =>
    obtain ⟨pid, only, filed, bound⟩ := serving.listener
    exact .live pid only filed (bound.trans recorded.symm)

theorem invoke_tidy (tidy : Tidy s) (i : Invocation) : Tidy (s.invoke i) := by
  cases i with
  | deconfig => exact (invoke_deconfig tidy).tidy
  | lease event granted started => exact (invoke_lease tidy).tidy tidy

/-- Dropbear has to be started and is not, while a lease status is there. -/
def Fails (s : Wlan) : Invocation → Prop
  | .deconfig => False
  | .lease _ lease started =>
    started = false ∧ lease.Usable ∧ s.Rebinds lease ∧ s.world.leaseStatus.isSome

theorem Recorded.same (recorded : Recorded s) (untouched : Untouched s w)
    (address : w.address = s.address) :
    Recorded w := by
  rw [Recorded, untouched.leaseStatus, untouched.listenAddress, untouched.listeners, untouched.boundTo,
    address]
  exact recorded

/-- An invocation keeps the record unless it fails over a lease status. -/
theorem invoke_recorded (tidy : Tidy s) (recorded : Recorded s) {i : Invocation}
    (starts : ¬ s.Fails i) :
    Recorded (s.invoke i) := by
  cases i with
  | deconfig =>
    intro there
    rw [(invoke_deconfig tidy).leaseStatus] at there
    cases there
  | lease event granted started =>
    have ended : Leasing s event granted started none _ := invoke_lease tidy
    cases ended with
    | refused _ untouched address => exact recorded.same untouched address
    | failed unstarted stopped =>
      intro there
      rw [stopped.leaseStatus] at there
      exact absurd ⟨unstarted, stopped.usable, stopped.rebinds, there⟩ starts
    | done serving there _ _ =>
      obtain ⟨pid, only, -, bound⟩ := serving.listener
      rw [Recorded, serving.address]
      exact fun _ => ⟨there, pid, by rw [only]; exact List.mem_singleton_self pid, bound⟩

theorem invoke_unrecorded (tidy : Tidy s) {i : Invocation} (fails : s.Fails i) :
    ¬ Recorded (s.invoke i) := by
  cases i with
  | deconfig => exact fails.elim
  | lease event granted started =>
    obtain ⟨unstarted, usable, rebinds, there⟩ := fails
    have ended : Leasing s event granted started none _ := invoke_lease tidy
    cases ended with
    | refused unusable _ _ => exact absurd usable unusable
    | failed _ stopped =>
      intro recorded
      obtain ⟨-, pid, member, -⟩ := recorded (stopped.leaseStatus ▸ there)
      rw [stopped.listeners] at member
      exact List.not_mem_nil member
    | done _ _ _ replaced =>
      cases replaced with
      | new _ starts => cases unstarted.symm.trans starts
      | old stays _ _ => exact absurd rebinds stays

/-- A listener on the address of the lease is not started again. -/
theorem invoke_kept (tidy : Tidy s) (same : s.world.listenAddress = some lease.ip)
    (alive : s.world.listeners ≠ []) :
    (s.invoke (.lease event lease started)).world.listeners = s.world.listeners ∧
      (s.invoke (.lease event lease started)).world.nextPid = s.world.nextPid := by
  have stays : ¬ s.Rebinds lease := not_or.mpr ⟨not_not.mpr same, alive⟩
  have ended : Leasing s event lease started none _ := invoke_lease tidy
  cases ended with
  | refused _ untouched _ => exact ⟨untouched.listeners, untouched.nextPid⟩
  | failed _ stopped => exact absurd stopped.rebinds stays
  | done _ _ _ replaced =>
    cases replaced with
    | new rebinds _ => exact absurd rebinds stays
    | old _ listeners nextPid => exact ⟨listeners, nextPid⟩

theorem steps_single (tidy : Tidy s) (i : Invocation) (n : ℕ) :
    ((Wlan.next i.started)^[n] (s.begin i)).world.listeners.length ≤ 1 := by
  cases i with
  | deconfig => exact (clearing_always tidy n).length
  | lease event granted started => exact (leasing_always tidy n).length tidy

end

/-! ### Sequences of invocations -/

structure Fresh (w : Wlan) : Prop where
  listeners : w.world.listeners = []
  listenAddress : w.world.listenAddress = none
  leaseStatus : w.world.leaseStatus = none

/-- What is expected of the listener and of the files that describe it. -/
structure Bookkeeping (start : Wlan) (invocations : List Invocation) : Prop where
  single : ∀ done i n, done ++ [i] <+: invocations →
    ((next i.started)^[n] ((start.run done).begin i)).world.listeners.length ≤ 1
  recorded : ∀ done, done <+: invocations → (start.run done).Recorded
  kept : ∀ done event lease started, done ++ [.lease event lease started] <+: invocations →
    (start.run done).world.listenAddress = some lease.ip → (start.run done).world.listeners ≠ [] →
    (start.run (done ++ [.lease event lease started])).world.listeners = (start.run done).world.listeners ∧
    (start.run (done ++ [.lease event lease started])).world.nextPid = (start.run done).world.nextPid
  cleared : ∀ done, done ++ [.deconfig] <+: invocations → Cleared (start.run (done ++ [.deconfig]))

/-- No invocation fails over a lease status. -/
def NeverFails (start : Wlan) (invocations : List Invocation) : Prop :=
  ∀ done i, done ++ [i] <+: invocations → ¬ (start.run done).Fails i

section

variable {start : Wlan} {invocations : List Invocation}

theorem run_snoc (w : Wlan) (done : List Invocation) (i : Invocation) :
    w.run (done ++ [i]) = (w.run done).invoke i := by
  rw [run, List.foldl_append]
  rfl

theorem run_tidy (tidy : Tidy start) (done : List Invocation) : Tidy (start.run done) := by
  induction done using List.reverseRecOn with
  | nil => exact tidy
  | append_singleton done i ih =>
    rw [run_snoc]
    exact invoke_tidy ih i

theorem Fresh.tidy (fresh : Fresh start) : Tidy start := .silent fresh.listeners

theorem Fresh.recorded (fresh : Fresh start) : Recorded start := by
  intro there
  rw [fresh.leaseStatus] at there
  cases there

theorem run_recorded (fresh : Fresh start) (starts : NeverFails start invocations)
    (done : List Invocation) (early : done <+: invocations) : Recorded (start.run done) := by
  induction done using List.reverseRecOn with
  | nil => exact fresh.recorded
  | append_singleton done i ih =>
    rw [run_snoc]
    have before : done <+: invocations := (List.prefix_append done [i]).trans early
    exact invoke_recorded (run_tidy fresh.tidy done) (ih before) (starts done i early)

/-- The listener and its files agree through every sequence of invocations exactly when Dropbear never
fails to start while an earlier lease status is there. -/
theorem bookkeeping_iff (fresh : Fresh start) :
    Bookkeeping start invocations ↔ NeverFails start invocations := by
  have tidy := run_tidy fresh.tidy
  constructor
  · intro bookkeeping done i begun fails
    have recorded := bookkeeping.recorded (done ++ [i]) begun
    rw [run_snoc] at recorded
    exact invoke_unrecorded (tidy done) fails recorded
  · intro starts
    refine ⟨fun done i n _ => steps_single (tidy done) i n, run_recorded fresh starts, ?_, ?_⟩
    · intro done event lease started _ same alive
      rw [run_snoc]
      exact invoke_kept (tidy done) same alive
    · intro done _
      rw [run_snoc]
      exact invoke_deconfig (tidy done)

/-- An address that `Get-WifiAddress` reads between two invocations is then that of wlan0, with a
listener on it. -/
theorem readAddress_served (fresh : Fresh start) (starts : NeverFails start invocations)
    {done : List Invocation} (early : done <+: invocations) {address : String}
    (read : (start.run done).world.readAddress = some address) : address = (start.run done).address ∧
      ∃ pid ∈ (start.run done).world.listeners, (start.run done).boundTo pid = some address := by
  have recorded := run_recorded fresh starts done early
  rw [World.readAddress] at read
  split at read
  · next listenAddress status there reported =>
    obtain ⟨listens, served⟩ := recorded (reported ▸ rfl)
    split at read
    · cases read
      cases there.symm.trans listens
      exact ⟨rfl, served⟩
    · cases read
  · cases read

/-- An invocation is what the session's udhcpc and its script may do. -/
theorem invoke_reach {w : Wlan} (running : w.world.dhcp = .running)
    (untold : w.world.dhcpTold = false)
    (idle : w.world.script = none) (i : Invocation) :
    Reach World.move Anytime w.world (w.invoke i).world := by
  have first : ∃ m, w.world.move m = some (w.begin i).world := by
    cases i with
    | deconfig => exact ⟨.deconfig, if_pos ⟨running, untold, idle⟩⟩
    | lease event granted started => exact ⟨.lease event granted, if_pos ⟨running, untold, idle⟩⟩
  obtain ⟨m, moved⟩ := first
  have reach : ∀ n, Reach World.move Anytime w.world ((next i.started)^[n] (w.begin i)).world := by
    intro n
    induction n with
    | zero => exact Reach.start.move trivial moved
    | succ n ih =>
      rw [Function.iterate_succ_apply']
      cases here : ((next i.started)^[n] (w.begin i)).world.script with
      | none =>
        rw [next_ended here]
        exact ih
      | some script =>
        have step : World.move _ (.script _ "") = some (next i.started _).world :=
          (congrArg (Option.bind · _) here).trans (next_moves here)
        exact ih.move trivial step
  exact reach 12

theorem NeverFails.cons {i : Invocation} (starts : ¬ start.Fails i)
    (rest : NeverFails (start.invoke i) invocations) : NeverFails start (i :: invocations) := by
  intro done j begun
  cases done with
  | nil =>
    obtain ⟨rfl, -⟩ := List.cons_prefix_cons.mp begun
    exact starts
  | cons first done =>
    obtain ⟨rfl, later⟩ := List.cons_prefix_cons.mp begun
    exact rest done j later

theorem neverFails_started (starts : ∀ i ∈ invocations, i.started = true) :
    NeverFails start invocations := by
  intro done i begun fails
  have started := starts i (begun.subset (List.mem_append_right done (List.mem_singleton_self i)))
  cases i with
  | deconfig => exact fails
  | lease event granted ok => cases fails.1.symm.trans started

end

end Wlan

open Wlan

/-- udhcpc runs, and there has been no lease. -/
def unleased : Wlan where
  world := { World.initial usbOnly with session := .supervise, wpa := .running, dhcp := .running }
  address := "0.0.0.0"
  boundTo _ := none

def otherLease : Lease := { homeLease with ip := "192.168.1.21" }

theorem unleased_fresh : unleased.Fresh := ⟨rfl, rfl, rfl⟩

/-- A first start that fails, a renewal, another address and the end of the lease. -/
theorem leases_kept : Bookkeeping unleased [.lease .bound homeLease false, .lease .bound homeLease true,
    .lease .renew homeLease true, .lease .renew otherLease true, .deconfig] := by
  refine (bookkeeping_iff unleased_fresh).mpr (NeverFails.cons ?_ (neverFails_started (by decide)))
  rintro ⟨-, -, -, there⟩
  cases there

/-- Dropbear fails to start on another address: the address of before is read, and nothing listens. -/
theorem stale_address : let after := unleased.run [.lease .bound homeLease true, .lease .renew otherLease false]
    after.world.readAddress = some "192.168.1.20" ∧ after.address = "192.168.1.21" ∧
    after.world.listeners = [] ∧
    ¬ Bookkeeping unleased [.lease .bound homeLease true, .lease .renew otherLease false] := by
  have listeners : (unleased.run
      [.lease .bound homeLease true, .lease .renew otherLease false]).world.listeners = [] := by
    decide +kernel
  refine ⟨by decide +kernel, by decide +kernel, listeners, fun bookkeeping => ?_⟩
  have recorded := bookkeeping.recorded _ List.prefix_rfl
  obtain ⟨-, pid, member, -⟩ := recorded (by decide +kernel)
  rw [listeners] at member
  exact List.not_mem_nil member

end WinBoot.WifiSession
