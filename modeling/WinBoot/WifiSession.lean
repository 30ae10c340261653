import Mathlib.Logic.Function.Basic
import WinBoot.Transitions

/-! A Wi-Fi network session on the device: the session's script, the DHCP script that udhcpc runs, and
the daemons, moving in any order. udhcpc ends on TERM when its script is through; a Dropbear that is
told to end is gone, and one that has been started has written its PID file. -/

namespace WinBoot.WifiSession

inductive Daemon
  | dhcp | dropbear | wpa
deriving DecidableEq

inductive Child
  | absent | running | exited
deriving DecidableEq

/-- A default route, but for its metric. -/
structure Route where
  via : String
  dev : String
deriving DecidableEq

structure Lease where
  ip : String
  subnet : String
  router : List String
  dns : List String
deriving DecidableEq

inductive LeaseEvent
  | bound | renew
deriving DecidableEq

/-- The next command of `wifi-dhcp.sh`. -/
inductive Script
  | testDropbear | killDropbear | removeFiles | flushRoutes | clearAddress | copyResolv
  | checkLease (event : LeaseEvent) (lease : Lease)
  | setAddress (event : LeaseEvent) (lease : Lease)
  | replaceRoute (event : LeaseEvent) (lease : Lease) (gateway : String)
  | writeServers (event : LeaseEvent) (lease : Lease)
  | catServers (event : LeaseEvent) (lease : Lease)
  | readAddress (event : LeaseEvent) (lease : Lease)
  | testListener (event : LeaseEvent) (lease : Lease) (previousIp : String)
  | probeListener (event : LeaseEvent) (lease : Lease) (previousIp : String)
  | killListener (event : LeaseEvent) (lease : Lease)
  | startListener (event : LeaseEvent) (lease : Lease)
  | writeAddress (event : LeaseEvent) (lease : Lease)
  | writeStatus (event : LeaseEvent)
deriving DecidableEq

/-- The next command of `network-session.sh`, once its EXIT trap is set; from `test dhcp` on it is in
the cleanup. -/
inductive Session
  | trapTerm | trapInt | writePid | getPowerSave | setPowerSave | startWpa | writeWpaPid
  | checkWpa (attempt : Nat) | askStatus (attempt : Nat) | countAttempt (attempt : Nat)
  | startDhcp | writeDhcpPid | supervise
  | test (name : Daemon) | kill (name : Daemon)
  | wait | flushRoutes | clearAddress | restorePowerSave | restoreResolv
  | addRoutes (rest : List (Nat × Route))
  | removePids | removeLock | finished | killed
deriving DecidableEq

structure World where
  session : Session
  wpa : Child
  dhcp : Child
  /-- TERM has been sent to udhcpc. -/
  dhcpTold : Bool
  script : Option Script
  /-- The Dropbears that the DHCP script has started, by PID. -/
  listeners : List Nat
  nextPid : Nat
  networkPid : Bool
  wpaPid : Bool
  dhcpPid : Bool
  dropbearPid : Option Nat
  listenAddress : Option String
  leaseStatus : Option String
  lock : Bool
  resolv : String
  resolvBefore : String
  /-- The default route of each metric. -/
  routes : Nat → Option Route
  defaultBefore : List (Nat × Route)

inductive Signal
  | term | int
deriving DecidableEq

/-- What may happen next. A command comes with its status, and with what a failed write leaves. -/
inductive Move
  | session (ok : Bool)
  | signal (signal : Signal)
  | deconfig
  | lease (event : LeaseEvent) (lease : Lease)
  | script (ok : Bool) (part : String)
  | dhcpExits
  | dhcpDies
  | wpaExits
  | listenerExits (pid : Nat)
deriving DecidableEq

namespace World

/-- `kill -TERM` of a Dropbear. -/
def terminate (w : World) (pid : Option Nat) : World :=
  { w with listeners := w.listeners.filter fun p => some p ≠ pid }

/-- `ip route flush dev wlan0` -/
def flush (w : World) : World :=
  { w with routes := fun metric => (w.routes metric).filter fun route => route.dev ≠ "wlan0" }

def goto (w : World) (pc : Session) : World := { w with session := pc }

def turn (w : World) (pc : Script) : World := { w with script := some pc }

/-- The DHCP script exits. -/
def leave (w : World) : World := { w with script := none }

/-- `kill -0 "$(cat "$state/dropbear.pid")"` -/
def listening (w : World) : Bool := w.listeners.any fun pid => w.dropbearPid = some pid

/-- A test goes on by its answer, which is no other than this one. -/
def branch (answer ok : Bool) (yes no : World) : Option World :=
  if ok = answer then some (if ok then yes else no) else none

end World

open World

/-- `for gateway in ${router:-}`, `if test -n "${dns:-}"` -/
def Lease.afterRoute (event : LeaseEvent) (lease : Lease) : Script :=
  if lease.dns = [] then .readAddress event lease else .writeServers event lease

def Lease.afterAddress (event : LeaseEvent) (lease : Lease) : Script :=
  match lease.router with
  | [] => lease.afterRoute event
  | gateway :: _ => .replaceRoute event lease gateway

def Lease.servers (lease : Lease) : String :=
  String.join (lease.dns.map fun server => "nameserver " ++ server ++ "\n")

/-- `if test "$previous_ip" != "$ip" || test "$listener_alive" != 1` -/
def Lease.rebind (event : LeaseEvent) (lease : Lease) (previousIp : String) (alive : Bool) :
    Script :=
  if previousIp ≠ lease.ip ∨ alive = false then
    if alive then .killListener event lease else .startListener event lease
  else .writeStatus event

def LeaseEvent.status : LeaseEvent → String
  | bound => "lease_acquired=1\nlease_event=bound\n"
  | renew => "lease_acquired=1\nlease_event=renew\n"

/-- A command of the DHCP script. Under `set -e` a failure ends it. -/
def World.scriptStep (w : World) (ok : Bool) (part : String) : Script → Option World
  | .testDropbear => branch w.dropbearPid.isSome ok (w.turn .killDropbear) (w.turn .removeFiles)
  | .killDropbear => some ((w.terminate w.dropbearPid).turn .removeFiles)
  | .removeFiles =>
    some (if ok then { w with dropbearPid := none, listenAddress := none, leaseStatus := none }.turn
      .flushRoutes else w.leave)
  | .flushRoutes => some (w.flush.turn .clearAddress)
  | .clearAddress => some (if ok then w.turn .copyResolv else w.leave)
  | .copyResolv => some { w with resolv := if ok then w.resolvBefore else part }.leave
  | .checkLease event lease =>
    -- an `&&` list that fails before its last command is no reason to exit
    branch (lease.ip = "" || lease.subnet ≠ "") ok (w.turn (.setAddress event lease)) w.leave
  | .setAddress event lease => some (if ok then w.turn (lease.afterAddress event) else w.leave)
  | .replaceRoute event lease gateway =>
    some (if ok then { w with routes := Function.update w.routes 0 (some ⟨gateway, "wlan0"⟩) }.turn
      (lease.afterRoute event) else w.leave)
  | .writeServers event lease => some (if ok then w.turn (.catServers event lease) else w.leave)
  | .catServers event lease =>
    some (if ok then { w with resolv := lease.servers }.turn (.readAddress event lease)
      else { w with resolv := part }.leave)
  | .readAddress event lease => some (w.turn (.testListener event lease (w.listenAddress.getD "")))
  | .testListener event lease previousIp =>
    branch w.dropbearPid.isSome ok (w.turn (.probeListener event lease previousIp))
      (w.turn (lease.rebind event previousIp false))
  | .probeListener event lease previousIp =>
    branch w.listening ok (w.turn (lease.rebind event previousIp true))
      (w.turn (lease.rebind event previousIp false))
  | .killListener event lease =>
    branch w.listening ok ((w.terminate w.dropbearPid).turn (.startListener event lease)) w.leave
  | .startListener event lease =>
    some (if ok then { w with
      listeners := w.nextPid :: w.listeners, dropbearPid := some w.nextPid
      nextPid := w.nextPid + 1 }.turn (.writeAddress event lease) else w.leave)
  | .writeAddress event lease =>
    some (if ok then { w with listenAddress := some lease.ip }.turn (.writeStatus event)
      else { w with listenAddress := some part }.leave)
  | .writeStatus event =>
    some { w with leaseStatus := some (if ok then event.status else part) }.leave

/-- `trap - EXIT INT TERM` -/
def World.clean (w : World) : World := w.goto (.test .dhcp)

/-- The next name in `dhcp dropbear wpa`. -/
def Daemon.after : Daemon → Session
  | dhcp => .test .dropbear
  | dropbear => .test .wpa
  | wpa => .wait

def World.pidFile (w : World) : Daemon → Bool
  | .dhcp => w.dhcpPid
  | .dropbear => w.dropbearPid.isSome
  | .wpa => w.wpaPid

def World.tell (w : World) : Daemon → World
  | .dhcp => { w with dhcpTold := true }
  | .dropbear => w.terminate w.dropbearPid
  | .wpa => w

/-- A command of the session. A failure before the cleanup leads there, one in it ends it. -/
def World.sessionStep (w : World) (ok : Bool) : Session → Option World
  | .trapTerm => some (w.goto .trapInt)
  | .trapInt => some (w.goto .writePid)
  | .writePid => some (if ok then { w with networkPid := true }.goto .getPowerSave else w.clean)
  | .getPowerSave => some (if ok then w.goto .setPowerSave else w.clean)
  | .setPowerSave => some (if ok then w.goto .startWpa else w.clean)
  | .startWpa => some ({ w with wpa := .running }.goto .writeWpaPid)
  | .writeWpaPid => some (if ok then { w with wpaPid := true }.goto (.checkWpa 0) else w.clean)
  | .checkWpa attempt =>
    -- that the runner is gone is no reason to exit here, only that the supplicant is
    if ok = false ∧ w.wpa = .running then none
    else some (if ok then w.goto (.askStatus attempt) else w.clean)
  | .askStatus attempt => some (w.goto (if ok then .startDhcp else .countAttempt (attempt + 1)))
  | .countAttempt attempt => branch (attempt < 60) ok (w.goto (.checkWpa attempt)) w.clean
  | .startDhcp => some ({ w with dhcp := .running }.goto .writeDhcpPid)
  | .writeDhcpPid => some (if ok then { w with dhcpPid := true }.goto .supervise else w.clean)
  | .supervise =>
    -- the runner may be gone at any time
    if ok = true ∧ (w.wpa ≠ .running ∨ w.dhcp ≠ .running) then none
    else some (if ok then w.goto .supervise else w.clean)
  | .test name => branch (w.pidFile name) ok (w.goto (.kill name)) (w.goto name.after)
  | .kill name => some ((w.tell name).goto name.after)
  | .wait => if w.dhcp = .running ∨ w.wpa = .running then none else some (w.goto .flushRoutes)
  | .flushRoutes => some (w.flush.goto .clearAddress)
  | .clearAddress => some (w.goto .restorePowerSave)
  | .restorePowerSave => some (w.goto .restoreResolv)
  | .restoreResolv =>
    some (if ok then { w with resolv := w.resolvBefore }.goto (.addRoutes w.defaultBefore)
      else w.goto .killed)
  | .addRoutes [] => some (w.goto .removePids)
  | .addRoutes ((metric, route) :: rest) =>
    -- one of that metric stands already, or wlan0 does not reach the gateway
    if (w.routes metric).isSome ∨ (ok = false ∧ route.dev = "wlan0") then some (w.goto (.addRoutes rest))
    else some ({ w with routes := Function.update w.routes metric (some route) }.goto (.addRoutes rest))
  | .removePids =>
    some (if ok then { w with
      dhcpPid := false, dropbearPid := none, wpaPid := false, networkPid := false
      leaseStatus := none, listenAddress := none }.goto .removeLock else w.goto .killed)
  | .removeLock => some (if ok then { w with lock := false }.goto .finished else w.goto .killed)
  | .finished | .killed => none

/-- Whether the cleanup has begun. -/
def Session.cleaning : Session → Bool
  | .test _ | .kill _ | .wait | .flushRoutes | .clearAddress | .restorePowerSave | .restoreResolv
  | .addRoutes _ | .removePids | .removeLock | .finished | .killed => true
  | _ => false

/-- A signal leads to the cleanup where it is trapped and ends the shell elsewhere. -/
def World.signalled (w : World) (signal : Signal) : Option World :=
  if w.session = .finished ∨ w.session = .killed then none
  else if w.session.cleaning ∨ w.session = .trapTerm ∨ (w.session = .trapInt ∧ signal = .int) then
    some (w.goto .killed)
  else some w.clean

/-- udhcpc starts its script when it is idle and has not been told to end. -/
def World.event (w : World) (first : Script) : Option World :=
  if w.dhcp = .running ∧ w.dhcpTold = false ∧ w.script = none then some (w.turn first) else none

def World.move (w : World) : Move → Option World
  | .session ok => w.sessionStep ok w.session
  | .signal signal => w.signalled signal
  | .deconfig => w.event .testDropbear
  | .lease event lease => w.event (.checkLease event lease)
  | .script ok part => w.script.bind (w.scriptStep ok part)
  | .dhcpExits =>
      if w.dhcp = .running ∧ w.script = none then some { w with dhcp := .exited } else none
  | .dhcpDies => if w.dhcp = .running then some { w with dhcp := .exited } else none
  | .wpaExits => if w.wpa = .running then some { w with wpa := .exited } else none
  | .listenerExits pid => some (w.terminate (some pid))

end WinBoot.WifiSession
