import AirVpn.Lib.Machine
import AirVpn.Model.Firewall

/-! # The state of the service daemon and of what it acts on

The private data of the plugin, libnm's service state, and the parts of the
machine that the handlers touch: the nftables table, the state directory, the
processes, the pending callbacks. The environment of an event holds every answer
the handler can get from outside, so that each arm, spawn, fetch and file
operation is free to succeed or fail.
-/

namespace AirVpn.Service

/-- `NMConnection`, as far as the plugin looks at it. It is never changed after
libnm has handed it over. -/
structure NMConnection where
  uuid : Uuid
  sVpn : NMSettingVpn
  deriving DecidableEq

inductive NMVpnServiceState where
  | unknown
  | init
  | shutdown
  | starting
  | started
  | stopping
  | stopped
  deriving DecidableEq, Repr

inductive NMVpnPluginFailure where
  | loginFailed
  | connectFailed
  deriving DecidableEq, Repr

/-- The status of a child, as the `W*` macros read it. -/
inductive WaitStatus where
  | exited (code : Fin 256)
  | stopped (signal : Nat)
  | signaled (signal : Nat)
  | unknown
  deriving DecidableEq, Repr

inductive Signal where
  | term
  | kill
  deriving DecidableEq, Repr

structure Config where
  sha256 : String → String
  statedir : String
  helperPath : String
  nftAvailable : Bool
  logLevel : Int
  daemonPid : Nat
  busName : String

/-! ## The plugin -/

/-- `NMAirvpnPluginPrivate`. A cancellable and a timer source are named by the
attempt that makes them; zero is no process and no source. -/
structure Priv where
  pid : Nat
  interactive : Bool
  started : Bool
  connection : Option NMConnection
  fetchCancellable : Option Nat
  connectTimer : Nat
  uuid : Option Uuid
  killSwitchActive : Bool
  unexpectedDrop : Bool
  deriving DecidableEq

structure Fetch where
  attempt : Nat
  uuid : Uuid
  params : NMAirvpnGeneratorParams
  apiKey : String
  cancelled : Bool
  deriving DecidableEq

/-! ## Processes -/

/-- A child runs, is dead, has been waited for, or its exit has been handed to
the child watch. -/
inductive ProcState where
  | running
  | zombie
  | reaped
  | notified
  deriving DecidableEq, Repr

structure Proc where
  pid : Nat
  attempt : Nat
  uuid : Option Uuid
  connection : Option NMConnection
  argv : List String
  config : Except GError String
  state : ProcState
  signals : List Signal

/-- The kernel still knows the process under its number. -/
def Proc.unreaped (p : Proc) : Bool := p.state = .running || p.state = .zombie

/-! ## Effects -/

/-- What a handler does that a later state does not show. -/
inductive Effect where
  | reply (result : Except GError Unit)
  | failure (reason : NMVpnPluginFailure)
  | disconnected
  | supersede
  | armCalled (installed : Option (List Char))
  | armed
  | spawned (attempt : Nat)
  | fetchStarted (attempt : Nat)
  | stored (uuid : Uuid) (params : NMAirvpnGeneratorParams) (config : String)
  | markedStale (uuid : Uuid)
  | signalled (pid : Nat) (signal : Signal) (target : Option Nat)
  deriving DecidableEq

/-! ## The daemon -/

/-- The plugin, libnm's state of it and the machine. `attempt` counts the
accepted requests and names what the current one creates; `reached` holds the
attempts during which the service was set to STARTED; `effects` are those of the
last event, latest first. -/
structure Daemon where
  priv : Priv
  svc : NMVpnServiceState
  table : Option (List Char)
  disk : Disk
  procs : List Proc
  others : List Nat
  fetches : List Fetch
  timers : List Nat
  killTimers : List Nat
  attempt : Nat
  reached : List Nat
  effects : List Effect

/-- The answers of the outside world during one event: the clock, file
operations, `g_file_test`, the user database, the network, `nft -f`,
`g_spawn_async`, and which child a `waitpid` on any child collects. -/
structure Env where
  now : Int
  io : FileOps
  fileExists : String → Bool
  userExists : Bool
  net : NetEnv
  nft : Option String
  spawn : Except GError Nat
  waitAny : Option Nat

namespace Daemon

def emit (e : Effect) (s : Daemon) : Daemon := { s with effects := e :: s.effects }

/-! ## The kernel -/

/-- `kill (pid, 0) == 0`: an unreaped child or an unrelated process has the
number. -/
def pidExists (pid : Nat) (s : Daemon) : Bool :=
  s.procs.any (fun p => p.pid = pid && p.unreaped) || s.others.contains pid

def signalProcs (pid : Nat) (signal : Signal) (procs : List Proc) : List Proc :=
  procs.map fun p =>
    if p.pid = pid && p.unreaped then { p with signals := signal :: p.signals } else p

def kill (pid : Nat) (signal : Signal) (s : Daemon) : Daemon :=
  if s.pidExists pid then
    { s with
      procs := signalProcs pid signal s.procs
      effects :=
        .signalled pid signal
          ((s.procs.find? fun p => p.pid = pid && p.unreaped).map (·.attempt)) :: s.effects }
  else s

def setProcState (which : Proc → Bool) (state : ProcState) (procs : List Proc) : List Proc :=
  procs.map fun p => if which p then { p with state := state } else p

/-- `waitpid (pid, NULL, WNOHANG)`. Process 0 stands for any child of the
process group. -/
def waitpid (pid : Nat) (waitAny : Option Nat) (s : Daemon) : Daemon :=
  { s with
    procs := setProcState
      (fun p => p.state = .zombie && if pid = 0 then waitAny = some p.attempt else p.pid = pid)
      .reaped s.procs }

end Daemon

end AirVpn.Service
