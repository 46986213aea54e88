import AirVpn.Service.Daemon

/-! # The handlers of the service

`nm-airvpn-service.c`, one definition per function, and the events that call
them. Of libnm only what the handlers rely on is here: a failure emits a signal,
a disconnect runs the plugin's handler between the STOPPING and STOPPED state
changes when the service is STARTING or STARTED and does nothing otherwise.
-/

namespace AirVpn.Service

open Daemon

/-! ## Timers, fetches, processes, firewall -/

def clearConnectTimer (s : Daemon) : Daemon :=
  if s.priv.connectTimer = 0 then s
  else
    { s with
      timers := s.timers.filter (· ≠ s.priv.connectTimer)
      priv := { s.priv with connectTimer := 0 } }

def cancelFetches (cancellable : Option Nat) (fetches : List Fetch) : List Fetch :=
  fetches.map fun f => if cancellable = some f.attempt then { f with cancelled := true } else f

def ensureKilled (pid : Nat) (s : Daemon) : Daemon :=
  if s.pidExists pid then s.kill pid .kill else s

/-- The `if (priv->pid)` block of `cleanup_plugin`. -/
def terminateOpenvpn (s : Daemon) : Daemon :=
  if s.priv.pid = 0 then s
  else
    let s :=
      if s.pidExists s.priv.pid then
        { s.kill s.priv.pid .term with killTimers := s.priv.pid :: s.killTimers }
      else s.kill s.priv.pid .kill
    { s with priv := { s.priv with pid := 0 } }

/-- `nm_airvpn_firewall_disarm`: deleting a table that does not exist changes
nothing. -/
def nmAirvpnFirewallDisarm (cfg : Config) (s : Daemon) : Daemon :=
  if cfg.nftAvailable then { s with table := none } else s

def disarmUnlessDropped (cfg : Config) (s : Daemon) : Daemon :=
  if s.priv.killSwitchActive && !s.priv.unexpectedDrop then
    let s := nmAirvpnFirewallDisarm cfg s
    { s with priv := { s.priv with killSwitchActive := false } }
  else s

def cleanupPlugin (cfg : Config) (s : Daemon) : Daemon :=
  let s := { s with priv := { s.priv with interactive := false, started := false } }
  let s := clearConnectTimer s
  let s :=
    { s with
      fetches := cancelFetches s.priv.fetchCancellable s.fetches
      priv := { s.priv with fetchCancellable := none } }
  let s := terminateOpenvpn s
  let s := disarmUnlessDropped cfg s
  { s with priv := { s.priv with connection := none, uuid := none } }

/-! ## Failures and disconnects -/

def nmVpnServicePluginFailure (reason : NMVpnPluginFailure) (s : Daemon) : Daemon :=
  s.emit (.failure reason)

def markStale (cfg : Config) (env : Env) (uuid : Uuid) (s : Daemon) : Daemon :=
  { s with
    disk := nmAirvpnCacheMarkStale cfg.statedir env.io uuid s.disk
    effects := .markedStale uuid :: s.effects }

def markStaleAndFail (cfg : Config) (env : Env) (reason : NMVpnPluginFailure) (s : Daemon) :
    Daemon :=
  let s :=
    match s.priv.uuid with
    | some uuid => markStale cfg env uuid s
    | none => s
  nmVpnServicePluginFailure reason s

def stateChangedCb (state : NMVpnServiceState) (s : Daemon) : Daemon :=
  match state with
  | .started =>
      clearConnectTimer { s with priv := { s.priv with started := true } }
  | .unknown | .init | .shutdown | .stopping | .stopped =>
      let s := clearConnectTimer s
      { s with priv := { s.priv with connection := none } }
  | .starting => s

/-- `nm_vpn_service_plugin_set_state`: the callback runs when the state is a new
one. An attempt lasts from its request to the next cleanup, so a STARTED counts
for the current attempt while the plugin has a UUID. -/
def nmVpnServicePluginSetState (state : NMVpnServiceState) (s : Daemon) : Daemon :=
  if s.svc = state then s
  else
    stateChangedCb state
      { s with
        svc := state
        reached :=
          if state = .started && s.priv.uuid.isSome then s.attempt :: s.reached else s.reached }

def realDisconnect (cfg : Config) (env : Env) (s : Daemon) : Daemon :=
  let s :=
    match s.priv.uuid with
    | some uuid => if s.priv.pid ≠ 0 && !s.priv.started then markStale cfg env uuid s else s
    | none => s
  (cleanupPlugin cfg s).emit .disconnected

def nmVpnServicePluginDisconnect (cfg : Config) (env : Env) (s : Daemon) : Daemon :=
  if s.svc = .starting || s.svc = .started then
    let s := nmVpnServicePluginSetState .stopping s
    let s := realDisconnect cfg env s
    nmVpnServicePluginSetState .stopped s
  else s

/-! ## Child exits and the connect timer -/

/-- `error || signaled` in `openvpn_watch_cb`. -/
def WaitStatus.abnormal : WaitStatus → Bool
  | .exited code => code ≠ 0
  | .stopped _ => true
  | .signaled _ => true
  | .unknown => false

/-- The callback is given the process but looks at the plugin's fields only. -/
def openvpnWatchCb (cfg : Config) (env : Env) (status : WaitStatus) (s : Daemon) : Daemon :=
  let s := s.waitpid s.priv.pid env.waitAny
  let s := { s with priv := { s.priv with pid := 0 } }
  let s := clearConnectTimer s
  if status.abnormal then
    if !s.priv.started then markStaleAndFail cfg env .connectFailed s
    else
      let s := { s with priv := { s.priv with unexpectedDrop := true } }
      nmVpnServicePluginFailure .connectFailed s
  else nmVpnServicePluginDisconnect cfg env s

/-- The source returns FALSE, so it is gone afterwards. -/
def connectTimeoutCb (cfg : Config) (env : Env) (s : Daemon) : Daemon :=
  let s := { s with priv := { s.priv with connectTimer := 0 } }
  if !s.priv.started then
    let s := if s.priv.pid ≠ 0 then s.kill s.priv.pid .term else s
    markStaleAndFail cfg env .connectFailed s
  else s

/-! ## Starting openvpn -/

def openvpnBinaryPaths : List String :=
  ["/usr/sbin/openvpn", "/usr/bin/openvpn", "/usr/local/sbin/openvpn"]

def nmFindOpenvpn (env : Env) : Option String := openvpnBinaryPaths.find? env.fileExists

def nmAirvpnUser : String := "nm-airvpn"
def nmAirvpnGroup : String := "nm-airvpn"

def settingItem (sVpn : Option NMSettingVpn) (key : String) : Option String :=
  sVpn.bind (·.getDataItem key)

def keepaliveArgs (sVpn : Option NMSettingVpn) : List String :=
  let keepalive := settingItem sVpn keyKeepalive
  let protocol := settingItem sVpn keyProtocol
  let directives := settingItem sVpn keyCustomDirectives
  let tunesPing :=
    match directives with
    | none => false
    | some d => strstr d.toList "keepalive".toList || strstr d.toList "ping".toList
  if keepalive ≠ some "no" && (protocol = none || protocol = some protocolUdp) && !tunesPing then
    ["--keepalive", (nonEmpty (settingItem sVpn keyPingInterval)).getD defaultPingInterval,
      (nonEmpty (settingItem sVpn keyPingRestart)).getD defaultPingRestart]
  else []

def upCommand (cfg : Config) : String :=
  cfg.helperPath ++ " --debug " ++ toString cfg.logLevel ++ " " ++ toString cfg.daemonPid ++
    " --bus-name " ++ cfg.busName ++ " --tun --"

def openvpnArgv (cfg : Config) (env : Env) (openvpn configPath : String)
    (sVpn : Option NMSettingVpn) : List String :=
  [openvpn, "--config", configPath] ++ keepaliveArgs sVpn ++
    ["--route-noexec", "--ifconfig-noexec", "--script-security", "2", "--up", upCommand cfg,
      "--up-restart", "--persist-key", "--persist-tun"] ++
    (if env.userExists then ["--user", nmAirvpnUser, "--group", nmAirvpnGroup] else []) ++
    ["--syslog", "nm-airvpn"]

def configPath (cfg : Config) (uuid : Option Uuid) : String :=
  match uuid with
  | some uuid => nmAirvpnCacheGetConfigPath cfg.statedir uuid
  | none => gBuildFilename [cfg.statedir]

/-- Drop the firewall state of a previous attempt. -/
def supersede (cfg : Config) (s : Daemon) : Daemon :=
  let s := if s.priv.killSwitchActive then nmAirvpnFirewallDisarm cfg s else s
  { s with
    priv := { s.priv with killSwitchActive := false, unexpectedDrop := false }
    effects := .supersede :: s.effects }

def wantsKillSwitch (sVpn : Option NMSettingVpn) : Bool :=
  settingItem sVpn keyKillSwitch = some "yes"

def allowsLan (sVpn : Option NMSettingVpn) : Bool :=
  settingItem sVpn keyAllowLan = some "yes"

/-- Loading a table that exists already adds the rules to it. -/
def armKillSwitch (cfg : Config) (env : Env) (path : String) (sVpn : Option NMSettingVpn)
    (s : Daemon) : Daemon × Except GError Unit :=
  if wantsKillSwitch sVpn then
    let s := s.emit (.armCalled s.table)
    match nmAirvpnFirewallArm cfg.nftAvailable cfg.statedir env.io env.net env.nft
        (readText s.disk path) (allowsLan sVpn) with
    | .error e => (s, .error e)
    | .ok ruleset =>
        ({ s with
            table := some (s.table.getD [] ++ ruleset)
            priv := { s.priv with killSwitchActive := true }
            effects := .armed :: s.effects }, .ok ())
  else (s, .ok ())

def spawnOpenvpn (cfg : Config) (env : Env) (path : String) (argv : List String) (s : Daemon) :
    Daemon × Except GError Unit :=
  match env.spawn with
  | .error e =>
      let s :=
        if s.priv.killSwitchActive then
          let s := nmAirvpnFirewallDisarm cfg s
          { s with priv := { s.priv with killSwitchActive := false } }
        else s
      (s, .error e)
  | .ok pid =>
      let child : Proc :=
        { pid := pid, attempt := s.attempt, uuid := s.priv.uuid, connection := s.priv.connection,
          argv := argv, config := readText s.disk path, state := .running, signals := [] }
      let s :=
        { s with
          priv := { s.priv with pid := pid }
          procs := child :: s.procs
          effects := .spawned s.attempt :: s.effects }
      let s := clearConnectTimer s
      ({ s with
          priv := { s.priv with connectTimer := s.attempt }
          timers := s.attempt :: s.timers }, .ok ())

def runOpenvpn (cfg : Config) (env : Env) (s : Daemon) : Daemon × Except GError Unit :=
  let sVpn := s.priv.connection.map (·.sVpn)
  match nmFindOpenvpn env with
  | none => (s, .error ⟨.launchFailed, "Could not find the openvpn binary."⟩)
  | some openvpn =>
      let path := configPath cfg s.priv.uuid
      let argv := openvpnArgv cfg env openvpn path sVpn
      match armKillSwitch cfg env path sVpn (supersede cfg s) with
      | (s, .error e) => (s, .error e)
      | (s, .ok ()) => spawnOpenvpn cfg env path argv s

/-! ## Fetch completions -/

inductive FetchResult where
  | profile (config : String)
  | failed (message : String)

def clearFetchCancellable (s : Daemon) : Daemon :=
  { s with priv := { s.priv with fetchCancellable := none } }

/-- `run_openvpn` at the end of `fetch_done_cb`. -/
def runAfterFetch (cfg : Config) (env : Env) (s : Daemon) : Daemon :=
  match runOpenvpn cfg env s with
  | (s, .ok ()) => s
  | (s, .error _) => nmVpnServicePluginFailure .connectFailed s

/-- `fetch_done_cb` for the fetch `f`, which is in flight no more. Of a fetch
whose cancellable is cancelled by now, only CANCELLED is left. The plugin has a
UUID whenever it has a connection. -/
def fetchDoneCb (cfg : Config) (env : Env) (f : Fetch) (result : FetchResult) (s : Daemon) :
    Daemon :=
  if f.cancelled then s
  else
    let s := clearFetchCancellable s
    match s.priv.connection, s.priv.uuid with
    | some connection, some uuid =>
        let params := getGeneratorParams connection.sVpn
        match result with
        | .profile config =>
            let stored := nmAirvpnCacheStore cfg.sha256 cfg.statedir env.io uuid params config
              env.now s.disk
            let s :=
              { s with disk := stored.1, effects := .stored uuid params config :: s.effects }
            match stored.2 with
            | .error _ => nmVpnServicePluginFailure .connectFailed s
            | .ok () => runAfterFetch cfg env s
        | .failed message =>
            if nmAirvpnCacheExists cfg.sha256 cfg.statedir uuid params s.disk then
              runAfterFetch cfg env s
            else
              nmVpnServicePluginFailure
                (if strstr message.toList "API key".toList then .loginFailed else .connectFailed) s
    | _, _ => s

/-! ## Requests -/

def beginAttempt (connection : NMConnection) (s : Daemon) : Daemon :=
  { s with
    attempt := s.attempt + 1
    priv := { s.priv with connection := some connection, uuid := some connection.uuid } }

/-- A new cancellable and `nm_airvpn_generator_fetch_async`, which copies the
parameters and the key. -/
def nmAirvpnGeneratorFetchAsync (uuid : Uuid) (params : NMAirvpnGeneratorParams)
    (apiKey : String) (s : Daemon) : Daemon :=
  { s with
    priv := { s.priv with fetchCancellable := some s.attempt }
    fetches := ⟨s.attempt, uuid, params, apiKey, false⟩ :: s.fetches
    effects := .fetchStarted s.attempt :: s.effects }

/-- The part of `_connect_common` after the validation. -/
def connectValidated (cfg : Config) (env : Env) (connection : NMConnection) (s : Daemon) :
    Daemon × Except GError Unit :=
  let s := beginAttempt connection (cleanupPlugin cfg s)
  match env.io.mkdirWithParents cfg.statedir with
  | some _ =>
      (s, .error ⟨.launchFailed, "Could not create state directory “" ++ cfg.statedir ++ "”."⟩)
  | none =>
      let params := getGeneratorParams connection.sVpn
      if nmAirvpnCacheIsValid cfg.sha256 cfg.statedir connection.uuid params env.now s.disk then
        runOpenvpn cfg env s
      else
        match nonEmpty (connection.sVpn.getSecret keyApiKey) with
        | none =>
            (s, .error ⟨.launchFailed, "No cached profile and no API key; get a key at " ++
              apiSettingsUrl ++ "."⟩)
        | some apiKey =>
            (nmAirvpnGeneratorFetchAsync connection.uuid params apiKey s, .ok ())

def validateConnection (connection : NMConnection) : Except GError Unit :=
  match nmAirvpnPropertiesValidate connection.sVpn with
  | .error e => .error e
  | .ok () => nmAirvpnPropertiesValidateSecrets connection.sVpn

def connectCommon (cfg : Config) (env : Env) (connection : NMConnection) (s : Daemon) :
    Daemon × Except GError Unit :=
  match validateConnection connection with
  | .error e => (s, .error e)
  | .ok () => connectValidated cfg env connection s

def realConnect (cfg : Config) (env : Env) (connection : NMConnection) (s : Daemon) :
    Daemon × Except GError Unit :=
  connectCommon cfg env connection s

def realConnectInteractive (cfg : Config) (env : Env) (connection : NMConnection) (s : Daemon) :
    Daemon × Except GError Unit :=
  match connectCommon cfg env connection s with
  | (s, .error e) => (s, .error e)
  | (s, .ok ()) => ({ s with priv := { s.priv with interactive := true } }, .ok ())

def realNewSecrets (cfg : Config) (env : Env) (connection : NMConnection) (s : Daemon) :
    Daemon × Except GError Unit :=
  connectCommon cfg env connection s

/-- libnm answers the request with the result of the handler. -/
def answer (result : Daemon × Except GError Unit) : Daemon := result.1.emit (.reply result.2)

/-! ## Events -/

inductive Event where
  | connect (connection : NMConnection) (env : Env)
  | connectInteractive (connection : NMConnection) (env : Env)
  | newSecrets (connection : NMConnection) (env : Env)
  | disconnect (env : Env)
  | stateChange (state : NMVpnServiceState)
  | fetchDone (attempt : Nat) (result : FetchResult) (env : Env)
  | childExits (attempt : Nat)
  | childReaped (attempt : Nat)
  | childWatch (attempt : Nat) (status : WaitStatus) (env : Env)
  | connectTimeout (timer : Nat) (env : Env)
  | killTimeout (pid : Nat)
  | otherStarts (pid : Nat)
  | otherEnds (pid : Nat)
  | dispose

def Event.request : Event → Option (NMConnection × Env)
  | .connect connection env | .connectInteractive connection env | .newSecrets connection env =>
      some (connection, env)
  | _ => none

namespace Daemon

/-- The kernel gives a new process a number that no other process has. -/
def freshPid (pid : Nat) (s : Daemon) : Bool := pid ≠ 0 && !s.pidExists pid

def spawnFeasible (env : Env) (s : Daemon) : Bool :=
  match env.spawn with
  | .error _ => true
  | .ok pid => s.freshPid pid

def hasProc (attempt : Nat) (state : ProcState) (s : Daemon) : Bool :=
  s.procs.any fun p => p.attempt = attempt && p.state = state

def setProc (attempt : Nat) (state : ProcState) (s : Daemon) : Daemon :=
  { s with procs := setProcState (fun p => p.attempt = attempt) state s.procs }

end Daemon

/-- One event, from a state without effects. A child is waited for by its watch
after it has died and the callback runs later, with any status. -/
def react (cfg : Config) (s : Daemon) : Event → Option Daemon
  | .connect connection env =>
      if s.spawnFeasible env then some (answer (realConnect cfg env connection s)) else none
  | .connectInteractive connection env =>
      if s.spawnFeasible env then some (answer (realConnectInteractive cfg env connection s))
      else none
  | .newSecrets connection env =>
      if s.spawnFeasible env then some (answer (realNewSecrets cfg env connection s)) else none
  | .disconnect env => some (nmVpnServicePluginDisconnect cfg env s)
  | .stateChange state => some (nmVpnServicePluginSetState state s)
  | .fetchDone attempt result env =>
      if s.spawnFeasible env then
        (s.fetches.find? (·.attempt = attempt)).map fun f =>
          fetchDoneCb cfg env f result
            { s with fetches := s.fetches.filter (·.attempt ≠ attempt) }
      else none
  | .childExits attempt =>
      if s.hasProc attempt .running then some (s.setProc attempt .zombie) else none
  | .childReaped attempt =>
      if s.hasProc attempt .zombie then some (s.setProc attempt .reaped) else none
  | .childWatch attempt status env =>
      if s.hasProc attempt .reaped then
        some (openvpnWatchCb cfg env status (s.setProc attempt .notified))
      else none
  | .connectTimeout timer env =>
      if s.timers.contains timer then
        some (connectTimeoutCb cfg env { s with timers := s.timers.filter (· ≠ timer) })
      else none
  | .killTimeout pid =>
      if s.killTimers.contains pid then
        some (ensureKilled pid { s with killTimers := s.killTimers.erase pid })
      else none
  | .otherStarts pid =>
      if s.freshPid pid then some { s with others := pid :: s.others } else none
  | .otherEnds pid =>
      if s.others.contains pid then some { s with others := s.others.filter (· ≠ pid) } else none
  | .dispose => some (cleanupPlugin cfg s)

/-- The effects of earlier events are forgotten. -/
def step (cfg : Config) (s : Daemon) (e : Event) : Option Daemon :=
  react cfg { s with effects := [] } e

def initPriv : Priv where
  pid := 0
  interactive := false
  started := false
  connection := none
  fetchCancellable := none
  connectTimer := 0
  uuid := none
  killSwitchActive := false
  unexpectedDrop := false

structure Leftover where
  table : Option (List Char)
  disk : Disk
  others : List Nat

/-- The start of `main`: a table left by an earlier instance is deleted before
the plugin exists. -/
def boot (cfg : Config) (left : Leftover) : Daemon :=
  nmAirvpnFirewallDisarm cfg
    { priv := initPriv, svc := .init, table := left.table, disk := left.disk, procs := [],
      others := left.others, fetches := [], timers := [], killTimers := [], attempt := 0,
      reached := [], effects := [] }

def runs (cfg : Config) (left : Leftover) (events : List Event) :
    List (Machine.Transition Daemon Event) :=
  Machine.run (step cfg) (boot cfg left) events

/-! ## A sample installation -/

def sampleConnection : NMConnection where
  uuid := sampleUuid
  sVpn :=
    { data := [(keyServer, "ch"), (keyKillSwitch, "yes")], secrets := [(keyApiKey, "k")] }

def sampleProfile : String := "client\nremote 192.0.2.7 443\n<ca>\n<key>\n"

def sampleChanged : NMConnection where
  uuid := sampleUuid
  sVpn :=
    { data := [(keyServer, "nl"), (keyKillSwitch, "yes")], secrets := [(keyApiKey, "k")] }

def sampleConfig (nftAvailable : Bool) : Config where
  sha256 := sampleSha256
  statedir := sampleStatedir
  helperPath := "/usr/libexec/nm-airvpn-service-openvpn-helper"
  nftAvailable := nftAvailable
  logLevel := 5
  daemonPid := 612
  busName := "org.freedesktop.NetworkManager.airvpn"

def sampleEnv (spawn : Except GError Nat) : Env where
  now := 1750000000
  io := sampleFileOps []
  fileExists := fun path => path = "/usr/sbin/openvpn"
  userExists := true
  net := ⟨none, fun _ => .error ⟨.resolverError, "no network"⟩, fun addr => addr ≠ [':'],
    fun _ => none⟩
  nft := none
  spawn := spawn
  waitAny := none

def sampleLeftover (table : Option (List Char)) : Leftover := ⟨table, fun _ => none, []⟩

/-- A connection is requested, its profile fetched, and openvpn brings the
tunnel up. -/
def sampleStart : List Event :=
  [.connect sampleConnection (sampleEnv (.ok 700)), .stateChange .starting,
    .fetchDone 1 (.profile sampleProfile) (sampleEnv (.ok 700)), .stateChange .started]

def sampleState (events : List Event) : Daemon :=
  Machine.final (step (sampleConfig true)) (boot (sampleConfig true) (sampleLeftover none)) events

example : (runs (sampleConfig true) (sampleLeftover none) sampleStart).map (·.after.priv.pid) =
    [0, 0, 700, 700] := by decide +kernel

end AirVpn.Service
