import AirVpn.Lib.Simulation
import AirVpn.Service.Spec
import Mathlib.Data.List.Nodup

/-! # Where the API key goes

The secrets of a connection go into the plugin's copy of it and into the fetches that
are started for it, and nowhere else. A redaction replaces their values in states and
requests, but for whether they are empty: the daemon does with the redacted requests
the redaction of what it does, so that everything a redacted state still shows is the
same for every API key.
-/

namespace AirVpn.Service

open Daemon Machine

/-! ## Redaction -/

def redactSecret (value : String) : String := if value = "" then "" else "(hidden)"

def NMConnection.redacted (c : NMConnection) : NMConnection where
  uuid := c.uuid
  sVpn :=
    { data := c.sVpn.data
      secrets := c.sVpn.secrets.map fun item => (item.1, redactSecret item.2)
      data_nodup := c.sVpn.data_nodup
      secrets_nodup := by
        rw [List.map_map]
        exact c.sVpn.secrets_nodup }

def Priv.redacted (p : Priv) : Priv :=
  { p with connection := p.connection.map NMConnection.redacted }

def Fetch.redacted (f : Fetch) : Fetch := { f with apiKey := redactSecret f.apiKey }

def Proc.redacted (p : Proc) : Proc :=
  { p with connection := p.connection.map NMConnection.redacted }

/-- All that a state shows without the values of the secrets: the table, the files, the
command lines and signals of the processes, the pending callbacks and the effects are
left as they are. -/
def Daemon.redacted (s : Daemon) : Daemon :=
  { s with
    priv := s.priv.redacted
    procs := s.procs.map Proc.redacted
    fetches := s.fetches.map Fetch.redacted }

def Event.redacted : Event → Event
  | .connect c env => .connect c.redacted env
  | .connectInteractive c env => .connectInteractive c.redacted env
  | .newSecrets c env => .newSecrets c.redacted env
  | e => e

/-! ## Settings -/

theorem redactSecret_ne_empty {value : String} : redactSecret value ≠ "" ↔ value ≠ "" := by
  unfold redactSecret
  split
  · next h => simp [h]
  · next h => simp [h]

theorem lookup_redacted (secrets : List (String × String)) (key : String) :
    (secrets.map fun item => (item.1, redactSecret item.2)).lookup key =
      (secrets.lookup key).map redactSecret := by
  induction secrets with
  | nil => rfl
  | cons item secrets ih =>
      rw [List.map_cons, List.lookup_cons, List.lookup_cons, ih]
      cases key == item.1 <;> rfl

theorem nonEmpty_redacted (c : NMConnection) :
    nonEmpty (c.redacted.sVpn.getSecret keyApiKey) =
      (nonEmpty (c.sVpn.getSecret keyApiKey)).map redactSecret := by
  have hlookup : c.redacted.sVpn.getSecret keyApiKey =
      (c.sVpn.getSecret keyApiKey).map redactSecret := lookup_redacted _ _
  rw [hlookup]
  cases c.sVpn.getSecret keyApiKey with
  | none => rfl
  | some value =>
      by_cases h : value = ""
      · subst h
        rfl
      · rw [nonEmpty_some h, Option.map_some, nonEmpty_some (redactSecret_ne_empty.mpr h)]

theorem validateConnection_redacted (c : NMConnection) :
    validateConnection c.redacted = validateConnection c := by
  have hsecrets : nmAirvpnPropertiesValidateSecrets c.redacted.sVpn =
      nmAirvpnPropertiesValidateSecrets c.sVpn := by
    unfold nmAirvpnPropertiesValidateSecrets validateProperties
    rw [show c.redacted.sVpn.secrets = c.sVpn.secrets.map _ from rfl, List.foldl_map]
    rfl
  unfold validateConnection
  rw [hsecrets]
  rfl

/-! ## Processes -/

theorem pidExists_redacted (pid : Nat) (s : Daemon) :
    s.redacted.pidExists pid = s.pidExists pid := by
  unfold pidExists
  rw [show s.redacted.procs = s.procs.map Proc.redacted from rfl, List.any_map]
  rfl

theorem signalProcs_redacted (pid : Nat) (signal : Signal) (procs : List Proc) :
    signalProcs pid signal (procs.map Proc.redacted) =
      (signalProcs pid signal procs).map Proc.redacted := by
  unfold signalProcs
  rw [List.map_map, List.map_map]
  refine List.map_congr_left fun p _ => ?_
  show (if p.pid = pid && p.unreaped then _ else _) = Proc.redacted (if _ then _ else _)
  split <;> rfl

theorem setProcState_redacted {which which' : Proc → Bool} (h : ∀ p, which' p.redacted = which p)
    (state : ProcState) (procs : List Proc) :
    setProcState which' state (procs.map Proc.redacted) =
      (setProcState which state procs).map Proc.redacted := by
  unfold setProcState
  rw [List.map_map, List.map_map]
  refine List.map_congr_left fun p _ => ?_
  show (if which' p.redacted then _ else _) = Proc.redacted (if _ then _ else _)
  rw [h]
  split <;> rfl

theorem killEffects_redacted (pid : Nat) (signal : Signal) (s : Daemon) :
    killEffects pid signal s.redacted = killEffects pid signal s := by
  unfold killEffects
  rw [pidExists_redacted, show s.redacted.procs = s.procs.map Proc.redacted from rfl,
    List.find?_map, Option.map_map]
  rfl

theorem kill_redacted (pid : Nat) (signal : Signal) (s : Daemon) :
    s.redacted.kill pid signal = (s.kill pid signal).redacted := by
  rw [kill_eq, kill_eq, killEffects_redacted,
    show s.redacted.procs = s.procs.map Proc.redacted from rfl, signalProcs_redacted]
  rfl

theorem cleanedProcs_redacted (s : Daemon) :
    cleanedProcs s.redacted = (cleanedProcs s).map Proc.redacted := by
  unfold cleanedProcs
  rw [show s.redacted.priv.pid = s.priv.pid from rfl,
    show s.redacted.procs = s.procs.map Proc.redacted from rfl, signalProcs_redacted]
  split <;> rfl

theorem cleanedEffects_redacted (s : Daemon) : cleanedEffects s.redacted = cleanedEffects s := by
  unfold cleanedEffects
  rw [killEffects_redacted]
  rfl

theorem cleanedKillTimers_redacted (s : Daemon) :
    cleanedKillTimers s.redacted = cleanedKillTimers s := by
  unfold cleanedKillTimers
  rw [show s.redacted.priv.pid = s.priv.pid from rfl, pidExists_redacted]
  rfl

theorem cancelFetches_redacted (cancellable : Option Nat) (fetches : List Fetch) :
    cancelFetches cancellable (fetches.map Fetch.redacted) =
      (cancelFetches cancellable fetches).map Fetch.redacted := by
  unfold cancelFetches
  rw [List.map_map, List.map_map]
  refine List.map_congr_left fun f _ => ?_
  show (if cancellable = some f.attempt then _ else _) = Fetch.redacted (if _ then _ else _)
  split <;> rfl

/-! ## Handlers -/

theorem cleanupPlugin_redacted (cfg : Config) (s : Daemon) :
    cleanupPlugin cfg s.redacted = (cleanupPlugin cfg s).redacted := by
  rw [cleanupPlugin_eq, cleanupPlugin_eq, cleanedProcs_redacted, cleanedKillTimers_redacted,
    cleanedEffects_redacted, show s.redacted.fetches = s.fetches.map Fetch.redacted from rfl,
    cancelFetches_redacted]
  rfl

theorem setState_redacted (state : NMVpnServiceState) (s : Daemon) :
    nmVpnServicePluginSetState state s.redacted =
      (nmVpnServicePluginSetState state s).redacted := by
  by_cases h : s.svc = state
  · rw [setState_same h, setState_same (s := s.redacted) h]
  · rw [setState_new h, setState_new (s := s.redacted) h]
    cases state <;> rfl

theorem disconnect_redacted (cfg : Config) (env : Env) (s : Daemon) :
    nmVpnServicePluginDisconnect cfg env s.redacted =
      (nmVpnServicePluginDisconnect cfg env s).redacted := by
  cases h : svcActive s with
  | false => rw [disconnect_inactive h, disconnect_inactive (s := s.redacted) h]
  | true =>
      rw [disconnect_active h, disconnect_active (s := s.redacted) h, cleanedProcs_redacted,
        cleanedKillTimers_redacted, cleanedEffects_redacted,
        show s.redacted.fetches = s.fetches.map Fetch.redacted from rfl, cancelFetches_redacted]
      rfl

theorem released_redacted (env : Env) (s : Daemon) :
    released env s.redacted = (released env s).redacted := by
  unfold released waitpid
  rw [show s.redacted.procs = s.procs.map Proc.redacted from rfl,
    setProcState_redacted fun _ => rfl]
  rfl

theorem watch_redacted (cfg : Config) (env : Env) (status : WaitStatus) (s : Daemon) :
    openvpnWatchCb cfg env status s.redacted = (openvpnWatchCb cfg env status s).redacted := by
  rw [watch_eq, watch_eq, released_redacted, disconnect_redacted]
  have hstarted : s.redacted.priv.started = s.priv.started := rfl
  rw [hstarted]
  split
  · split <;> rfl
  · rfl

theorem timeout_redacted (cfg : Config) (env : Env) (s : Daemon) :
    connectTimeoutCb cfg env s.redacted = (connectTimeoutCb cfg env s).redacted := by
  rw [timeout_eq, timeout_eq, cleanedProcs_redacted, cleanedEffects_redacted]
  have hstarted : s.redacted.priv.started = s.priv.started := rfl
  rw [hstarted]
  split <;> rfl

/-! ## Starting openvpn -/

def redactedResult (r : Daemon × Except GError Unit) : Daemon × Except GError Unit :=
  (r.1.redacted, r.2)

theorem settingItem_redacted (c : Option NMConnection) :
    settingItem ((c.map NMConnection.redacted).map (·.sVpn)) = settingItem (c.map (·.sVpn)) := by
  cases c <;> rfl

theorem openvpnArgv_redacted (cfg : Config) (env : Env) (openvpn path : String)
    (c : Option NMConnection) :
    openvpnArgv cfg env openvpn path ((c.map NMConnection.redacted).map (·.sVpn)) =
      openvpnArgv cfg env openvpn path (c.map (·.sVpn)) := by
  unfold openvpnArgv keepaliveArgs
  rw [settingItem_redacted]

theorem supersede_redacted (cfg : Config) (s : Daemon) :
    supersede cfg s.redacted = (supersede cfg s).redacted := by
  rw [supersede_eq, supersede_eq]
  rfl

theorem armKillSwitch_redacted (cfg : Config) (env : Env) (path : String)
    (c : Option NMConnection) (s : Daemon) :
    armKillSwitch cfg env path ((c.map NMConnection.redacted).map (·.sVpn)) s.redacted =
      redactedResult (armKillSwitch cfg env path (c.map (·.sVpn)) s) := by
  unfold armKillSwitch wantsKillSwitch allowsLan
  rw [settingItem_redacted]
  split
  · dsimp only
    split
    · next h =>
        rw [show (s.redacted.emit _).disk = (s.emit (.armCalled s.table)).disk from rfl] at h
        rw [h]
        rfl
    · next h =>
        rw [show (s.redacted.emit _).disk = (s.emit (.armCalled s.table)).disk from rfl] at h
        rw [h]
        rfl
  · rfl

theorem spawnOpenvpn_redacted (cfg : Config) (env : Env) (path : String) (argv : List String)
    (s : Daemon) :
    spawnOpenvpn cfg env path argv s.redacted =
      redactedResult (spawnOpenvpn cfg env path argv s) := by
  unfold spawnOpenvpn
  cases env.spawn with
  | error e =>
      have hactive : s.redacted.priv.killSwitchActive = s.priv.killSwitchActive := rfl
      dsimp only [nmAirvpnFirewallDisarm]
      rw [hactive]
      split
      · split <;> rfl
      · rfl
  | ok pid =>
      dsimp only
      rw [clearConnectTimer_eq, clearConnectTimer_eq]
      rfl

theorem runOpenvpn_redacted (cfg : Config) (env : Env) (s : Daemon) :
    runOpenvpn cfg env s.redacted = redactedResult (runOpenvpn cfg env s) := by
  unfold runOpenvpn
  rw [supersede_redacted,
    show s.redacted.priv.connection = s.priv.connection.map NMConnection.redacted from rfl,
    show s.redacted.priv.uuid = s.priv.uuid from rfl]
  cases nmFindOpenvpn env with
  | none => rfl
  | some openvpn =>
      dsimp only
      rw [armKillSwitch_redacted, openvpnArgv_redacted]
      generalize armKillSwitch cfg env (configPath cfg s.priv.uuid)
        (s.priv.connection.map (·.sVpn)) (supersede cfg s) = result
      obtain ⟨armed, (e | ⟨⟨⟩⟩)⟩ := result
      · rfl
      · exact spawnOpenvpn_redacted _ _ _ _ _

theorem afterRun_redacted (r : Daemon × Except GError Unit) :
    afterRun (redactedResult r) = (afterRun r).redacted := by
  rcases r with ⟨s, (e | ⟨⟨⟩⟩)⟩ <;> rfl

theorem runAfterFetch_redacted (cfg : Config) (env : Env) (s : Daemon) :
    runAfterFetch cfg env s.redacted = (runAfterFetch cfg env s).redacted := by
  rw [runAfterFetch_eq, runAfterFetch_eq, runOpenvpn_redacted, afterRun_redacted]

theorem fetchDoneCb_redacted (cfg : Config) (env : Env) (f : Fetch) (result : FetchResult)
    (s : Daemon) :
    fetchDoneCb cfg env f.redacted result s.redacted =
      (fetchDoneCb cfg env f result s).redacted := by
  unfold fetchDoneCb
  rw [show f.redacted.cancelled = f.cancelled from rfl]
  cases f.cancelled with
  | true => rfl
  | false =>
      have hconn : (clearFetchCancellable s.redacted).priv.connection =
          s.priv.connection.map NMConnection.redacted := rfl
      have huuid : (clearFetchCancellable s.redacted).priv.uuid = s.priv.uuid := rfl
      have hconn' : (clearFetchCancellable s).priv.connection = s.priv.connection := rfl
      have huuid' : (clearFetchCancellable s).priv.uuid = s.priv.uuid := rfl
      simp only [Bool.false_eq_true, ↓reduceIte]
      rw [hconn, huuid, hconn', huuid']
      cases s.priv.connection with
      | none => rfl
      | some c =>
          cases s.priv.uuid with
          | none => rfl
          | some uuid =>
              have hparams : getGeneratorParams c.redacted.sVpn = getGeneratorParams c.sVpn := rfl
              have hdisk : (clearFetchCancellable s.redacted).disk =
                (clearFetchCancellable s).disk := rfl
              dsimp only [Option.map_some]
              rw [hparams, hdisk]
              cases result with
              | profile config =>
                  dsimp only
                  split
                  · rfl
                  · exact runAfterFetch_redacted cfg env
                      { clearFetchCancellable s with
                        disk := (nmAirvpnCacheStore cfg.sha256 cfg.statedir env.io uuid
                          (getGeneratorParams c.sVpn) config env.now
                          (clearFetchCancellable s).disk).1
                        effects := .stored uuid (getGeneratorParams c.sVpn) config ::
                          (clearFetchCancellable s).effects }
              | failed message =>
                  dsimp only
                  split
                  · exact runAfterFetch_redacted cfg env (clearFetchCancellable s)
                  · rfl

/-! ## Requests -/

theorem connectCommon_redacted (cfg : Config) (env : Env) (c : NMConnection) (s : Daemon) :
    connectCommon cfg env c.redacted s.redacted = redactedResult (connectCommon cfg env c s) := by
  unfold connectCommon
  rw [validateConnection_redacted]
  cases validateConnection c with
  | error e => rfl
  | ok _ =>
      have hbegun : beginAttempt c.redacted (cleanupPlugin cfg s.redacted) =
          (beginAttempt c (cleanupPlugin cfg s)).redacted := by
        rw [cleanupPlugin_redacted]
        rfl
      dsimp only [connectValidated]
      rw [hbegun]
      cases env.io.mkdirWithParents cfg.statedir with
      | some _ => rfl
      | none =>
          have hparams : getGeneratorParams c.redacted.sVpn = getGeneratorParams c.sVpn := rfl
          have huuid : c.redacted.uuid = c.uuid := rfl
          have hdisk : (beginAttempt c (cleanupPlugin cfg s)).redacted.disk =
            (beginAttempt c (cleanupPlugin cfg s)).disk := rfl
          dsimp only
          rw [hparams, huuid, hdisk]
          split
          · exact runOpenvpn_redacted cfg env _
          · rw [nonEmpty_redacted]
            cases nonEmpty (c.sVpn.getSecret keyApiKey) with
            | none => rfl
            | some apiKey => rfl

theorem answer_redacted (r : Daemon × Except GError Unit) :
    answer (redactedResult r) = (answer r).redacted := rfl

theorem realConnectInteractive_redacted (cfg : Config) (env : Env) (c : NMConnection) (s : Daemon) :
    realConnectInteractive cfg env c.redacted s.redacted =
      redactedResult (realConnectInteractive cfg env c s) := by
  unfold realConnectInteractive
  rw [connectCommon_redacted]
  rcases connectCommon cfg env c s with ⟨s', (e | ⟨⟨⟩⟩)⟩ <;> rfl

/-! ## Steps -/

theorem freshPid_redacted (pid : Nat) (s : Daemon) : s.redacted.freshPid pid = s.freshPid pid := by
  unfold freshPid
  rw [pidExists_redacted]

theorem spawnFeasible_redacted (env : Env) (s : Daemon) :
    s.redacted.spawnFeasible env = s.spawnFeasible env := by
  unfold spawnFeasible
  cases env.spawn with
  | error e => rfl
  | ok pid => exact freshPid_redacted pid s

theorem hasProc_redacted (attempt : Nat) (state : ProcState) (s : Daemon) :
    s.redacted.hasProc attempt state = s.hasProc attempt state := by
  unfold hasProc
  rw [show s.redacted.procs = s.procs.map Proc.redacted from rfl, List.any_map]
  rfl

theorem setProc_redacted (attempt : Nat) (state : ProcState) (s : Daemon) :
    s.redacted.setProc attempt state = (s.setProc attempt state).redacted := by
  unfold setProc
  rw [show s.redacted.procs = s.procs.map Proc.redacted from rfl,
    setProcState_redacted fun _ => rfl]
  rfl

/-- The daemon does with redacted requests the redaction of what it does. -/
theorem follows_redacted (cfg : Config) :
    Follows (step cfg) (step cfg) Daemon.redacted Event.redacted := by
  intro s e
  have hquiet : { s.redacted with effects := [] } = (quiet s).redacted := rfl
  unfold step
  rw [hquiet, show { s with effects := [] } = quiet s from rfl]
  generalize quiet s = s
  cases e with
  | connect c env =>
      simp only [Event.redacted, react, realConnect]
      rw [spawnFeasible_redacted, connectCommon_redacted, answer_redacted]
      split <;> rfl
  | connectInteractive c env =>
      simp only [Event.redacted, react]
      rw [spawnFeasible_redacted, realConnectInteractive_redacted, answer_redacted]
      split <;> rfl
  | newSecrets c env =>
      simp only [Event.redacted, react, realNewSecrets]
      rw [spawnFeasible_redacted, connectCommon_redacted, answer_redacted]
      split <;> rfl
  | disconnect env => exact congrArg some (disconnect_redacted cfg env s)
  | stateChange state => exact congrArg some (setState_redacted state s)
  | fetchDone attempt result env =>
      simp only [Event.redacted, react]
      rw [spawnFeasible_redacted, show s.redacted.fetches = s.fetches.map Fetch.redacted from rfl,
        List.find?_map, List.filter_map]
      split
      · rw [Option.map_map, Option.map_map]
        refine congrArg (fun k => (s.fetches.find? (·.attempt = attempt)).map k)
          (funext fun f => ?_)
        exact fetchDoneCb_redacted cfg env f result
          { s with fetches := s.fetches.filter (·.attempt ≠ attempt) }
      · rfl
  | childExits attempt =>
      simp only [Event.redacted, react]
      rw [hasProc_redacted, setProc_redacted]
      split <;> rfl
  | childReaped attempt =>
      simp only [Event.redacted, react]
      rw [hasProc_redacted, setProc_redacted]
      split <;> rfl
  | childWatch attempt status env =>
      simp only [Event.redacted, react]
      rw [hasProc_redacted, setProc_redacted, watch_redacted]
      split <;> rfl
  | connectTimeout timer env =>
      simp only [Event.redacted, react]
      rw [show s.redacted.timers = s.timers from rfl]
      split
      · exact congrArg some (timeout_redacted cfg env
          { s with timers := s.timers.filter (· ≠ timer) })
      · rfl
  | killTimeout pid =>
      simp only [Event.redacted, react, ensureKilled_eq]
      rw [show s.redacted.killTimers = s.killTimers from rfl]
      split
      · exact congrArg some (kill_redacted pid .kill
          { s with killTimers := s.killTimers.erase pid })
      · rfl
  | otherStarts pid =>
      simp only [Event.redacted, react]
      rw [freshPid_redacted]
      split <;> rfl
  | otherEnds pid =>
      simp only [Event.redacted, react]
      rw [show s.redacted.others = s.others from rfl]
      split <;> rfl
  | dispose => exact congrArg some (cleanupPlugin_redacted cfg s)

/-- For any two sequences of events that differ in the values of the secrets only, the
runs take the same steps, and every state is the same but for the secrets in the
plugin's connections and in its fetches: neither the files, nor the rules, nor a command
line, nor an answer or a failure depends on an API key beyond whether there is one. -/
theorem secrets_confined (cfg : Config) (left : Leftover) (events events' : List Event)
    (h : events.map Event.redacted = events'.map Event.redacted) :
    (runs cfg left events).map (Transition.map Daemon.redacted Event.redacted) =
      (runs cfg left events').map (Transition.map Daemon.redacted Event.redacted) :=
  (follows_redacted cfg).run_congr h

def sampleKeyed (apiKey : String) : List Event :=
  .connect
      { uuid := sampleUuid
        sVpn :=
          { data := [(keyKillSwitch, "yes"), (keyServer, "ch")]
            secrets := [(keyApiKey, apiKey)]
            secrets_nodup := List.nodup_singleton keyApiKey } }
      (sampleEnv (.ok 700)) :: sampleStart.tail

theorem secrets_confined_sample :
    (runs (sampleConfig true) (sampleLeftover none) (sampleKeyed "one")).length = 4 ∧
      (runs (sampleConfig true) (sampleLeftover none) (sampleKeyed "one")).map
          (Transition.map Daemon.redacted Event.redacted) =
        (runs (sampleConfig true) (sampleLeftover none) (sampleKeyed "another")).map
          (Transition.map Daemon.redacted Event.redacted) :=
  ⟨by decide +kernel,
    secrets_confined (sampleConfig true) (sampleLeftover none) (sampleKeyed "one")
      (sampleKeyed "another") rfl⟩

end AirVpn.Service
