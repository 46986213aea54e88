import AirVpn.Service.Handlers

/-! # What each handler can do

One equation or case lemma per handler, so that no later proof unfolds one. The
requests and the fetch completions come down to three outcomes: they stop where
they are, they start a fetch, or they reach `run_openvpn`, which in turn fails
before or after superseding the old firewall state or starts the process.
-/

namespace AirVpn.Service

open Daemon

@[simp] theorem emit_eq (e : Effect) (s : Daemon) :
    s.emit e = { s with effects := e :: s.effects } := rfl

@[simp] theorem failure_eq (r : NMVpnPluginFailure) (s : Daemon) :
    nmVpnServicePluginFailure r s = { s with effects := .failure r :: s.effects } := rfl

/-! ## Processes -/

theorem mem_setProcState {which : Proc → Bool} {state : ProcState} {procs : List Proc}
    {p : Proc} :
    p ∈ setProcState which state procs ↔
      ∃ q ∈ procs, (if which q then { q with state := state } else q) = p := by
  simp [setProcState]

theorem mem_signalProcs {pid : Nat} {signal : Signal} {procs : List Proc} {p : Proc} :
    p ∈ signalProcs pid signal procs ↔
      ∃ q ∈ procs,
        (if q.pid = pid && q.unreaped then { q with signals := signal :: q.signals }
          else q) = p := by
  simp [signalProcs]

/-- A process at a later time: what it was started for does not change. -/
structure Later (p p' : Proc) : Prop where
  pid : p'.pid = p.pid
  attempt : p'.attempt = p.attempt
  uuid : p'.uuid = p.uuid
  connection : p'.connection = p.connection
  config : p'.config = p.config

theorem Later.refl (p : Proc) : Later p p := ⟨rfl, rfl, rfl, rfl, rfl⟩

theorem Later.trans {p q r : Proc} (h : Later p q) (h' : Later q r) : Later p r :=
  ⟨h'.pid.trans h.pid, h'.attempt.trans h.attempt, h'.uuid.trans h.uuid,
    h'.connection.trans h.connection, h'.config.trans h.config⟩

theorem later_of_signalProcs {pid : Nat} {signal : Signal} {procs : List Proc} {p' : Proc}
    (h : p' ∈ signalProcs pid signal procs) : ∃ p ∈ procs, Later p p' ∧ p'.state = p.state := by
  obtain ⟨p, hp, rfl⟩ := mem_signalProcs.mp h
  refine ⟨p, hp, ?_⟩
  split <;> exact ⟨⟨rfl, rfl, rfl, rfl, rfl⟩, rfl⟩

theorem later_of_setProcState {which : Proc → Bool} {state : ProcState} {procs : List Proc}
    {p' : Proc} (h : p' ∈ setProcState which state procs) : ∃ p ∈ procs, Later p p' := by
  obtain ⟨p, hp, rfl⟩ := mem_setProcState.mp h
  refine ⟨p, hp, ?_⟩
  split <;> exact ⟨rfl, rfl, rfl, rfl, rfl⟩

theorem pending_of_setProcState {which : Proc → Bool} {state : ProcState} {procs : List Proc}
    {p' : Proc} (hwhich : ∀ p ∈ procs, which p = true → p.state ≠ .notified)
    (h : p' ∈ setProcState which state procs) (hp : p'.state ≠ .notified) :
    ∃ p ∈ procs, Later p p' ∧ p.state ≠ .notified := by
  obtain ⟨p, hm, rfl⟩ := mem_setProcState.mp h
  by_cases hw : which p = true
  · exact ⟨p, hm, by rw [if_pos hw]; exact ⟨rfl, rfl, rfl, rfl, rfl⟩, hwhich p hm hw⟩
  · rw [if_neg hw] at hp ⊢
    exact ⟨p, hm, .refl p, hp⟩

theorem signalProcs_of_not_exists {pid : Nat} {signal : Signal} {s : Daemon}
    (h : s.pidExists pid = false) : signalProcs pid signal s.procs = s.procs := by
  simp only [pidExists, Bool.or_eq_false_iff, List.any_eq_false] at h
  exact (List.map_congr_left fun p hp => if_neg (h.1 p hp)).trans (List.map_id _)

def killEffects (pid : Nat) (signal : Signal) (s : Daemon) : List Effect :=
  if s.pidExists pid then
    [.signalled pid signal ((s.procs.find? fun p => p.pid = pid && p.unreaped).map (·.attempt))]
  else []

theorem kill_eq (pid : Nat) (signal : Signal) (s : Daemon) :
    s.kill pid signal =
      { s with
        procs := signalProcs pid signal s.procs
        effects := killEffects pid signal s ++ s.effects } := by
  unfold kill killEffects
  split
  · rfl
  · rename_i h
    rw [signalProcs_of_not_exists (by simpa using h)]
    rfl

theorem mem_killEffects {pid : Nat} {signal : Signal} {s : Daemon} {e : Effect}
    (h : e ∈ killEffects pid signal s) : ∃ target, e = .signalled pid signal target := by
  unfold killEffects at h
  split at h
  · exact ⟨_, List.mem_singleton.mp h⟩
  · simp at h

/-! ## Cleanup -/

def clearedTimers (s : Daemon) : List Nat :=
  if s.priv.connectTimer = 0 then s.timers else s.timers.filter (· ≠ s.priv.connectTimer)

theorem clearConnectTimer_eq (s : Daemon) :
    clearConnectTimer s =
      { s with timers := clearedTimers s, priv := { s.priv with connectTimer := 0 } } := by
  unfold clearConnectTimer clearedTimers
  split
  · rename_i h
    rcases s with ⟨⟨_, _, _, _, _, timer, _⟩, _⟩
    cases h
    rfl
  · rfl

def cleanedProcs (s : Daemon) : List Proc :=
  if s.priv.pid = 0 then s.procs else signalProcs s.priv.pid .term s.procs

def cleanedKillTimers (s : Daemon) : List Nat :=
  if s.priv.pid ≠ 0 && s.pidExists s.priv.pid then s.priv.pid :: s.killTimers else s.killTimers

def cleanedEffects (s : Daemon) : List Effect :=
  if s.priv.pid = 0 then [] else killEffects s.priv.pid .term s

def cleanedTable (cfg : Config) (s : Daemon) : Option (List Char) :=
  if s.priv.killSwitchActive && !s.priv.unexpectedDrop && cfg.nftAvailable then none else s.table

theorem later_of_cleanedProcs {s : Daemon} {p' : Proc} (h : p' ∈ cleanedProcs s) :
    ∃ p ∈ s.procs, Later p p' ∧ p'.state = p.state := by
  unfold cleanedProcs at h
  split at h
  · exact ⟨p', h, .refl p', rfl⟩
  · exact later_of_signalProcs h

theorem terminateOpenvpn_eq (s : Daemon) :
    terminateOpenvpn s =
      { s with
        priv := { s.priv with pid := 0 }
        procs := cleanedProcs s
        killTimers := cleanedKillTimers s
        effects := cleanedEffects s ++ s.effects } := by
  unfold terminateOpenvpn cleanedProcs cleanedKillTimers cleanedEffects
  by_cases h : s.priv.pid = 0
  · rcases s with ⟨⟨pid, _⟩, _⟩
    cases h
    rfl
  · by_cases he : s.pidExists s.priv.pid
    · simp [h, he, kill_eq]
    · simp [h, he, kill_eq, killEffects, signalProcs_of_not_exists]

theorem disarmUnlessDropped_eq (cfg : Config) (s : Daemon) :
    disarmUnlessDropped cfg s =
      { s with
        table := cleanedTable cfg s
        priv := { s.priv with
          killSwitchActive := s.priv.killSwitchActive && s.priv.unexpectedDrop } } := by
  unfold disarmUnlessDropped nmAirvpnFirewallDisarm cleanedTable
  rcases s with ⟨⟨_, _, _, _, _, _, _, active, drop⟩, _⟩
  cases active <;> cases drop <;> cases cfg.nftAvailable <;> rfl

/-- The plugin's fields after the cleanup: only an unexpected drop and the table
kept for it outlive it. -/
def cleanedPriv (p : Priv) : Priv :=
  { initPriv with
    killSwitchActive := p.killSwitchActive && p.unexpectedDrop
    unexpectedDrop := p.unexpectedDrop }

theorem cleanupPlugin_eq (cfg : Config) (s : Daemon) :
    cleanupPlugin cfg s =
      { s with
        priv := cleanedPriv s.priv
        table := cleanedTable cfg s
        procs := cleanedProcs s
        fetches := cancelFetches s.priv.fetchCancellable s.fetches
        timers := clearedTimers s
        killTimers := cleanedKillTimers s
        effects := cleanedEffects s ++ s.effects } := by
  simp only [cleanupPlugin, clearConnectTimer_eq, terminateOpenvpn_eq, disarmUnlessDropped_eq]
  rfl

/-! ## State changes, marks and disconnects -/

def statePriv (state : NMVpnServiceState) (p : Priv) : Priv :=
  match state with
  | .starting => p
  | .started => { p with started := true, connectTimer := 0 }
  | _ => { p with connectTimer := 0, connection := none }

theorem setState_same {state : NMVpnServiceState} {s : Daemon} (h : s.svc = state) :
    nmVpnServicePluginSetState state s = s := if_pos h

theorem setState_new {state : NMVpnServiceState} {s : Daemon} (h : s.svc ≠ state) :
    nmVpnServicePluginSetState state s =
      { s with
        svc := state
        reached :=
          if state = .started && s.priv.uuid.isSome then s.attempt :: s.reached else s.reached
        priv := statePriv state s.priv
        timers := if state = .starting then s.timers else clearedTimers s } := by
  rw [nmVpnServicePluginSetState, if_neg h]
  cases state <;> simp only [stateChangedCb, clearConnectTimer_eq] <;> rfl

theorem setState_eq (state : NMVpnServiceState) (s : Daemon) :
    nmVpnServicePluginSetState state s =
      { s with
        svc := (nmVpnServicePluginSetState state s).svc
        reached := (nmVpnServicePluginSetState state s).reached
        priv := (nmVpnServicePluginSetState state s).priv
        timers := (nmVpnServicePluginSetState state s).timers } := by
  by_cases h : s.svc = state
  · rw [setState_same h]
  · rw [setState_new h]

theorem setState_priv (state : NMVpnServiceState) (s : Daemon) :
    let p := (nmVpnServicePluginSetState state s).priv
    p.pid = s.priv.pid ∧ p.uuid = s.priv.uuid ∧
      p.killSwitchActive = s.priv.killSwitchActive ∧ p.unexpectedDrop = s.priv.unexpectedDrop := by
  by_cases h : s.svc = state
  · rw [setState_same h]
    exact ⟨rfl, rfl, rfl, rfl⟩
  · rw [setState_new h]
    cases state <;> exact ⟨rfl, rfl, rfl, rfl⟩

def markedDisk (cfg : Config) (env : Env) (uuid : Option Uuid) (disk : Disk) : Disk :=
  match uuid with
  | some uuid => nmAirvpnCacheMarkStale cfg.statedir env.io uuid disk
  | none => disk

def markEffects (uuid : Option Uuid) : List Effect :=
  (uuid.map Effect.markedStale).toList

theorem mem_markEffects {uuid : Option Uuid} {e : Effect} :
    e ∈ markEffects uuid ↔ ∃ u, uuid = some u ∧ e = .markedStale u := by
  cases uuid <;> simp [markEffects]

theorem markStaleAndFail_eq (cfg : Config) (env : Env) (r : NMVpnPluginFailure) (s : Daemon) :
    markStaleAndFail cfg env r s =
      { s with
        disk := markedDisk cfg env s.priv.uuid s.disk
        effects := .failure r :: (markEffects s.priv.uuid ++ s.effects) } := by
  unfold markStaleAndFail markedDisk markEffects markStale
  cases s.priv.uuid <;> rfl

/-- The profile that a disconnect marks stale: that of a process still
connecting. -/
def disconnectMark (p : Priv) : Option Uuid := if p.pid ≠ 0 && !p.started then p.uuid else none

theorem realDisconnect_eq (cfg : Config) (env : Env) (s : Daemon) :
    realDisconnect cfg env s =
      { cleanupPlugin cfg s with
        disk := markedDisk cfg env (disconnectMark s.priv) s.disk
        effects :=
          .disconnected ::
            (cleanedEffects s ++ (markEffects (disconnectMark s.priv) ++ s.effects)) } := by
  unfold realDisconnect disconnectMark
  cases hu : s.priv.uuid with
  | none => simp [cleanupPlugin_eq, markedDisk, markEffects]
  | some uuid =>
      simp only [cleanupPlugin_eq]
      split <;> rfl

/-- libnm hands a disconnect to the plugin. -/
def svcActive (s : Daemon) : Bool := s.svc = .starting || s.svc = .started

theorem disconnect_inactive {cfg : Config} {env : Env} {s : Daemon} (h : svcActive s = false) :
    nmVpnServicePluginDisconnect cfg env s = s := by
  unfold nmVpnServicePluginDisconnect
  exact if_neg (by simpa [svcActive] using h)

theorem disconnect_active {cfg : Config} {env : Env} {s : Daemon} (h : svcActive s = true) :
    nmVpnServicePluginDisconnect cfg env s =
      { s with
        svc := .stopped
        priv := cleanedPriv s.priv
        table := cleanedTable cfg s
        disk := markedDisk cfg env (disconnectMark s.priv) s.disk
        procs := cleanedProcs s
        fetches := cancelFetches s.priv.fetchCancellable s.fetches
        timers := clearedTimers s
        killTimers := cleanedKillTimers s
        effects :=
          .disconnected ::
            (cleanedEffects s ++ (markEffects (disconnectMark s.priv) ++ s.effects)) } := by
  have hs : s.svc ≠ .stopping := by
    intro hc
    simp [svcActive, hc] at h
  unfold nmVpnServicePluginDisconnect
  rw [if_pos (by simpa [svcActive] using h), setState_new hs]
  dsimp only
  rw [realDisconnect_eq, cleanupPlugin_eq, setState_new (by simp)]
  rfl

/-! ## Child exits and the connect timer -/

/-- The state once `openvpn_watch_cb` has let the tracked number and the timer
go. -/
def released (env : Env) (s : Daemon) : Daemon :=
  { s.waitpid s.priv.pid env.waitAny with
    priv := { s.priv with pid := 0, connectTimer := 0 }
    timers := clearedTimers s }

theorem watch_eq (cfg : Config) (env : Env) (status : WaitStatus) (s : Daemon) :
    openvpnWatchCb cfg env status s =
      if status.abnormal then
        if s.priv.started then
          { released env s with
            priv := { (released env s).priv with unexpectedDrop := true }
            effects := .failure .connectFailed :: s.effects }
        else
          { released env s with
            disk := markedDisk cfg env s.priv.uuid s.disk
            effects := .failure .connectFailed :: (markEffects s.priv.uuid ++ s.effects) }
      else nmVpnServicePluginDisconnect cfg env (released env s) := by
  have hr : clearConnectTimer { s.waitpid s.priv.pid env.waitAny with
      priv := { (s.waitpid s.priv.pid env.waitAny).priv with pid := 0 } } = released env s := by
    rw [clearConnectTimer_eq]
    rfl
  unfold openvpnWatchCb
  dsimp only
  rw [hr, markStaleAndFail_eq]
  have hs : (released env s).priv.started = s.priv.started := rfl
  cases status.abnormal with
  | false => rfl
  | true =>
      rw [hs]
      cases s.priv.started <;> rfl

theorem timeout_eq (cfg : Config) (env : Env) (s : Daemon) :
    connectTimeoutCb cfg env s =
      if s.priv.started then { s with priv := { s.priv with connectTimer := 0 } }
      else
        { s with
          priv := { s.priv with connectTimer := 0 }
          procs := cleanedProcs s
          disk := markedDisk cfg env s.priv.uuid s.disk
          effects :=
            .failure .connectFailed ::
              (markEffects s.priv.uuid ++ (cleanedEffects s ++ s.effects)) } := by
  unfold connectTimeoutCb cleanedProcs cleanedEffects
  simp only [markStaleAndFail_eq, kill_eq]
  by_cases hp : s.priv.pid = 0
  · simp only [hp, ne_eq, not_true_eq_false, ↓reduceIte]
    cases s.priv.started <;> rfl
  · simp only [hp, ne_eq, not_false_eq_true, ↓reduceIte]
    cases s.priv.started <;> rfl

/-! ## `run_openvpn` -/

def supersededTable (cfg : Config) (s : Daemon) : Option (List Char) :=
  if s.priv.killSwitchActive && cfg.nftAvailable then none else s.table

def supersededPriv (p : Priv) : Priv :=
  { p with killSwitchActive := false, unexpectedDrop := false }

theorem supersede_eq (cfg : Config) (s : Daemon) :
    supersede cfg s =
      { s with
        priv := supersededPriv s.priv
        table := supersededTable cfg s
        effects := .supersede :: s.effects } := by
  unfold supersede supersededTable nmAirvpnFirewallDisarm
  cases s.priv.killSwitchActive <;> cases cfg.nftAvailable <;> rfl

def runSetting (s : Daemon) : Option NMSettingVpn := s.priv.connection.map (·.sVpn)

def runConfig (cfg : Config) (s : Daemon) : Except GError String :=
  readText s.disk (configPath cfg s.priv.uuid)

/-- The firewall between the supersede step and the spawn: the table, the flag
and the effects since the supersede step. -/
inductive ArmOutcome (cfg : Config) (env : Env) (s : Daemon) :
    Option (List Char) → Bool → List Effect → Prop where
  | off : wantsKillSwitch (runSetting s) = false →
      ArmOutcome cfg env s (supersededTable cfg s) false []
  | on {ruleset : List Char} : wantsKillSwitch (runSetting s) = true → cfg.nftAvailable = true →
      buildRuleset env.net (runConfig cfg s) (allowsLan (runSetting s)) = .ok ruleset →
      ArmOutcome cfg env s (some ((supersededTable cfg s).getD [] ++ ruleset)) true
        [.armed, .armCalled (supersededTable cfg s)]

def child (cfg : Config) (env : Env) (openvpn : String) (pid : Nat) (s : Daemon) : Proc where
  pid := pid
  attempt := s.attempt
  uuid := s.priv.uuid
  connection := s.priv.connection
  argv := openvpnArgv cfg env openvpn (configPath cfg s.priv.uuid) (runSetting s)
  config := runConfig cfg s
  state := .running
  signals := []

inductive RunOutcome (cfg : Config) (env : Env) (s : Daemon) :
    Daemon → Except GError Unit → Prop where
  | noBinary (e : GError) : RunOutcome cfg env s s (.error e)
  | notArmed (e : GError) : wantsKillSwitch (runSetting s) = true →
      RunOutcome cfg env s
        { s with
          priv := supersededPriv s.priv
          table := supersededTable cfg s
          effects := .armCalled (supersededTable cfg s) :: .supersede :: s.effects }
        (.error e)
  | notSpawned (e : GError) {table : Option (List Char)} {active : Bool} {effects : List Effect} :
      ArmOutcome cfg env s table active effects →
      RunOutcome cfg env s
        { s with
          priv := supersededPriv s.priv
          table := if active then none else table
          effects := effects ++ .supersede :: s.effects }
        (.error e)
  | spawned (openvpn : String) {pid : Nat} {table : Option (List Char)} {active : Bool}
      {effects : List Effect} :
      ArmOutcome cfg env s table active effects → env.spawn = .ok pid →
      RunOutcome cfg env s
        { s with
          priv := { supersededPriv s.priv with
            pid := pid
            connectTimer := s.attempt
            killSwitchActive := active }
          table := table
          procs := child cfg env openvpn pid s :: s.procs
          timers := s.attempt :: clearedTimers s
          effects := .spawned s.attempt :: (effects ++ .supersede :: s.effects) }
        (.ok ())

theorem firewallArm_ok {nft : Bool} {statedir : String} {io : FileOps} {net : NetEnv}
    {out : Option String} {contents : Except GError String} {allowLan : Bool} {r : List Char}
    (h : nmAirvpnFirewallArm nft statedir io net out contents allowLan = .ok r) :
    nft = true ∧ buildRuleset net contents allowLan = .ok r := by
  unfold nmAirvpnFirewallArm at h
  cases nft with
  | false => simp at h
  | true =>
      cases hb : buildRuleset net contents allowLan with
      | error e => simp [hb] at h
      | ok ruleset =>
          simp only [Bool.not_true, Bool.false_eq_true, ↓reduceIte, hb] at h
          split at h
          · cases h
          · split at h
            · cases h
            · exact ⟨rfl, h⟩

theorem runOpenvpn_cases (cfg : Config) (env : Env) (s : Daemon) :
    RunOutcome cfg env s (runOpenvpn cfg env s).1 (runOpenvpn cfg env s).2 := by
  have spawn : ∀ (openvpn : String) {table active effects},
      ArmOutcome cfg env s table active effects →
      let armed : Daemon :=
        { s with
          priv := { supersededPriv s.priv with killSwitchActive := active }
          table := table
          effects := effects ++ .supersede :: s.effects }
      let result := spawnOpenvpn cfg env (configPath cfg s.priv.uuid)
        (openvpnArgv cfg env openvpn (configPath cfg s.priv.uuid) (runSetting s)) armed
      RunOutcome cfg env s result.1 result.2 := by
    intro openvpn table active effects harm
    dsimp only [spawnOpenvpn]
    cases hs : env.spawn with
    | error e =>
        have hres : RunOutcome cfg env s _ _ := .notSpawned e harm
        cases harm with
        | off => exact hres
        | on _ hn _ =>
            simp only [nmAirvpnFirewallDisarm, hn, ↓reduceIte]
            exact hres
    | ok pid =>
        dsimp only
        rw [clearConnectTimer_eq]
        exact .spawned openvpn harm hs
  unfold runOpenvpn
  cases nmFindOpenvpn env with
  | none => exact .noBinary _
  | some openvpn =>
      dsimp only
      rw [supersede_eq]
      unfold armKillSwitch
      cases hw : wantsKillSwitch (runSetting s) with
      | false =>
          rw [if_neg (by simpa [runSetting] using hw)]
          exact spawn openvpn (.off hw)
      | true =>
          rw [if_pos (by simpa [runSetting] using hw)]
          dsimp only [emit_eq]
          cases ha : nmAirvpnFirewallArm cfg.nftAvailable cfg.statedir env.io env.net env.nft
              (readText s.disk (configPath cfg s.priv.uuid))
              (allowsLan (s.priv.connection.map (·.sVpn))) with
          | error e => exact .notArmed e hw
          | ok ruleset =>
              obtain ⟨hn, hb⟩ := firewallArm_ok ha
              exact spawn openvpn (.on hw hn hb)

theorem RunOutcome.attempt {cfg : Config} {env : Env} {s s' : Daemon} {r : Except GError Unit}
    (hr : RunOutcome cfg env s s' r) : s'.attempt = s.attempt := by
  cases hr <;> rfl

/-! ## Fetch completions -/

def afterRun (r : Daemon × Except GError Unit) : Daemon :=
  match r.2 with
  | .ok () => r.1
  | .error _ => { r.1 with effects := .failure .connectFailed :: r.1.effects }

theorem afterRun_eq (r : Daemon × Except GError Unit) :
    afterRun r = { r.1 with effects := (afterRun r).effects } := by
  unfold afterRun
  split <;> rfl

theorem mem_afterRun {r : Daemon × Except GError Unit} {e : Effect} :
    e ∈ (afterRun r).effects ↔
      e ∈ r.1.effects ∨ ∃ g, r.2 = .error g ∧ e = .failure .connectFailed := by
  rcases r with ⟨s, (g | ⟨⟨⟩⟩)⟩
  · simp [afterRun, or_comm]
  · simp [afterRun]

inductive FetchOutcome (cfg : Config) (env : Env) (f : Fetch) (result : FetchResult) (s : Daemon) :
    Daemon → Prop where
  | cancelled : f.cancelled = true → FetchOutcome cfg env f result s s
  | abandoned : f.cancelled = false → s.priv.connection = none ∨ s.priv.uuid = none →
      FetchOutcome cfg env f result s (clearFetchCancellable s)
  | notStored {c : NMConnection} {u : Uuid} {config : String} : f.cancelled = false →
      s.priv.connection = some c → s.priv.uuid = some u → result = .profile config →
      FetchOutcome cfg env f result s
        { clearFetchCancellable s with
          disk := (nmAirvpnCacheStore cfg.sha256 cfg.statedir env.io u (getGeneratorParams c.sVpn)
            config env.now s.disk).1
          effects := .failure .connectFailed :: .stored u (getGeneratorParams c.sVpn) config ::
            s.effects }
  | stored {c : NMConnection} {u : Uuid} {config : String} {r : Daemon × Except GError Unit} :
      f.cancelled = false → s.priv.connection = some c → s.priv.uuid = some u →
      result = .profile config →
      (nmAirvpnCacheStore cfg.sha256 cfg.statedir env.io u (getGeneratorParams c.sVpn) config
        env.now s.disk).2 = .ok () →
      RunOutcome cfg env
        { clearFetchCancellable s with
          disk := (nmAirvpnCacheStore cfg.sha256 cfg.statedir env.io u (getGeneratorParams c.sVpn)
            config env.now s.disk).1
          effects := .stored u (getGeneratorParams c.sVpn) config :: s.effects } r.1 r.2 →
      FetchOutcome cfg env f result s (afterRun r)
  | noProfile {c : NMConnection} (reason : NMVpnPluginFailure) : f.cancelled = false →
      s.priv.connection = some c →
      FetchOutcome cfg env f result s
        { clearFetchCancellable s with effects := .failure reason :: s.effects }
  | fallback {c : NMConnection} {u : Uuid} {r : Daemon × Except GError Unit} :
      f.cancelled = false → s.priv.connection = some c → s.priv.uuid = some u →
      nmAirvpnCacheExists cfg.sha256 cfg.statedir u (getGeneratorParams c.sVpn) s.disk = true →
      RunOutcome cfg env (clearFetchCancellable s) r.1 r.2 →
      FetchOutcome cfg env f result s (afterRun r)

theorem runAfterFetch_eq (cfg : Config) (env : Env) (s : Daemon) :
    runAfterFetch cfg env s = afterRun (runOpenvpn cfg env s) := by
  unfold runAfterFetch afterRun
  rcases runOpenvpn cfg env s with ⟨s', (e | ⟨⟨⟩⟩)⟩ <;> rfl

theorem fetchDone_cases (cfg : Config) (env : Env) (f : Fetch) (result : FetchResult)
    (s : Daemon) : FetchOutcome cfg env f result s (fetchDoneCb cfg env f result s) := by
  unfold fetchDoneCb
  cases hf : f.cancelled with
  | true => exact .cancelled hf
  | false =>
      have hconn : (clearFetchCancellable s).priv.connection = s.priv.connection := rfl
      have huuid : (clearFetchCancellable s).priv.uuid = s.priv.uuid := rfl
      have hdisk : (clearFetchCancellable s).disk = s.disk := rfl
      simp only [Bool.false_eq_true, ↓reduceIte, hconn, huuid, hdisk]
      cases hc : s.priv.connection with
      | none => exact .abandoned hf (.inl hc)
      | some c =>
          cases hu : s.priv.uuid with
          | none => exact .abandoned hf (.inr hu)
          | some u =>
              dsimp only
              cases hr : result with
              | profile config =>
                  dsimp only
                  cases hst : (nmAirvpnCacheStore cfg.sha256 cfg.statedir env.io u
                      (getGeneratorParams c.sVpn) config env.now s.disk).2 with
                  | error e =>
                      simp only [failure_eq]
                      exact .notStored hf hc hu rfl
                  | ok _ =>
                      simp only [runAfterFetch_eq]
                      exact .stored hf hc hu rfl hst (runOpenvpn_cases _ _ _)
              | failed message =>
                  dsimp only
                  split
                  · rename_i he
                    rw [runAfterFetch_eq]
                    exact .fallback hf hc hu he (runOpenvpn_cases _ _ _)
                  · exact .noProfile _ hf hc

/-! ## Requests -/

/-- The state from which a validated request goes on. -/
def begun (cfg : Config) (c : NMConnection) (s : Daemon) : Daemon :=
  beginAttempt c (cleanupPlugin cfg s)

theorem begun_eq (cfg : Config) (c : NMConnection) (s : Daemon) :
    begun cfg c s =
      { s with
        priv := { cleanedPriv s.priv with connection := some c, uuid := some c.uuid }
        table := cleanedTable cfg s
        procs := cleanedProcs s
        fetches := cancelFetches s.priv.fetchCancellable s.fetches
        timers := clearedTimers s
        killTimers := cleanedKillTimers s
        attempt := s.attempt + 1
        effects := cleanedEffects s ++ s.effects } := by
  rw [begun, cleanupPlugin_eq]
  rfl

/-- A request goes on to the generator: the connection is accepted and has a key,
and no cached profile can be used. -/
def opensFetch (cfg : Config) (env : Env) (c : NMConnection) (disk : Disk) : Bool :=
  (validateConnection c).isOk && (env.io.mkdirWithParents cfg.statedir).isNone &&
    !nmAirvpnCacheIsValid cfg.sha256 cfg.statedir c.uuid (getGeneratorParams c.sVpn) env.now disk &&
    (nonEmpty (c.sVpn.getSecret keyApiKey)).isSome

inductive RequestOutcome (cfg : Config) (env : Env) (c : NMConnection) (s : Daemon) :
    Daemon → Except GError Unit → Prop where
  | rejected {e : GError} : validateConnection c = .error e →
      RequestOutcome cfg env c s s (.error e)
  | stopped (e : GError) : validateConnection c = .ok () → opensFetch cfg env c s.disk = false →
      RequestOutcome cfg env c s (begun cfg c s) (.error e)
  | fetching (apiKey : String) : validateConnection c = .ok () →
      opensFetch cfg env c s.disk = true →
      RequestOutcome cfg env c s
        (nmAirvpnGeneratorFetchAsync c.uuid (getGeneratorParams c.sVpn) apiKey (begun cfg c s))
        (.ok ())
  | ran {r : Daemon × Except GError Unit} : validateConnection c = .ok () →
      nmAirvpnCacheIsValid cfg.sha256 cfg.statedir c.uuid (getGeneratorParams c.sVpn) env.now
        s.disk = true →
      RunOutcome cfg env (begun cfg c s) r.1 r.2 →
      RequestOutcome cfg env c s r.1 r.2

theorem connectCommon_cases (cfg : Config) (env : Env) (c : NMConnection) (s : Daemon) :
    RequestOutcome cfg env c s (connectCommon cfg env c s).1 (connectCommon cfg env c s).2 := by
  unfold connectCommon
  cases hv : validateConnection c with
  | error e => exact .rejected hv
  | ok _ =>
      have hb : beginAttempt c (cleanupPlugin cfg s) = begun cfg c s := rfl
      have hd : (begun cfg c s).disk = s.disk := by rw [begun_eq]
      dsimp only [connectValidated]
      rw [hb, hd]
      have hok : (Except.ok () : Except GError Unit).isOk = true := rfl
      cases hm : env.io.mkdirWithParents cfg.statedir with
      | some _ => exact .stopped _ hv (by simp [opensFetch, hm])
      | none =>
          dsimp only
          split
          · rename_i hvalid
            exact .ran hv hvalid (runOpenvpn_cases _ _ _)
          · rename_i hno
            cases hk : nonEmpty (c.sVpn.getSecret keyApiKey) with
            | none => exact .stopped _ hv (by simp [opensFetch, hk])
            | some apiKey => exact .fetching apiKey hv (by simp [opensFetch, hv, hok, hm, hno, hk])

/-! ## Steps -/

/-- A state as an event finds it, without the effects of the one before. -/
def quiet (s : Daemon) : Daemon := { s with effects := [] }

theorem boot_eq (cfg : Config) (left : Leftover) :
    boot cfg left =
      { priv := initPriv, svc := .init
        table := if cfg.nftAvailable then none else left.table
        disk := left.disk, procs := [], others := left.others, fetches := [], timers := []
        killTimers := [], attempt := 0, reached := [], effects := [] } := by
  unfold boot nmAirvpnFirewallDisarm
  split <;> rfl

/-- The requests: the handler's result is answered, and a successful interactive
one is remembered as such. -/
inductive StepOutcome (cfg : Config) (s : Daemon) : Event → Daemon → Prop where
  | request {e : Event} {c : NMConnection} {env : Env} {r : Daemon × Except GError Unit}
      (interactive : Bool) :
      e.request = some (c, env) → s.spawnFeasible env = true →
      RequestOutcome cfg env c (quiet s) r.1 r.2 →
      (r.2 = .ok () ∨ interactive = r.1.priv.interactive) →
      StepOutcome cfg s e
        { r.1 with
          priv := { r.1.priv with interactive := interactive }
          effects := .reply r.2 :: r.1.effects }
  | disconnect (env : Env) :
      StepOutcome cfg s (.disconnect env) (nmVpnServicePluginDisconnect cfg env (quiet s))
  | stateChange (state : NMVpnServiceState) :
      StepOutcome cfg s (.stateChange state) (nmVpnServicePluginSetState state (quiet s))
  | fetchDone {a : Nat} (result : FetchResult) {env : Env} {f : Fetch} {s' : Daemon} :
      f ∈ s.fetches → f.attempt = a → s.spawnFeasible env = true →
      FetchOutcome cfg env f result
        { quiet s with fetches := s.fetches.filter (·.attempt ≠ a) } s' →
      StepOutcome cfg s (.fetchDone a result env) s'
  | childExits {p : Proc} : p ∈ s.procs → p.state = .running →
      StepOutcome cfg s (.childExits p.attempt) ((quiet s).setProc p.attempt .zombie)
  | childReaped {p : Proc} : p ∈ s.procs → p.state = .zombie →
      StepOutcome cfg s (.childReaped p.attempt) ((quiet s).setProc p.attempt .reaped)
  | childWatch {p : Proc} (status : WaitStatus) (env : Env) : p ∈ s.procs → p.state = .reaped →
      StepOutcome cfg s (.childWatch p.attempt status env)
        (openvpnWatchCb cfg env status ((quiet s).setProc p.attempt .notified))
  | connectTimeout {timer : Nat} (env : Env) : timer ∈ s.timers →
      StepOutcome cfg s (.connectTimeout timer env)
        (connectTimeoutCb cfg env { quiet s with timers := s.timers.filter (· ≠ timer) })
  | killTimeout {pid : Nat} : pid ∈ s.killTimers →
      StepOutcome cfg s (.killTimeout pid)
        (Daemon.kill pid .kill { quiet s with killTimers := s.killTimers.erase pid })
  | otherStarts {pid : Nat} : s.freshPid pid = true →
      StepOutcome cfg s (.otherStarts pid) { quiet s with others := pid :: s.others }
  | otherEnds {pid : Nat} : pid ∈ s.others →
      StepOutcome cfg s (.otherEnds pid) { quiet s with others := s.others.filter (· ≠ pid) }
  | dispose : StepOutcome cfg s .dispose (cleanupPlugin cfg (quiet s))

theorem ensureKilled_eq (pid : Nat) (s : Daemon) : ensureKilled pid s = s.kill pid .kill := by
  unfold ensureKilled
  split
  · rfl
  · rename_i h
    exact (if_neg h).symm

theorem realConnectInteractive_eq (cfg : Config) (env : Env) (c : NMConnection) (s : Daemon) :
    ∃ interactive,
      ((connectCommon cfg env c s).2 = .ok () ∨
        interactive = (connectCommon cfg env c s).1.priv.interactive) ∧
      answer (realConnectInteractive cfg env c s) =
        { (connectCommon cfg env c s).1 with
          priv := { (connectCommon cfg env c s).1.priv with interactive := interactive }
          effects := .reply (connectCommon cfg env c s).2 ::
            (connectCommon cfg env c s).1.effects } := by
  unfold realConnectInteractive
  rcases connectCommon cfg env c s with ⟨s', (e | ⟨⟨⟩⟩)⟩
  · exact ⟨_, .inr rfl, rfl⟩
  · exact ⟨true, .inl rfl, rfl⟩

theorem step_request_eq {cfg : Config} {s s' : Daemon} {e : Event} {c : NMConnection} {env : Env}
    (h : step cfg s e = some s') (he : e.request = some (c, env)) :
    ∃ interactive,
      s' = { (connectCommon cfg env c (quiet s)).1 with
        priv := { (connectCommon cfg env c (quiet s)).1.priv with interactive := interactive }
        effects := .reply (connectCommon cfg env c (quiet s)).2 ::
          (connectCommon cfg env c (quiet s)).1.effects } := by
  change react cfg (quiet s) e = some s' at h
  cases e with
  | connect c env =>
      cases he
      simp only [react, Option.ite_none_right_eq_some, Option.some.injEq] at h
      exact ⟨_, h.2.symm⟩
  | newSecrets c env =>
      cases he
      simp only [react, Option.ite_none_right_eq_some, Option.some.injEq] at h
      exact ⟨_, h.2.symm⟩
  | connectInteractive c env =>
      cases he
      simp only [react, Option.ite_none_right_eq_some, Option.some.injEq] at h
      obtain ⟨i, -, heq⟩ := realConnectInteractive_eq cfg env c (quiet s)
      exact ⟨i, h.2.symm.trans heq⟩
  | _ => cases he

theorem step_fetchDone_eq {cfg : Config} {s s' : Daemon} {a : Nat} {result : FetchResult}
    {env : Env} (h : step cfg s (.fetchDone a result env) = some s') :
    ∃ f ∈ s.fetches, f.attempt = a ∧
      s' = fetchDoneCb cfg env f result
        { quiet s with fetches := s.fetches.filter (·.attempt ≠ a) } := by
  change react cfg (quiet s) (.fetchDone a result env) = some s' at h
  simp only [react, Option.ite_none_right_eq_some, Option.map_eq_some_iff] at h
  obtain ⟨_, f, hf, heq⟩ := h
  have ha : f.attempt = a := by simpa using List.find?_some hf
  exact ⟨f, List.mem_of_find?_eq_some hf, ha, heq.symm⟩

theorem hasProc_spec {a : Nat} {state : ProcState} {s : Daemon} (h : s.hasProc a state = true) :
    ∃ p ∈ s.procs, p.attempt = a ∧ p.state = state := by
  simpa [hasProc] using h

/-- Everything one event can do. -/
theorem step_cases {cfg : Config} {s s' : Daemon} {e : Event} (h : step cfg s e = some s') :
    StepOutcome cfg s e s' := by
  have request : ∀ {e : Event} {c : NMConnection} {env : Env}, e.request = some (c, env) →
      s.spawnFeasible env = true →
      StepOutcome cfg s e (answer (connectCommon cfg env c (quiet s))) := fun he hf =>
    .request _ he hf (connectCommon_cases _ _ _ _) (.inr rfl)
  change react cfg (quiet s) e = some s' at h
  cases e with
  | connect c env =>
      simp only [react, Option.ite_none_right_eq_some, Option.some.injEq] at h
      exact h.2 ▸ request rfl h.1
  | newSecrets c env =>
      simp only [react, Option.ite_none_right_eq_some, Option.some.injEq] at h
      exact h.2 ▸ request rfl h.1
  | connectInteractive c env =>
      simp only [react, Option.ite_none_right_eq_some, Option.some.injEq] at h
      obtain ⟨i, hi, heq⟩ := realConnectInteractive_eq cfg env c (quiet s)
      rw [← h.2, heq]
      exact .request i rfl h.1 (connectCommon_cases _ _ _ _) hi
  | disconnect env => exact Option.some.inj h ▸ .disconnect env
  | stateChange state => exact Option.some.inj h ▸ .stateChange state
  | fetchDone a result env =>
      obtain ⟨f, hf, ha, rfl⟩ := step_fetchDone_eq h
      simp only [react, Option.ite_none_right_eq_some] at h
      exact .fetchDone result hf ha h.1 (fetchDone_cases _ _ _ _ _)
  | childExits a =>
      simp only [react, Option.ite_none_right_eq_some, Option.some.injEq] at h
      obtain ⟨p, hp, rfl, hs⟩ := hasProc_spec h.1
      exact h.2 ▸ .childExits hp hs
  | childReaped a =>
      simp only [react, Option.ite_none_right_eq_some, Option.some.injEq] at h
      obtain ⟨p, hp, rfl, hs⟩ := hasProc_spec h.1
      exact h.2 ▸ .childReaped hp hs
  | childWatch a status env =>
      simp only [react, Option.ite_none_right_eq_some, Option.some.injEq] at h
      obtain ⟨p, hp, rfl, hs⟩ := hasProc_spec h.1
      exact h.2 ▸ .childWatch status env hp hs
  | connectTimeout timer env =>
      simp only [react, Option.ite_none_right_eq_some, Option.some.injEq] at h
      exact h.2 ▸ .connectTimeout env (by simpa [quiet] using h.1)
  | killTimeout pid =>
      simp only [react, Option.ite_none_right_eq_some, Option.some.injEq, ensureKilled_eq] at h
      exact h.2 ▸ .killTimeout (by simpa [quiet] using h.1)
  | otherStarts pid =>
      simp only [react, Option.ite_none_right_eq_some, Option.some.injEq] at h
      exact h.2 ▸ .otherStarts h.1
  | otherEnds pid =>
      simp only [react, Option.ite_none_right_eq_some, Option.some.injEq] at h
      exact h.2 ▸ .otherEnds (by simpa [quiet] using h.1)
  | dispose => exact Option.some.inj h ▸ .dispose

theorem step_request {cfg : Config} {s s' : Daemon} {e : Event} {c : NMConnection} {env : Env}
    (h : step cfg s e = some s') (he : e.request = some (c, env)) :
    ∃ (r : Daemon × Except GError Unit) (interactive : Bool),
      RequestOutcome cfg env c (quiet s) r.1 r.2 ∧
      (r.2 = .ok () ∨ interactive = r.1.priv.interactive) ∧
      s' = { r.1 with
        priv := { r.1.priv with interactive := interactive }
        effects := .reply r.2 :: r.1.effects } := by
  cases step_cases h with
  | @request _ _ _ r i he' _ ho hi =>
      cases he.symm.trans he'
      exact ⟨r, i, ho, hi, rfl⟩
  | _ => cases he

theorem step_fetchDone {cfg : Config} {s s' : Daemon} {a : Nat} {result : FetchResult} {env : Env}
    (h : step cfg s (.fetchDone a result env) = some s') :
    ∃ f ∈ s.fetches, f.attempt = a ∧
      FetchOutcome cfg env f result
        { quiet s with fetches := s.fetches.filter (·.attempt ≠ a) } s' := by
  cases step_cases h with
  | request _ he _ _ _ => cases he
  | fetchDone _ hf ha _ ho => exact ⟨_, hf, ha, ho⟩

theorem step_childWatch {cfg : Config} {s s' : Daemon} {a : Nat} {status : WaitStatus} {env : Env}
    (h : step cfg s (.childWatch a status env) = some s') :
    (∃ p ∈ s.procs, p.attempt = a ∧ p.state = .reaped) ∧
      s' = openvpnWatchCb cfg env status ((quiet s).setProc a .notified) := by
  cases step_cases h with
  | request _ he _ _ _ => cases he
  | childWatch _ _ hp hs => exact ⟨⟨_, hp, rfl, hs⟩, rfl⟩

end AirVpn.Service
