import AirVpn.Service.Spec
import AirVpn.Settings.Accepted

/-! # Whether a connection needs its API key

`real_need_secrets` against the two places of a connect request that refuse one
without a key: the validation of the secrets, and the check before a fetch.
-/

namespace AirVpn.Service

open Daemon

/-! ## The question -/

def secretFlagNotRequired : Nat := 4

def settingVpnName : String := "vpn"

/-- The setting whose secrets are needed, if any are. `flags` are the secret flags of
the API key. -/
def realNeedSecrets (flags : Nat) (connection : NMConnection) : Option String :=
  if flags &&& secretFlagNotRequired = 0 && (connection.sVpn.getSecret keyApiKey).isNone then
    some settingVpnName
  else none

/-! ## The refusals -/

def missingKeyError : GError :=
  invalidConnection ("missing required property “" ++ keyApiKey ++ "”")

def noKeyError : GError :=
  ⟨.launchFailed, "No cached profile and no API key; get a key at " ++ apiSettingsUrl ++ "."⟩

/-- The request stops at one of the two checks for the key. Nothing has begun at the
first one, and `run_openvpn` is not reached at the second one. -/
def FailsForKey (cfg : Config) (env : Env) (c : NMConnection) (s : Daemon) : Prop :=
  connectCommon cfg env c s = (s, .error missingKeyError) ∨
    connectCommon cfg env c s = (begun cfg c s, .error noKeyError)

/-- If no secrets are needed, the request does not fail for lack of the key. -/
def AgreesOnKey (flags : Nat) (cfg : Config) (env : Env) (c : NMConnection) (s : Daemon) : Prop :=
  realNeedSecrets flags c = none → ¬ FailsForKey cfg env c s

/-- Without a key the flags let it be asked for, and an empty one stands where no key
is used: the state directory cannot be made, or the cached profile is valid. -/
def KeyAtHand (flags : Nat) (cfg : Config) (env : Env) (c : NMConnection) (s : Daemon) : Prop :=
  match c.sVpn.getSecret keyApiKey with
  | none => flags &&& secretFlagNotRequired = 0
  | some apiKey =>
      apiKey ≠ "" ∨ (env.io.mkdirWithParents cfg.statedir).isSome = true ∨
        nmAirvpnCacheIsValid cfg.sha256 cfg.statedir c.uuid (getGeneratorParams c.sVpn) env.now
          s.disk = true

/-! ## The secrets -/

def OnlyApiKey (c : NMConnection) : Prop := ∀ item ∈ c.sVpn.secrets, item.1 = keyApiKey

theorem secrets_of_only {c : NMConnection} (h : OnlyApiKey c) :
    (c.sVpn.getSecret keyApiKey = none ∧ c.sVpn.secrets = []) ∨
      ∃ apiKey, c.sVpn.getSecret keyApiKey = some apiKey ∧
        c.sVpn.secrets = [(keyApiKey, apiKey)] := by
  have hnodup := c.sVpn.secrets_nodup
  unfold OnlyApiKey at h
  unfold NMSettingVpn.getSecret
  generalize c.sVpn.secrets = secrets at h hnodup
  match secrets with
  | [] => exact .inl ⟨rfl, rfl⟩
  | [(name, apiKey)] =>
      have hname : name = keyApiKey := h (name, apiKey) List.mem_cons_self
      subst hname
      exact .inr ⟨apiKey, by simp, rfl⟩
  | first :: second :: rest =>
      have hfirst := h first List.mem_cons_self
      have hsecond := h second (List.mem_cons_of_mem _ List.mem_cons_self)
      exact absurd (hfirst.trans hsecond.symm) (by simp_all)

theorem validateSecrets_nil {s : NMSettingVpn} (h : s.secrets = []) :
    nmAirvpnPropertiesValidateSecrets s = .error missingKeyError := by
  unfold nmAirvpnPropertiesValidateSecrets
  rw [h]
  rfl

theorem validateSecrets_key {s : NMSettingVpn} {apiKey : String}
    (h : s.secrets = [(keyApiKey, apiKey)]) : nmAirvpnPropertiesValidateSecrets s = .ok () := by
  have hname : isFlags keyApiKey = false := by decide +kernel
  unfold nmAirvpnPropertiesValidateSecrets
  rw [h, validateProperties_eq_ok]
  refine ⟨fun item hitem => .inr ?_, fun p hp _ => ?_⟩
  · rw [List.mem_singleton.mp hitem]
    simp [validSecrets]
  · rw [List.mem_singleton.mp hp]
    exact ⟨_, List.mem_singleton_self _, rfl, hname⟩

/-! ## The request -/

theorem effects_armKillSwitch (cfg : Config) (env : Env) (path : String)
    (sVpn : Option NMSettingVpn) (s : Daemon) :
    ∃ new, (armKillSwitch cfg env path sVpn s).1.effects = new ++ s.effects := by
  unfold armKillSwitch
  split
  · dsimp only
    split
    · exact ⟨[_], rfl⟩
    · exact ⟨[_, _], rfl⟩
  · exact ⟨[], rfl⟩

theorem effects_spawnOpenvpn (cfg : Config) (env : Env) (path : String) (argv : List String)
    (s : Daemon) : ∃ new, (spawnOpenvpn cfg env path argv s).1.effects = new ++ s.effects := by
  unfold spawnOpenvpn
  cases env.spawn with
  | error e =>
      refine ⟨[], ?_⟩
      dsimp only
      unfold nmAirvpnFirewallDisarm
      cases s.priv.killSwitchActive <;> cases cfg.nftAvailable <;> rfl
  | ok pid =>
      dsimp only
      rw [clearConnectTimer_eq]
      exact ⟨[_], rfl⟩

/-- Where `run_openvpn` finds the binary, it supersedes the old state before anything
else can fail. -/
theorem effects_runOpenvpn (cfg : Config) {env : Env} {openvpn : String}
    (h : nmFindOpenvpn env = some openvpn) (s : Daemon) :
    ∃ new, (runOpenvpn cfg env s).1.effects = new ++ .supersede :: s.effects := by
  have hsupersede : (supersede cfg s).effects = .supersede :: s.effects := by rw [supersede_eq]
  unfold runOpenvpn
  rw [h]
  dsimp only
  obtain ⟨armed, harmed⟩ := effects_armKillSwitch cfg env (configPath cfg s.priv.uuid)
    (s.priv.connection.map (·.sVpn)) (supersede cfg s)
  rw [hsupersede] at harmed
  generalize armKillSwitch cfg env (configPath cfg s.priv.uuid)
    (s.priv.connection.map (·.sVpn)) (supersede cfg s) = result at harmed
  obtain ⟨s', (e | ⟨⟨⟩⟩)⟩ := result
  · exact ⟨armed, harmed⟩
  · obtain ⟨spawned, hspawned⟩ := effects_spawnOpenvpn cfg env (configPath cfg s.priv.uuid)
      (openvpnArgv cfg env openvpn (configPath cfg s.priv.uuid)
        (s.priv.connection.map (·.sVpn))) s'
    rw [harmed] at hspawned
    exact ⟨spawned ++ armed, by rw [hspawned, List.append_assoc]⟩

theorem runOpenvpn_ne_noKey (cfg : Config) (env : Env) (s : Daemon) :
    runOpenvpn cfg env s ≠ (s, .error noKeyError) := by
  intro heq
  cases hfind : nmFindOpenvpn env with
  | none =>
      have hnone : runOpenvpn cfg env s =
          (s, .error ⟨.launchFailed, "Could not find the openvpn binary."⟩) := by
        unfold runOpenvpn
        rw [hfind]
      have hmessage := congrArg GError.message
        (Except.error.inj (congrArg Prod.snd (hnone.symm.trans heq)))
      exact absurd hmessage (by decide)
  | some openvpn =>
      obtain ⟨new, hnew⟩ := effects_runOpenvpn cfg hfind s
      rw [heq] at hnew
      have hlength := congrArg List.length hnew
      simp only [List.length_append, List.length_cons] at hlength
      omega

theorem connectCommon_ne_missing (cfg : Config) (env : Env) {c : NMConnection} (s : Daemon)
    (hv : validateConnection c = .ok ()) :
    connectCommon cfg env c s ≠ (s, .error missingKeyError) := by
  intro heq
  have hattempt : (connectCommon cfg env c s).1.attempt = s.attempt + 1 := by
    have hb : (begun cfg c s).attempt = s.attempt + 1 := by rw [begun_eq]
    have hcases := connectCommon_cases cfg env c s
    generalize connectCommon cfg env c s = result at hcases
    obtain ⟨s', answer⟩ := result
    cases hcases with
    | rejected h => exact absurd (hv.symm.trans h) nofun
    | stopped _ _ _ => exact hb
    | fetching apiKey _ _ => exact hb
    | ran _ _ hrun => exact hrun.attempt.trans hb
  rw [heq] at hattempt
  exact absurd hattempt (by simp)

theorem failsForKey_of_key {cfg : Config} {env : Env} {c : NMConnection} {s : Daemon}
    {apiKey : String} (hv : validateConnection c = .ok ())
    (hkey : c.sVpn.getSecret keyApiKey = some apiKey) :
    FailsForKey cfg env c s ↔ ¬ (apiKey ≠ "" ∨
      (env.io.mkdirWithParents cfg.statedir).isSome = true ∨
        nmAirvpnCacheIsValid cfg.sha256 cfg.statedir c.uuid (getGeneratorParams c.sVpn) env.now
          s.disk = true) := by
  have hdisk : (beginAttempt c (cleanupPlugin cfg s)).disk = s.disk := by
    show (begun cfg c s).disk = s.disk
    rw [begun_eq]
  have hmissing := connectCommon_ne_missing cfg env s hv
  unfold FailsForKey
  rw [or_iff_right hmissing]
  unfold connectCommon connectValidated
  rw [hv]
  dsimp only
  cases hm : env.io.mkdirWithParents cfg.statedir with
  | some message =>
      refine iff_of_false (fun h => ?_) (by simp)
      have hmessage := congrArg GError.message (Except.error.inj (congrArg Prod.snd h))
      have hfirst := congrArg (fun message => message.toList.head?) hmessage
      simp [noKeyError] at hfirst
  | none =>
      dsimp only
      rw [hdisk]
      split
      · next hvalid =>
          refine iff_of_false (runOpenvpn_ne_noKey cfg env _) (by simp [hvalid])
      · next hvalid =>
          by_cases hempty : apiKey = ""
          · subst hempty
            have hnone : nonEmpty (c.sVpn.getSecret keyApiKey) = none := by
              rw [hkey]
              rfl
            rw [hnone]
            exact iff_of_true rfl (by simp [hvalid])
          · have hsome : nonEmpty (c.sVpn.getSecret keyApiKey) = some apiKey := by
              rw [hkey]
              exact nonEmpty_some hempty
            rw [hsome]
            exact iff_of_false (fun h => absurd (congrArg Prod.snd h) nofun) (by simp [hempty])

theorem failsForKey_of_none {cfg : Config} {env : Env} {c : NMConnection} {s : Daemon}
    (hdata : nmAirvpnPropertiesValidate c.sVpn = .ok ()) (h : c.sVpn.secrets = []) :
    FailsForKey cfg env c s := by
  refine .inl ?_
  unfold connectCommon validateConnection
  rw [hdata, validateSecrets_nil h]

/-! ## Settings that are not accepted -/

theorem missingKey_message_head : missingKeyError.message.toList.head? = some 'm' := by
  decide +kernel

theorem ne_missingKey_of_head {e : GError} {c : Char}
    (h : e.message.toList.head? = some c) (hc : c ≠ 'm') : e ≠ missingKeyError := by
  rintro rfl
  exact hc (Option.some.inj (h.symm.trans missingKey_message_head))

theorem complaint_ne_missingKey {e : GError} (h : Complaint validProperties e) :
    e ≠ missingKeyError := by
  have hserver : ∀ p ∈ validProperties, p.required = true → p.name = keyServer := by decide
  cases h with
  | unknown name =>
      exact ne_missingKey_of_head (c := 'i') (by simp [invalidConnection]) (by decide)
  | missing hp hrequired =>
      rw [hserver _ hp hrequired]
      decide +kernel

theorem checkItem_ne_missingKey (s : NMSettingVpn) (key : String) (accepts : String → Bool)
    (message : String) : checkItem s key accepts message ≠ .error missingKeyError := by
  unfold checkItem
  cases s.getDataItem key with
  | none => exact nofun
  | some value =>
      dsimp only
      split
      · exact nofun
      · intro heq
        refine ne_missingKey_of_head (c := 'p') ?_ (by decide) (Except.error.inj heq)
        simp [invalidConnection]

theorem bind_ne_error {x : Except GError Unit} {f : Unit → Except GError Unit} {e : GError}
    (hx : x ≠ .error e) (hf : f () ≠ .error e) : x >>= f ≠ .error e := by
  cases x with
  | error e' => exact hx
  | ok _ => exact hf

theorem validate_ne_missingKey (s : NMSettingVpn) :
    nmAirvpnPropertiesValidate s ≠ .error missingKeyError := by
  refine bind_ne_error ?_ <| bind_ne_error (checkItem_ne_missingKey _ _ _ _) <|
    bind_ne_error (checkItem_ne_missingKey _ _ _ _) <|
    bind_ne_error (checkItem_ne_missingKey _ _ _ _) <|
    bind_ne_error (checkItem_ne_missingKey _ _ _ _) <|
    bind_ne_error (checkItem_ne_missingKey _ _ _ _) <|
    bind_ne_error (checkItem_ne_missingKey _ _ _ _) (checkItem_ne_missingKey _ _ _ _)
  rcases validateProperties_cases validProperties s.data with ⟨_, h⟩ | ⟨_, e, h, he⟩
  · rw [h]
    exact nofun
  · rw [h]
    exact fun heq => complaint_ne_missingKey he (Except.error.inj heq)

/-- Where the settings are not accepted, the request fails for them, and not for the key. -/
theorem not_failsForKey_of_invalid {cfg : Config} {env : Env} {c : NMConnection} {s : Daemon}
    (h : nmAirvpnPropertiesValidate c.sVpn ≠ .ok ()) : ¬ FailsForKey cfg env c s := by
  cases hv : nmAirvpnPropertiesValidate c.sVpn with
  | ok _ => exact absurd hv h
  | error e =>
      have heq : connectCommon cfg env c s = (s, .error e) := by
        unfold connectCommon validateConnection
        rw [hv]
      unfold FailsForKey
      rw [heq]
      rintro (hmissing | hbegun)
      · have he := Except.error.inj (Prod.mk.inj hmissing).2
        exact validate_ne_missingKey c.sVpn (he ▸ hv)
      · have hattempt := congrArg Daemon.attempt (Prod.mk.inj hbegun).1
        rw [begun_eq] at hattempt
        simp at hattempt

/-! ## Where the two agree -/

/-- The question and the request agree exactly when the key is at hand. -/
theorem agrees_on_key_iff {c : NMConnection} (hdata : nmAirvpnPropertiesValidate c.sVpn = .ok ())
    (honly : OnlyApiKey c) (flags : Nat) (cfg : Config) (env : Env) (s : Daemon) :
    AgreesOnKey flags cfg env c s ↔ KeyAtHand flags cfg env c s := by
  unfold AgreesOnKey realNeedSecrets KeyAtHand
  rcases secrets_of_only honly with ⟨hkey, hnil⟩ | ⟨apiKey, hkey, hsecrets⟩
  · rw [hkey]
    have hfails : FailsForKey cfg env c s := failsForKey_of_none hdata hnil
    by_cases hflags : flags &&& secretFlagNotRequired = 0
    · simp [hflags]
    · simp [hflags, hfails]
  · have hv : validateConnection c = .ok () := by
      unfold validateConnection
      rw [hdata]
      exact validateSecrets_key hsecrets
    rw [failsForKey_of_key hv hkey, hkey]
    refine ⟨fun h => not_not.mp (h ?_), fun h _ hnot => hnot h⟩
    simp

def sampleOptional (apiKey : Option String) : NMConnection where
  uuid := sampleUuid
  sVpn :=
    { data := [(keyServer, "ch"), (apiKeyFlags, "4")]
      secrets := apiKey.toList.map fun value => (keyApiKey, value)
      data_nodup := by simp [keyServer, apiKeyFlags]
      secrets_nodup := by cases apiKey <;> simp }

theorem agrees_on_key_sample :
    AgreesOnKey 0 (sampleConfig true) (sampleEnv (.ok 701)) sampleConnection
      (boot (sampleConfig true) (sampleLeftover none)) := by
  refine (agrees_on_key_iff (by rfl) (fun item hitem => ?_) 0 _ _ _).mpr (.inl (by decide))
  rw [List.mem_singleton.mp hitem]

/-- Neither without a key nor with an empty one is any secret needed, but the request
fails at the first and at the second check. -/
theorem optional_key_refused :
    ¬ AgreesOnKey 4 (sampleConfig true) (sampleEnv (.ok 701)) (sampleOptional none)
        (boot (sampleConfig true) (sampleLeftover none)) ∧
      ¬ AgreesOnKey 4 (sampleConfig true) (sampleEnv (.ok 701)) (sampleOptional (some ""))
        (boot (sampleConfig true) (sampleLeftover none)) := by
  constructor
  · intro h
    exact h (by rfl) (failsForKey_of_none (by rfl) rfl)
  · intro h
    exact h (by rfl) (.inr (by rfl))

end AirVpn.Service
