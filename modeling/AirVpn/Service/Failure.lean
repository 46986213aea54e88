import AirVpn.Service.Fetches

/-! # Attempts that fail before openvpn runs

A request can be rejected, or stop after the cleanup, or reach `run_openvpn` and
fail there before or after its supersede step; a fetch completion can fail in the
same places. Whatever the point, nothing of the failed attempt is left running.
What happens to a table kept for an unexpected drop depends on the place alone:
the state directory, the key, the profile and the openvpn binary come before the
supersede step, the firewall and the process after it.
-/

namespace AirVpn.Service

open Daemon Machine

variable {cfg : Config} {env : Env} {s s' : Daemon}

/-! ## Failing in `run_openvpn` -/

theorem RunOutcome.failed_ready {e : GError} (h : Ready s)
    (hr : RunOutcome cfg env s s' (.error e)) : Ready s' := by
  cases hr with
  | noBinary _ => exact h
  | notArmed _ _ => exact ⟨{ h.coherent with }, h.pid, h.cancellable, h.fresh, h.uuid⟩
  | notSpawned _ _ => exact ⟨{ h.coherent with }, h.pid, h.cancellable, h.fresh, h.uuid⟩

theorem RunOutcome.failed_firewall {e : GError} (hr : RunOutcome cfg env s s' (.error e)) :
    s' = s ∨
      (s'.firewall = s.firewall.superseded cfg.nftAvailable ∨ s'.firewall = ⟨none, false, false⟩) ∧
        (.armed ∈ s'.effects → .armed ∈ s.effects ∨ s'.table = none) := by
  cases hr with
  | noBinary _ => exact .inl rfl
  | notArmed _ _ => exact .inr ⟨.inl rfl, fun he => .inl (by simpa using he)⟩
  | notSpawned _ ha =>
      cases ha with
      | off _ => exact .inr ⟨.inl rfl, fun he => .inl (by simpa using he)⟩
      | on _ _ _ => exact .inr ⟨.inr rfl, fun _ => .inr rfl⟩

/-! ## The place of a failure -/

/-- Where a request for an accepted connection fails before the supersede step. -/
inductive StopsEarly (cfg : Config) (env : Env) (c : NMConnection) (disk : Disk) : Prop
  | stateDirectory : (env.io.mkdirWithParents cfg.statedir).isSome = true →
      StopsEarly cfg env c disk
  | missingKey :
      nmAirvpnCacheIsValid cfg.sha256 cfg.statedir c.uuid (getGeneratorParams c.sVpn) env.now
        disk = false →
      nonEmpty (c.sVpn.getSecret keyApiKey) = none → StopsEarly cfg env c disk
  | missingBinary : nmFindOpenvpn env = none → StopsEarly cfg env c disk

/-- Where the completion of a fetch fails before the supersede step. -/
inductive CompletionStopsEarly (cfg : Config) (env : Env) (result : FetchResult) (priv : Priv)
    (disk : Disk) : Prop
  | notStored {c : NMConnection} {u : Uuid} {config : String} {e : GError} :
      priv.connection = some c → priv.uuid = some u → result = .profile config →
      (nmAirvpnCacheStore cfg.sha256 cfg.statedir env.io u (getGeneratorParams c.sVpn) config
        env.now disk).2 = .error e →
      CompletionStopsEarly cfg env result priv disk
  | noProfile {c : NMConnection} {u : Uuid} {message : String} :
      priv.connection = some c → priv.uuid = some u → result = .failed message →
      nmAirvpnCacheExists cfg.sha256 cfg.statedir u (getGeneratorParams c.sVpn) disk = false →
      CompletionStopsEarly cfg env result priv disk
  | missingBinary : nmFindOpenvpn env = none → CompletionStopsEarly cfg env result priv disk

theorem armKillSwitch_keeps {path : String} {sVpn : Option NMSettingVpn} {x : Effect}
    (h : x ∈ s.effects) : x ∈ (armKillSwitch cfg env path sVpn s).1.effects := by
  unfold armKillSwitch
  split
  · dsimp only
    split <;> simp [h]
  · exact h

theorem spawnOpenvpn_keeps {path : String} {argv : List String} {x : Effect}
    (h : x ∈ s.effects) : x ∈ (spawnOpenvpn cfg env path argv s).1.effects := by
  unfold spawnOpenvpn nmAirvpnFirewallDisarm
  split
  · dsimp only
    split
    · split <;> exact h
    · exact h
  · dsimp only
    rw [clearConnectTimer_eq]
    exact List.mem_cons_of_mem _ h

theorem runOpenvpn_supersede_iff (hno : .supersede ∉ s.effects) :
    .supersede ∉ (runOpenvpn cfg env s).1.effects ↔ nmFindOpenvpn env = none := by
  unfold runOpenvpn
  cases hfind : nmFindOpenvpn env with
  | none => simpa using hno
  | some openvpn =>
      have hsuper : (.supersede : Effect) ∈ (supersede cfg s).effects := by
        rw [supersede_eq]
        exact List.mem_cons_self
      have harm : (.supersede : Effect) ∈ (armKillSwitch cfg env (configPath cfg s.priv.uuid)
          (s.priv.connection.map (·.sVpn)) (supersede cfg s)).1.effects :=
        armKillSwitch_keeps hsuper
      dsimp only
      split
      · next heq =>
          rw [heq] at harm
          simpa using harm
      · next heq =>
          rw [heq] at harm
          simpa using spawnOpenvpn_keeps harm

theorem afterRun_supersede (r : Daemon × Except GError Unit) :
    .supersede ∉ (afterRun r).effects ↔ .supersede ∉ r.1.effects := by
  rw [mem_afterRun]
  simp

/-- A request that fails for an accepted connection supersedes the old firewall state
unless it stops early. -/
theorem connectCommon_supersede_iff {c : NMConnection} {e : GError}
    (hno : .supersede ∉ (begun cfg c s).effects) (hv : validateConnection c = .ok ())
    (hfail : (connectCommon cfg env c s).2 = .error e) :
    .supersede ∉ (connectCommon cfg env c s).1.effects ↔ StopsEarly cfg env c s.disk := by
  have hd : (begun cfg c s).disk = s.disk := by rw [begun_eq]
  have hb : beginAttempt c (cleanupPlugin cfg s) = begun cfg c s := rfl
  unfold connectCommon at hfail ⊢
  rw [hv] at hfail ⊢
  unfold connectValidated at hfail ⊢
  dsimp only at hfail ⊢
  rw [hb, hd] at hfail ⊢
  cases hm : env.io.mkdirWithParents cfg.statedir with
  | some strerror => exact ⟨fun _ => .stateDirectory (by rw [hm]; rfl), fun _ => hno⟩
  | none =>
      rw [hm] at hfail
      dsimp only at hfail ⊢
      cases hvalid : nmAirvpnCacheIsValid cfg.sha256 cfg.statedir c.uuid
          (getGeneratorParams c.sVpn) env.now s.disk with
      | true =>
          rw [if_pos rfl, runOpenvpn_supersede_iff hno]
          refine ⟨.missingBinary, fun h => ?_⟩
          cases h with
          | stateDirectory h => simp [hm] at h
          | missingKey h _ => exact absurd (hvalid.symm.trans h) (by decide)
          | missingBinary h => exact h
      | false =>
          rw [hvalid, if_neg Bool.false_ne_true] at hfail
          rw [if_neg Bool.false_ne_true]
          cases hk : nonEmpty (c.sVpn.getSecret keyApiKey) with
          | none => exact ⟨fun _ => .missingKey hvalid hk, fun _ => hno⟩
          | some apiKey =>
              rw [hk] at hfail
              cases hfail

theorem fetchDoneCb_supersede_iff {f : Fetch} {result : FetchResult} {c : NMConnection} {u : Uuid}
    (hno : .supersede ∉ s.effects) (hf : f.cancelled = false)
    (hc : s.priv.connection = some c) (hu : s.priv.uuid = some u) :
    .supersede ∉ (fetchDoneCb cfg env f result s).effects ↔
      CompletionStopsEarly cfg env result s.priv s.disk := by
  have hconn : (clearFetchCancellable s).priv.connection = some c := hc
  have huuid : (clearFetchCancellable s).priv.uuid = some u := hu
  have hdisk : (clearFetchCancellable s).disk = s.disk := rfl
  have hquiet : .supersede ∉ (clearFetchCancellable s).effects := hno
  unfold fetchDoneCb
  rw [if_neg (Bool.eq_false_iff.mp hf)]
  dsimp only
  rw [hconn, huuid]
  dsimp only
  rw [hdisk]
  cases result with
  | profile config =>
      dsimp only
      cases hst : (nmAirvpnCacheStore cfg.sha256 cfg.statedir env.io u (getGeneratorParams c.sVpn)
          config env.now s.disk).2 with
      | error e =>
          have hnone : (.supersede : Effect) ∉ Effect.failure .connectFailed ::
              .stored u (getGeneratorParams c.sVpn) config :: s.effects := by simpa using hno
          exact ⟨fun _ => .notStored hc hu rfl hst, fun _ => hnone⟩
      | ok _ =>
          dsimp only
          rw [runAfterFetch_eq, afterRun_supersede,
            runOpenvpn_supersede_iff (by simpa using hquiet)]
          refine ⟨.missingBinary, fun h => ?_⟩
          cases h with
          | notStored hc' hu' hr hst' =>
              cases hc.symm.trans hc'
              cases hu.symm.trans hu'
              cases hr
              cases hst.symm.trans hst'
          | noProfile _ _ hr _ => cases hr
          | missingBinary h => exact h
  | failed message =>
      dsimp only
      cases hexists : nmAirvpnCacheExists cfg.sha256 cfg.statedir u (getGeneratorParams c.sVpn)
          s.disk with
      | true =>
          rw [if_pos rfl, runAfterFetch_eq, afterRun_supersede, runOpenvpn_supersede_iff hquiet]
          refine ⟨.missingBinary, fun h => ?_⟩
          cases h with
          | notStored _ _ hr _ => cases hr
          | noProfile hc' hu' _ hexists' =>
              cases hc.symm.trans hc'
              cases hu.symm.trans hu'
              exact absurd (hexists.symm.trans hexists') (by decide)
          | missingBinary h => exact h
      | false =>
          rw [if_neg Bool.false_ne_true]
          generalize (if strstr message.toList "API key".toList = true then
            NMVpnPluginFailure.loginFailed else .connectFailed) = reason
          refine ⟨fun _ => .noProfile hc hu rfl hexists, fun _ => ?_⟩
          simpa using hquiet

theorem fetchDoneCb_failed {f : Fetch} {result : FetchResult} {reason : NMVpnPluginFailure}
    (hno : .failure reason ∉ s.effects)
    (he : .failure reason ∈ (fetchDoneCb cfg env f result s).effects) :
    f.cancelled = false ∧ ∃ c u, s.priv.connection = some c ∧ s.priv.uuid = some u := by
  have hconn : (clearFetchCancellable s).priv.connection = s.priv.connection := rfl
  have huuid : (clearFetchCancellable s).priv.uuid = s.priv.uuid := rfl
  have hquiet : .failure reason ∉ (clearFetchCancellable s).effects := hno
  unfold fetchDoneCb at he
  cases hf : f.cancelled with
  | true =>
      rw [hf] at he
      exact absurd he hno
  | false =>
      simp only [hf, Bool.false_eq_true, if_false, hconn, huuid] at he
      cases hc : s.priv.connection with
      | none =>
          rw [hc] at he
          exact absurd he hquiet
      | some c =>
          cases hu : s.priv.uuid with
          | none =>
              rw [hc, hu] at he
              exact absurd he hquiet
          | some u => exact ⟨rfl, c, u, rfl, rfl⟩

/-! ## The state after a failure -/

/-- What an attempt leaves that failed before its process was spawned. A table
kept for an unexpected drop is still there if the attempt failed early, before its
supersede step, and is gone with the flags if it failed later. -/
structure CleanFailure (cfg : Config) (early : Prop) (t : Transition Daemon Event) : Prop where
  untracked : t.after.priv.pid = 0
  no_fetch : t.after.priv.fetchCancellable = none ∧ liveFetches t.after = []
  no_timer : t.after.priv.connectTimer = 0 ∧ t.after.timers = []
  no_new_table : t.after.table = t.before.table ∨ t.after.table = none
  not_armed : .armed ∈ t.after.effects → t.after.table = none
  early_iff : .supersede ∉ t.after.effects ↔ early
  kept : early → t.before.priv.unexpectedDrop = true →
    t.after.priv.unexpectedDrop = true ∧ t.after.table = t.before.table
  superseded : ¬ early →
    t.after.priv.unexpectedDrop = false ∧ t.after.priv.killSwitchActive = false ∧
      (cfg.nftAvailable = true → t.after.table = none)

theorem Ready.no_liveFetches (h : Ready s) : liveFetches s = [] := by
  apply List.filter_eq_nil_iff.mpr
  intro f hf
  simp [h.cancelled f hf]

/-- The firewall after a failure: nothing that was armed is left, and nothing at
all once the old state has been superseded. -/
structure FailedFirewall (cfg : Config) (s : Daemon) : Prop where
  not_armed : .armed ∈ s.effects → s.table = none
  superseded : .supersede ∈ s.effects → s.priv.unexpectedDrop = false ∧
    s.priv.killSwitchActive = false ∧ (cfg.nftAvailable = true → s.table = none)

theorem RunOutcome.failed {e : GError} {leftover : Option (List Char)}
    (hw : s.firewall.Consistent cfg.nftAvailable leftover) (hno : .armed ∉ s.effects)
    (hs : .supersede ∉ s.effects) (hr : RunOutcome cfg env s s' (.error e)) :
    FailedFirewall cfg s' := by
  rcases hr.failed_firewall with rfl | ⟨hfw, harmed⟩
  · exact ⟨fun he => absurd he hno, fun he => absurd he hs⟩
  · refine ⟨fun he => (harmed he).resolve_left hno, fun _ => ?_⟩
    rcases hfw with hfw | hfw
    · refine ⟨congrArg Firewall.unexpectedDrop hfw, congrArg Firewall.killSwitchActive hfw,
        fun hn => ?_⟩
      have ht := hw.superseded
      rw [if_pos hn] at ht
      exact (congrArg Firewall.table hfw).trans ht
    · exact ⟨congrArg Firewall.unexpectedDrop hfw, congrArg Firewall.killSwitchActive hfw,
        fun _ => congrArg Firewall.table hfw⟩

theorem RequestOutcome.failed {c : NMConnection} {r : Except GError Unit} {e : GError}
    {leftover : Option (List Char)} (h : Coherent s)
    (hw : s.firewall.Consistent cfg.nftAvailable leftover) (hv : validateConnection c = .ok ())
    (ho : RequestOutcome cfg env c (quiet s) s' r) (he : r = .error e) :
    Ready s' ∧ FailedFirewall cfg s' := by
  have hb := h.quiet.begun_ready cfg c
  have hno : ∀ {x : Effect}, mayEmit .dispose x = false → x ∉ (begun cfg c (quiet s)).effects := by
    intro x hx he
    obtain ⟨_, _, _, rfl⟩ := mem_begun_effects he
    cases hx
  cases ho with
  | rejected hv' =>
      rw [hv] at hv'
      cases hv'
  | stopped _ _ _ => exact ⟨hb, fun he => absurd he (hno rfl), fun he => absurd he (hno rfl)⟩
  | fetching _ _ _ => cases he
  | ran _ _ hr =>
      rw [he] at hr
      have hw' : (begun cfg c (quiet s)).firewall.Consistent cfg.nftAvailable leftover := by
        rw [firewall_begun]
        exact hw.cleaned
      exact ⟨hr.failed_ready hb, hr.failed hw' (hno rfl) (hno rfl)⟩

theorem FetchOutcome.failed {f : Fetch} {result : FetchResult} {reason : NMVpnPluginFailure}
    {leftover : Option (List Char)} (h : Coherent s)
    (hw : s.firewall.Consistent cfg.nftAvailable leftover) (hf : f ∈ s.fetches)
    (ho : FetchOutcome cfg env f result
      { quiet s with fetches := s.fetches.filter (·.attempt ≠ f.attempt) } s')
    (he : .failure reason ∈ s'.effects) : Ready s' ∧ FailedFirewall cfg s' := by
  have hready := fun hc => h.quiet.finishFetch (f := f) hf hc
  have ran : ∀ {s₀ : Daemon} {r : Daemon × Except GError Unit}, RunOutcome cfg env s₀ r.1 r.2 →
      Ready s₀ → s₀.firewall = s.firewall →
      (.armed ∉ s₀.effects ∧ .supersede ∉ s₀.effects ∧ ∀ x, .failure x ∉ s₀.effects) →
      .failure reason ∈ (afterRun r).effects →
        Ready (afterRun r) ∧ FailedFirewall cfg (afterRun r) := by
    rintro s₀ ⟨s₁, res⟩ hr hs₀ hfw ⟨harm, hsup, hfail⟩ he
    cases res with
    | ok _ =>
        rcases hr.effects he with he | he
        · exact absurd he (hfail _)
        · cases he
    | error g =>
        have hready' := hr.failed_ready hs₀
        have hfailed := hr.failed (hfw ▸ hw) harm hsup
        exact ⟨hready'.congr _ _, fun he => hfailed.not_armed (by simpa [afterRun] using he),
          fun he => hfailed.superseded (by simpa [afterRun] using he)⟩
  cases ho with
  | cancelled _ => cases he
  | abandoned _ _ => cases he
  | notStored hc _ _ _ =>
      refine ⟨(hready hc).congr _ _, fun he => ?_, fun he => ?_⟩ <;> simp [quiet] at he
  | stored hc _ _ _ _ hr =>
      exact ran hr ((hready hc).congr _ _) rfl (by simp [quiet]) he
  | noProfile _ hc _ =>
      refine ⟨(hready hc).congr _ _, fun he => ?_, fun he => ?_⟩ <;> simp [quiet] at he
  | fallback hc _ _ _ hr =>
      exact ran hr (hready hc) rfl (by simp [quiet, clearFetchCancellable]) he

theorem cleanFailure_of {t : Transition Daemon Event} {early : Prop}
    (hstep : step cfg t.before t.event = some t.after) (hready : Ready t.after)
    (hfw : FailedFirewall cfg t.after) (hearly : .supersede ∉ t.after.effects ↔ early) :
    CleanFailure cfg early t where
  untracked := hready.pid
  no_fetch := ⟨hready.cancellable, hready.no_liveFetches⟩
  no_timer := ⟨hready.connectTimer, hready.timers⟩
  no_new_table := by
    obtain ⟨b, hw, hb⟩ := firewall_step hstep
    by_cases hnone : b = true ∧ cfg.nftAvailable = true
    · exact .inr ((hfw.superseded (hb.mp hnone.1)).2.2 hnone.2)
    · exact hw.no_new_table fun h => Bool.eq_false_iff.mpr fun hn => hnone ⟨h, hn⟩
  not_armed := hfw.not_armed
  early_iff := hearly
  kept he hdrop := by
    obtain ⟨b, hw, hb⟩ := firewall_step hstep
    cases b with
    | true => exact absurd (hb.mp rfl) (hearly.mpr he)
    | false => exact hw.kept hdrop
  superseded he := hfw.superseded (not_not.mp (mt hearly.mp he))

/-! ## Every failure of every run -/

/-- A rejected request leaves the whole state as it was; a request that fails
later, and a fetch completion that reports a failure, leave a clean one. -/
structure FailureDiscipline (cfg : Config) (t : Transition Daemon Event) : Prop where
  rejected : ∀ c env e, t.event.request = some (c, env) → validateConnection c = .error e →
    t.after = { t.before with effects := [.reply (.error e)] }
  request_failed : ∀ c env e, t.event.request = some (c, env) → validateConnection c = .ok () →
    .reply (.error e) ∈ t.after.effects →
      CleanFailure cfg (StopsEarly cfg env c t.before.disk) t
  fetch_failed : ∀ a result env reason, t.event = .fetchDone a result env →
    .failure reason ∈ t.after.effects →
      CleanFailure cfg (CompletionStopsEarly cfg env result t.before.priv t.before.disk) t

theorem RequestOutcome.no_reply {c : NMConnection} {r : Except GError Unit}
    (ho : RequestOutcome cfg env c (quiet s) s' r) {x : Except GError Unit} :
    .reply x ∉ s'.effects := by
  intro he
  rcases ho.effects he with h | ⟨_, _, _, h⟩ | ⟨_, h⟩ <;> cases h

theorem failure_discipline (cfg : Config) (left : Leftover) (events : List Event) :
    Always (FailureDiscipline cfg) (runs cfg left events) := by
  have hinv := (coherent_inductive cfg left).and
    (fun _ h hs => (consistent_inductive cfg left).next h hs) (consistent_inductive cfg left).start
  refine hinv.always (fun t h hs => ?_) events
  refine ⟨fun c env e he hv => ?_, fun c env e he hv hm => ?_,
    fun a result env reason he hm => ?_⟩
  · obtain ⟨r, i, ho, hi, heq⟩ := step_request hs he
    obtain ⟨s₁, res⟩ := r
    cases ho with
    | rejected hv' =>
        cases hv.symm.trans hv'
        rcases hi with hi | rfl
        · cases hi
        · exact heq
    | stopped _ hv' _ | fetching _ hv' _ | ran hv' _ _ =>
        rw [hv] at hv'
        cases hv'
  · obtain ⟨i, heq⟩ := step_request_eq hs he
    have ho := connectCommon_cases cfg env c (quiet t.before)
    rw [heq] at hm
    have hres : (connectCommon cfg env c (quiet t.before)).2 = .error e := by
      rcases List.mem_cons.mp hm with hm | hm
      · exact (Effect.reply.inj hm).symm
      · exact absurd hm ho.no_reply
    have hno : .supersede ∉ (begun cfg c (quiet t.before)).effects := fun hx => by
      obtain ⟨_, _, _, hx⟩ := mem_begun_effects hx
      cases hx
    obtain ⟨hready, hfw⟩ := ho.failed h.1 h.2 hv hres
    refine cleanFailure_of hs ?_ ?_ ?_ <;> rw [heq]
    · exact ⟨{ hready.coherent with }, hready.pid, hready.cancellable, hready.fresh, hready.uuid⟩
    · exact ⟨fun ha => hfw.not_armed (by simpa using ha),
        fun ha => hfw.superseded (by simpa using ha)⟩
    · have hearly : .supersede ∉ (connectCommon cfg env c (quiet t.before)).1.effects ↔
          StopsEarly cfg env c t.before.disk := connectCommon_supersede_iff hno hv hres
      simpa using hearly
  · obtain ⟨s, e, s'⟩ := t
    subst he
    dsimp only at hs hm h ⊢
    obtain ⟨f, hf, rfl, rfl⟩ := step_fetchDone_eq hs
    obtain ⟨hready, hfw⟩ := (fetchDone_cases _ _ _ _ _).failed h.1 h.2 hf hm
    obtain ⟨hlive, c, u, hc, hu⟩ := fetchDoneCb_failed (by simp [quiet]) hm
    have hno : .supersede ∉ (quiet s).effects := by simp [quiet]
    exact cleanFailure_of hs hready hfw (fetchDoneCb_supersede_iff hno hlive hc hu)

/-- A request that fails after the validation leaves a table kept for an
unexpected drop where it is. -/
def KeepsBlock (t : Transition Daemon Event) : Prop :=
  ∀ c env e, t.event.request = some (c, env) → validateConnection c = .ok () →
    .reply (.error e) ∈ t.after.effects → t.before.priv.unexpectedDrop = true →
    t.after.table = t.before.table

def sampleDropped : List Event :=
  sampleDrop ++
    [.childWatch 1 (.signaled 9) (sampleEnv (.ok 701)), .disconnect (sampleEnv (.ok 701))]

def sampleNoMemory : GError := ⟨.spawnError, "Failed to fork (Cannot allocate memory)"⟩

def sampleFailedSpawn : Event := .connect sampleConnection (sampleEnv (.error sampleNoMemory))

/-- When openvpn cannot be spawned for the reconnect, the block is lifted. -/
theorem failed_spawn_lifts_block :
    ¬ Always KeepsBlock (runs (sampleConfig true) (sampleLeftover none)
      (sampleDropped ++ [sampleFailedSpawn])) := by
  intro h
  obtain ⟨s', ⟨hreply, hlifted⟩, hkeeps⟩ := h.last
    (Q := fun s' => .reply (.error sampleNoMemory) ∈ s'.effects ∧ s'.table = none)
    (by decide +kernel) (by decide +kernel)
  have hdrop : (sampleState sampleDropped).priv.unexpectedDrop = true := by decide +kernel
  have hblock : (sampleState sampleDropped).table ≠ none := by decide +kernel
  have hkept := hkeeps _ _ sampleNoMemory rfl (by decide +kernel) hreply hdrop
  exact hblock (hkept.symm.trans hlifted)

end AirVpn.Service
