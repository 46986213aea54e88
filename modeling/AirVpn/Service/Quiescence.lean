import AirVpn.Service.Fetches

/-! # After a disconnect

What `real_disconnect` leaves, and that no event left over from before moves it:
the plugin is at rest until the next request. Only a table that was there before
the daemon, on a machine without nft, outlives a disconnect beside the one kept
for an unexpected drop.
-/

namespace AirVpn.Service

open Daemon Machine

variable {cfg : Config} {env : Env} {s s' : Daemon}

/-- The plugin holds nothing, and a table that it has armed is kept for a drop. -/
structure AtRest (s : Daemon) : Prop where
  pid : s.priv.pid = 0
  connectTimer : s.priv.connectTimer = 0
  timers : s.timers = []
  fetches : ∀ f ∈ s.fetches, f.cancelled = true
  connection : s.priv.connection = none
  uuid : s.priv.uuid = none
  started : s.priv.started = false
  block : s.priv.killSwitchActive = true → s.priv.unexpectedDrop = true

def Effect.harmless : Effect → Bool
  | .failure _ | .disconnected | .signalled _ _ _ => true
  | _ => false

/-- From rest to rest: the firewall and the state directory stay as they are. -/
structure Calm (s s' : Daemon) : Prop where
  rest : AtRest s'
  table : s'.table = s.table
  drop : s'.priv.unexpectedDrop = s.priv.unexpectedDrop
  disk : s'.disk = s.disk
  effects : ∀ e ∈ s'.effects, e ∈ s.effects ∨ e.harmless = true

namespace AtRest

theorem quiet (h : AtRest s) : AtRest (quiet s) := { h with }

theorem refl (h : AtRest s) : Calm s s := ⟨h, rfl, rfl, rfl, fun _ he => .inl he⟩

theorem clearedTimers (h : AtRest s) : clearedTimers s = [] := by
  rw [Service.clearedTimers, if_pos h.connectTimer, h.timers]

theorem cleanedTable (h : AtRest s) (cfg : Config) : cleanedTable cfg s = s.table := by
  have hblock := h.block
  unfold Service.cleanedTable
  cases hactive : s.priv.killSwitchActive with
  | false => rfl
  | true => simp [hblock hactive]

theorem disconnectMark (h : AtRest s) : disconnectMark s.priv = none := by
  simp [Service.disconnectMark, h.pid]

theorem cleanedEffects (h : AtRest s) : cleanedEffects s = [] := if_pos h.pid

theorem of_cleanedPriv (hpriv : s'.priv = cleanedPriv s.priv) (htimers : s'.timers = [])
    (hfetches : ∀ f ∈ s'.fetches, f.cancelled = true) : AtRest s' := by
  refine ⟨?_, ?_, htimers, hfetches, ?_, ?_, ?_, ?_⟩ <;> rw [hpriv]
  · rfl
  · rfl
  · rfl
  · rfl
  · rfl
  · simp only [cleanedPriv, Bool.and_eq_true]
    exact fun hactive => hactive.2

theorem cancelled (h : AtRest s) (cancellable : Option Nat) :
    ∀ f ∈ cancelFetches cancellable s.fetches, f.cancelled = true := by
  intro f hf
  obtain ⟨g, hg, rfl⟩ := List.mem_map.mp hf
  split
  · rfl
  · exact h.fetches g hg

theorem cleanup (h : AtRest s) (cfg : Config) : Calm s (cleanupPlugin cfg s) := by
  rw [cleanupPlugin_eq]
  exact ⟨.of_cleanedPriv rfl h.clearedTimers (h.cancelled _), h.cleanedTable cfg, rfl, rfl,
    fun e he => .inl (by simpa [h.cleanedEffects] using he)⟩

theorem disconnect (h : AtRest s) (cfg : Config) (env : Env) :
    Calm s (nmVpnServicePluginDisconnect cfg env s) := by
  cases hs : svcActive s with
  | false =>
      rw [disconnect_inactive hs]
      exact h.refl
  | true =>
      rw [disconnect_active hs]
      refine ⟨.of_cleanedPriv rfl h.clearedTimers (h.cancelled _), h.cleanedTable cfg, rfl, ?_,
        fun e he => ?_⟩
      · rw [h.disconnectMark]
        rfl
      · rw [h.disconnectMark, h.cleanedEffects] at he
        rcases List.mem_cons.mp he with rfl | he
        · exact .inr rfl
        · exact .inl he

theorem setState (h : AtRest s) {state : NMVpnServiceState} (hne : state ≠ .started) :
    Calm s (nmVpnServicePluginSetState state s) := by
  by_cases hs : s.svc = state
  · rw [setState_same hs]
    exact h.refl
  · rw [setState_new hs]
    refine ⟨?_, rfl, ?_, rfl, fun e he => .inl he⟩
    · have htimers := h.clearedTimers
      cases state with
      | started => exact absurd rfl hne
      | starting => exact { h with }
      | _ => exact { h with connectTimer := rfl, timers := htimers, connection := rfl }
    · cases state <;> rfl

theorem ofProcs (h : AtRest s) (procs : List Proc) (killTimers others : List Nat) :
    Calm s { s with procs := procs, killTimers := killTimers, others := others } :=
  ⟨{ h with }, rfl, rfl, rfl, fun _ he => .inl he⟩

end AtRest

theorem Calm.trans {s'' : Daemon} (h : Calm s s') (h' : Calm s' s'') : Calm s s'' where
  rest := h'.rest
  table := h'.table.trans h.table
  drop := h'.drop.trans h.drop
  disk := h'.disk.trans h.disk
  effects e he := (h'.effects e he).elim (h.effects e) .inr

theorem AtRest.watch (h : AtRest s) (cfg : Config) (env : Env) (status : WaitStatus) :
    Calm s (openvpnWatchCb cfg env status s) := by
  have hreleased : Calm s (released env s) :=
    ⟨{ h with pid := rfl, connectTimer := rfl, timers := h.clearedTimers }, rfl, rfl, rfl,
      fun _ he => .inl he⟩
  rw [watch_eq]
  cases status.abnormal with
  | false => exact hreleased.trans (hreleased.rest.disconnect cfg env)
  | true =>
      rw [if_pos rfl, h.started, if_neg (by decide), h.uuid]
      refine ⟨{ hreleased.rest with }, rfl, rfl, rfl, fun e he => ?_⟩
      rcases List.mem_cons.mp he with rfl | he
      · exact .inr rfl
      · exact .inl he

theorem AtRest.kill (h : AtRest s) (pid : Nat) (signal : Signal) : Calm s (s.kill pid signal) := by
  rw [kill_eq]
  refine ⟨{ h with }, rfl, rfl, rfl, fun e he => ?_⟩
  rcases List.mem_append.mp he with he | he
  · obtain ⟨target, rfl⟩ := mem_killEffects he
    exact .inr rfl
  · exact .inl he

/-! ## Leftover events -/

/-- Everything but a request and the news that a tunnel is up. -/
def Event.leftover (e : Event) : Bool :=
  match e with
  | .connect _ _ | .connectInteractive _ _ | .newSecrets _ _ | .stateChange .started => false
  | _ => true

theorem Event.leftover_request {e : Event} (h : e.leftover = true) : e.request = none := by
  cases e <;> first | rfl | cases h

theorem FetchOutcome.of_cancelled {f : Fetch} {result : FetchResult} (hf : f.cancelled = true)
    (ho : FetchOutcome cfg env f result s s') : s' = s := by
  cases ho with
  | cancelled _ => rfl
  | abandoned hlive _ => exact absurd (hf.symm.trans hlive) (by decide)
  | notStored hlive _ _ _ => exact absurd (hf.symm.trans hlive) (by decide)
  | stored hlive _ _ _ _ _ => exact absurd (hf.symm.trans hlive) (by decide)
  | noProfile _ hlive _ => exact absurd (hf.symm.trans hlive) (by decide)
  | fallback hlive _ _ _ _ => exact absurd (hf.symm.trans hlive) (by decide)

theorem calm_step {e : Event} (h : AtRest s) (he : e.leftover = true)
    (hs : step cfg s e = some s') : Calm (quiet s) s' := by
  have hq := h.quiet
  cases step_cases hs with
  | request _ hreq _ _ _ => exact absurd (hreq.symm.trans (Event.leftover_request he)) (by simp)
  | disconnect env => exact hq.disconnect cfg env
  | stateChange state =>
      refine hq.setState ?_
      rintro rfl
      cases he
  | @fetchDone a result env f _ hf _ _ ho =>
      have hrest : AtRest { quiet s with fetches := s.fetches.filter (·.attempt ≠ a) } :=
        { hq with fetches := fun g hg => h.fetches g (List.mem_filter.mp hg).1 }
      rw [ho.of_cancelled (h.fetches f hf)]
      exact ⟨hrest, rfl, rfl, rfl, fun _ he => .inl he⟩
  | childExits _ _ => exact hq.ofProcs _ _ _
  | childReaped _ _ => exact hq.ofProcs _ _ _
  | @childWatch p status env _ _ =>
      have hset : Calm (Service.quiet s) ((Service.quiet s).setProc p.attempt .notified) :=
        hq.ofProcs _ s.killTimers s.others
      exact hset.trans (hset.rest.watch cfg env status)
  | connectTimeout env ht =>
      rw [h.timers] at ht
      cases ht
  | @killTimeout pid _ =>
      have htimer := hq.ofProcs s.procs (s.killTimers.erase pid) s.others
      exact htimer.trans (htimer.rest.kill _ _)
  | otherStarts _ => exact hq.ofProcs _ _ _
  | otherEnds _ => exact hq.ofProcs _ _ _
  | dispose => exact hq.cleanup cfg

theorem AtRest.run (h : AtRest s) (later : List Event) (hlater : ∀ e ∈ later, e.leftover = true) :
    Always (fun t => Calm (Service.quiet t.before) t.after) (Machine.run (step cfg) s later) := by
  induction later generalizing s with
  | nil => simp [Always]
  | cons e later ih =>
      have hrest := fun e he => hlater e (List.mem_cons_of_mem _ he)
      cases hs : step cfg s e with
      | none =>
          rw [run_cons_none hs]
          exact ih h hrest
      | some s' =>
          have hcalm := calm_step h (hlater e List.mem_cons_self) hs
          rw [run_cons_some hs]
          intro t ht
          rcases List.mem_cons.mp ht with rfl | ht
          · exact hcalm
          · exact ih hcalm.rest hrest t ht

/-! ## What a disconnect leaves -/

theorem Coherent.disconnect_atRest (h : Coherent s) (hs : svcActive s = true) (cfg : Config)
    (env : Env) : AtRest (nmVpnServicePluginDisconnect cfg env s) := by
  rw [disconnect_active hs]
  exact .of_cleanedPriv rfl h.clearedTimers_eq h.cancelled_of_cancelFetches

/-- The disconnect that a step has handled is the last thing it did. -/
theorem atRest_of_disconnected {e : Event} (hc : Coherent s) (hs : step cfg s e = some s')
    (he : .disconnected ∈ s'.effects) : AtRest s' := by
  have hmay := step_effects hs he
  have handled : ∀ {s₀ : Daemon} {env : Env}, Coherent s₀ → .disconnected ∉ s₀.effects →
      .disconnected ∈ (nmVpnServicePluginDisconnect cfg env s₀).effects →
      AtRest (nmVpnServicePluginDisconnect cfg env s₀) := by
    intro s₀ env hc₀ hno he
    cases ha : svcActive s₀ with
    | false =>
        rw [disconnect_inactive ha] at he
        exact absurd he hno
    | true => exact hc₀.disconnect_atRest ha cfg env
  cases step_cases hs with
  | disconnect env => exact handled hc.quiet (by simp [quiet]) he
  | @childWatch p status env _ _ =>
      rw [watch_eq] at he ⊢
      cases hab : status.abnormal with
      | false =>
          rw [hab, if_neg (by decide)] at he
          rw [if_neg (by decide)]
          exact handled (hc.quiet.watch p.attempt env)
            (by simp [released, quiet, waitpid, setProc]) he
      | true =>
          rw [hab, if_pos rfl] at he
          split at he
          · simp [quiet, setProc] at he
          · simp [quiet, setProc, mem_markEffects] at he
  | request _ hreq _ _ _ => cases e <;> cases hreq <;> cases hmay
  | _ => cases hmay

/-- The fields that `real_disconnect` leaves. -/
structure Quiescent (s : Daemon) : Prop where
  pid : s.priv.pid = 0
  connectTimer : s.priv.connectTimer = 0
  fetches : liveFetches s = []
  connection : s.priv.connection = none
  uuid : s.priv.uuid = none
  started : s.priv.started = false

theorem AtRest.quiescent (h : AtRest s) : Quiescent s where
  pid := h.pid
  connectTimer := h.connectTimer
  fetches := List.filter_eq_nil_iff.mpr fun f hf => by simp [h.fetches f hf]
  connection := h.connection
  uuid := h.uuid
  started := h.started

/-- What a later event leaves alone: no process is started, no table loaded or
deleted, no drop recorded, no profile stored or marked. -/
structure Harmless (t : Transition Daemon Event) : Prop where
  table : t.after.table = t.before.table
  drop : t.after.priv.unexpectedDrop = t.before.priv.unexpectedDrop
  disk : t.after.disk = t.before.disk
  effects : ∀ e ∈ t.after.effects, e.harmless = true

/-- A disconnect leaves the plugin quiescent with the table as a rule says, and
whatever is left over from before stays harmless until the next request. -/
def Quiesces (cfg : Config) (table : Daemon → Prop) (t : Transition Daemon Event) : Prop :=
  .disconnected ∈ t.after.effects →
    Quiescent t.after ∧ table t.after ∧
      ∀ later : List Event, (∀ e ∈ later, e.leftover = true) →
        Always Harmless (run (step cfg) t.after later)

def NoTable (s : Daemon) : Prop := s.table = none ∨ s.priv.unexpectedDrop = true

/-- Or the one that was there before the daemon, which cannot be touched without
nft. -/
def NoTableOfOurs (cfg : Config) (left : Leftover) (s : Daemon) : Prop :=
  NoTable s ∨ cfg.nftAvailable = false ∧ s.table = left.table

theorem AtRest.noTable {left : Leftover} (h : AtRest s)
    (hw : s.firewall.Consistent cfg.nftAvailable left.table) : NoTableOfOurs cfg left s := by
  unfold Firewall.Consistent at hw
  cases hn : cfg.nftAvailable with
  | false =>
      rw [hn, if_neg (by decide)] at hw
      exact .inr ⟨hn, hw.2⟩
  | true =>
      rw [hn, if_pos rfl] at hw
      refine .inl ?_
      cases hactive : s.priv.killSwitchActive with
      | false =>
          have hsome : s.table.isSome = false := hw.trans hactive
          exact .inl (Option.not_isSome_iff_eq_none.mp (by simp [hsome]))
      | true => exact .inr (h.block hactive)

/-- Every disconnect of every run quiesces the plugin. -/
theorem disconnect_quiesces (cfg : Config) (left : Leftover) (events : List Event) :
    Always (Quiesces cfg (NoTableOfOurs cfg left)) (runs cfg left events) := by
  have hI := (coherent_inductive cfg left).and
    (J := fun s => s.firewall.Consistent cfg.nftAvailable left.table)
    (fun _ hw hs => (consistent_inductive cfg left).next hw hs)
    (consistent_inductive cfg left).start
  refine hI.always (fun t h hs he => ?_) events
  have hrest := atRest_of_disconnected h.1 hs he
  refine ⟨hrest.quiescent, hrest.noTable (hI.next h hs).2, fun later hlater t' ht' => ?_⟩
  have hcalm := hrest.run later hlater t' ht'
  exact ⟨hcalm.table, hcalm.drop, hcalm.disk,
    fun e he => (hcalm.effects e he).resolve_left (by simp [quiet])⟩

def sampleOpen : NMConnection where
  uuid := sampleUuid
  sVpn :=
    { data := [(keyServer, "ch")]
      secrets := [(keyApiKey, "k")]
      data_nodup := List.nodup_singleton keyServer
      secrets_nodup := List.nodup_singleton keyApiKey }

/-- The rules of an earlier instance are there, nft is not; a connection is
started and disconnected. -/
theorem leftover_table_stays :
    ¬ Always (Quiesces (sampleConfig false) NoTable)
      (runs (sampleConfig false) (sampleLeftover (some rulesetHead))
        ([.connect sampleOpen (sampleEnv (.ok 700)), .stateChange .starting] ++
          [.disconnect (sampleEnv (.ok 700))])) := by
  intro h
  obtain ⟨s', ⟨he, htable, hdrop⟩, hq⟩ := h.last
    (Q := fun s' => .disconnected ∈ s'.effects ∧ s'.table.isSome = true ∧
      s'.priv.unexpectedDrop = false)
    (by decide +kernel) (by decide +kernel)
  rcases (hq he).2.1 with hnone | hdrop'
  · exact absurd (hnone ▸ htable) (by decide)
  · exact absurd (hdrop.symm.trans hdrop') (by decide)

end AirVpn.Service
