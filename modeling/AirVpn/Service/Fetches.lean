import AirVpn.Service.KillSwitch

/-! # Fetches over whole runs

A completion reads the plugin's fields and not the request, so what it stores is
right only because those fields still are the ones of the request, or the fetch
is cancelled. The last section is about the kill switch and the fetch: the rules
kept for an unexpected drop are not dropped by a request that has to fetch.
-/

namespace AirVpn.Service

open Daemon Machine

variable {cfg : Config} {env : Env} {s s' : Daemon}

def liveFetches (s : Daemon) : List Fetch := s.fetches.filter fun f => !f.cancelled

theorem mem_liveFetches {f : Fetch} :
    f ∈ liveFetches s ↔ f ∈ s.fetches ∧ f.cancelled = false := by
  simp [liveFetches]

/-- The attempt that a fetch belongs to has been superseded or disconnected. -/
def Ended (s : Daemon) (f : Fetch) : Prop :=
  f.attempt ≠ s.attempt ∨ s.priv.uuid = none ∨ s.priv.connection = none

namespace Coherent

theorem liveFetches_le (h : Coherent s) : (liveFetches s).length ≤ 1 := by
  have hnodup : (liveFetches s).Nodup := h.fetch_nodup.of_map.filter _
  have hmem : ∀ f ∈ liveFetches s, f ∈ s.fetches ∧ f.cancelled = false := fun f hf =>
    mem_liveFetches.mp hf
  cases hl : liveFetches s with
  | nil => exact Nat.zero_le _
  | cons f rest =>
      cases rest with
      | nil => exact Nat.le_refl _
      | cons g rest =>
          rw [hl] at hnodup hmem
          obtain ⟨hf, hcf⟩ := hmem f (by simp)
          obtain ⟨hg, hcg⟩ := hmem g (by simp)
          have heq := h.fetch_unique hf hg hcf hcg
          simp [heq] at hnodup

theorem live_current (h : Coherent s) {f : Fetch} (hf : f ∈ s.fetches)
    (hc : f.cancelled = false) : f.attempt = s.attempt ∧ s.priv.uuid = some f.uuid :=
  ⟨(h.fetch_phase _ (h.fetch_live f hf hc)).1, (h.fetch_request f hf hc).1⟩

end Coherent

/-! ## Where the fetches of a state come from -/

structure StillFetch (f f' : Fetch) : Prop where
  attempt : f'.attempt = f.attempt
  uuid : f'.uuid = f.uuid
  params : f'.params = f.params
  live : f'.cancelled = false → f' = f

theorem StillFetch.refl (f : Fetch) : StillFetch f f := ⟨rfl, rfl, rfl, fun _ => rfl⟩

theorem stillFetch_of_cancelFetches {cancellable : Option Nat} {fetches : List Fetch} {f' : Fetch}
    (h : f' ∈ cancelFetches cancellable fetches) : ∃ f ∈ fetches, StillFetch f f' := by
  obtain ⟨f, hf, rfl⟩ := List.mem_map.mp h
  refine ⟨f, hf, ?_⟩
  split
  · exact ⟨rfl, rfl, rfl, fun hc => by cases hc⟩
  · exact .refl f

theorem RunOutcome.fetches {r : Except GError Unit} (h : RunOutcome cfg env s s' r) :
    s'.fetches = s.fetches := by
  cases h <;> rfl

theorem FetchOutcome.fetches {f : Fetch} {result : FetchResult}
    (h : FetchOutcome cfg env f result s s') : s'.fetches = s.fetches := by
  cases h with
  | stored _ _ _ _ _ hr => rw [afterRun_eq, hr.fetches]; rfl
  | fallback _ _ _ _ hr => rw [afterRun_eq, hr.fetches]; rfl
  | _ => rfl

/-- A request of a connection starts the fetch, with its parameters. -/
structure StartedFor (c : NMConnection) (attempt : Nat) (f : Fetch) : Prop where
  attempt : f.attempt = attempt
  uuid : f.uuid = c.uuid
  params : f.params = getGeneratorParams c.sVpn

theorem RequestOutcome.fetches {c : NMConnection} {r : Except GError Unit}
    (h : RequestOutcome cfg env c s s' r) {f' : Fetch} (hf : f' ∈ s'.fetches) :
    (∃ f ∈ s.fetches, StillFetch f f') ∨ StartedFor c s'.attempt f' := by
  have hb : f' ∈ (begun cfg c s).fetches → ∃ f ∈ s.fetches, StillFetch f f' := fun hm => by
    rw [begun_eq] at hm
    exact stillFetch_of_cancelFetches hm
  cases h with
  | rejected _ => exact .inl ⟨f', hf, .refl f'⟩
  | stopped _ _ _ => exact .inl (hb hf)
  | fetching _ _ _ =>
      rcases List.mem_cons.mp hf with rfl | hf
      · exact .inr ⟨rfl, rfl, rfl⟩
      · exact .inl (hb hf)
  | ran _ _ hr => exact .inl (hb (hr.fetches ▸ hf))

theorem fetches_disconnect {f' : Fetch}
    (hf : f' ∈ (nmVpnServicePluginDisconnect cfg env s).fetches) :
    ∃ f ∈ s.fetches, StillFetch f f' := by
  cases hs : svcActive s with
  | false =>
      rw [disconnect_inactive hs] at hf
      exact ⟨f', hf, .refl f'⟩
  | true =>
      rw [disconnect_active hs] at hf
      exact stillFetch_of_cancelFetches hf

/-- Every fetch was there before the step or is the one that a request starts. -/
theorem fetches_step {e : Event} (hs : step cfg s e = some s') {f' : Fetch}
    (hf : f' ∈ s'.fetches) :
    (∃ f ∈ s.fetches, StillFetch f f') ∨
      ∃ c env, e.request = some (c, env) ∧ StartedFor c s'.attempt f' := by
  have same : s'.fetches = s.fetches → ∃ f ∈ s.fetches, StillFetch f f' := fun heq =>
    ⟨f', heq ▸ hf, .refl f'⟩
  cases step_cases hs with
  | @request _ c env r _ he _ ho _ =>
      rcases ho.fetches hf with h | h
      · exact .inl h
      · exact .inr ⟨c, env, he, h⟩
  | disconnect env => exact .inl (fetches_disconnect (s := quiet s) hf)
  | stateChange state =>
      refine .inl (same ?_)
      rw [setState_eq]
      rfl
  | fetchDone _ _ _ _ ho =>
      rw [ho.fetches] at hf
      exact .inl ⟨f', List.mem_of_mem_filter hf, .refl f'⟩
  | @childWatch p status env _ _ =>
      rw [watch_eq] at hf
      split at hf
      · split at hf <;> exact .inl ⟨f', hf, .refl f'⟩
      · exact .inl
          (fetches_disconnect (s := released env ((quiet s).setProc p.attempt .notified)) hf)
  | connectTimeout env _ =>
      rw [timeout_eq] at hf
      split at hf <;> exact .inl ⟨f', hf, .refl f'⟩
  | killTimeout _ =>
      rw [kill_eq] at hf
      exact .inl ⟨f', hf, .refl f'⟩
  | dispose =>
      rw [cleanupPlugin_eq] at hf
      exact .inl (stillFetch_of_cancelFetches hf)
  | _ => exact .inl (same rfl)

/-! ## Completions -/

theorem FetchOutcome.stored_from {f : Fetch} {result : FetchResult} {fs : List Fetch}
    (h : FetchOutcome cfg env f result { quiet s with fetches := fs } s') {u : Uuid}
    {params : NMAirvpnGeneratorParams} {config : String}
    (he : .stored u params config ∈ s'.effects) :
    f.cancelled = false ∧ result = .profile config ∧ s.priv.uuid = some u ∧
      ∃ c, s.priv.connection = some c ∧ params = getGeneratorParams c.sVpn := by
  cases h with
  | cancelled _ => cases he
  | abandoned _ _ => cases he
  | notStored hc hconn hu hr =>
      simp only [List.mem_cons, reduceCtorEq, Effect.stored.injEq, false_or] at he
      rcases he with ⟨rfl, rfl, rfl⟩ | he
      · exact ⟨hc, hr, hu, _, hconn, rfl⟩
      · cases he
  | stored hc hconn hu hr _ hrun =>
      rcases mem_afterRun.mp he with he | ⟨_, _, heq⟩
      · rcases hrun.effects he with he | he
        · rcases List.mem_cons.mp he with heq | he
          · cases heq
            exact ⟨hc, hr, hu, _, hconn, rfl⟩
          · cases he
        · cases he
      · cases heq
  | noProfile _ _ _ =>
      rcases List.mem_cons.mp he with heq | he
      · cases heq
      · cases he
  | fallback _ _ _ _ hrun =>
      rcases mem_afterRun.mp he with he | ⟨_, _, heq⟩
      · rcases hrun.effects he with he | he
        · cases he
        · cases he
      · cases heq

theorem FetchOutcome.inert {f : Fetch} {result : FetchResult} {fs : List Fetch} (h : Coherent s)
    (hf : f ∈ s.fetches) (hended : Ended s f)
    (ho : FetchOutcome cfg env f result { quiet s with fetches := fs } s') :
    ∃ cancellable,
      s' = { quiet s with
        fetches := fs
        priv := { s.priv with fetchCancellable := cancellable } } ∧
      (s.priv.fetchCancellable ≠ some f.attempt → cancellable = s.priv.fetchCancellable) := by
  have live : f.cancelled = false → s.priv.connection ≠ none → False := by
    intro hc hconn
    obtain ⟨ha, hu⟩ := h.live_current hf hc
    rcases hended with hne | hn | hn
    · exact hne ha
    · rw [hu] at hn
      cases hn
    · exact hconn hn
  cases ho with
  | cancelled _ => exact ⟨s.priv.fetchCancellable, rfl, fun _ => rfl⟩
  | abandoned hc _ => exact ⟨none, rfl, fun hne => absurd (h.fetch_live f hf hc) hne⟩
  | notStored hc hconn _ _ => exact (live hc (by simp [show s.priv.connection = _ from hconn])).elim
  | stored hc hconn _ _ _ _ =>
      exact (live hc (by simp [show s.priv.connection = _ from hconn])).elim
  | noProfile _ hc hconn => exact (live hc (by simp [show s.priv.connection = _ from hconn])).elim
  | fallback hc hconn _ _ _ =>
      exact (live hc (by simp [show s.priv.connection = _ from hconn])).elim

/-- What every step keeps about fetches: at most one is live, each goes back to
the request that asked for its parameters and its connection, a profile is stored
only for the live fetch that returned it and under its parameters, and the
completion of an ended attempt's fetch has no effect and leaves everything but
itself and its own cancellable alone. -/
structure FetchDiscipline (t : Transition Daemon Event) : Prop where
  one_live : (liveFetches t.after).length ≤ 1
  origin : ∀ f' ∈ t.after.fetches, (∃ f ∈ t.before.fetches, StillFetch f f') ∨
    ∃ c env, t.event.request = some (c, env) ∧ StartedFor c t.after.attempt f'
  stored_as_requested : ∀ u params config, .stored u params config ∈ t.after.effects →
    ∃ f ∈ liveFetches t.before, f.uuid = u ∧ f.params = params ∧
      ∃ env, t.event = .fetchDone f.attempt (.profile config) env
  ended_inert : ∀ f ∈ t.before.fetches, ∀ result env, t.event = .fetchDone f.attempt result env →
    Ended t.before f →
    ∃ cancellable,
      t.after = { quiet t.before with
        fetches := t.before.fetches.filter (·.attempt ≠ f.attempt)
        priv := { t.before.priv with fetchCancellable := cancellable } } ∧
      (t.before.priv.fetchCancellable ≠ some f.attempt →
        cancellable = t.before.priv.fetchCancellable)

theorem fetch_discipline (cfg : Config) (left : Leftover) (events : List Event) :
    Always FetchDiscipline (runs cfg left events) := by
  refine (coherent_inductive cfg left).always (fun t h hs => ?_) events
  refine ⟨(coherent_step h hs).liveFetches_le, fun f' hf => fetches_step hs hf, ?_, ?_⟩
  · intro u params config he
    obtain ⟨s, e, s'⟩ := t
    have hmay := step_effects hs he
    cases e with
    | fetchDone a result env =>
        obtain ⟨f, hf, rfl, ho⟩ := step_fetchDone hs
        obtain ⟨hc, rfl, hu, c, hconn, rfl⟩ := ho.stored_from he
        obtain ⟨huuid, hparams⟩ := h.fetch_request f hf hc
        exact ⟨f, mem_liveFetches.mpr ⟨hf, hc⟩, Option.some.inj (huuid.symm.trans hu),
          (hparams c hconn).2.symm, env, rfl⟩
    | _ => cases hmay
  · intro f hf result env he hended
    obtain ⟨s, e, s'⟩ := t
    subst he
    obtain ⟨g, hg, ha, ho⟩ := step_fetchDone hs
    have heq : g = f := List.inj_on_of_nodup_map h.fetch_nodup hg hf ha
    subst heq
    exact ho.inert h hf hended

/-! ## Fetching behind the plugin's own rules -/

/-- No rules of the plugin stand in the way of a live fetch. -/
def Unblocked (s : Daemon) : Prop := ∀ f ∈ liveFetches s, s.table = none

/-- A request that has to fetch finds no table, or one that its cleanup
deletes: nft is there and the table is not kept for an unexpected drop. -/
def FetchesUnblocked (cfg : Config) (t : Transition Daemon Event) : Prop :=
  ∀ c env, t.event.request = some (c, env) → opensFetch cfg env c t.before.disk = true →
    t.before.table = none ∨ cfg.nftAvailable = true ∧ t.before.priv.unexpectedDrop = false

theorem Unblocked.of_cancelled (h : ∀ f ∈ s.fetches, f.cancelled = true) : Unblocked s := by
  intro f hf
  obtain ⟨hm, hc⟩ := mem_liveFetches.mp hf
  rw [h f hm] at hc
  cases hc

theorem Firewall.Step.table_none {nft : Bool} {w w' : Firewall} (h : Firewall.Step nft w false w')
    (hn : w.table = none) : w'.table = none := by
  cases h with
  | keep => exact hn
  | drop => exact hn
  | clean => simp [Firewall.cleaned, hn]

theorem Firewall.Consistent.cleaned_none {nft : Bool} {leftover : Option (List Char)}
    {w : Firewall} (h : w.Consistent nft leftover) :
    (w.cleaned nft).table = none ↔ w.table = none ∨ nft = true ∧ w.unexpectedDrop = false := by
  rcases w with ⟨table, active, drop⟩
  cases nft <;> cases active <;> cases drop <;> simp_all [Consistent, Firewall.cleaned]

theorem RunOutcome.cancelled {r : Except GError Unit} (hr : Ready s)
    (h : RunOutcome cfg env s s' r) : ∀ f ∈ s'.fetches, f.cancelled = true := by
  rw [h.fetches]
  exact hr.cancelled

theorem FetchOutcome.unblocked (h : Coherent s) {f : Fetch} {result : FetchResult}
    (hf : f ∈ s.fetches) (hu : Unblocked s)
    (ho : FetchOutcome cfg env f result
      { s with fetches := s.fetches.filter (·.attempt ≠ f.attempt) } s') : Unblocked s' := by
  cases hc : f.cancelled with
  | true =>
      cases ho with
      | cancelled _ =>
          intro g hg
          obtain ⟨hm, hcg⟩ := mem_liveFetches.mp hg
          exact hu g (mem_liveFetches.mpr ⟨List.mem_of_mem_filter hm, hcg⟩)
      | abandoned hcf _ | notStored hcf _ _ _ | stored hcf _ _ _ _ _ | noProfile _ hcf _
      | fallback hcf _ _ _ _ =>
          rw [hc] at hcf
          cases hcf
  | false =>
      apply Unblocked.of_cancelled
      rw [ho.fetches]
      exact (h.finishFetch hf hc).cancelled

theorem opensFetch_valid {c : NMConnection} {disk : Disk} (h : opensFetch cfg env c disk = true) :
    validateConnection c = .ok () ∧
      nmAirvpnCacheIsValid cfg.sha256 cfg.statedir c.uuid (getGeneratorParams c.sVpn) env.now
        disk = false := by
  simp only [opensFetch, Bool.and_eq_true, Bool.not_eq_true'] at h
  refine ⟨?_, h.1.2⟩
  cases hv : validateConnection c with
  | ok _ => rfl
  | error e =>
      rw [hv] at h
      exact absurd h.1.1.1 (by simp [Except.isOk, Except.toBool])

theorem RequestOutcome.unblocked_iff {left : Leftover} {c : NMConnection} {r : Except GError Unit}
    (h : Coherent s) (hw : s.firewall.Consistent cfg.nftAvailable left.table) (hu : Unblocked s)
    (ho : RequestOutcome cfg env c s s' r) :
    Unblocked s' ↔ (opensFetch cfg env c s.disk = true →
      s.table = none ∨ cfg.nftAvailable = true ∧ s.priv.unexpectedDrop = false) := by
  have hb := h.begun_ready cfg c
  have closed : opensFetch cfg env c s.disk = false → Unblocked s' →
      (Unblocked s' ↔ (opensFetch cfg env c s.disk = true →
        s.table = none ∨ cfg.nftAvailable = true ∧ s.priv.unexpectedDrop = false)) :=
    fun hno hu' => ⟨fun _ ho => absurd (hno.symm.trans ho) Bool.false_ne_true, fun _ => hu'⟩
  cases ho with
  | rejected hv =>
      refine closed (Bool.eq_false_iff.mpr fun ho => ?_) hu
      have := (opensFetch_valid ho).1
      rw [hv] at this
      cases this
  | stopped _ _ hno => exact closed hno (.of_cancelled hb.cancelled)
  | fetching apiKey _ ho =>
      have htable : (nmAirvpnGeneratorFetchAsync c.uuid (getGeneratorParams c.sVpn) apiKey
          (begun cfg c s)).table = (s.firewall.cleaned cfg.nftAvailable).table :=
        congrArg Firewall.table (firewall_begun cfg c s)
      have hiff := hw.cleaned_none
      constructor
      · intro hu' _
        exact hiff.mp (htable ▸ hu' _ (mem_liveFetches.mpr ⟨List.mem_cons_self, rfl⟩))
      · intro hq f _
        exact htable.trans (hiff.mpr (hq ho))
  | ran _ hvalid hr =>
      refine closed (Bool.eq_false_iff.mpr fun ho => ?_) (.of_cancelled (hr.cancelled hb))
      have := (opensFetch_valid ho).2
      rw [hvalid] at this
      cases this

/-- In every run the live fetches are unblocked throughout exactly when every
request that has to fetch meets the condition. -/
theorem fetches_unblocked_iff (cfg : Config) (left : Leftover) (events : List Event) :
    Always (fun t => Unblocked t.after) (runs cfg left events) ↔
      Always (FetchesUnblocked cfg) (runs cfg left events) := by
  have hinv := (coherent_inductive cfg left).and
    (fun _ h hs => (consistent_inductive cfg left).next h hs) (consistent_inductive cfg left).start
  have hboot : Unblocked (boot cfg left) := .of_cancelled fun f hf => by
    rw [boot_eq] at hf
    cases hf
  refine run_safe_iff hinv hboot (fun t h hu hs => ?_) events
  obtain ⟨s, e, s'⟩ := t
  change step cfg s e = some s' at hs
  have hq : Unblocked (quiet s) := hu
  have other : e.request = none → Unblocked s' →
      (Unblocked s' ↔ FetchesUnblocked cfg ⟨s, e, s'⟩) :=
    fun hno hu' => ⟨fun _ c env he => absurd (hno.symm.trans he) (by simp), fun _ => hu'⟩
  -- outside requests and completions no fetch becomes live and no table is loaded
  have calm : e.request = none → mayEmit e .supersede = false → Unblocked s' := by
    intro hno hmay f' hf'
    obtain ⟨hm, hc⟩ := mem_liveFetches.mp hf'
    rcases fetches_step hs hm with ⟨f, hf, hstill⟩ | ⟨c, env, he, _⟩
    · have htable : s.table = none := by
        refine hu f (mem_liveFetches.mpr ⟨hf, ?_⟩)
        rw [← hstill.live hc, hc]
      obtain ⟨b, hw, hb⟩ := firewall_step hs
      cases b with
      | false => exact hw.table_none htable
      | true => simp [step_effects hs (hb.mp rfl)] at hmay
    · rw [hno] at he
      cases he
  cases step_cases hs with
  | @request _ c env r _ he _ ho _ =>
      have hiff := RequestOutcome.unblocked_iff h.1.quiet h.2 hq ho
      constructor
      · intro hu' c' env' he'
        cases he.symm.trans he'
        exact hiff.mp hu'
      · intro hc
        exact hiff.mpr (hc c env he)
  | fetchDone result hf ha _ ho =>
      subst ha
      exact other rfl (FetchOutcome.unblocked h.1.quiet hf hq ho)
  | _ => exact other rfl (calm rfl rfl)

/-- The tunnel drops, NetworkManager disconnects, and the user reconnects to
another server. -/
def sampleReconnect : List Event :=
  sampleDrop ++
    [.childWatch 1 (.signaled 9) (sampleEnv (.ok 701)), .disconnect (sampleEnv (.ok 701)),
      .connect sampleChanged (sampleEnv (.ok 701))]

/-- The new profile is fetched behind the rules of the dropped tunnel. -/
theorem fetch_blocked_after_drop :
    ¬ Always (fun t => Unblocked t.after)
      (runs (sampleConfig true) (sampleLeftover none) sampleReconnect) := by
  unfold Always Unblocked
  decide +kernel

end AirVpn.Service
