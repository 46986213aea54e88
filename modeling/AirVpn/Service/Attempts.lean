import AirVpn.Service.Failure
import AirVpn.Service.Launches

/-! # One attempt after the other

What the daemon is to NetworkManager: a machine that begins an attempt with each
request it accepts, may start one fetch for it, and may start one process for it, either
at once or when its fetch is done. The daemon refines this machine, so the fetches
and the processes of all its attempts come in turn.
-/

namespace AirVpn.Service

open Daemon Machine Traces

variable {cfg : Config} {env : Env} {s s' : Daemon}

/-! ## The machine -/

inductive Act where
  | begins (attempt : Nat)
  | fetches (attempt : Nat)
  | starts (attempt : Nat)
  deriving DecidableEq, Repr

namespace Act

def attempt : Act → Nat
  | .begins attempt | .fetches attempt | .starts attempt => attempt

/-- The place of an act: one attempt after the other, each in this order. -/
def place : Act → Nat
  | .begins attempt => 3 * attempt
  | .fetches attempt => 3 * attempt + 1
  | .starts attempt => 3 * attempt + 2

def goesOn : Act → Bool
  | .begins _ => false
  | .fetches _ | .starts _ => true

def started : Act → Option Nat
  | .starts attempt => some attempt
  | _ => none

end Act

/-- The last attempt, and whether it waits for a fetch. -/
structure Progress where
  attempt : Nat
  fetching : Bool

namespace Progress

inductive Next (g : Progress) : List Act → Progress → Prop
  | stays : Next g [] g
  | givesUp : Next g [] ⟨g.attempt, false⟩
  | begun : Next g [.begins (g.attempt + 1)] ⟨g.attempt + 1, false⟩
  | fetching : Next g [.begins (g.attempt + 1), .fetches (g.attempt + 1)] ⟨g.attempt + 1, true⟩
  | starting : Next g [.begins (g.attempt + 1), .starts (g.attempt + 1)] ⟨g.attempt + 1, false⟩
  | fetched : g.fetching = true → 0 < g.attempt → Next g [.starts g.attempt] ⟨g.attempt, false⟩

/-- The last place that is taken, or that cannot be taken any more. -/
def bound (g : Progress) : Nat := 3 * g.attempt + if g.fetching then 1 else 2

variable {g g' : Progress} {acts before after : List Act}

theorem bound_mk (attempt : Nat) (fetching : Bool) :
    bound ⟨attempt, fetching⟩ = 3 * attempt + if fetching then 1 else 2 := rfl

theorem bound_le (g : Progress) : bound g ≤ 3 * g.attempt + 2 := by
  unfold bound
  split <;> omega

theorem Next.increasing (h : Next g acts g') : acts.Pairwise fun a b => a.place < b.place := by
  cases h <;> simp [Act.place]

theorem Next.above (h : Next g acts g') : ∀ x ∈ acts, g.bound < x.place := by
  have hbound := bound_le g
  cases h with
  | stays => exact nofun
  | givesUp => exact nofun
  | fetched hfetching _ => simp [bound, hfetching, Act.place]
  | begun | fetching | starting =>
      simp only [List.mem_cons, List.not_mem_nil, or_false, forall_eq_or_imp, forall_eq, Act.place]
      omega

theorem Next.below (h : Next g acts g') :
    g.bound ≤ g'.bound ∧ ∀ x ∈ acts, x.place ≤ g'.bound := by
  have hbound := bound_le g
  cases h with
  | stays => exact ⟨Nat.le_refl _, nofun⟩
  | givesUp => exact ⟨hbound, nofun⟩
  | fetched _ _ => simp [bound_mk, hbound, Act.place]
  | begun | fetching | starting =>
      simp only [List.mem_cons, List.not_mem_nil, or_false, forall_eq_or_imp, forall_eq, Act.place,
        bound_mk, Bool.false_eq_true, ↓reduceIte]
      omega

theorem Next.known {attempt : Nat} (h : Next g acts g')
    (hknown : 0 < attempt ∧ attempt ≤ g'.attempt) :
    (0 < attempt ∧ attempt ≤ g.attempt) ∨ ∃ y ∈ acts, y = .begins attempt := by
  obtain ⟨hpos, hle⟩ := hknown
  cases h with
  | stays | givesUp | fetched => exact .inl ⟨hpos, hle⟩
  | begun | fetching | starting =>
      by_cases hlast : attempt = g.attempt + 1
      · exact .inr ⟨_, List.mem_cons_self, by rw [hlast]⟩
      · exact .inl ⟨hpos, Nat.le_of_lt_succ (Nat.lt_of_le_of_ne hle hlast)⟩

theorem Next.goesOn {x : Act} (h : Next g acts g') (hx : x ∈ acts) (hgoes : x.goesOn = true) :
    ∃ front, acts = front ++ [x] ∧ x ∉ front ∧
      ((0 < x.attempt ∧ x.attempt ≤ g.attempt) ∨ ∃ y ∈ front, y = .begins x.attempt) := by
  cases h with
  | stays | givesUp => cases hx
  | begun =>
      rw [List.mem_singleton.mp hx] at hgoes
      cases hgoes
  | fetched _ hpos =>
      rw [List.mem_singleton.mp hx]
      exact ⟨[], rfl, List.not_mem_nil, .inl ⟨hpos, Nat.le_refl _⟩⟩
  | fetching | starting =>
      rcases List.mem_cons.mp hx with rfl | hx
      · cases hgoes
      · rw [List.mem_singleton.mp hx]
        exact ⟨[_], rfl, by simp, .inr ⟨_, List.mem_cons_self, rfl⟩⟩

theorem begins_before (h : Trace Next ⟨0, false⟩ g acts) {x : Act} (hgoes : x.goesOn = true)
    (hcut : acts = before ++ x :: after) : .begins x.attempt ∈ before := by
  have hbefore := h.precedes (· = .begins x.attempt)
    (fun g => 0 < x.attempt ∧ x.attempt ≤ g.attempt) (by simp; omega) Next.known
    (fun hnext hx => hnext.goesOn hx hgoes) hcut
  obtain ⟨y, hy, rfl⟩ := hbefore
  exact hy

end Progress

/-! ## The daemon refines it -/

def Daemon.progress (s : Daemon) : Progress := ⟨s.attempt, s.priv.fetchCancellable.isSome⟩

theorem Daemon.progress_eq {attempt : Nat} {cancellable : Option Nat} (ha : s.attempt = attempt)
    (hc : s.priv.fetchCancellable = cancellable) : s.progress = ⟨attempt, cancellable.isSome⟩ := by
  rw [← ha, ← hc]
  rfl

def Effect.act : Effect → Option Act
  | .fetchStarted attempt => some (.fetches attempt)
  | .spawned attempt => some (.starts attempt)
  | _ => none

/-- Effects are recorded latest first. -/
def actsIn (effects : List Effect) : List Act := effects.reverse.filterMap Effect.act

def begunBy (before after : Nat) : List Act := if after = before then [] else [.begins after]

def actsOf (t : Transition Daemon Event) : List Act :=
  begunBy t.before.attempt t.after.attempt ++ actsIn t.after.effects

theorem actsIn_cons (e : Effect) (effects : List Effect) :
    actsIn (e :: effects) = actsIn effects ++ e.act.toList := by
  simp only [actsIn, List.reverse_cons, List.filterMap_append]
  cases h : e.act <;> simp [h]

theorem actsIn_eq_nil {effects : List Effect} (h : ∀ e ∈ effects, e.act = none) :
    actsIn effects = [] := by
  refine List.filterMap_eq_nil_iff.mpr fun e he => h e (List.mem_reverse.mp he)

theorem actsIn_append {effects : List Effect} (new : List Effect) (h : ∀ e ∈ new, e.act = none) :
    actsIn (new ++ effects) = actsIn effects := by
  have hnew : (new.reverse.filterMap Effect.act) = [] := actsIn_eq_nil h
  simp only [actsIn, List.reverse_append, List.filterMap_append, hnew, List.append_nil]

theorem actsIn_begun (cfg : Config) (c : NMConnection) (s : Daemon) :
    actsIn (begun cfg c (quiet s)).effects = [] := actsIn_eq_nil fun e he => by
  obtain ⟨_, _, _, rfl⟩ := mem_begun_effects he
  rfl

theorem ArmOutcome.act {table : Option (List Char)} {active : Bool} {effects : List Effect}
    (h : ArmOutcome cfg env s table active effects) : ∀ e ∈ effects, e.act = none := by
  cases h with
  | off _ => exact nofun
  | on _ _ _ => simp [Effect.act]

theorem RunOutcome.acts {r : Except GError Unit} (hr : RunOutcome cfg env s s' r) :
    actsIn s'.effects = actsIn s.effects ++ if r.isOk then [.starts s.attempt] else [] := by
  have hno : ∀ e : GError, (Except.error e : Except GError Unit).isOk = false := fun _ => rfl
  have hok : (Except.ok () : Except GError Unit).isOk = true := rfl
  cases hr with
  | noBinary _ => exact (List.append_nil _).symm
  | notArmed _ _ => simp [actsIn_cons, Effect.act, hno]
  | notSpawned _ ha => simp [actsIn_append _ ha.act, actsIn_cons, Effect.act, hno]
  | spawned _ ha _ => simp [actsIn_append _ ha.act, actsIn_cons, Effect.act, hok]

theorem actsOf_same {t : Transition Daemon Event} (h : t.after.attempt = t.before.attempt) :
    actsOf t = actsIn t.after.effects := by
  rw [actsOf, begunBy, if_pos h, List.nil_append]

theorem RequestOutcome.progress {c : NMConnection} {r : Except GError Unit}
    (ho : RequestOutcome cfg env c (quiet s) s' r) :
    Progress.Next s.progress (begunBy s.attempt s'.attempt ++ actsIn s'.effects) s'.progress ∧
      r.isOk = (actsIn s'.effects).any Act.goesOn := by
  have hattempt : (begun cfg c (quiet s)).attempt = s.attempt + 1 := by
    rw [begun_eq]
    rfl
  have hnone : (begun cfg c (quiet s)).priv.fetchCancellable = none := by
    rw [begun_eq]
    rfl
  have hacts := actsIn_begun cfg c s
  have hnew : begunBy s.attempt (s.attempt + 1) = [.begins (s.attempt + 1)] := if_neg (by omega)
  cases ho with
  | rejected _ =>
      have hsame : begunBy s.attempt (quiet s).attempt = [] := if_pos rfl
      rw [hsame]
      exact ⟨.stays, rfl⟩
  | stopped e _ _ =>
      rw [hacts, hattempt, hnew, Daemon.progress_eq hattempt hnone]
      exact ⟨.begun, rfl⟩
  | fetching apiKey _ _ =>
      simp only [nmAirvpnGeneratorFetchAsync, actsIn_cons, hacts, hattempt, hnew, Daemon.progress]
      exact ⟨.fetching, rfl⟩
  | ran _ _ hr =>
      rw [hr.acts, hacts, hr.attempt, hattempt, hnew,
        Daemon.progress_eq (hr.attempt.trans hattempt) (hr.cancellable.trans hnone)]
      split
      · next hok => exact ⟨.starting, hok⟩
      · next hok => exact ⟨.begun, by simpa using hok⟩

theorem Daemon.progress_afterRun (r : Daemon × Except GError Unit) :
    (afterRun r).progress = r.1.progress ∧ actsIn (afterRun r).effects = actsIn r.1.effects := by
  obtain ⟨s, (e | ⟨⟨⟩⟩)⟩ := r
  · refine ⟨rfl, ?_⟩
    show actsIn (.failure .connectFailed :: s.effects) = _
    simp [actsIn_cons, Effect.act]
  · exact ⟨rfl, rfl⟩

theorem RunOutcome.progress_fetched {r : Except GError Unit} {g : Progress}
    (hr : RunOutcome cfg env s s' r) (hg : g.attempt = s.attempt) (hfetching : g.fetching = true)
    (hpos : 0 < s.attempt) (hnone : s.priv.fetchCancellable = none)
    (hacts : actsIn s.effects = []) : Progress.Next g (actsIn s'.effects) s'.progress := by
  rw [hr.acts, hacts, Daemon.progress_eq (hr.attempt.trans hg.symm) (hr.cancellable.trans hnone),
    ← hg]
  cases r with
  | error e => exact .givesUp
  | ok _ => exact .fetched hfetching (hg ▸ hpos)

theorem FetchOutcome.progress (h : Coherent s) {f : Fetch} {result : FetchResult} {fs : List Fetch}
    (hf : f ∈ s.fetches) (ho : FetchOutcome cfg env f result { quiet s with fetches := fs } s') :
    Progress.Next s.progress (actsIn s'.effects) s'.progress := by
  have hfetching : f.cancelled = false → s.progress.fetching = true := fun hlive => by
    rw [Daemon.progress, h.fetch_live f hf hlive]
    rfl
  have hpos : f.cancelled = false → 0 < s.attempt := fun hlive => by
    refine h.attempt_pos ?_
    rw [(h.fetch_request f hf hlive).1]
    rfl
  cases ho with
  | cancelled _ => exact .stays
  | abandoned _ _ => exact .givesUp
  | notStored _ _ _ _ => exact .givesUp
  | @stored c u config r hlive _ _ _ _ hr =>
      rw [(Daemon.progress_afterRun r).1, (Daemon.progress_afterRun r).2]
      exact hr.progress_fetched rfl (hfetching hlive) (hpos hlive) rfl rfl
  | noProfile _ _ _ => exact .givesUp
  | @fallback c u r hlive _ _ _ hr =>
      rw [(Daemon.progress_afterRun r).1, (Daemon.progress_afterRun r).2]
      exact hr.progress_fetched rfl (hfetching hlive) (hpos hlive) rfl rfl

theorem progress_calm (hattempt : s'.attempt = s.attempt)
    (hfetch : s'.priv.fetchCancellable = s.priv.fetchCancellable ∨ s'.priv.fetchCancellable = none)
    (hacts : actsIn s'.effects = []) :
    Progress.Next s.progress (actsIn s'.effects) s'.progress := by
  rw [hacts]
  rcases hfetch with hfetch | hfetch
  · rw [Daemon.progress_eq hattempt hfetch]
    exact .stays
  · rw [Daemon.progress_eq hattempt hfetch]
    exact .givesUp

theorem fetchCancellable_disconnect (cfg : Config) (env : Env) (s : Daemon) :
    (nmVpnServicePluginDisconnect cfg env s).attempt = s.attempt ∧
      ((nmVpnServicePluginDisconnect cfg env s).priv.fetchCancellable = s.priv.fetchCancellable ∨
        (nmVpnServicePluginDisconnect cfg env s).priv.fetchCancellable = none) := by
  cases hs : svcActive s with
  | false =>
      rw [disconnect_inactive hs]
      exact ⟨rfl, .inl rfl⟩
  | true =>
      rw [disconnect_active hs]
      exact ⟨rfl, .inr rfl⟩

theorem fetchCancellable_watch (cfg : Config) (env : Env) (status : WaitStatus) (s : Daemon) :
    (openvpnWatchCb cfg env status s).attempt = s.attempt ∧
      ((openvpnWatchCb cfg env status s).priv.fetchCancellable = s.priv.fetchCancellable ∨
        (openvpnWatchCb cfg env status s).priv.fetchCancellable = none) := by
  rw [watch_eq]
  split
  · split <;> exact ⟨rfl, .inl rfl⟩
  · exact fetchCancellable_disconnect cfg env (released env s)

theorem setState_fetch (state : NMVpnServiceState) (s : Daemon) :
    (nmVpnServicePluginSetState state s).attempt = s.attempt ∧
      (nmVpnServicePluginSetState state s).priv.fetchCancellable = s.priv.fetchCancellable := by
  by_cases h : s.svc = state
  · rw [setState_same h]
    exact ⟨rfl, rfl⟩
  · rw [setState_new h]
    cases state <;> exact ⟨rfl, rfl⟩

/-- Every step of the daemon is a transition of the machine. -/
theorem progress_step {e : Event} (h : Coherent s) (hs : step cfg s e = some s') :
    Progress.Next s.progress (actsOf ⟨s, e, s'⟩) s'.progress := by
  have calm : (∀ x, mayEmit e x = true → x.act = none) → s'.attempt = s.attempt ∧
      (s'.priv.fetchCancellable = s.priv.fetchCancellable ∨ s'.priv.fetchCancellable = none) →
      Progress.Next s.progress (actsOf ⟨s, e, s'⟩) s'.progress := by
    intro hmay hkept
    have hacts : actsIn s'.effects = [] := actsIn_eq_nil fun x hx => hmay x (step_effects hs hx)
    have hcalm := progress_calm hkept.1 hkept.2 hacts
    rwa [← actsOf_same (t := ⟨s, e, s'⟩) hkept.1] at hcalm
  cases step_cases hs with
  | @request _ _ _ r interactive _ _ ho _ =>
      have hprogress := ho.progress.1
      simp only [actsOf, actsIn_cons]
      exact (List.append_nil (actsIn r.1.effects)).symm ▸ hprogress
  | fetchDone _ hf _ _ ho =>
      rw [actsOf_same (t := ⟨s, _, s'⟩) ho.attempt]
      exact ho.progress h hf
  | disconnect env =>
      refine calm (fun x hx => ?_) (fetchCancellable_disconnect cfg env (quiet s))
      cases x <;> first | rfl | cases hx
  | stateChange state =>
      have hkept := setState_fetch state (quiet s)
      exact calm (fun x hx => by cases hx) ⟨hkept.1, .inl hkept.2⟩
  | childWatch status env _ _ =>
      refine calm (fun x hx => ?_) (fetchCancellable_watch cfg env status _)
      cases x <;> first | rfl | cases hx
  | connectTimeout env _ =>
      refine calm (fun x hx => ?_) ?_
      · cases x <;> first | rfl | cases hx
      · rw [timeout_eq]
        split <;> exact ⟨rfl, .inl rfl⟩
  | killTimeout _ =>
      refine calm (fun x hx => ?_) ?_
      · cases x <;> first | rfl | cases hx
      · rw [kill_eq]
        exact ⟨rfl, .inl rfl⟩
  | childExits _ _ => exact calm (fun x hx => by cases hx) ⟨rfl, .inl rfl⟩
  | childReaped _ _ => exact calm (fun x hx => by cases hx) ⟨rfl, .inl rfl⟩
  | otherStarts _ => exact calm (fun x hx => by cases hx) ⟨rfl, .inl rfl⟩
  | otherEnds _ => exact calm (fun x hx => by cases hx) ⟨rfl, .inl rfl⟩
  | dispose =>
      refine calm (fun x hx => ?_) ?_
      · cases x <;> first | rfl | cases hx
      · rw [cleanupPlugin_eq]
        exact ⟨rfl, .inr rfl⟩

/-! ## The children -/

theorem Aged.attempts {a b : List Proc} (h : Aged a b) : b.map (·.attempt) = a.map (·.attempt) := by
  induction h with
  | nil => rfl
  | cons hp _ ih => rw [List.map_cons, List.map_cons, hp.attempt, ih]

theorem Progress.Next.started {g g' : Progress} {acts : List Act} (h : Next g acts g') :
    acts.filterMap Act.started = [] ∨ acts.filterMap Act.started = [g'.attempt] := by
  cases h with
  | stays | givesUp | begun | fetching => exact .inl rfl
  | starting | fetched => exact .inr rfl

theorem children_step {e : Event} (h : Coherent s) (hs : step cfg s e = some s') :
    s'.procs.map (·.attempt) =
      ((actsOf ⟨s, e, s'⟩).filterMap Act.started).reverse ++ s.procs.map (·.attempt) := by
  have hmem : ∀ a, a ∈ (actsOf ⟨s, e, s'⟩).filterMap Act.started ↔ .spawned a ∈ s'.effects := by
    intro a
    have hbegins : (begunBy s.attempt s'.attempt).filterMap Act.started = [] := by
      unfold begunBy
      split <;> rfl
    rw [actsOf, List.filterMap_append, hbegins, List.nil_append, actsIn, List.filterMap_filterMap,
      List.mem_filterMap]
    constructor
    · rintro ⟨x, hx, hstarted⟩
      cases x with
      | spawned attempt =>
          cases hstarted
          exact List.mem_reverse.mp hx
      | _ => cases hstarted
    · exact fun hx => ⟨_, List.mem_reverse.mpr hx, rfl⟩
  have hstarted := (progress_step h hs).started
  cases child_step h hs with
  | aged haged hno =>
      rcases hstarted with hnil | hone
      · rw [hnil, haged.attempts]
        rfl
      · exact absurd ((hmem s'.attempt).mp (hone ▸ List.mem_singleton_self _)) (hno _)
  | launched heq haged hl hspawned =>
      rcases hstarted with hnil | hone
      · have hin := (hmem s'.attempt).mpr hspawned
        rw [hnil] at hin
        cases hin
      · rw [hone, heq, List.map_cons, haged.attempts, hl.attempt]
        rfl

/-! ## Whole runs -/

def Effect.answer : Effect → Option (Except GError Unit)
  | .reply result => some result
  | _ => none

def replies (t : Transition Daemon Event) : List (Except GError Unit) :=
  t.after.effects.filterMap Effect.answer

/-- A request is answered once, with success exactly when its attempt goes on, and
nothing else is answered. -/
def Answered (t : Transition Daemon Event) : Prop :=
  if t.event.request.isSome then
    ∃ result, replies t = [result] ∧ result.isOk = (actsOf t).any Act.goesOn
  else replies t = []

theorem replies_eq_nil {effects : List Effect} (h : ∀ result, .reply result ∉ effects) :
    effects.filterMap Effect.answer = [] := by
  refine List.filterMap_eq_nil_iff.mpr fun x hx => ?_
  cases x with
  | reply result => exact absurd hx (h result)
  | _ => rfl

theorem answered_step {e : Event} (hs : step cfg s e = some s') : Answered ⟨s, e, s'⟩ := by
  unfold Answered
  cases hrequest : e.request with
  | some request =>
      obtain ⟨c, env⟩ := request
      obtain ⟨r, interactive, ho, -, rfl⟩ := step_request hs hrequest
      have hnone := replies_eq_nil fun result => ho.no_reply
      refine ⟨r.2, ?_, ?_⟩
      · show r.2 :: r.1.effects.filterMap Effect.answer = [r.2]
        rw [hnone]
      · have hbegins : (begunBy s.attempt r.1.attempt).any Act.goesOn = false := by
          unfold begunBy
          split <;> rfl
        rw [ho.progress.2, actsOf, List.any_append, hbegins, actsIn_cons, List.any_append]
        exact (Bool.or_false _).symm
  | none =>
      refine replies_eq_nil fun result hx => ?_
      have hmay := step_effects hs hx
      cases e <;> first | (cases hmay; done) | cases hrequest

/-- The children are the processes that have been started, latest first. -/
def Accounted (s : Daemon) (ts : List (Transition Daemon Event)) : Prop :=
  s.procs.map (·.attempt) = ((ts.flatMap actsOf).filterMap Act.started).reverse

theorem accounted_run (cfg : Config) (left : Leftover) (events : List Event) :
    Coherent (final (step cfg) (boot cfg left) events) ∧
      Accounted (final (step cfg) (boot cfg left) events) (run (step cfg) (boot cfg left) events) :=
  final_induction (P := fun s ts => Coherent s ∧ Accounted s ts)
    ⟨coherent_boot cfg left, by rw [boot_eq]; rfl⟩
    (fun ts t h hs => by
      refine ⟨coherent_step h.1 hs, ?_⟩
      unfold Accounted
      rw [children_step h.1 hs, h.2, List.flatMap_append, List.flatMap_singleton,
        List.filterMap_append, List.reverse_append]) events

structure InTurn (cfg : Config) (s₀ : Daemon) (events : List Event) : Prop where
  ordered : ((run (step cfg) s₀ events).flatMap actsOf).Pairwise fun a b => a.place < b.place
  begun : ∀ before a after, (run (step cfg) s₀ events).flatMap actsOf = before ++ a :: after →
    a.goesOn = true → .begins a.attempt ∈ before
  children : Accounted (final (step cfg) s₀ events) (run (step cfg) s₀ events)
  answered : Always Answered (run (step cfg) s₀ events)

/-- In every run the attempts come one after the other, each is begun by its request,
fetches at most once and starts at most one process after that, and every request is
answered once. -/
theorem attempts_in_turn (cfg : Config) (left : Leftover) (events : List Event) :
    InTurn cfg (boot cfg left) events := by
  have hboot : (boot cfg left).progress = ⟨0, false⟩ := by
    rw [boot_eq]
    rfl
  have htrace : Trace Progress.Next ⟨0, false⟩ (final (step cfg) (boot cfg left) events).progress
      ((run (step cfg) (boot cfg left) events).flatMap actsOf) :=
    hboot ▸ trace_of_run Daemon.progress actsOf (coherent_inductive cfg left)
      (fun t h hs => progress_step h hs) events
  refine ⟨htrace.increasing (fun h => h.increasing) (fun h => h.above) (fun h => h.below),
    fun before a after hcut hgoes => Progress.begins_before htrace hgoes hcut,
    (accounted_run cfg left events).2, fun t ht => answered_step (mem_run_step ht)⟩

end AirVpn.Service
