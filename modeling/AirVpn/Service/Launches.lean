import AirVpn.Lib.Simulation
import AirVpn.Service.Stale

/-! # The children, step by step

No child is ever forgotten: a step leaves each in its place, at a later time, and puts
at most one in front of them. That one has been started for the plugin's connection,
from the profile that the cache then holds for it.
-/

namespace AirVpn.Service

open Daemon Machine

variable {cfg : Config} {env : Env} {s s' : Daemon}

/-! ## Later children -/

/-- The same children in the same places, each at a later time. -/
abbrev Aged : List Proc → List Proc → Prop := List.Forall₂ Later

theorem Aged.refl (procs : List Proc) : Aged procs procs :=
  List.forall₂_same.mpr fun p _ => .refl p

theorem Aged.trans {a b c : List Proc} (h : Aged a b) (h' : Aged b c) : Aged a c := by
  induction h generalizing c with
  | nil => exact h'
  | cons hp _ ih =>
      cases h' with
      | cons hq hrest => exact .cons (hp.trans hq) (ih hrest)

theorem Aged.exists_of_mem {a b : List Proc} (h : Aged a b) {q : Proc} (hq : q ∈ b) :
    ∃ p ∈ a, Later p q := by
  induction h with
  | nil => cases hq
  | cons hp _ ih =>
      rcases List.mem_cons.mp hq with rfl | hq
      · exact ⟨_, List.mem_cons_self, hp⟩
      · obtain ⟨p, hm, hl⟩ := ih hq
        exact ⟨p, List.mem_cons_of_mem _ hm, hl⟩

theorem aged_map {g : Proc → Proc} (hg : ∀ p, Later p (g p)) (procs : List Proc) :
    Aged procs (procs.map g) := by
  rw [Aged, List.forall₂_map_right_iff, List.forall₂_same]
  exact fun p _ => hg p

theorem aged_signalProcs (pid : Nat) (signal : Signal) (procs : List Proc) :
    Aged procs (signalProcs pid signal procs) :=
  aged_map (fun p => by split <;> exact ⟨rfl, rfl, rfl, rfl, rfl⟩) procs

theorem aged_setProcState (which : Proc → Bool) (state : ProcState) (procs : List Proc) :
    Aged procs (setProcState which state procs) :=
  aged_map (fun p => by split <;> exact ⟨rfl, rfl, rfl, rfl, rfl⟩) procs

theorem aged_cleanedProcs (s : Daemon) : Aged s.procs (cleanedProcs s) := by
  unfold cleanedProcs
  split
  · exact .refl _
  · exact aged_signalProcs _ _ _

theorem aged_disconnect (cfg : Config) (env : Env) (s : Daemon) :
    Aged s.procs (nmVpnServicePluginDisconnect cfg env s).procs := by
  cases hs : svcActive s with
  | false =>
      rw [disconnect_inactive hs]
      exact .refl _
  | true =>
      rw [disconnect_active hs]
      exact aged_cleanedProcs s

/-! ## Launches -/

/-- A process has been started for the plugin's connection: its profile is one that the
cache accepts for the connection's parameters. -/
structure Launch (cfg : Config) (s' : Daemon) (c : NMConnection) (p : Proc) : Prop where
  attempt : p.attempt = s'.attempt
  pid : p.pid = s'.priv.pid
  connection : p.connection = some c
  uuid : p.uuid = some c.uuid
  current : s'.priv.connection = some c ∧ s'.priv.uuid = some c.uuid
  config : p.config = readText s'.disk (nmAirvpnCacheGetConfigPath cfg.statedir c.uuid)
  cached : nmAirvpnCacheExists cfg.sha256 cfg.statedir c.uuid (getGeneratorParams c.sVpn)
    s'.disk = true
  unarmed : wantsKillSwitch (some c.sVpn) = false → s'.priv.killSwitchActive = false

theorem Launch.congr {c : NMConnection} {p : Proc} (h : Launch cfg s c p) (effects : List Effect)
    (interactive : Bool) :
    Launch cfg { s with
      priv := { s.priv with interactive := interactive }
      effects := effects } c p :=
  ⟨h.attempt, h.pid, h.connection, h.uuid, h.current, h.config, h.cached, h.unarmed⟩

inductive ChildStep (cfg : Config) (s s' : Daemon) : Prop where
  | aged : Aged s.procs s'.procs → (∀ a, .spawned a ∉ s'.effects) → ChildStep cfg s s'
  | launched {c : NMConnection} {p : Proc} {rest : List Proc} : s'.procs = p :: rest →
      Aged s.procs rest → Launch cfg s' c p → .spawned s'.attempt ∈ s'.effects →
      ChildStep cfg s s'

theorem ArmOutcome.not_spawned {table : Option (List Char)} {active : Bool} {effects : List Effect}
    (h : ArmOutcome cfg env s table active effects) (a : Nat) : .spawned a ∉ effects := by
  cases h with
  | off _ => exact List.not_mem_nil
  | on _ _ _ => simp

theorem RunOutcome.cancellable {r : Except GError Unit} (hr : RunOutcome cfg env s s' r) :
    s'.priv.fetchCancellable = s.priv.fetchCancellable := by
  cases hr <;> rfl

/-- `run_openvpn` from where the cache accepts the profile of the plugin's connection. -/
theorem RunOutcome.childStep {r : Except GError Unit} (hr : RunOutcome cfg env s s' r)
    {c : NMConnection} (hc : s.priv.connection = some c) (hu : s.priv.uuid = some c.uuid)
    (hcached : nmAirvpnCacheExists cfg.sha256 cfg.statedir c.uuid (getGeneratorParams c.sVpn)
      s.disk = true)
    (hquiet : ∀ a, .spawned a ∉ s.effects) : ChildStep cfg s s' := by
  cases hr with
  | noBinary _ => exact .aged (.refl _) hquiet
  | notArmed _ _ => exact .aged (.refl _) fun a => by simp [hquiet a]
  | notSpawned _ ha => exact .aged (.refl _) fun a => by simp [ha.not_spawned a, hquiet a]
  | @spawned openvpn pid table active effects ha _ =>
      have hpath : configPath cfg s.priv.uuid = nmAirvpnCacheGetConfigPath cfg.statedir c.uuid := by
        rw [hu]
        rfl
      refine .launched rfl (.refl _) ⟨rfl, rfl, hc, hu, ⟨hc, hu⟩, ?_, hcached, fun hno => ?_⟩
        List.mem_cons_self
      · show readText s.disk (configPath cfg s.priv.uuid) = _
        rw [hpath]
      · cases ha with
        | off _ => rfl
        | on hw _ _ =>
            rw [runSetting, hc] at hw
            exact absurd (hno.symm.trans hw) Bool.false_ne_true

theorem ChildStep.after {s₁ : Daemon} (h : ChildStep cfg s₁ s') (haged : Aged s.procs s₁.procs) :
    ChildStep cfg s s' := by
  cases h with
  | aged hp hno => exact .aged (haged.trans hp) hno
  | launched heq hrest hl he => exact .launched heq (haged.trans hrest) hl he

theorem ChildStep.congr (h : ChildStep cfg s s') {effects : List Effect} (interactive : Bool)
    (hspawned : ∀ a, .spawned a ∈ effects ↔ .spawned a ∈ s'.effects) :
    ChildStep cfg s { s' with
      priv := { s'.priv with interactive := interactive }
      effects := effects } := by
  cases h with
  | aged hp hno => exact .aged hp fun a he => hno a ((hspawned a).mp he)
  | launched heq hrest hl he =>
      exact .launched heq hrest (hl.congr effects interactive) ((hspawned _).mpr he)

theorem ChildStep.afterRun {r : Daemon × Except GError Unit} (h : ChildStep cfg s r.1) :
    ChildStep cfg s (afterRun r) := by
  rw [afterRun_eq]
  exact h.congr r.1.priv.interactive fun a => by simp [mem_afterRun]

theorem RequestOutcome.childStep {c : NMConnection} {r : Except GError Unit}
    (ho : RequestOutcome cfg env c (quiet s) s' r) : ChildStep cfg s s' := by
  have hbegun : Aged s.procs (begun cfg c (quiet s)).procs := by
    rw [begun_eq]
    exact aged_cleanedProcs (quiet s)
  have hquiet : ∀ a, .spawned a ∉ (begun cfg c (quiet s)).effects := by
    intro a he
    obtain ⟨_, _, _, heq⟩ := mem_begun_effects he
    cases heq
  cases ho with
  | rejected _ => exact .aged (.refl _) fun _ => List.not_mem_nil
  | stopped _ _ _ => exact .aged hbegun hquiet
  | fetching _ _ _ => exact .aged hbegun fun a => by simp [nmAirvpnGeneratorFetchAsync, hquiet a]
  | ran _ hvalid hr =>
      refine (hr.childStep (by rw [begun_eq]) (by rw [begun_eq]) ?_ hquiet).after hbegun
      rw [begun_eq]
      exact exists_of_valid hvalid

theorem exists_of_store_ok {io : FileOps} {uuid : Uuid} {params : NMAirvpnGeneratorParams}
    {config : String} {now : Int} {disk : Disk}
    (h : (nmAirvpnCacheStore cfg.sha256 cfg.statedir io uuid params config now disk).2 = .ok ()) :
    nmAirvpnCacheExists cfg.sha256 cfg.statedir uuid params
      (nmAirvpnCacheStore cfg.sha256 cfg.statedir io uuid params config now disk).1 = true := by
  obtain ⟨hconfig, hmeta⟩ := files_of_store_ok h
  exact exists_iff.mpr ⟨by rw [hconfig]; rfl, _, hmeta, rfl⟩

theorem FetchOutcome.childStep (h : Coherent s) {f : Fetch} {result : FetchResult}
    {fs : List Fetch} (ho : FetchOutcome cfg env f result { quiet s with fetches := fs } s') :
    ChildStep cfg s s' := by
  cases ho with
  | cancelled _ => exact .aged (.refl _) fun _ => List.not_mem_nil
  | abandoned _ _ => exact .aged (.refl _) fun _ => List.not_mem_nil
  | notStored _ _ _ _ => exact .aged (.refl _) fun a => by simp [quiet]
  | @stored c u config r _ hconn hu _ hst hr =>
      have huuid : some c.uuid = some u := (h.connection_uuid c hconn).symm.trans hu
      cases huuid
      exact (hr.childStep hconn hu (exists_of_store_ok hst)
        fun a => by simp [quiet]).afterRun.after (.refl _)
  | noProfile _ _ _ => exact .aged (.refl _) fun a => by simp [quiet]
  | @fallback c u r _ hconn hu he hr =>
      have huuid : some c.uuid = some u := (h.connection_uuid c hconn).symm.trans hu
      cases huuid
      exact (hr.childStep hconn hu he fun a => List.not_mem_nil).afterRun.after (.refl _)

/-- Every step ages the children, and at most starts one. -/
theorem child_step {e : Event} (h : Coherent s) (hs : step cfg s e = some s') :
    ChildStep cfg s s' := by
  have other : mayEmit e (.spawned s.attempt) = false →
      (∀ a, mayEmit e (.spawned a) = mayEmit e (.spawned s.attempt)) → Aged s.procs s'.procs →
      ChildStep cfg s s' := by
    intro hno hall haged
    refine .aged haged fun a he => ?_
    have hmay := step_effects hs he
    rw [hall, hno] at hmay
    cases hmay
  cases step_cases hs with
  | request interactive _ _ ho _ =>
      exact ho.childStep.congr interactive fun a => by simp
  | fetchDone _ _ _ _ ho => exact ho.childStep h
  | disconnect env => exact other rfl (fun _ => rfl) (aged_disconnect cfg env (quiet s))
  | stateChange state =>
      refine other rfl (fun _ => rfl) ?_
      rw [setState_eq]
      exact .refl _
  | childExits _ _ => exact other rfl (fun _ => rfl) (aged_setProcState _ _ _)
  | childReaped _ _ => exact other rfl (fun _ => rfl) (aged_setProcState _ _ _)
  | childWatch status env _ _ =>
      refine other rfl (fun _ => rfl) ?_
      rw [(watch_procs cfg env status _).2]
      exact (aged_setProcState _ _ _).trans (aged_setProcState _ _ _)
  | connectTimeout env _ =>
      refine other rfl (fun _ => rfl) ?_
      rw [timeout_eq]
      split
      · exact .refl _
      · exact aged_cleanedProcs (quiet s)
  | killTimeout _ =>
      refine other rfl (fun _ => rfl) ?_
      rw [kill_eq]
      exact aged_signalProcs _ _ _
  | otherStarts _ => exact other rfl (fun _ => rfl) (.refl _)
  | otherEnds _ => exact other rfl (fun _ => rfl) (.refl _)
  | dispose =>
      refine other rfl (fun _ => rfl) ?_
      rw [cleanupPlugin_eq]
      exact aged_cleanedProcs (quiet s)

end AirVpn.Service
