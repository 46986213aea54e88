import AirVpn.Firewall.Packets
import AirVpn.Service.Launches

/-! # Whose rules are installed

The kill switch outlives the process it was armed for, so that an unexpected drop leaves
it in place. Even so it is always that of the child started last: no connection ever runs
under, or leaves behind, the rules of an earlier one. So what can leave the machine is known
in every state from the profile and the setting of that child, and from the network in
which it was started.
-/

namespace AirVpn.Service

open Daemon Machine

variable {cfg : Config} {env : Env} {left : Leftover} {s s' : Daemon}

/-- The outside world of an event that may start a process. -/
def Event.runEnv : Event → Option Env
  | .connect _ env | .connectInteractive _ env | .newSecrets _ env | .fetchDone _ _ env =>
      some env
  | _ => none

theorem Event.runEnv_of_request {e : Event} {c : NMConnection}
    (h : e.request = some (c, env)) : e.runEnv = some env := by
  cases e <;> cases h <;> rfl

/-- The rules are those of a process whose connection wants the kill switch, built from
the profile that the process was started with. -/
def RulesOf (net : NetEnv) (p : Proc) (rules : List Char) : Prop :=
  ∃ c, p.connection = some c ∧ wantsKillSwitch (some c.sVpn) = true ∧
    buildRuleset net p.config (allowsLan (some c.sVpn)) = .ok rules

theorem RulesOf.later {net : NetEnv} {p p' : Proc} {rules : List Char} (h : RulesOf net p rules)
    (hl : Later p p') : RulesOf net p' rules := by
  unfold RulesOf
  rw [hl.connection, hl.config]
  exact h

/-! ## What a step does to the table -/

/-- A table is installed only together with the process that it is for. -/
inductive TableStep (runEnv : Option Env) (s s' : Daemon) : Prop
  | lifted (htable : s'.table = none)
  | kept (htable : s'.table = s.table) (haged : Aged s.procs s'.procs)
  | armed {env : Env} {rules : List Char} {p : Proc} {rest : List Proc}
      (henv : runEnv = some env) (htable : s'.table = some rules) (hprocs : s'.procs = p :: rest)
      (hspawned : .spawned p.attempt ∈ s'.effects) (hrules : RulesOf env.net p rules)

namespace TableStep

variable {runEnv : Option Env} {s₁ : Daemon}

theorem frame (htable : s'.table = s.table ∨ s'.table = none) (haged : Aged s.procs s'.procs) :
    TableStep runEnv s s' := by
  rcases htable with htable | htable
  · exact .kept htable haged
  · exact .lifted htable

theorem after (h : TableStep runEnv s₁ s') (htable : s₁.table = s.table ∨ s₁.table = none)
    (haged : Aged s.procs s₁.procs) : TableStep runEnv s s' := by
  cases h with
  | lifted hnone => exact .lifted hnone
  | kept hsame haged' =>
      rw [← hsame] at htable
      exact .frame htable (haged.trans haged')
  | armed henv htable hprocs hspawned hrules => exact .armed henv htable hprocs hspawned hrules

theorem congr (h : TableStep runEnv s s') {effects : List Effect} (interactive : Bool)
    (hspawned : ∀ a, .spawned a ∈ s'.effects → .spawned a ∈ effects) :
    TableStep runEnv s { s' with
      priv := { s'.priv with interactive := interactive }
      effects := effects } := by
  cases h with
  | lifted hnone => exact .lifted hnone
  | kept hsame haged => exact .kept hsame haged
  | armed henv htable hprocs he hrules => exact .armed henv htable hprocs (hspawned _ he) hrules

theorem afterRun {r : Daemon × Except GError Unit} (h : TableStep runEnv s r.1) :
    TableStep runEnv s (afterRun r) := by
  rw [afterRun_eq]
  exact h.congr r.1.priv.interactive fun a he => mem_afterRun.mpr (.inl he)

end TableStep

theorem cleanedTable_cases (cfg : Config) (s : Daemon) :
    cleanedTable cfg s = s.table ∨ cleanedTable cfg s = none := by
  unfold cleanedTable
  split
  · exact .inr rfl
  · exact .inl rfl

/-- Where no table is left after the supersede step, `run_openvpn` leaves that of the child
it starts, if any. -/
theorem RunOutcome.tableStep {r : Except GError Unit} (hr : RunOutcome cfg env s s' r)
    (hnone : supersededTable cfg s = none) : TableStep (some env) s s' := by
  cases hr with
  | noBinary _ => exact .kept rfl (.refl _)
  | notArmed _ _ => exact .lifted hnone
  | notSpawned _ ha =>
      cases ha with
      | off _ => exact .lifted hnone
      | on _ _ _ => exact .lifted rfl
  | @spawned openvpn pid _ _ _ ha _ =>
      cases ha with
      | off _ => exact .lifted hnone
      | @on ruleset hw _ hb =>
          have htable : some ((supersededTable cfg s).getD [] ++ ruleset) = some ruleset := by
            rw [hnone]
            rfl
          refine .armed rfl htable rfl List.mem_cons_self ?_
          cases hc : s.priv.connection with
          | none =>
              rw [runSetting, hc] at hw
              exact absurd hw (by decide)
          | some c =>
              rw [runSetting, hc] at hw hb
              exact ⟨c, hc, hw, hb⟩

theorem RequestOutcome.tableStep {c : NMConnection} {r : Except GError Unit}
    (ho : RequestOutcome cfg env c s s' r) (hnone : supersededTable cfg (begun cfg c s) = none) :
    TableStep (some env) s s' := by
  have htable : (begun cfg c s).table = s.table ∨ (begun cfg c s).table = none := by
    rw [begun_eq]
    exact cleanedTable_cases cfg s
  have haged : Aged s.procs (begun cfg c s).procs := by
    rw [begun_eq]
    exact aged_cleanedProcs s
  cases ho with
  | rejected _ => exact .kept rfl (.refl _)
  | stopped _ _ _ => exact .frame htable haged
  | fetching _ _ _ => exact .frame htable haged
  | ran _ _ hr => exact (hr.tableStep hnone).after htable haged

theorem FetchOutcome.tableStep {f : Fetch} {result : FetchResult}
    (ho : FetchOutcome cfg env f result s s') (hnone : supersededTable cfg s = none) :
    TableStep (some env) s s' := by
  cases ho with
  | stored _ _ _ _ _ hr => exact (hr.tableStep hnone).afterRun.after (.inl rfl) (.refl _)
  | fallback _ _ _ _ hr => exact (hr.tableStep hnone).afterRun.after (.inl rfl) (.refl _)
  | _ => exact .kept rfl (.refl _)

theorem table_step {e : Event} (hw : s.firewall.Consistent cfg.nftAvailable left.table)
    (hleft : cfg.nftAvailable = true ∨ left.table = none) (hs : step cfg s e = some s') :
    TableStep e.runEnv s s' := by
  have disconnects : ∀ (env : Env) (s₁ : Daemon), s₁.table = s.table → Aged s.procs s₁.procs →
      TableStep e.runEnv s (nmVpnServicePluginDisconnect cfg env s₁) := by
    intro env s₁ htable haged
    refine .frame ?_ (haged.trans (aged_disconnect cfg env s₁))
    cases hs : svcActive s₁ with
    | false =>
        rw [disconnect_inactive hs]
        exact .inl htable
    | true =>
        rw [disconnect_active hs, ← htable]
        exact cleanedTable_cases cfg s₁
  cases step_cases hs with
  | @request _ c env r interactive hrequest _ ho _ =>
      have hsuper := hw.cleaned.superseded_none hleft
      have hbegun : (begun cfg c (quiet s)).firewall = s.firewall.cleaned cfg.nftAvailable :=
        firewall_begun cfg c (quiet s)
      rw [← hbegun] at hsuper
      have hr : TableStep (some env) s r.1 := (ho.tableStep hsuper).after (.inl rfl) (.refl _)
      rw [Event.runEnv_of_request hrequest]
      exact hr.congr interactive fun a he => List.mem_cons_of_mem _ he
  | disconnect env => exact disconnects env (quiet s) rfl (.refl _)
  | stateChange state =>
      rw [setState_eq]
      exact .kept rfl (.refl _)
  | fetchDone _ _ _ _ ho =>
      exact (ho.tableStep (hw.superseded_none hleft)).after (.inl rfl) (.refl _)
  | childExits _ _ => exact .kept rfl (aged_setProcState _ _ _)
  | childReaped _ _ => exact .kept rfl (aged_setProcState _ _ _)
  | @childWatch p status env _ _ =>
      have hreleased : Aged s.procs (released env ((quiet s).setProc p.attempt .notified)).procs :=
        (aged_setProcState _ _ _).trans (aged_setProcState _ _ _)
      rw [watch_eq]
      split
      · split <;> exact .kept rfl hreleased
      · exact disconnects env _ rfl hreleased
  | connectTimeout env _ =>
      rw [timeout_eq]
      split
      · exact .kept rfl (.refl _)
      · exact .kept rfl (aged_cleanedProcs (quiet s))
  | killTimeout _ =>
      rw [kill_eq]
      exact .kept rfl (aged_signalProcs _ _ _)
  | otherStarts _ => exact .kept rfl (.refl _)
  | otherEnds _ => exact .kept rfl (.refl _)
  | dispose =>
      rw [cleanupPlugin_eq]
      exact .frame (cleanedTable_cases cfg (quiet s)) (aged_cleanedProcs (quiet s))

/-! ## Whose table it is -/

/-- The step that has started a process, and its outside world. -/
structure StartedBy (t : Transition Daemon Event) (env : Env) (p : Proc) : Prop where
  event : t.event.runEnv = some env
  spawned : .spawned p.attempt ∈ t.after.effects

/-- An installed table is that of the latest child, built where the child was started. -/
def Owned (s : Daemon) (past : List (Transition Daemon Event)) : Prop :=
  ∀ rules, s.table = some rules → ∃ p rest, s.procs = p :: rest ∧
    ∃ t ∈ past, ∃ env, StartedBy t env p ∧ RulesOf env.net p rules

theorem Owned.step {past : List (Transition Daemon Event)} {t : Transition Daemon Event}
    (h : Owned t.before past) (ht : TableStep t.event.runEnv t.before t.after) :
    Owned t.after (past ++ [t]) := by
  intro rules hrules
  cases ht with
  | lifted hnone =>
      rw [hnone] at hrules
      cases hrules
  | kept hsame haged =>
      obtain ⟨p, rest, hprocs, t₀, ht₀, env, hstarted, hp⟩ := h rules (hsame ▸ hrules)
      rw [hprocs] at haged
      generalize t.after.procs = procs at haged
      cases haged with
      | @cons _ p' _ _ hl _ =>
          have hattempt : p'.attempt = p.attempt := hl.attempt
          exact ⟨p', _, rfl, t₀, List.mem_append_left _ ht₀, env,
            ⟨hstarted.event, hattempt ▸ hstarted.spawned⟩, hp.later hl⟩
  | armed henv htable hprocs hspawned hp =>
      rw [htable] at hrules
      cases hrules
      exact ⟨_, _, hprocs, t, List.mem_append_right _ (List.mem_singleton_self t), _,
        ⟨henv, hspawned⟩, hp⟩

theorem owned_boot (hleft : cfg.nftAvailable = true ∨ left.table = none) :
    Owned (boot cfg left) [] := by
  have hnone : (boot cfg left).table = none := by
    rw [boot_eq]
    rcases hleft with hn | hl
    · exact if_pos hn
    · rw [hl]
      exact ite_self none
  intro rules hrules
  rw [hnone] at hrules
  cases hrules

theorem owned_run (cfg : Config) (left : Leftover)
    (hleft : cfg.nftAvailable = true ∨ left.table = none) (events : List Event) :
    Owned (final (step cfg) (boot cfg left) events) (runs cfg left events) := by
  have hconsistent := consistent_inductive cfg left
  have h := final_induction
    (P := fun s past => s.firewall.Consistent cfg.nftAvailable left.table ∧ Owned s past)
    ⟨hconsistent.start, owned_boot hleft⟩
    (fun past t h hs => ⟨hconsistent.next h.1 hs, h.2.step (table_step h.1 hleft hs)⟩) events
  exact h.2

/-- The rules have been built in a network, and let out what is meant for the process
there, and nothing else. -/
structure Encloses (net : NetEnv) (p : Proc) (rules : List Char) : Prop where
  exists_connection : ∃ c, p.connection = some c ∧ wantsKillSwitch (some c.sVpn) = true ∧
    buildRuleset net p.config (allowsLan (some c.sVpn)) = .ok rules ∧
    (PlainInputs net p.config →
      ∀ {Addr : Type} (denotes : List Char → Addr → Bool) (packet : Packet Addr),
        ∃ out, letsOut denotes rules packet = some out ∧
          (out = true ↔ Allowed denotes net p.config (allowsLan (some c.sVpn)) packet))

/-- In every reachable state an installed table is that of the child started last, whether
it still runs or not, and a packet leaves the machine exactly if it is meant to for the
profile and the setting of this child, in the network in which it was started. -/
theorem kill_switch_encloses (cfg : Config) (left : Leftover)
    (hleft : cfg.nftAvailable = true ∨ left.table = none) (events : List Event)
    (hnet : Always (fun t => ∀ env ∈ t.event.runEnv, env.net.Sound) (runs cfg left events))
    {rules : List Char} (htable : (final (step cfg) (boot cfg left) events).table = some rules) :
    ∃ p rest, (final (step cfg) (boot cfg left) events).procs = p :: rest ∧
      ∃ t ∈ runs cfg left events, ∃ env, StartedBy t env p ∧ Encloses env.net p rules := by
  obtain ⟨p, rest, hprocs, t, ht, env, hstarted, c, hc, hwants, hbuild⟩ :=
    owned_run cfg left hleft events rules htable
  have hsound := hnet t ht env hstarted.event
  exact ⟨p, rest, hprocs, t, ht, env, hstarted, c, hc, hwants, hbuild,
    fun hplain _ denotes packet => lets_out_iff hsound hplain hbuild denotes packet⟩

theorem sampleEnv_sound (spawn : Except GError Nat) : (sampleEnv spawn).net.Sound where
  answers _ _ h := by cases h
  known _ h _ := decide_eq_true h.ne_colon

theorem sampleEnv_plain (spawn : Except GError Nat) :
    PlainInputs (sampleEnv spawn).net (.ok sampleProfile) := by
  have hone : parsedRemotes (sampleEnv spawn).net (.ok sampleProfile) =
      [⟨"192.0.2.7".toList, "443".toList, "udp".toList⟩] := by
    show (parseRemotes (fun _ => none) (.ok sampleProfile)).result.toOption.getD [] = _
    decide +kernel
  refine ⟨?_, ?_, ?_⟩
  · rw [hone]
    intro entry hentry
    rw [List.mem_singleton.mp hentry]
    exact ⟨443, by decide, by decide, by decide⟩
  · rw [hone]
    decide +kernel
  · exact fun _ h => absurd h List.not_mem_nil

/-- The tunnel has dropped unexpectedly, and the table of the dead process is there: nothing
but what is meant for this process leaves the machine. -/
theorem kill_switch_encloses_sample :
    let cfg := sampleConfig true
    let s := final (step cfg) (boot cfg (sampleLeftover none))
      (sampleDrop ++ [.childWatch 1 (.signaled 9) (sampleEnv (.ok 701))])
    s.priv.pid = 0 ∧ ∃ rules, s.table = some rules ∧
      ∀ {Addr : Type} (denotes : List Char → Addr → Bool) (packet : Packet Addr),
        ∃ out, letsOut denotes rules packet = some out ∧
          (out = true ↔
            Allowed denotes (sampleEnv (.ok 700)).net (.ok sampleProfile) false packet) := by
  intro cfg s
  have hsome : s.table.isSome = true := by decide +kernel
  have hchildren : s.procs.map (fun p => (p.connection, p.config)) =
      [(some sampleConnection, .ok sampleProfile)] := by decide +kernel
  have hevents : ∀ e ∈ sampleDrop ++ [.childWatch 1 (.signaled 9) (sampleEnv (.ok 701))],
      ∀ env ∈ e.runEnv, env = sampleEnv (.ok 700) := by
    simp [sampleDrop, sampleStart, Event.runEnv]
  have hnet : ∀ t ∈ runs cfg (sampleLeftover none)
      (sampleDrop ++ [.childWatch 1 (.signaled 9) (sampleEnv (.ok 701))]),
      ∀ env ∈ t.event.runEnv, env = sampleEnv (.ok 700) :=
    fun t ht => hevents _ (mem_run_event ht)
  obtain ⟨rules, htable⟩ := Option.isSome_iff_exists.mp hsome
  obtain ⟨p, rest, hprocs, t, ht, env, hstarted, ⟨c, hc, -, -, hlets⟩⟩ :=
    kill_switch_encloses cfg (sampleLeftover none) (.inl rfl) _
      (fun t ht env henv => hnet t ht env henv ▸ sampleEnv_sound _) htable
  have henv : env = sampleEnv (.ok 700) := hnet t ht env hstarted.event
  rw [hprocs, List.map_cons] at hchildren
  obtain ⟨hconnection, hconfig⟩ := Prod.mk.inj (List.cons.inj hchildren).1
  have hsetting : c = sampleConnection := Option.some.inj (hc.symm.trans hconnection)
  rw [henv, hconfig, hsetting] at hlets
  exact ⟨by decide +kernel, rules, htable, hlets (sampleEnv_plain _)⟩

end AirVpn.Service
