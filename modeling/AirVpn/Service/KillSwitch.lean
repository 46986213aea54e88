import AirVpn.Service.Effects

/-! # The kill switch over whole runs

The table, the flag that says it is armed and the flag that keeps it after an
unexpected drop form a small machine of their own: a step of the daemon keeps
them, records a drop, cleans up, or supersedes them in `run_openvpn`. Everything
about the kill switch follows from this refinement and from the invariant that a
tracked process runs under the rules of its own config.
-/

namespace AirVpn.Service

open Daemon Machine

/-! ## The firewall machine -/

structure Firewall where
  table : Option (List Char)
  killSwitchActive : Bool
  unexpectedDrop : Bool

def Daemon.firewall (s : Daemon) : Firewall where
  table := s.table
  killSwitchActive := s.priv.killSwitchActive
  unexpectedDrop := s.priv.unexpectedDrop

namespace Firewall

def cleaned (nft : Bool) (w : Firewall) : Firewall where
  table := if w.killSwitchActive && !w.unexpectedDrop && nft then none else w.table
  killSwitchActive := w.killSwitchActive && w.unexpectedDrop
  unexpectedDrop := w.unexpectedDrop

def superseded (nft : Bool) (w : Firewall) : Firewall where
  table := if w.killSwitchActive && nft then none else w.table
  killSwitchActive := false
  unexpectedDrop := false

/-- What `run_openvpn` leaves once it has reached its supersede step. -/
inductive Launch (nft : Bool) (w : Firewall) : Firewall → Prop where
  | off : Launch nft w (w.superseded nft)
  | armed (rules : List Char) : nft = true →
      Launch nft w ⟨some ((w.superseded nft).table.getD [] ++ rules), true, false⟩
  | disarmed : nft = true → Launch nft w ⟨none, false, false⟩

/-- The steps, labelled by whether the supersede step is reached. -/
inductive Step (nft : Bool) (w : Firewall) : Bool → Firewall → Prop where
  | keep : Step nft w false w
  | drop : Step nft w false { w with unexpectedDrop := true }
  | clean : Step nft w false (w.cleaned nft)
  | launch {w₁ w' : Firewall} : w₁ = w ∨ w₁ = w.cleaned nft → Launch nft w₁ w' → Step nft w true w'

/-- The table is installed exactly when the flag says so, as long as nft is
there; without nft nothing ever changes the table that was left behind. -/
def Consistent (nft : Bool) (leftover : Option (List Char)) (w : Firewall) : Prop :=
  if nft then w.table.isSome = w.killSwitchActive
  else w.killSwitchActive = false ∧ w.table = leftover

section

variable {nft : Bool} {leftover : Option (List Char)} {w w' : Firewall}

theorem Consistent.cleaned (h : w.Consistent nft leftover) :
    (w.cleaned nft).Consistent nft leftover := by
  rcases w with ⟨table, active, drop⟩
  cases nft <;> cases active <;> cases drop <;> simp_all [Consistent, Firewall.cleaned]

theorem Consistent.superseded (h : w.Consistent nft leftover) :
    (w.superseded nft).table = if nft then none else leftover := by
  rcases w with ⟨table, active, drop⟩
  cases nft <;> cases active <;> simp_all [Consistent, Firewall.superseded]

theorem Consistent.launch (h : w.Consistent nft leftover) (hl : Launch nft w w') :
    w'.Consistent nft leftover := by
  cases hl with
  | off =>
      have hs := h.superseded
      unfold Consistent
      cases nft with
      | true => exact congrArg Option.isSome hs
      | false => exact ⟨rfl, by simpa using hs⟩
  | armed rules hn =>
      subst hn
      rfl
  | disarmed hn =>
      subst hn
      rfl

theorem Consistent.step {b : Bool} (h : w.Consistent nft leftover) (hs : Step nft w b w') :
    w'.Consistent nft leftover := by
  cases hs with
  | keep => exact h
  | drop => exact h
  | clean => exact h.cleaned
  | launch hw hl =>
      rcases hw with rfl | rfl
      · exact h.launch hl
      · exact h.cleaned.launch hl

theorem Step.kept (hs : Step nft w false w') (h : w.unexpectedDrop = true) :
    w'.unexpectedDrop = true ∧ w'.table = w.table := by
  cases hs with
  | keep => exact ⟨h, rfl⟩
  | drop => exact ⟨rfl, rfl⟩
  | clean => simp [Firewall.cleaned, h]

theorem Step.no_new_table {b : Bool} (hs : Step nft w b w') (h : b = true → nft = false) :
    w'.table = w.table ∨ w'.table = none := by
  cases hs with
  | keep => exact .inl rfl
  | drop => exact .inl rfl
  | clean =>
      unfold Firewall.cleaned
      split
      · exact .inr rfl
      · exact .inl rfl
  | launch hw hl =>
      obtain rfl := h rfl
      cases hl with
      | off => rcases hw with rfl | rfl <;> simp [Firewall.superseded, Firewall.cleaned]
      | armed _ hn => cases hn
      | disarmed hn => cases hn

end

end Firewall

/-! ## The daemon refines it -/

section

variable {cfg : Config} {env : Env} {s s' : Daemon} {left : Leftover}

theorem firewall_cleanup (cfg : Config) (s : Daemon) :
    (cleanupPlugin cfg s).firewall = s.firewall.cleaned cfg.nftAvailable := by
  rw [cleanupPlugin_eq]
  rfl

theorem firewall_begun (cfg : Config) (c : NMConnection) (s : Daemon) :
    (begun cfg c s).firewall = s.firewall.cleaned cfg.nftAvailable := firewall_cleanup cfg s

theorem RunOutcome.firewall {r : Except GError Unit} (h : RunOutcome cfg env s s' r) :
    s' = s ∨ Firewall.Launch cfg.nftAvailable s.firewall s'.firewall ∧ .supersede ∈ s'.effects := by
  cases h with
  | noBinary _ => exact .inl rfl
  | notArmed _ _ => exact .inr ⟨.off, by simp⟩
  | notSpawned _ ha =>
      refine .inr ⟨?_, by simp⟩
      cases ha with
      | off _ => exact .off
      | on _ hn _ => exact .disarmed hn
  | spawned _ ha _ =>
      refine .inr ⟨?_, by simp⟩
      cases ha with
      | off _ => exact .off
      | on _ hn _ => exact .armed _ hn

theorem RequestOutcome.firewall {c : NMConnection} {r : Except GError Unit}
    (h : RequestOutcome cfg env c (quiet s) s' r) :
    ∃ b, Firewall.Step cfg.nftAvailable s.firewall b s'.firewall ∧
      (b = true ↔ .supersede ∈ s'.effects) := by
  have hno : (.supersede : Effect) ∉ (begun cfg c (quiet s)).effects := fun he => by
    obtain ⟨_, _, _, heq⟩ := mem_begun_effects he
    cases heq
  have hclean : Firewall.Step cfg.nftAvailable s.firewall false
      (begun cfg c (quiet s)).firewall := firewall_begun cfg c (quiet s) ▸ .clean
  cases h with
  | rejected _ => exact ⟨false, .keep, by simp [quiet]⟩
  | stopped _ _ _ => exact ⟨false, hclean, by simpa using hno⟩
  | fetching _ _ _ => exact ⟨false, hclean, by simpa [nmAirvpnGeneratorFetchAsync] using hno⟩
  | ran _ _ hr =>
      rcases hr.firewall with heq | ⟨hl, he⟩
      · exact ⟨false, heq ▸ hclean, by simpa [heq] using hno⟩
      · exact ⟨true, .launch (.inr (firewall_begun cfg c (quiet s))) hl, by simpa using he⟩

theorem firewall_afterRun (r : Daemon × Except GError Unit) :
    (afterRun r).firewall = r.1.firewall ∧
      (.supersede ∈ (afterRun r).effects ↔ .supersede ∈ r.1.effects) := by
  refine ⟨by rw [afterRun_eq]; rfl, ?_⟩
  simp [mem_afterRun]

theorem FetchOutcome.firewall {f : Fetch} {result : FetchResult} {fs : List Fetch}
    (h : FetchOutcome cfg env f result { quiet s with fetches := fs } s') :
    ∃ b, Firewall.Step cfg.nftAvailable s.firewall b s'.firewall ∧
      (b = true ↔ .supersede ∈ s'.effects) := by
  have ran : ∀ {s₀ : Daemon} {r : Daemon × Except GError Unit}, RunOutcome cfg env s₀ r.1 r.2 →
      s₀.firewall = s.firewall → .supersede ∉ s₀.effects →
      ∃ b, Firewall.Step cfg.nftAvailable s.firewall b (afterRun r).firewall ∧
        (b = true ↔ .supersede ∈ (afterRun r).effects) := by
    intro s₀ r hr hw hno
    rw [(firewall_afterRun r).1, (firewall_afterRun r).2]
    rcases hr.firewall with heq | ⟨hl, he⟩
    · rw [heq, hw]
      exact ⟨false, .keep, by simpa using hno⟩
    · exact ⟨true, .launch (.inl hw) hl, by simpa using he⟩
  cases h with
  | cancelled _ => exact ⟨false, .keep, by simp [quiet]⟩
  | abandoned _ _ => exact ⟨false, .keep, by simp [quiet, clearFetchCancellable]⟩
  | notStored _ _ _ _ => exact ⟨false, .keep, by simp [quiet]⟩
  | stored _ _ _ _ _ hr => exact ran hr rfl (by simp [quiet])
  | noProfile _ _ _ => exact ⟨false, .keep, by simp [quiet]⟩
  | fallback _ _ _ _ hr => exact ran hr rfl (by simp [quiet, clearFetchCancellable])

theorem firewall_setState (state : NMVpnServiceState) (s : Daemon) :
    (nmVpnServicePluginSetState state s).firewall = s.firewall := by
  obtain ⟨_, _, hactive, hdrop⟩ := setState_priv state s
  rw [setState_eq]
  simp only [firewall, hactive, hdrop]

theorem firewall_disconnect (cfg : Config) (env : Env) (s : Daemon) :
    Firewall.Step cfg.nftAvailable s.firewall false
      (nmVpnServicePluginDisconnect cfg env s).firewall := by
  cases h : svcActive s with
  | false =>
      rw [disconnect_inactive h]
      exact .keep
  | true =>
      rw [disconnect_active h]
      exact .clean

/-- Every step of the daemon is a step of the firewall machine. -/
theorem firewall_step {e : Event} (h : step cfg s e = some s') :
    ∃ b, Firewall.Step cfg.nftAvailable s.firewall b s'.firewall ∧
      (b = true ↔ .supersede ∈ s'.effects) := by
  have calm : mayEmit e .supersede = false →
      Firewall.Step cfg.nftAvailable s.firewall false s'.firewall →
      ∃ b, Firewall.Step cfg.nftAvailable s.firewall b s'.firewall ∧
        (b = true ↔ .supersede ∈ s'.effects) := by
    intro hno hw
    refine ⟨false, hw, ?_⟩
    have : (.supersede : Effect) ∉ s'.effects := fun he => by simp [step_effects h he] at hno
    simpa using this
  cases step_cases h with
  | request _ _ _ ho _ =>
      obtain ⟨b, hw, hb⟩ := ho.firewall
      exact ⟨b, hw, by simpa using hb⟩
  | disconnect env => exact calm rfl (firewall_disconnect cfg env (quiet s))
  | stateChange state => exact calm rfl (firewall_setState state (quiet s) ▸ .keep)
  | fetchDone _ _ _ _ ho => exact ho.firewall
  | childExits _ _ => exact calm rfl .keep
  | childReaped _ _ => exact calm rfl .keep
  | @childWatch p status env _ _ =>
      apply calm rfl
      rw [watch_eq]
      split
      · split
        · exact .drop
        · exact .keep
      · exact firewall_disconnect cfg env (released env ((quiet s).setProc p.attempt .notified))
  | connectTimeout env _ =>
      apply calm rfl
      rw [timeout_eq]
      split <;> exact .keep
  | killTimeout _ =>
      apply calm rfl
      rw [kill_eq]
      exact .keep
  | otherStarts _ => exact calm rfl .keep
  | otherEnds _ => exact calm rfl .keep
  | dispose => exact calm rfl (firewall_cleanup cfg (quiet s) ▸ .clean)

theorem consistent_inductive (cfg : Config) (left : Leftover) :
    Inductive (step cfg) (boot cfg left) fun s =>
      s.firewall.Consistent cfg.nftAvailable left.table where
  start := by
    rw [boot_eq]
    unfold Firewall.Consistent
    split
    · rfl
    · exact ⟨rfl, rfl⟩
  next h hs := by
    obtain ⟨b, hw, _⟩ := firewall_step hs
    exact h.step hw

/-! ## After an unexpected drop -/

theorem kept_run (h : s.priv.unexpectedDrop = true) {later : List Event}
    (hno : Always (fun t => .supersede ∉ t.after.effects) (run (step cfg) s later)) :
    Always (fun t => t.after.table = s.table) (run (step cfg) s later) := by
  have hstart : Inductive (step cfg) s fun _ => True := ⟨trivial, fun _ _ => trivial⟩
  have hkeep := run_safe (P := fun s' => s'.priv.unexpectedDrop = true ∧ s'.table = s.table) hstart
    ⟨h, rfl⟩ (fun t _ hp hs hq => by
      obtain ⟨b, hw, hb⟩ := firewall_step hs
      cases b with
      | true => exact absurd (hb.mp rfl) hq
      | false => exact ⟨(hw.kept hp.1).1, (hw.kept hp.1).2.trans hp.2⟩) later hno
  exact fun t ht => (hkeep t ht).2.2

/-- Once the abnormal end of the current process of an established tunnel has
been handled, the table that is installed stays installed until `run_openvpn`
reaches its supersede step. -/
theorem dropped_table_kept (cfg : Config) (left : Leftover) (earlier later : List Event)
    (status : WaitStatus) (env : Env) (rules : List Char) (s s' : Daemon)
    (hs : final (step cfg) (boot cfg left) earlier = s)
    (hcurrent : s.priv.pid ≠ 0)
    (hreached : s.attempt ∈ s.reached)
    (harmed : s.table = some rules)
    (habnormal : status.abnormal = true)
    (hexit : step cfg s (.childWatch s.attempt status env) = some s')
    (hno : Always (fun t => .supersede ∉ t.after.effects) (run (step cfg) s' later)) :
    s'.table = some rules ∧
      Always (fun t => t.after.table = some rules) (run (step cfg) s' later) := by
  have hc : Coherent s := hs ▸ (coherent_inductive cfg left).final earlier
  have hstarted : s.priv.started = true := (hc.started_iff (hc.not_idle hcurrent)).mpr hreached
  have hafter := (step_childWatch hexit).2
  have hstarted' : ((quiet s).setProc s.attempt .notified).priv.started = true := hstarted
  rw [watch_eq, if_pos habnormal, if_pos hstarted'] at hafter
  have htable : s'.table = some rules := by
    rw [hafter]
    exact harmed
  have hkept := kept_run (by rw [hafter]) hno
  exact ⟨htable, fun t ht => (hkept t ht).trans htable⟩

def sampleDrop : List Event := sampleStart ++ [.childExits 1, .childReaped 1]

/-- NetworkManager disconnects, a request is rejected, another one finds no
openvpn, and the plugin is disposed of. -/
def sampleAftermath : List Event :=
  [.disconnect (sampleEnv (.ok 701)),
    .connect { sampleConnection with sVpn := { data := [], secrets := [] } } (sampleEnv (.ok 701)),
    .connect sampleConnection { sampleEnv (.ok 701) with fileExists := fun _ => false },
    .dispose]

theorem dropped_table_kept_sample :
    let cfg := sampleConfig true
    let s := final (step cfg) (boot cfg (sampleLeftover none)) sampleDrop
    ∃ s' rules, step cfg s (.childWatch s.attempt (.signaled 9) (sampleEnv (.ok 701))) = some s' ∧
      (run (step cfg) s' sampleAftermath).length = 4 ∧ s'.table = some rules ∧
      Always (fun t => t.after.table = some rules) (run (step cfg) s' sampleAftermath) := by
  intro cfg s
  obtain ⟨rules, harmed⟩ :=
    Option.isSome_iff_exists.mp (show s.table.isSome = true by decide +kernel)
  obtain ⟨s', hexit⟩ := Option.isSome_iff_exists.mp
    (show (step cfg s (.childWatch s.attempt (.signaled 9) (sampleEnv (.ok 701)))).isSome = true by
      decide +kernel)
  have hall : (run (step cfg) s (.childWatch s.attempt (.signaled 9) (sampleEnv (.ok 701)) ::
      sampleAftermath)).length = 5 := by decide +kernel
  have hno : ∀ t ∈ run (step cfg) s (.childWatch s.attempt (.signaled 9) (sampleEnv (.ok 701)) ::
      sampleAftermath), (.supersede : Effect) ∉ t.after.effects := by decide +kernel
  rw [run_cons_some hexit] at hall hno
  refine ⟨s', rules, hexit, by simpa using hall, ?_⟩
  exact dropped_table_kept cfg (sampleLeftover none) sampleDrop sampleAftermath (.signaled 9)
    (sampleEnv (.ok 701)) rules s s' rfl (by decide +kernel) (by decide +kernel) harmed rfl hexit
    fun t ht => hno t (List.mem_cons_of_mem _ ht)

/-! ## The rules of the tracked process -/

/-- The config file of a process still is the one it was started with, and where
its connection wants the kill switch, the table holds the rules of that file. -/
def Enforced (cfg : Config) (s : Daemon) (p : Proc) : Prop :=
  readText s.disk (configPath cfg p.uuid) = p.config ∧
    (wantsKillSwitch (p.connection.map (·.sVpn)) = true →
      ∃ net ruleset,
        buildRuleset net p.config (allowsLan (p.connection.map (·.sVpn))) = .ok ruleset ∧
          s.table = some ruleset)

/-- While a process is tracked, the processes of the current attempt are
enforced. -/
def Covered (cfg : Config) (s : Daemon) : Prop :=
  s.priv.pid ≠ 0 → ∀ p ∈ s.procs, p.attempt = s.attempt → Enforced cfg s p

theorem Covered.of_untracked (h : s.priv.pid = 0) : Covered cfg s := fun hp => absurd h hp

theorem Covered.frame (h : Covered cfg s) (hpid : s'.priv.pid = s.priv.pid)
    (hattempt : s'.attempt = s.attempt) (htable : s'.table = s.table)
    (hdisk : ∀ p ∈ s.procs, readText s'.disk (configPath cfg p.uuid) =
      readText s.disk (configPath cfg p.uuid))
    (hprocs : ∀ p' ∈ s'.procs, ∃ p ∈ s.procs, Later p p') : Covered cfg s' := by
  intro hne p' hp' ha
  obtain ⟨p, hp, hl⟩ := hprocs p' hp'
  have he := h (hpid ▸ hne) p hp (by rw [← hl.attempt, ha, hattempt])
  unfold Enforced at he ⊢
  rwa [hl.uuid, hl.config, hl.connection, hdisk p hp, htable]

theorem later_self {procs : List Proc} : ∀ p' ∈ procs, ∃ p ∈ procs, Later p p' :=
  fun p' hp => ⟨p', hp, .refl p'⟩

theorem readText_markedDisk (cfg : Config) (env : Env) (uuid : Option Uuid) (disk : Disk)
    (u : Uuid) :
    readText (markedDisk cfg env uuid disk) (configPath cfg (some u)) =
      readText disk (configPath cfg (some u)) := by
  have hne : ∀ v, configPath cfg (some u) ≠ metaPath cfg.statedir v := fun v =>
    (metaPath_ne_configPath cfg.statedir v u).symm
  cases uuid with
  | none => rfl
  | some v => simp only [readText, markedDisk, markStale_of_ne (hne v)]

/-- A process that `run_openvpn` starts where no table is left after the
supersede step is enforced. -/
theorem RunOutcome.covered (h : Ready s) {r : Except GError Unit}
    (hnone : (s.firewall.superseded cfg.nftAvailable).table = none)
    (hr : RunOutcome cfg env s s' r) : Covered cfg s' := by
  cases hr with
  | noBinary _ => exact .of_untracked h.pid
  | notArmed _ _ => exact .of_untracked h.pid
  | notSpawned _ _ => exact .of_untracked h.pid
  | spawned openvpn ha _ =>
      intro _ p hp hattempt
      rcases List.mem_cons.mp hp with rfl | hp
      · refine ⟨rfl, fun hw => ?_⟩
        cases ha with
        | off hno => exact absurd (hno.symm.trans hw) (by decide)
        | on _ _ hb =>
            refine ⟨env.net, _, hb, ?_⟩
            have ht : supersededTable cfg s = none := hnone
            simp [ht]
      · exact absurd hattempt (h.fresh p hp)

theorem Covered.afterRun {r : Daemon × Except GError Unit} (h : Covered cfg r.1) :
    Covered cfg (afterRun r) := by
  rw [afterRun_eq]
  exact h

theorem Covered.disconnect (h : Covered cfg s) (env : Env) :
    Covered cfg (nmVpnServicePluginDisconnect cfg env s) := by
  cases hs : svcActive s with
  | false => rwa [disconnect_inactive hs]
  | true =>
      rw [disconnect_active hs]
      exact .of_untracked rfl

theorem Covered.fetchDone (hc : Coherent s) (h : Covered cfg s)
    (hnone : (s.firewall.superseded cfg.nftAvailable).table = none) {f : Fetch}
    {result : FetchResult} (hf : f ∈ s.fetches)
    (ho : FetchOutcome cfg env f result
      { s with fetches := s.fetches.filter (·.attempt ≠ f.attempt) } s') : Covered cfg s' := by
  cases ho with
  | cancelled _ => exact h.frame rfl rfl rfl (fun _ _ => rfl) later_self
  | abandoned _ _ => exact h.frame rfl rfl rfl (fun _ _ => rfl) later_self
  | notStored hcf _ _ _ => exact .of_untracked (hc.finishFetch hf hcf).pid
  | stored hcf _ _ _ _ hr =>
      exact (hr.covered ((hc.finishFetch hf hcf).congr _ _) hnone).afterRun
  | noProfile _ hcf _ => exact .of_untracked (hc.finishFetch hf hcf).pid
  | fallback hcf _ _ _ hr => exact (hr.covered (hc.finishFetch hf hcf) hnone).afterRun

theorem Covered.request (hc : Coherent s) (h : Covered cfg s)
    (hnone : ((s.firewall.cleaned cfg.nftAvailable).superseded cfg.nftAvailable).table = none)
    {c : NMConnection} {r : Except GError Unit} (ho : RequestOutcome cfg env c s s' r) :
    Covered cfg s' := by
  have hb := hc.begun_ready cfg c
  cases ho with
  | rejected _ => exact h
  | stopped _ _ _ => exact .of_untracked hb.pid
  | fetching _ _ _ => exact .of_untracked hb.pid
  | ran _ _ hr => exact hr.covered hb (by rwa [firewall_begun])

theorem Covered.setState (h : Covered cfg s) (state : NMVpnServiceState) :
    Covered cfg (nmVpnServicePluginSetState state s) := by
  rw [setState_eq]
  exact h.frame (setState_priv state s).1 rfl rfl (fun _ _ => rfl) later_self

theorem Firewall.Consistent.superseded_none {w : Firewall} {leftover : Option (List Char)}
    {nft : Bool} (h : w.Consistent nft leftover) (hleft : nft = true ∨ leftover = none) :
    (w.superseded nft).table = none := by
  rw [h.superseded]
  rcases hleft with hn | hl
  · rw [if_pos hn]
  · rw [hl, ite_self]

theorem covered_step {left : Leftover} {e : Event} (hc : Coherent s)
    (hw : s.firewall.Consistent cfg.nftAvailable left.table)
    (hleft : cfg.nftAvailable = true ∨ left.table = none) (h : Covered cfg s)
    (hs : step cfg s e = some s') : Covered cfg s' := by
  have hq : Covered cfg (quiet s) := h
  cases step_cases hs with
  | request _ _ _ ho _ =>
      have hr := Covered.request hc.quiet hq (hw.cleaned.superseded_none hleft) ho
      exact hr
  | disconnect env => exact hq.disconnect env
  | stateChange state => exact hq.setState state
  | fetchDone result hf ha _ ho =>
      subst ha
      exact Covered.fetchDone hc.quiet hq (hw.superseded_none hleft) hf ho
  | childExits _ _ =>
      exact hq.frame rfl rfl rfl (fun _ _ => rfl) fun _ hp => later_of_setProcState hp
  | childReaped _ _ =>
      exact hq.frame rfl rfl rfl (fun _ _ => rfl) fun _ hp => later_of_setProcState hp
  | @childWatch p status env _ _ =>
      rw [watch_eq]
      split
      · split <;> exact .of_untracked rfl
      · exact Covered.disconnect (.of_untracked rfl) env
  | @connectTimeout timer env _ =>
      have hsig : ∀ p' ∈ cleanedProcs s, ∃ p ∈ s.procs, Later p p' := fun p' hp => by
        obtain ⟨p, hm, hl, _⟩ := later_of_cleanedProcs hp
        exact ⟨p, hm, hl⟩
      have hdisk : ∀ p ∈ s.procs, readText (markedDisk cfg env s.priv.uuid s.disk)
          (configPath cfg p.uuid) = readText s.disk (configPath cfg p.uuid) := fun p hp => by
        obtain ⟨u, hu⟩ := Option.isSome_iff_exists.mp (hc.proc_uuid p hp)
        rw [hu, readText_markedDisk]
      rw [timeout_eq]
      split
      · exact hq.frame rfl rfl rfl (fun _ _ => rfl) later_self
      · exact hq.frame rfl rfl rfl hdisk hsig
  | killTimeout _ =>
      rw [kill_eq]
      exact hq.frame rfl rfl rfl (fun _ _ => rfl) fun p' hp => by
        obtain ⟨p, hm, hl, _⟩ := later_of_signalProcs hp
        exact ⟨p, hm, hl⟩
  | otherStarts _ => exact hq
  | otherEnds _ => exact hq
  | dispose =>
      rw [cleanupPlugin_eq]
      exact .of_untracked rfl

/-! ## Every call of `nm_airvpn_firewall_arm` -/

theorem RunOutcome.armCalled {r : Except GError Unit} (h : RunOutcome cfg env s s' r)
    {installed : Option (List Char)} (he : .armCalled installed ∈ s'.effects) :
    .armCalled installed ∈ s.effects ∨
      installed = (s.firewall.superseded cfg.nftAvailable).table := by
  have arm : ∀ {table : Option (List Char)} {active : Bool} {effects : List Effect},
      ArmOutcome cfg env s table active effects → .armCalled installed ∈ effects →
      installed = supersededTable cfg s := by
    intro table active effects ha hm
    cases ha with
    | off _ => cases hm
    | on _ _ _ => simpa using hm
  cases h with
  | noBinary _ => exact .inl he
  | notArmed _ _ =>
      simp only [List.mem_cons, Effect.armCalled.injEq, reduceCtorEq, false_or] at he
      exact he.symm
  | notSpawned _ ha =>
      simp only [List.mem_append, List.mem_cons, reduceCtorEq, false_or] at he
      exact he.symm.imp_right (arm ha)
  | spawned _ ha _ =>
      simp only [List.mem_append, List.mem_cons, reduceCtorEq, false_or] at he
      exact he.symm.imp_right (arm ha)

theorem armCalled_afterRun {r : Daemon × Except GError Unit} {installed : Option (List Char)}
    (he : .armCalled installed ∈ (afterRun r).effects) : .armCalled installed ∈ r.1.effects := by
  rcases mem_afterRun.mp he with he | ⟨_, _, heq⟩
  · exact he
  · cases heq

theorem RequestOutcome.armCalled {c : NMConnection} {r : Except GError Unit}
    (h : RequestOutcome cfg env c (quiet s) s' r) {installed : Option (List Char)}
    (he : .armCalled installed ∈ s'.effects) :
    installed = ((s.firewall.cleaned cfg.nftAvailable).superseded cfg.nftAvailable).table := by
  have hno : .armCalled installed ∉ (begun cfg c (quiet s)).effects := fun hm => by
    obtain ⟨_, _, _, heq⟩ := mem_begun_effects hm
    cases heq
  cases h with
  | rejected _ => cases he
  | stopped _ _ _ => exact absurd he hno
  | fetching _ _ _ => exact absurd ((List.mem_cons.mp he).resolve_left (by simp)) hno
  | ran _ _ hr =>
      have heq := (hr.armCalled he).resolve_left hno
      rwa [firewall_begun] at heq

theorem FetchOutcome.armCalled {f : Fetch} {result : FetchResult} {fs : List Fetch}
    (h : FetchOutcome cfg env f result { quiet s with fetches := fs } s')
    {installed : Option (List Char)} (he : .armCalled installed ∈ s'.effects) :
    installed = (s.firewall.superseded cfg.nftAvailable).table := by
  cases h with
  | cancelled _ => cases he
  | abandoned _ _ => cases he
  | notStored _ _ _ _ => simp [quiet] at he
  | stored _ _ _ _ _ hr =>
      exact (hr.armCalled (armCalled_afterRun he)).resolve_left (by simp [quiet])
  | noProfile _ _ _ => simp [quiet] at he
  | fallback _ _ _ _ hr =>
      exact (hr.armCalled (armCalled_afterRun he)).resolve_left
        (by simp [quiet, clearFetchCancellable])

theorem armCalled_step {e : Event} (hs : step cfg s e = some s')
    {installed : Option (List Char)} (he : .armCalled installed ∈ s'.effects) :
    ∃ w, (w = s.firewall ∨ w = s.firewall.cleaned cfg.nftAvailable) ∧
      installed = (w.superseded cfg.nftAvailable).table := by
  have hmay := step_effects hs he
  cases step_cases hs with
  | request _ _ _ ho _ =>
      exact ⟨_, .inr rfl, ho.armCalled ((List.mem_cons.mp he).resolve_left (by simp))⟩
  | fetchDone _ _ _ _ ho => exact ⟨_, .inl rfl, ho.armCalled he⟩
  | _ => cases hmay

/-! ## The kill switch in every reachable state -/

/-- The flag says whether the table is installed; the rules that the last event
loaded, if any, were loaded beside no others; and a tracked process is
enforced. -/
structure KillSwitchSound (cfg : Config) (s : Daemon) : Prop where
  installed_iff : s.table.isSome = true ↔ s.priv.killSwitchActive = true
  armed_alone : ∀ installed, .armCalled installed ∈ s.effects → installed = none
  enforced : s.priv.pid ≠ 0 → ∃ p ∈ s.procs, Tracked s.attempt s.priv.pid p ∧ Enforced cfg s p

structure KillSwitchInv (cfg : Config) (left : Leftover) (s : Daemon) : Prop where
  coherent : Coherent s
  consistent : s.firewall.Consistent cfg.nftAvailable left.table
  armed_alone : ∀ installed, .armCalled installed ∈ s.effects → installed = none
  covered : Covered cfg s

theorem killSwitchInv_inductive (cfg : Config) (left : Leftover)
    (hleft : cfg.nftAvailable = true ∨ left.table = none) :
    Inductive (step cfg) (boot cfg left) (KillSwitchInv cfg left) where
  start :=
    { coherent := coherent_boot cfg left
      consistent := (consistent_inductive cfg left).start
      armed_alone := fun _ he => by
        rw [boot_eq] at he
        cases he
      covered := .of_untracked (by rw [boot_eq]; rfl) }
  next h hs :=
    { coherent := coherent_step h.coherent hs
      consistent := (consistent_inductive cfg left).next h.consistent hs
      armed_alone := fun installed he => by
        obtain ⟨w, hw, heq⟩ := armCalled_step hs he
        rcases hw with rfl | rfl
        · rw [heq, h.consistent.superseded_none hleft]
        · rw [heq, h.consistent.cleaned.superseded_none hleft]
      covered := covered_step h.coherent h.consistent hleft h.covered hs }

/-- The kill switch holds in every reachable state, as long as nft is there or
no earlier instance has left a table that nobody can delete. -/
theorem kill_switch_sound (cfg : Config) (left : Leftover)
    (hleft : cfg.nftAvailable = true ∨ left.table = none) (events : List Event) :
    KillSwitchSound cfg (final (step cfg) (boot cfg left) events) := by
  have h := (killSwitchInv_inductive cfg left hleft).final events
  refine ⟨?_, h.armed_alone, fun hp => ?_⟩
  · have hc := h.consistent
    unfold Firewall.Consistent at hc
    split at hc
    · exact Bool.eq_iff_iff.mp hc
    · rename_i hno
      have ht : (final (step cfg) (boot cfg left) events).table = none :=
        hc.2.trans (hleft.resolve_left hno)
      have ha : (final (step cfg) (boot cfg left) events).priv.killSwitchActive = false := hc.1
      simp [ht, ha]
  · obtain ⟨p, hm, ht⟩ := h.coherent.tracked hp
    exact ⟨p, hm, ht, h.covered hp p hm ht.attempt⟩

theorem kill_switch_sound_sample :
    KillSwitchSound (sampleConfig true)
        (final (step (sampleConfig true)) (boot (sampleConfig true) (sampleLeftover none))
          sampleStart) ∧
      (final (step (sampleConfig true)) (boot (sampleConfig true) (sampleLeftover none))
        sampleStart).priv.pid = 700 :=
  ⟨kill_switch_sound (sampleConfig true) (sampleLeftover none) (.inl rfl) sampleStart,
    by decide +kernel⟩

/-- Without nft the start of the daemon cannot delete a table that an earlier
instance has left: it stays installed and the flag does not say so. -/
theorem kill_switch_unsound_without_nft :
    ¬ KillSwitchSound (sampleConfig false)
      (final (step (sampleConfig false))
        (boot (sampleConfig false) (sampleLeftover (some rulesetHead))) sampleStart) := by
  intro h
  exact absurd (h.installed_iff.mp (by decide +kernel)) (by decide +kernel)

end

end AirVpn.Service
