import AirVpn.Cache.Vouched
import AirVpn.Model.Fetch
import AirVpn.Service.Launches

/-! # What openvpn is started with

The generator, the cache and the daemon together: the profile that a process is
started from has been passed to the cache for its own connection and under the key of
its own parameters, and what is passed to the cache is what the generator sent for
them.
-/

namespace AirVpn.Service

open Daemon Machine

variable {cfg : Config} {env : Env} {s s' : Daemon}

/-! ## The calls of the cache -/

def Effect.store : Effect → Option Cache.Stored
  | .stored uuid params config => some ⟨uuid, params, config⟩
  | _ => none

def storesOf (ts : List (Transition Daemon Event)) : List Cache.Stored :=
  ts.flatMap fun t => t.after.effects.filterMap Effect.store

theorem mem_storesOf {ts : List (Transition Daemon Event)} {x : Cache.Stored} :
    x ∈ storesOf ts ↔ ∃ t ∈ ts, .stored x.uuid x.params x.config ∈ t.after.effects := by
  simp only [storesOf, List.mem_flatMap, List.mem_filterMap]
  refine exists_congr fun t => and_congr_right fun _ => ⟨?_, fun h => ⟨_, h, rfl⟩⟩
  rintro ⟨e, he, hx⟩
  cases e <;> cases hx
  exact he

theorem storesOf_append (ts us : List (Transition Daemon Event)) :
    storesOf (ts ++ us) = storesOf ts ++ storesOf us := List.flatMap_append

/-- A state directory as the daemon leaves it: the metadata are of some parameters, and
what the cache accepts has been passed to a store for them. -/
structure Kept (cfg : Config) (disk : Disk) (history : List Cache.Stored) : Prop where
  hashes : Cache.HashesStored cfg.sha256 cfg.statedir ⟨disk, history⟩
  vouched : Cache.Vouched cfg.sha256 cfg.statedir ⟨disk, history⟩

/-- A store that is cut between its two writes finds no metadata of the connection. -/
def CutBare (cfg : Config) (t : Transition Daemon Event) : Prop :=
  ∀ attempt config env, t.event = .fetchDone attempt (.profile config) env →
    ∀ uuid, t.before.priv.uuid = some uuid → storeCut cfg.statedir env.io uuid = true →
      loadMeta cfg.statedir uuid t.before.disk = none

namespace Kept

variable {disk : Disk} {history : List Cache.Stored}

theorem empty (cfg : Config) : Kept cfg (fun _ => none) [] where
  hashes _ _ h := by cases h
  vouched := by
    rw [Cache.vouched_iff fun _ _ h => by cases h]
    intro _ _ hd
    cases hd

theorem mono (h : Kept cfg disk history) {more : List Cache.Stored}
    (hsub : ∀ x ∈ history, x ∈ more) : Kept cfg disk more where
  hashes := h.hashes
  vouched uuid params hok := (h.vouched uuid params hok).mono hsub rfl

theorem marked (h : Kept cfg disk history) (env : Env) (uuid : Option Uuid) :
    Kept cfg (markedDisk cfg env uuid disk) history := by
  cases uuid with
  | none => exact h
  | some v =>
      exact ⟨Cache.hashesStored_call h.hashes (.markStale env.io v),
        Cache.vouched_markStale h.hashes h.vouched env.io v⟩

theorem store (h : Kept cfg disk history) {io : FileOps} {v : Uuid}
    (hcut : storeCut cfg.statedir io v = true → loadMeta cfg.statedir v disk = none)
    (params : NMAirvpnGeneratorParams) (config : String) (now : Int) :
    Kept cfg (nmAirvpnCacheStore cfg.sha256 cfg.statedir io v params config now disk).1
      (⟨v, params, config⟩ :: history) := by
  refine ⟨Cache.hashesStored_call h.hashes (.store io v params config now),
    (Cache.vouched_store_iff h.hashes h.vouched io v params config now).mpr fun hc m hm => ?_⟩
  rw [hcut hc] at hm
  cases hm

theorem accepted (h : Kept cfg disk history) {uuid : Uuid} {params : NMAirvpnGeneratorParams}
    (he : nmAirvpnCacheExists cfg.sha256 cfg.statedir uuid params disk = true) :
    ∃ x ∈ history, x.uuid = uuid ∧ paramsHash cfg.sha256 x.params = paramsHash cfg.sha256 params ∧
      readText disk (nmAirvpnCacheGetConfigPath cfg.statedir uuid) = .ok x.config := by
  obtain ⟨x, hx, hu, hp, hfile⟩ := h.vouched uuid params (.inr he)
  refine ⟨x, hx, hu, hp, ?_⟩
  change disk _ = _ at hfile
  rw [readText, hfile]

end Kept

theorem FetchOutcome.kept {history : List Cache.Stored} {f : Fetch} {result : FetchResult}
    {fs : List Fetch} (h : Kept cfg s.disk history)
    (hcut : ∀ config, result = .profile config → ∀ uuid, s.priv.uuid = some uuid →
      storeCut cfg.statedir env.io uuid = true → loadMeta cfg.statedir uuid s.disk = none)
    (ho : FetchOutcome cfg env f result { quiet s with fetches := fs } s') :
    Kept cfg s'.disk (s'.effects.filterMap Effect.store ++ history) := by
  have bare : Kept cfg s.disk (s'.effects.filterMap Effect.store ++ history) :=
    h.mono fun _ hx => List.mem_append_right _ hx
  have stores : ∀ {u : Uuid} {params : NMAirvpnGeneratorParams} {config : String} {disk : Disk},
      .stored u params config ∈ s'.effects → Kept cfg disk (⟨u, params, config⟩ :: history) →
      Kept cfg disk (s'.effects.filterMap Effect.store ++ history) := by
    intro u params config disk he hk
    refine hk.mono fun x hx => ?_
    rcases List.mem_cons.mp hx with rfl | hx
    · exact List.mem_append_left _ (List.mem_filterMap.mpr ⟨_, he, rfl⟩)
    · exact List.mem_append_right _ hx
  cases ho with
  | cancelled _ => exact bare
  | abandoned _ _ => exact bare
  | notStored _ _ hu hr =>
      exact stores (by simp) (h.store (hcut _ hr _ hu) _ _ _)
  | stored _ _ hu hr _ hrun =>
      have hmem := mem_afterRun.mpr (.inl (hrun.keeps List.mem_cons_self))
      have hdisk := hrun.disk
      rw [afterRun_eq] at hmem ⊢
      refine stores hmem ?_
      rw [hdisk]
      exact h.store (hcut _ hr _ hu) _ _ _
  | noProfile _ _ _ => exact bare
  | fallback _ _ _ _ hrun =>
      have hdisk := hrun.disk
      rw [afterRun_eq] at bare ⊢
      change Kept cfg _ _
      rw [hdisk]
      exact bare

theorem kept_step {history : List Cache.Stored} {e : Event} (h : Kept cfg s.disk history)
    (hs : step cfg s e = some s') (hcut : CutBare cfg ⟨s, e, s'⟩) :
    Kept cfg s'.disk (history ++ storesOf [⟨s, e, s'⟩]) := by
  have hone : storesOf [⟨s, e, s'⟩] = s'.effects.filterMap Effect.store := by simp [storesOf]
  have swap : ∀ {disk : Disk}, Kept cfg disk (s'.effects.filterMap Effect.store ++ history) →
      Kept cfg disk (history ++ storesOf [⟨s, e, s'⟩]) := fun hk =>
    hk.mono fun x hx => by
      rw [hone]
      exact List.mem_append.mpr (List.mem_append.mp hx).symm
  have bare : Kept cfg s.disk (history ++ storesOf [⟨s, e, s'⟩]) :=
    h.mono fun _ hx => List.mem_append_left _ hx
  cases disk_step hs with
  | same hdisk =>
      rw [hdisk]
      exact bare
  | marked env uuid hdisk =>
      rw [hdisk]
      exact bare.marked env uuid
  | stored io uuid params config now _ he =>
      have hmay := step_effects hs he
      cases e with
      | fetchDone attempt result env =>
          obtain ⟨f, -, -, ho⟩ := step_fetchDone hs
          exact swap (ho.kept h fun config hr uuid hu => hcut attempt config env (hr ▸ rfl) uuid hu)
      | _ => cases hmay

/-! ## Every process runs a profile of its own -/

/-- The config of a process has been passed to the cache for the process's connection,
under the key of the connection's parameters. -/
def RunsOwn (cfg : Config) (history : List Cache.Stored) (p : Proc) : Prop :=
  ∃ c, p.connection = some c ∧ p.uuid = some c.uuid ∧ ∃ x ∈ history, x.uuid = c.uuid ∧
    paramsHash cfg.sha256 x.params = paramsHash cfg.sha256 (getGeneratorParams c.sVpn) ∧
    p.config = .ok x.config

theorem RunsOwn.later {history more : List Cache.Stored} {p p' : Proc} (h : RunsOwn cfg history p)
    (hl : Later p p') (hsub : ∀ x ∈ history, x ∈ more) : RunsOwn cfg more p' := by
  obtain ⟨c, hc, hu, x, hx, hown⟩ := h
  exact ⟨c, hl.connection.trans hc, hl.uuid.trans hu, x, hsub x hx, hown.1, hown.2.1,
    hl.config.trans hown.2.2⟩

theorem Launch.runsOwn {history : List Cache.Stored} {c : NMConnection} {p : Proc}
    (h : Launch cfg s c p) (hk : Kept cfg s.disk history) : RunsOwn cfg history p := by
  obtain ⟨x, hx, hu, hp, hfile⟩ := hk.accepted h.cached
  exact ⟨c, h.connection, h.uuid, x, hx, hu, hp, h.config.trans hfile⟩

structure Provided (cfg : Config) (s : Daemon) (history : List Cache.Stored) : Prop where
  coherent : Coherent s
  kept : Kept cfg s.disk history
  runsOwn : ∀ p ∈ s.procs, RunsOwn cfg history p

theorem Provided.step {history : List Cache.Stored} {t : Transition Daemon Event}
    (h : Provided cfg t.before history) (hs : step cfg t.before t.event = some t.after)
    (hcut : CutBare cfg t) : Provided cfg t.after (history ++ storesOf [t]) := by
  have hk := kept_step h.kept hs hcut
  have hsub : ∀ x ∈ history, x ∈ history ++ storesOf [t] := fun _ hx => List.mem_append_left _ hx
  refine ⟨coherent_step h.coherent hs, hk, fun p' hp' => ?_⟩
  cases child_step h.coherent hs with
  | aged haged _ =>
      obtain ⟨p, hp, hl⟩ := haged.exists_of_mem hp'
      exact (h.runsOwn p hp).later hl hsub
  | launched heq haged hlaunch _ =>
      rw [heq] at hp'
      rcases List.mem_cons.mp hp' with rfl | hp'
      · exact hlaunch.runsOwn hk
      · obtain ⟨p, hp, hl⟩ := haged.exists_of_mem hp'
        exact (h.runsOwn p hp).later hl hsub

theorem provided_run {left : Leftover} {known : List Cache.Stored}
    (hleft : Kept cfg left.disk known) {events : List Event}
    (hcut : Always (CutBare cfg) (runs cfg left events)) :
    Provided cfg (final (Service.step cfg) (boot cfg left) events)
      (known ++ storesOf (runs cfg left events)) := by
  have hboot : Provided cfg (boot cfg left) known :=
    ⟨coherent_boot cfg left, by rwa [boot_eq], fun p hp => by rw [boot_eq] at hp; cases hp⟩
  refine final_induction
    (P := fun s ts => Always (CutBare cfg) ts → Provided cfg s (known ++ storesOf ts))
    (fun _ => by simpa [storesOf] using hboot) (fun ts t h hs hall => ?_) events hcut
  obtain ⟨hts, ht⟩ := Always.append.mp hall
  rw [storesOf_append, ← List.append_assoc]
  exact (h hts).step hs (Always.singleton.mp ht)

/-- From a state directory that an earlier instance has left, every process that is
ever started runs a profile that was passed to the cache for its own connection, under
the key of its own parameters; and the next instance finds the state directory in the
same order. -/
theorem runs_own_profiles (cfg : Config) (left : Leftover) (known : List Cache.Stored)
    (hleft : Kept cfg left.disk known) (events : List Event)
    (hcut : Always (CutBare cfg) (runs cfg left events)) :
    let s := final (step cfg) (boot cfg left) events
    let history := known ++ storesOf (runs cfg left events)
    Kept cfg s.disk history ∧ ∀ p ∈ s.procs, RunsOwn cfg history p :=
  ⟨(provided_run hleft hcut).kept, (provided_run hleft hcut).runsOwn⟩

theorem cutBare_sample :
    Always (CutBare (sampleConfig true))
      (runs (sampleConfig true) (sampleLeftover none) sampleStart) := by
  intro t ht attempt config env he uuid _ hcut
  have hevent := mem_run_event ht
  rw [he] at hevent
  simp only [sampleStart, List.mem_cons, reduceCtorEq, Event.fetchDone.injEq, List.not_mem_nil,
    false_or, or_false] at hevent
  obtain ⟨-, -, rfl⟩ := hevent
  exact absurd hcut (by simp [storeCut, sampleEnv, sampleFileOps])

theorem runs_own_profiles_sample :
    let history := storesOf (runs (sampleConfig true) (sampleLeftover none) sampleStart)
    history ≠ [] ∧ Kept (sampleConfig true) (sampleState sampleStart).disk history ∧
      ∃ p ∈ (sampleState sampleStart).procs, RunsOwn (sampleConfig true) history p := by
  obtain ⟨hkept, hown⟩ := runs_own_profiles (sampleConfig true) (sampleLeftover none) []
    (Kept.empty _) sampleStart cutBare_sample
  have hstarted : 0 < (sampleState sampleStart).procs.length := by decide +kernel
  obtain ⟨p, hp⟩ := List.exists_mem_of_length_pos hstarted
  exact ⟨List.ne_nil_of_length_pos (by decide +kernel), hkept, p, hp, hown p hp⟩

/-! ## What the generator sends -/

structure Transferred (curl : Curl) (body : List Char) : Prop where
  initialized : curl.initialized = true
  delivered : curl.delivered = true
  pieces : curl.pieces.flatten = body
  fits : body.length ≤ maxResponseSize
  status : curl.httpStatus = 200

/-- The answer of the generator to the request for the parameters: a profile, for a
device that the account has. -/
structure Generated (load : List Char → Except GError (Option JsonNode)) (network : Network)
    (params : NMAirvpnGeneratorParams) (apiKey : String) (text : List Char) : Prop where
  server : (nonEmpty params.server).isSome = true
  keyed : apiKey ≠ ""
  received : ∃ body, Transferred (network (buildGeneratorUrl params) apiKey) body ∧
    mentionsError body = false ∧ cString body = text
  client : strstr text "client".toList = true
  ca : strstr text "<ca>".toList = true
  key : strstr text "<key>".toList = true
  device : ∀ device, nonEmpty params.device = some device →
    ∃ body root devices, Transferred (network airvpnDevicesUrl.toList apiKey) body ∧
      mentionsError body = false ∧ load body = .ok root ∧ devicesOf root = some devices ∧
      ∃ item ∈ devices, ∃ name, deviceName item = some name ∧ gAsciiStrcaseequal name device = true

theorem httpGet_value {curl : Curl} {body : List Char} :
    (httpGet curl).value = some body ↔ Transferred curl body := by
  unfold httpGet Curl.body
  rw [receive_eq (Nat.zero_le _), List.nil_append]
  constructor
  · intro h
    split at h
    · cases h
    · next hinit =>
        split at h
        · cases h
        · next received hbody =>
            split at h
            · cases h
            · next hstatus =>
                cases h
                split at hbody
                · next hdelivered =>
                    split at hbody
                    · next hfits =>
                        cases hbody
                        exact ⟨by simpa using hinit, hdelivered, rfl, hfits, by simpa using hstatus⟩
                    · cases hbody
                · cases hbody
  · rintro ⟨hinit, hdelivered, rfl, hfits, hstatus⟩
    rw [if_pos hdelivered, if_pos hfits]
    simp [hinit, hstatus]

theorem checkJsonError_value {body : List Char} :
    (checkJsonError body).value = some () ↔ mentionsError body = false := by
  unfold checkJsonError
  cases mentionsError body with
  | false => simp
  | true => cases mentionsNotAuthorized body <;> simp

theorem validateProfile_value {body : List Char} :
    (validateProfile body).value = some () ↔ mentionsError body = false ∧
      strstr (cString body) "client".toList = true ∧ strstr (cString body) "<ca>".toList = true ∧
        strstr (cString body) "<key>".toList = true := by
  unfold validateProfile
  by_cases hempty : body = []
  · subst hempty
    simp [cString, strstr]
  · rw [if_neg hempty, Returned.bind_value_eq_some]
    constructor
    · rintro ⟨⟨⟩, herror, h⟩
      refine ⟨checkJsonError_value.mp herror, ?_⟩
      split at h
      · cases h
      · next hno => simpa [and_assoc] using hno
    · rintro ⟨herror, hclient, hca, hkey⟩
      refine ⟨(), checkJsonError_value.mpr herror, ?_⟩
      rw [hclient, hca, hkey]
      rfl

theorem validateDevice_value {load : List Char → Except GError (Option JsonNode)}
    {network : Network} {params : NMAirvpnGeneratorParams} {apiKey device : String}
    (hdevice : nonEmpty params.device = some device)
    (h : (validateDevice load network params apiKey).value = some ()) :
    ∃ body root devices, Transferred (network airvpnDevicesUrl.toList apiKey) body ∧
      mentionsError body = false ∧ load body = .ok root ∧ devicesOf root = some devices ∧
      ∃ item ∈ devices, ∃ name, deviceName item = some name ∧
        gAsciiStrcaseequal name device = true := by
  unfold validateDevice at h
  rw [hdevice] at h
  obtain ⟨body, hbody, h⟩ := Returned.bind_value_eq_some.mp h
  obtain ⟨⟨⟩, herror, h⟩ := Returned.bind_value_eq_some.mp h
  obtain ⟨root, hroot, h⟩ := Returned.bind_value_eq_some.mp h
  rw [Returned.value_ofExcept] at hroot
  refine ⟨body, root, ?_⟩
  split at h
  · cases h
  · next devices hdevices =>
      split at h
      · next hany =>
          obtain ⟨item, hitem, hname⟩ := List.any_eq_true.mp hany
          refine ⟨devices, httpGet_value.mp hbody, checkJsonError_value.mp herror, ?_, hdevices,
            item, hitem, ?_⟩
          · cases hload : load body with
            | error e =>
                rw [hload] at hroot
                cases hroot
            | ok loaded =>
                rw [hload] at hroot
                cases hroot
                rfl
          · split at hname
            · cases hname
            · next name hsome => exact ⟨name, hsome, hname⟩
      · cases h

theorem generated_of_fetchSync {load : List Char → Except GError (Option JsonNode)}
    {network : Network} {run : FetchRun} {params : NMAirvpnGeneratorParams} {apiKey : String}
    {text : List Char}
    (h : (nmAirvpnGeneratorFetchSync load network run params apiKey).value = some text) :
    Generated load network params apiKey text := by
  unfold nmAirvpnGeneratorFetchSync at h
  split at h
  · cases h
  · next hserver =>
      split at h
      · cases h
      · next hkey =>
          obtain ⟨⟨⟩, hdevice, h⟩ := Returned.bind_value_eq_some.mp h
          obtain ⟨-, -, h⟩ := Returned.bind_value_eq_some.mp h
          split at h
          · cases h
          · obtain ⟨body, hbody, h⟩ := Returned.bind_value_eq_some.mp h
            obtain ⟨-, -, h⟩ := Returned.bind_value_eq_some.mp h
            obtain ⟨⟨⟩, hprofile, h⟩ := Returned.bind_value_eq_some.mp h
            obtain ⟨herror, hclient, hca, hcert⟩ := validateProfile_value.mp hprofile
            cases h
            exact ⟨Option.isSome_iff_ne_none.mpr (by simpa using hserver), hkey,
              ⟨body, httpGet_value.mp hbody, herror, rfl⟩, hclient, hca, hcert,
              fun device hd => validateDevice_value hd hdevice⟩

/-! ## From the generator to the process -/

section

/-! `load` reads a devices document, and `networks` is the network that each fetch
meets. -/

variable (load : List Char → Except GError (Option JsonNode)) (networks : Nat → Network)

/-- A completion hands over what the worker thread of the fetch has returned. -/
def Genuine (t : Transition Daemon Event) : Prop :=
  ∀ f ∈ t.before.fetches, ∀ config env, t.event = .fetchDone f.attempt (.profile config) env →
    ∃ run, (nmAirvpnGeneratorFetchSync load (networks f.attempt) run f.params f.apiKey).value =
      some config.toList

def GeneratedFor (x : Cache.Stored) : Prop :=
  ∃ attempt apiKey, Generated load (networks attempt) x.params apiKey x.config.toList

variable {load networks}

theorem generatedFor_step {t : Transition Daemon Event} (h : Coherent t.before)
    (hs : step cfg t.before t.event = some t.after) (hgenuine : Genuine load networks t) :
    ∀ x ∈ storesOf [t], GeneratedFor load networks x := by
  intro x hx
  obtain ⟨t', ht', he⟩ := mem_storesOf.mp hx
  cases List.mem_singleton.mp ht'
  obtain ⟨s, e, s'⟩ := t
  have hmay := step_effects hs he
  cases e with
  | fetchDone a result env =>
      obtain ⟨f, hf, rfl, ho⟩ := step_fetchDone hs
      obtain ⟨hc, rfl, -, c, hconn, hparams⟩ := ho.stored_from he
      obtain ⟨run, hrun⟩ := hgenuine f hf _ env rfl
      have hsame : x.params = f.params := hparams.trans ((h.fetch_request f hf hc).2 c hconn).2
      refine ⟨f.attempt, f.apiKey, ?_⟩
      rw [hsame]
      exact generated_of_fetchSync hrun
  | _ => cases hmay

theorem generatedFor_run {left : Leftover} {events : List Event}
    (hgenuine : Always (Genuine load networks) (runs cfg left events)) :
    ∀ x ∈ storesOf (runs cfg left events), GeneratedFor load networks x := by
  have h := (coherent_inductive cfg left).always
    (P := fun t => Genuine load networks t → ∀ x ∈ storesOf [t], GeneratedFor load networks x)
    (fun t hc hs => generatedFor_step hc hs) events
  intro x hx
  obtain ⟨t, ht, he⟩ := mem_storesOf.mp hx
  exact h t ht (hgenuine t ht) x (mem_storesOf.mpr ⟨t, List.mem_singleton_self _, he⟩)

end

/-- From an empty state directory, whatever openvpn is started with is what the
generator sent, with a key and for a device of the account, for parameters under the
key of those of the connection that it is started for. -/
theorem runs_generated_profiles (cfg : Config) (left : Leftover)
    (load : List Char → Except GError (Option JsonNode)) (networks : Nat → Network)
    (hempty : left.disk = fun _ => none) (events : List Event)
    (hcut : Always (CutBare cfg) (runs cfg left events))
    (hgenuine : Always (Genuine load networks) (runs cfg left events)) :
    ∀ p ∈ (final (step cfg) (boot cfg left) events).procs,
      ∃ c text, p.connection = some c ∧ p.config = .ok text ∧ ∃ params attempt apiKey,
        paramsHash cfg.sha256 params = paramsHash cfg.sha256 (getGeneratorParams c.sVpn) ∧
          Generated load (networks attempt) params apiKey text.toList := by
  intro p hp
  have hkept : Kept cfg left.disk [] := hempty ▸ Kept.empty cfg
  obtain ⟨c, hc, -, x, hx, -, hhash, hconfig⟩ := (provided_run hkept hcut).runsOwn p hp
  obtain ⟨attempt, apiKey, hgenerated⟩ := generatedFor_run hgenuine x hx
  exact ⟨c, x.config, hc, hconfig, x.params, attempt, apiKey, hhash, hgenerated⟩

def sampleNetwork : Network := fun _ _ => ⟨true, true, [sampleProfile.toList], "", 200⟩

theorem runs_generated_profiles_sample :
    ∃ p ∈ (sampleState sampleStart).procs, ∃ c text, p.connection = some c ∧
      p.config = .ok text ∧ ∃ params apiKey,
        paramsHash sampleSha256 params = paramsHash sampleSha256 (getGeneratorParams c.sVpn) ∧
          Generated (fun _ => .ok none) sampleNetwork params apiKey text.toList := by
  have hfetched : ∀ t ∈ runs (sampleConfig true) (sampleLeftover none) sampleStart,
      ∀ f ∈ t.before.fetches, (nmAirvpnGeneratorFetchSync (fun _ => .ok none) sampleNetwork
        ⟨false, true, false⟩ f.params f.apiKey).value = some sampleProfile.toList := by
    decide +kernel
  have hgenuine : Always (Genuine (fun _ => .ok none) fun _ => sampleNetwork)
      (runs (sampleConfig true) (sampleLeftover none) sampleStart) := by
    intro t ht f hf config env he
    have hevent := mem_run_event ht
    rw [he] at hevent
    simp only [sampleStart, List.mem_cons, reduceCtorEq, Event.fetchDone.injEq, List.not_mem_nil,
      FetchResult.profile.injEq, false_or, or_false] at hevent
    obtain ⟨-, rfl, -⟩ := hevent
    exact ⟨_, hfetched t ht f hf⟩
  have hstarted : 0 < (sampleState sampleStart).procs.length := by decide +kernel
  obtain ⟨p, hp⟩ := List.exists_mem_of_length_pos hstarted
  obtain ⟨c, text, hc, htext, params, attempt, apiKey, hhash, hgenerated⟩ :=
    runs_generated_profiles (sampleConfig true) (sampleLeftover none) _ _ rfl sampleStart
      cutBare_sample hgenuine p hp
  exact ⟨p, hp, c, text, hc, htext, params, apiKey, hhash, hgenerated⟩

end AirVpn.Service
