import Mathlib.Data.List.Nodup
import AirVpn.Model.Fetch
import AirVpn.Settings.Accepted
import AirVpn.Service.Spec

/-! # Errors that are reported

The functions whose errors `fetch_done_cb` reads, with what they return beside their
`GError`. Each keeps to the convention, but for the argument checks of
`nm_airvpn_generator_fetch_sync`, which an accepted connection with an empty server
runs into.
-/

namespace AirVpn.Service.Reporting

open Returned

/-! ## The fetch -/

theorem clean_httpGet (curl : Curl) : (httpGet curl).Clean := by
  refine Clean.ite (fun _ => rfl) fun _ => ?_
  cases curl.body maxResponseSize with
  | none => rfl
  | some body => exact Clean.ite (fun _ => rfl) fun _ => rfl

theorem clean_checkJsonError (body : List Char) : (checkJsonError body).Clean :=
  Clean.ite (fun _ => Clean.ite (fun _ => rfl) fun _ => rfl) fun _ => rfl

theorem clean_unlessCancelled (cancelled : Bool) : (unlessCancelled cancelled).Clean :=
  Clean.ite (fun _ => rfl) fun _ => rfl

theorem clean_validateProfile (body : List Char) : (validateProfile body).Clean := by
  refine Clean.ite (fun _ => rfl) fun _ => ?_
  exact (clean_checkJsonError body).bind fun _ => Clean.ite (fun _ => rfl) fun _ => rfl

section

variable (load : List Char → Except GError (Option JsonNode)) (network : Network) (run : FetchRun)

theorem clean_validateDevice (params : NMAirvpnGeneratorParams) (apiKey : String) :
    (validateDevice load network params apiKey).Clean := by
  unfold validateDevice
  cases nonEmpty params.device with
  | none => rfl
  | some device =>
      refine (clean_httpGet _).bind fun body => ?_
      refine (clean_checkJsonError body).bind fun _ => ?_
      refine (clean_ofExcept _).bind fun root => ?_
      cases devicesOf root with
      | none => rfl
      | some devices => exact Clean.ite (fun _ => rfl) fun _ => rfl

theorem clean_fetchSync_iff (params : NMAirvpnGeneratorParams) (apiKey : String) :
    (nmAirvpnGeneratorFetchSync load network run params apiKey).Clean ↔
      (nonEmpty params.server).isSome = true ∧ apiKey ≠ "" := by
  unfold nmAirvpnGeneratorFetchSync
  cases nonEmpty params.server with
  | none => simpa using not_clean_silent
  | some server =>
      by_cases hkey : apiKey = ""
      · simpa [hkey] using not_clean_silent
      · simp only [Option.isNone_some, Bool.false_eq_true, if_false, hkey, Option.isSome_some,
          ne_eq, not_false_eq_true, and_self, iff_true]
        refine (clean_validateDevice load network params apiKey).bind fun _ => ?_
        refine (clean_unlessCancelled _).bind fun _ => Clean.ite (fun _ => rfl) fun _ => ?_
        refine (clean_httpGet _).bind fun body => ?_
        refine (clean_unlessCancelled _).bind fun _ => ?_
        exact (clean_validateProfile body).bind fun _ => rfl

end

theorem clean_finish {fetched : GReturned (List Char)} (h : fetched.Clean) (cancelled : Bool) :
    (nmAirvpnGeneratorFetchFinish cancelled (fetchThreadCb fetched)).Clean := by
  refine Clean.ite (fun _ => rfl) fun _ => ?_
  obtain ⟨x, rfl⟩ := clean_iff.mp h
  cases x <;> rfl

/-! ## The cache -/

def writeFile0600 (io : FileOps) (path : String) : GReturned Unit :=
  match io.setContents path with
  | some message => fail ⟨.fileError, message⟩
  | none => ok ()

def nmAirvpnCacheStore (statedir : String) (io : FileOps) (uuid : Uuid) : GReturned Unit :=
  match io.mkdirWithParents (cacheDir statedir uuid) with
  | some strerror =>
      fail ⟨.fileError, "Could not create cache directory “" ++ cacheDir statedir uuid ++ "”: " ++
        strerror⟩
  | none =>
      (writeFile0600 io (nmAirvpnCacheGetConfigPath statedir uuid)).bind fun () =>
      writeFile0600 io (metaPath statedir uuid)

theorem nmAirvpnCacheStore_eq (sha256 : String → String) (statedir : String) (io : FileOps)
    (uuid : Uuid) (params : NMAirvpnGeneratorParams) (config : String) (now : Int) (disk : Disk) :
    nmAirvpnCacheStore statedir io uuid =
      ofExcept (AirVpn.nmAirvpnCacheStore sha256 statedir io uuid params config now disk).2 := by
  unfold nmAirvpnCacheStore AirVpn.nmAirvpnCacheStore
  cases io.mkdirWithParents (cacheDir statedir uuid) with
  | some strerror => rfl
  | none =>
      dsimp only [writeFile0600, AirVpn.writeFile0600]
      cases io.setContents (nmAirvpnCacheGetConfigPath statedir uuid) with
      | some message => rfl
      | none => cases io.setContents (metaPath statedir uuid) <;> rfl

theorem clean_store (statedir : String) (io : FileOps) (uuid : Uuid) :
    (nmAirvpnCacheStore statedir io uuid).Clean := by
  rw [nmAirvpnCacheStore_eq (fun _ => "") statedir io uuid ⟨none, none, none, none, none⟩ "" 0
    fun _ => none]
  exact clean_ofExcept _

/-! ## The firewall -/

/-- What `nft` leaves when it has been run: its wait status, as
`g_spawn_check_wait_status` reports it, and its standard error. -/
structure NftExit where
  status : Except GError Unit
  stderr : String

/-- `run_nft`: what nft says takes the place of the error of its status. -/
def runNft (spawned : Except GError NftExit) : GReturned Unit :=
  (ofExcept spawned).bind fun exit =>
  match exit.status with
  | .ok () => ok ()
  | .error e => if exit.stderr = "" then fail e else fail ⟨.spawnError, exit.stderr⟩

def parseRemotes (stray : List Char → Option (List Char)) (contents : Except GError String) :
    GReturned (List RemoteEntry) :=
  (ofExcept contents).bind fun contents =>
  let lines := gStrsplit (cText contents) '\n'
  let read := lines.map (parseRemoteLine stray (parseDefaultProto lines))
  match read.filterMap RemoteLine.remote with
  | [] => fail ⟨.fileError, "The OpenVPN config has no “remote” directive."⟩
  | remotes => ok remotes

def appendRemoteRules (net : NetEnv) (entry : RemoteEntry) : GReturned (List Char) :=
  let proto := nftProto entry.proto
  if gHostnameIsIpAddress entry.host then
    ok (acceptRule (entry.host.contains ':' && net.knownV6 entry.host) entry.host proto entry.port)
  else
    (ofExcept (net.lookupByName entry.host)).bind fun addresses =>
    ok (addresses.val.flatMap fun addr => acceptRule addr.isV6 addr.text proto entry.port)

def remoteRules (net : NetEnv) : List RemoteEntry → GReturned (List Char)
  | [] => ok []
  | entry :: rest =>
      (appendRemoteRules net entry).bind fun rules =>
      (remoteRules net rest).bind fun more =>
      ok (rules ++ more)

def buildRuleset (net : NetEnv) (contents : Except GError String) (allowLan : Bool) :
    GReturned (List Char) :=
  (parseRemotes net.stray contents).bind fun remotes =>
  (remoteRules net remotes).bind fun rules =>
  ok (rulesetHead ++ appendResolverRules net ++ rules ++ (if allowLan then lanRules else []) ++
    rulesetTail)

def nmAirvpnFirewallArm (nftAvailable : Bool) (statedir : String) (io : FileOps) (net : NetEnv)
    (spawned : Except GError NftExit) (contents : Except GError String) (allowLan : Bool) :
    GReturned (List Char) :=
  if !nftAvailable then
    fail ⟨.spawnError, "The “nft” binary is not installed; cannot enforce the kill switch."⟩
  else
    (buildRuleset net contents allowLan).bind fun ruleset =>
    (writeFile0600 io (gBuildFilename [statedir, rulesetFileName])).bind fun () =>
    (runNft spawned).bind fun () =>
    ok ruleset

theorem parseRemotes_eq (stray : List Char → Option (List Char))
    (contents : Except GError String) :
    parseRemotes stray contents = ofExcept (AirVpn.parseRemotes stray contents).result := by
  cases contents with
  | error e => rfl
  | ok text =>
      unfold parseRemotes AirVpn.parseRemotes Parsed.ofLines
      simp only [ofExcept_ok, bind_ok]
      generalize List.map _ _ = read
      cases read.filterMap RemoteLine.remote with
      | nil => rfl
      | cons entry entries => cases read.any RemoteLine.isOverread <;> rfl

theorem appendRemoteRules_eq (net : NetEnv) (entry : RemoteEntry) :
    appendRemoteRules net entry = ofExcept (AirVpn.appendRemoteRules net entry) := by
  unfold appendRemoteRules AirVpn.appendRemoteRules
  dsimp only
  split
  · rfl
  · cases net.lookupByName entry.host <;> rfl

theorem remoteRules_eq (net : NetEnv) (entries : List RemoteEntry) :
    remoteRules net entries = ofExcept (AirVpn.remoteRules net entries) := by
  induction entries with
  | nil => rfl
  | cons entry entries ih =>
      unfold remoteRules AirVpn.remoteRules
      rw [appendRemoteRules_eq, ih]
      cases AirVpn.appendRemoteRules net entry with
      | error e => rfl
      | ok rules => cases AirVpn.remoteRules net entries <;> rfl

theorem buildRuleset_eq (net : NetEnv) (contents : Except GError String) (allowLan : Bool) :
    buildRuleset net contents allowLan = ofExcept (AirVpn.buildRuleset net contents allowLan) := by
  unfold buildRuleset AirVpn.buildRuleset
  rw [parseRemotes_eq]
  cases (AirVpn.parseRemotes net.stray contents).result with
  | error e => rfl
  | ok remotes =>
      simp only [ofExcept_ok, bind_ok, remoteRules_eq]
      cases AirVpn.remoteRules net remotes <;> rfl

theorem clean_writeFile0600 (io : FileOps) (path : String) : (writeFile0600 io path).Clean := by
  unfold writeFile0600
  cases io.setContents path <;> rfl

theorem clean_runNft (spawned : Except GError NftExit) : (runNft spawned).Clean := by
  refine (clean_ofExcept spawned).bind fun exit => ?_
  cases exit.status with
  | ok _ => rfl
  | error e => exact Clean.ite (fun _ => rfl) fun _ => rfl

theorem clean_arm (nftAvailable : Bool) (statedir : String) (io : FileOps) (net : NetEnv)
    (spawned : Except GError NftExit) (contents : Except GError String) (allowLan : Bool) :
    (nmAirvpnFirewallArm nftAvailable statedir io net spawned contents allowLan).Clean := by
  refine Clean.ite (fun _ => rfl) fun _ => ?_
  rw [buildRuleset_eq]
  refine (clean_ofExcept _).bind fun ruleset => ?_
  refine (clean_writeFile0600 _ _).bind fun _ => ?_
  exact (clean_runNft spawned).bind fun _ => rfl

/-- The outcome of running nft, as the daemon is given it. -/
def nftOutcome (spawned : Except GError NftExit) : Option String :=
  (runNft spawned).error.map (·.message)

theorem arm_value (nftAvailable : Bool) (statedir : String) (io : FileOps) (net : NetEnv)
    (spawned : Except GError NftExit) (contents : Except GError String) (allowLan : Bool) :
    (nmAirvpnFirewallArm nftAvailable statedir io net spawned contents allowLan).value =
      (AirVpn.nmAirvpnFirewallArm nftAvailable statedir io net (nftOutcome spawned) contents
        allowLan).toOption := by
  unfold nmAirvpnFirewallArm AirVpn.nmAirvpnFirewallArm nftOutcome
  cases nftAvailable with
  | false => rfl
  | true =>
      simp only [Bool.not_true, Bool.false_eq_true, if_false, buildRuleset_eq]
      cases AirVpn.buildRuleset net contents allowLan with
      | error e => rfl
      | ok ruleset =>
          dsimp only [ofExcept_ok, bind_ok, writeFile0600]
          cases io.setContents (gBuildFilename [statedir, rulesetFileName]) with
          | some message => rfl
          | none =>
              obtain ⟨x, hx⟩ := clean_iff.mp (clean_runNft spawned)
              dsimp only
              rw [bind_ok, hx]
              cases x <;> rfl

theorem arm_cases (nftAvailable : Bool) (statedir : String) (io : FileOps) (net : NetEnv)
    (spawned : Except GError NftExit) (contents : Except GError String) (allowLan : Bool) :
    (∃ e e', nmAirvpnFirewallArm nftAvailable statedir io net spawned contents allowLan = fail e ∧
        AirVpn.nmAirvpnFirewallArm nftAvailable statedir io net (nftOutcome spawned) contents
          allowLan = .error e') ∨
      ∃ ruleset,
        nmAirvpnFirewallArm nftAvailable statedir io net spawned contents allowLan = ok ruleset ∧
          AirVpn.nmAirvpnFirewallArm nftAvailable statedir io net (nftOutcome spawned) contents
            allowLan = .ok ruleset := by
  have hvalue := arm_value nftAvailable statedir io net spawned contents allowLan
  obtain ⟨x, hx⟩ :=
    clean_iff.mp (clean_arm nftAvailable statedir io net spawned contents allowLan)
  rw [hx] at hvalue ⊢
  cases ha : AirVpn.nmAirvpnFirewallArm nftAvailable statedir io net (nftOutcome spawned) contents
      allowLan with
  | error e' =>
      rw [ha] at hvalue
      cases x with
      | error e => exact .inl ⟨e, e', rfl, rfl⟩
      | ok ruleset => cases hvalue
  | ok ruleset =>
      rw [ha] at hvalue
      cases x with
      | error e => cases hvalue
      | ok ruleset' =>
          cases hvalue
          exact .inr ⟨ruleset, rfl, rfl⟩

/-! ## Starting openvpn -/

def runOpenvpn (cfg : Config) (env : Env) (nft : Except GError NftExit) (s : Daemon) :
    GReturned Unit :=
  let sVpn := s.priv.connection.map (·.sVpn)
  match nmFindOpenvpn env with
  | none => fail ⟨.launchFailed, "Could not find the openvpn binary."⟩
  | some _ =>
      (if wantsKillSwitch sVpn then
        (nmAirvpnFirewallArm cfg.nftAvailable cfg.statedir env.io env.net nft
          (readText s.disk (configPath cfg s.priv.uuid)) (allowsLan sVpn)).bind fun _ => ok ()
      else ok ()).bind fun () =>
      (ofExcept env.spawn).bind fun _ =>
      ok ()

theorem clean_runOpenvpn (cfg : Config) (env : Env) (nft : Except GError NftExit) (s : Daemon) :
    (runOpenvpn cfg env nft s).Clean := by
  unfold runOpenvpn
  cases nmFindOpenvpn env with
  | none => rfl
  | some openvpn =>
      refine Clean.bind (Clean.ite (fun _ => ?_) fun _ => clean_ok ()) fun _ => ?_
      · exact (clean_arm _ _ _ _ _ _ _).bind fun _ => rfl
      · exact (clean_ofExcept env.spawn).bind fun _ => rfl

theorem spawn_value (cfg : Config) (env : Env) (nft : Except GError NftExit) (path : String)
    (argv : List String) (s : Daemon) :
    ((ofExcept env.spawn).bind fun _ => (ok () : GReturned Unit)).value =
      (spawnOpenvpn cfg { env with nft := nftOutcome nft } path argv s).2.toOption := by
  unfold spawnOpenvpn
  cases env.spawn <;> rfl

/-- openvpn is started as it is by the daemon. -/
theorem runOpenvpn_value (cfg : Config) (env : Env) (nft : Except GError NftExit) (s : Daemon) :
    (runOpenvpn cfg env nft s).value =
      (Service.runOpenvpn cfg { env with nft := nftOutcome nft } s).2.toOption := by
  have hdisk : (supersede cfg s).disk = s.disk := by
    rw [supersede_eq]
  unfold runOpenvpn Service.runOpenvpn
  change (match nmFindOpenvpn env with | none => _ | some _ => _ : GReturned Unit).value =
    (match nmFindOpenvpn env with
      | none => _
      | some _ => _ : Daemon × Except GError Unit).2.toOption
  cases nmFindOpenvpn env with
  | none => rfl
  | some openvpn =>
      dsimp only
      unfold armKillSwitch
      cases wantsKillSwitch (s.priv.connection.map (·.sVpn)) with
      | false => exact spawn_value _ _ _ _ _ _
      | true =>
          simp only [if_true, Daemon.emit, hdisk]
          rcases arm_cases cfg.nftAvailable cfg.statedir env.io env.net nft
              (readText s.disk (configPath cfg s.priv.uuid))
              (allowsLan (s.priv.connection.map (·.sVpn))) with
            ⟨e, e', harm, harm'⟩ | ⟨ruleset, harm, harm'⟩
          · simp only [harm, harm']
            rfl
          · simp only [harm, harm']
            exact spawn_value _ _ _ _ _ _

/-! ## The completion of a fetch -/

/-- `error->message`; there is nothing to read where there is no error. -/
def message (error : Option GError) : Option String := error.map (·.message)

/-- What `fetch_done_cb` leaves, and the messages it has read on the way. It comes to
nothing where it reads a message through NULL. -/
abbrev Completion := Option (Daemon × List String)

def failWith (error : Option GError) (reason : String → NMVpnPluginFailure) (s : Daemon) :
    Completion :=
  (message error).map fun read => (nmVpnServicePluginFailure (reason read) s, [read])

def runAfterFetch (cfg : Config) (env : Env) (nft : Except GError NftExit) (s : Daemon) :
    Completion :=
  let ran := runOpenvpn cfg env nft s
  let s := (Service.runOpenvpn cfg { env with nft := nftOutcome nft } s).1
  match ran.value with
  | some () => some (s, [])
  | none => failWith ran.error (fun _ => .connectFailed) s

def fetchDoneCb (cfg : Config) (env : Env) (nft : Except GError NftExit)
    (finished : GReturned (List Char)) (s : Daemon) : Completion :=
  if finished.error.any (·.code = .ioCancelled) then some (s, [])
  else
    let s := clearFetchCancellable s
    match s.priv.connection, s.priv.uuid with
    | some connection, some uuid =>
        let params := getGeneratorParams connection.sVpn
        match finished.value with
        | some config =>
            let stored := nmAirvpnCacheStore cfg.statedir env.io uuid
            let s :=
              { s with
                disk := (AirVpn.nmAirvpnCacheStore cfg.sha256 cfg.statedir env.io uuid params
                  (String.ofList config) env.now s.disk).1
                effects := .stored uuid params (String.ofList config) :: s.effects }
            match stored.value with
            | none => failWith (finished.error.or stored.error) (fun _ => .connectFailed) s
            | some () => runAfterFetch cfg env nft s
        | none =>
            if nmAirvpnCacheExists cfg.sha256 cfg.statedir uuid params s.disk then
              -- the failure of the fetch is logged before openvpn is started
              (message finished.error).bind fun read =>
              (runAfterFetch cfg env nft s).map fun (s, more) => (s, read :: more)
            else
              failWith finished.error (fun read =>
                if strstr read.toList "API key".toList then .loginFailed else .connectFailed) s
    | _, _ => some (s, [])

theorem message_isSome {α : Type} {r : GReturned α} (h : r.Clean) (hnone : r.value = none) :
    (message r.error).isSome = true := by
  unfold Clean at h
  rw [hnone] at h
  cases herror : r.error with
  | none =>
      rw [herror] at h
      cases h
  | some e => rfl

theorem failWith_isSome {α : Type} {r : GReturned α} (h : r.Clean) (hnone : r.value = none)
    (reason : String → NMVpnPluginFailure) (s : Daemon) :
    (failWith r.error reason s).isSome = true := by
  rw [failWith, Option.isSome_map]
  exact message_isSome h hnone

theorem runAfterFetch_isSome (cfg : Config) (env : Env) (nft : Except GError NftExit) (s : Daemon) :
    (runAfterFetch cfg env nft s).isSome = true := by
  unfold runAfterFetch
  dsimp only
  split
  · rfl
  · next hnone => exact failWith_isSome (clean_runOpenvpn cfg env nft s) hnone _ _

theorem fetchDoneCb_isSome (cfg : Config) (env : Env) (nft : Except GError NftExit)
    {finished : GReturned (List Char)} (h : finished.Clean) (s : Daemon) :
    (fetchDoneCb cfg env nft finished s).isSome = true := by
  obtain ⟨x, rfl⟩ := clean_iff.mp h
  unfold fetchDoneCb
  split
  · rfl
  · dsimp only
    split
    · next connection uuid _ _ =>
        cases x with
        | error e =>
            dsimp only [ofExcept_error, value_fail]
            split
            · change ((runAfterFetch cfg env nft _).map _).isSome = true
              rw [Option.isSome_map]
              exact runAfterFetch_isSome cfg env nft _
            · rfl
        | ok config =>
            dsimp only [ofExcept_ok, value_ok]
            split
            · next hnone => exact failWith_isSome (clean_store cfg.statedir env.io uuid) hnone _ _
            · exact runAfterFetch_isSome cfg env nft _
    · rfl

def fetchResult : Except GError (List Char) → FetchResult
  | .ok config => .profile (String.ofList config)
  | .error e => .failed e.message

theorem runAfterFetch_state (cfg : Config) (env : Env) (nft : Except GError NftExit) (s : Daemon) :
    (runAfterFetch cfg env nft s).map Prod.fst =
      some (Service.runAfterFetch cfg { env with nft := nftOutcome nft } s) := by
  have hvalue := runOpenvpn_value cfg env nft s
  obtain ⟨x, hx⟩ := clean_iff.mp (clean_runOpenvpn cfg env nft s)
  unfold runAfterFetch Service.runAfterFetch
  rw [hx] at hvalue ⊢
  generalize Service.runOpenvpn cfg { env with nft := nftOutcome nft } s = r at hvalue ⊢
  rcases r with ⟨s', e | _⟩
  · cases x with
    | error e' => rfl
    | ok _ => cases hvalue
  · cases x with
    | error e' => cases hvalue
    | ok _ => rfl

/-- The completion of a fetch leaves the daemon as the handler of the runs does. -/
theorem fetchDoneCb_state (cfg : Config) (env : Env) (nft : Except GError NftExit)
    (x : Except GError (List Char)) {f : Fetch}
    (hf : f.cancelled = (ofExcept x).error.any (·.code = .ioCancelled)) (s : Daemon) :
    (fetchDoneCb cfg env nft (ofExcept x) s).map Prod.fst =
      some (Service.fetchDoneCb cfg { env with nft := nftOutcome nft } f (fetchResult x) s) := by
  unfold fetchDoneCb Service.fetchDoneCb
  rw [← hf]
  cases f.cancelled with
  | true => rfl
  | false =>
      simp only [Bool.false_eq_true, if_false]
      cases (clearFetchCancellable s).priv.connection with
      | none => rfl
      | some connection =>
          cases (clearFetchCancellable s).priv.uuid with
          | none => rfl
          | some uuid =>
              cases x with
              | error e =>
                  dsimp only [fetchResult, ofExcept_error, value_fail]
                  cases nmAirvpnCacheExists cfg.sha256 cfg.statedir uuid
                      (getGeneratorParams connection.sVpn) (clearFetchCancellable s).disk with
                  | true =>
                      rw [if_pos rfl, if_pos rfl, ← runAfterFetch_state]
                      exact Option.map_map _ _ _
                  | false => rfl
              | ok config =>
                  dsimp only [fetchResult, ofExcept_ok, value_ok]
                  rw [nmAirvpnCacheStore_eq cfg.sha256 cfg.statedir env.io uuid
                    (getGeneratorParams connection.sVpn) (String.ofList config) env.now
                    (clearFetchCancellable s).disk]
                  cases hstored : (AirVpn.nmAirvpnCacheStore cfg.sha256 cfg.statedir env.io uuid
                      (getGeneratorParams connection.sVpn) (String.ofList config) env.now
                      (clearFetchCancellable s).disk).2 with
                  | error e => rfl
                  | ok _ => exact runAfterFetch_state cfg env nft _

/-! ## Every failure -/

def fetchOf (load : List Char → Except GError (Option JsonNode)) (network : Network)
    (run : FetchRun) (connection : NMConnection) (apiKey : String) : GReturned (List Char) :=
  nmAirvpnGeneratorFetchSync load network run (getGeneratorParams connection.sVpn) apiKey

/-- Whatever the network, the files, the firewall and the spawning of openvpn do, each
function returns a result or an error and not both, and `fetch_done_cb` reads no
message through NULL. A fetch is started with the key of the connection, if that is
not empty. -/
structure FailuresReported (connection : NMConnection) : Prop where
  fetched : ∀ load network run apiKey,
    nonEmpty (connection.sVpn.getSecret keyApiKey) = some apiKey →
      (fetchOf load network run connection apiKey).Clean
  finished : ∀ load network run apiKey cancelled,
    nonEmpty (connection.sVpn.getSecret keyApiKey) = some apiKey →
      (nmAirvpnGeneratorFetchFinish cancelled
        (fetchThreadCb (fetchOf load network run connection apiKey))).Clean
  stored : ∀ statedir io, (nmAirvpnCacheStore statedir io connection.uuid).Clean
  armed : ∀ nftAvailable statedir io net nft contents allowLan,
    (nmAirvpnFirewallArm nftAvailable statedir io net nft contents allowLan).Clean
  started : ∀ cfg env nft s, (runOpenvpn cfg env nft s).Clean
  read : ∀ load network run apiKey cancelled cfg env nft s,
    nonEmpty (connection.sVpn.getSecret keyApiKey) = some apiKey →
      (fetchDoneCb cfg env nft (nmAirvpnGeneratorFetchFinish cancelled
        (fetchThreadCb (fetchOf load network run connection apiKey))) s).isSome = true

theorem server_of_accepted {connection : NMConnection}
    (h : validateConnection connection = .ok ()) :
    ∃ server, connection.sVpn.getDataItem keyServer = some server := by
  have hdata : nmAirvpnPropertiesValidate connection.sVpn = .ok () := by
    unfold validateConnection at h
    cases hv : nmAirvpnPropertiesValidate connection.sVpn with
    | error e =>
        rw [hv] at h
        cases h
    | ok _ => rfl
  obtain ⟨server, hserver⟩ := ((validate_eq_ok_iff connection.sVpn).mp hdata).server
  exact ⟨server, NMSettingVpn.getDataItem_eq_some.mpr hserver⟩

/-- The failures of an accepted connection are reported exactly when its server is not
empty, or it has no key to fetch with. -/
theorem failures_reported_iff {connection : NMConnection}
    (hvalid : validateConnection connection = .ok ()) :
    FailuresReported connection ↔
      connection.sVpn.getDataItem keyServer ≠ some "" ∨
        nonEmpty (connection.sVpn.getSecret keyApiKey) = none := by
  obtain ⟨server, hserver⟩ := server_of_accepted hvalid
  have hparams : (getGeneratorParams connection.sVpn).server = some server := hserver
  constructor
  · intro h
    by_contra hnot
    obtain ⟨hempty, hkey⟩ := not_or.mp hnot
    obtain ⟨apiKey, hsome⟩ := Option.ne_none_iff_exists'.mp hkey
    have hclean := h.fetched (fun _ => .ok none) (fun _ _ => ⟨false, false, [], "", 0⟩)
      ⟨false, false, false⟩ apiKey hsome
    have hserver' := ((clean_fetchSync_iff _ _ _ _ _).mp hclean).1
    have hnameless : (getGeneratorParams connection.sVpn).server = some "" := not_not.mp hempty
    rw [hnameless] at hserver'
    cases hserver'
  · intro h
    have hfetch : ∀ load network run apiKey,
        nonEmpty (connection.sVpn.getSecret keyApiKey) = some apiKey →
          (fetchOf load network run connection apiKey).Clean := by
      intro load network run apiKey hkey
      have hfilled : server ≠ "" := by
        rintro rfl
        rcases h with h | h
        · exact h hserver
        · rw [h] at hkey
          cases hkey
      refine (clean_fetchSync_iff _ _ _ _ _).mpr ⟨?_, ?_⟩
      · rw [hparams, nonEmpty_some hfilled]
        rfl
      · exact (nonEmpty_eq_some.mp hkey).2
    exact
      { fetched := hfetch
        finished := fun load network run apiKey cancelled hkey =>
          clean_finish (hfetch load network run apiKey hkey) cancelled
        stored := fun statedir io => clean_store statedir io connection.uuid
        armed := clean_arm
        started := clean_runOpenvpn
        read := fun load network run apiKey cancelled cfg env nft s hkey =>
          fetchDoneCb_isSome cfg env nft
            (clean_finish (hfetch load network run apiKey hkey) cancelled) s }

theorem failures_reported_sample : FailuresReported sampleConnection :=
  (failures_reported_iff (by decide +kernel)).mpr (.inl (by decide +kernel))

def sampleNameless : NMConnection where
  uuid := sampleUuid
  sVpn :=
    { data := [(keyServer, "")]
      secrets := [(keyApiKey, "k")]
      data_nodup := List.nodup_singleton keyServer
      secrets_nodup := List.nodup_singleton keyApiKey }

/-- The fetch returns nothing and reports nothing, and its completion reads a
message through NULL. -/
theorem nameless_fetch_unreported :
    validateConnection sampleNameless = .ok () ∧ ¬ FailuresReported sampleNameless := by
  refine ⟨by decide +kernel, fun h => ?_⟩
  have hclean := h.fetched (fun _ => .ok none) (fun _ _ => ⟨false, false, [], "", 0⟩)
    ⟨false, false, false⟩ "k" (by decide +kernel)
  revert hclean
  decide +kernel

end AirVpn.Service.Reporting
