import AirVpn.Model.AuthDialog
import AirVpn.Service.Secrets
import Mathlib.Data.List.Nodup

/-! # The key on its way to the service

The auth dialog between the service's question for secrets and the request that follows:
what is stored and who is asked decide what it hands over, and this decides whether the
request fails for lack of a key. The wait at its end is bounded.
-/

namespace AirVpn.AuthDialog

/-! ## Waiting to quit -/

def Turn.byte : Turn → Option Char
  | ⟨.byte c, _⟩ => some c
  | _ => none

def toldToQuit (str : List Char) : Bool := strstr (cString str) "QUIT".toList

def Waiting (str : List Char) : Prop := toldToQuit str = false ∧ str.length ≤ 10

inductive Last (start : Int) (turn : Turn) (str str' : List Char) : Prop
  | failed : turn.read = .failed → str' = str → Last start turn str str'
  | told : toldToQuit str' = true → Last start turn str str'
  | full : str'.length = 11 → Last start turn str str'
  | late : start + 20 ≤ turn.now → Last start turn str str'

structure GoesOn (start : Int) (turn : Turn) (str : List Char) : Prop where
  read : turn.read ≠ .failed
  waiting : Waiting (str ++ turn.byte.toList)
  early : turn.now < start + 20

theorem waitForQuitLoop_cons (start : Int) {str : List Char} (h : Waiting str) (turn : Turn)
    (turns : List Turn) :
    (GoesOn start turn str ∧ waitForQuitLoop start str (turn :: turns) =
        waitForQuitLoop start (str ++ turn.byte.toList) turns) ∨
      (Last start turn str (str ++ turn.byte.toList) ∧
        waitForQuitLoop start str (turn :: turns) = some (str ++ turn.byte.toList)) := by
  obtain ⟨read, now⟩ := turn
  rw [waitForQuitLoop]
  cases read with
  | failed => exact .inr ⟨.failed rfl (List.append_nil str), by simp [Turn.byte]⟩
  | nothing =>
      have hsame : str ++ (Turn.byte ⟨.nothing, now⟩).toList = str := List.append_nil str
      rw [hsame]
      by_cases hearly : now < start + 20
      · exact .inl ⟨⟨nofun, hsame.symm ▸ h, hearly⟩, if_pos hearly⟩
      · exact .inr ⟨.late (Int.not_lt.mp hearly), if_neg hearly⟩
  | byte c =>
      have hmore : str ++ (Turn.byte ⟨.byte c, now⟩).toList = str ++ [c] := rfl
      have hlength : (str ++ [c]).length = str.length + 1 := List.length_append
      have hle := h.2
      rw [hmore]
      by_cases htold : toldToQuit (str ++ [c]) = true
      · exact .inr ⟨.told htold, if_pos ((Bool.or_eq_true _ _).mpr (.inl htold))⟩
      · by_cases hfull : str.length = 10
        · exact .inr ⟨.full (by omega), if_pos (by simp [hfull])⟩
        · have hgo : ¬ (strstr (cString (str ++ [c])) "QUIT".toList ||
              decide (10 < (str ++ [c]).length)) = true := by
            simp only [Bool.or_eq_true, decide_eq_true_eq, not_or]
            exact ⟨htold, by omega⟩
          have hwaiting : Waiting (str ++ [c]) := ⟨by simpa using htold, by omega⟩
          by_cases hearly : now < start + 20
          · exact .inl ⟨⟨nofun, hwaiting, hearly⟩, (if_neg hgo).trans (if_pos hearly)⟩
          · exact .inr ⟨.late (Int.not_lt.mp hearly), (if_neg hgo).trans (if_neg hearly)⟩

def bytesOf (turns : List Turn) : List Char := turns.filterMap Turn.byte

theorem bytesOf_cons (turn : Turn) (turns : List Turn) :
    bytesOf (turn :: turns) = turn.byte.toList ++ bytesOf turns := by
  unfold bytesOf
  cases h : turn.byte <;> simp [h]

/-- The loop has gone on after each of these turns. -/
structure WentOn (start : Int) (turns : List Turn) (str : List Char) : Prop where
  turns : ∀ turn ∈ turns, turn.read ≠ .failed ∧ turn.now < start + 20
  waiting : Waiting str

/-- The loop has ended after one of these turns. -/
structure Ended (start : Int) (turns : List Turn) (str str' : List Char) : Prop where
  bounded : str'.length ≤ 11
  exists_last : ∃ before turn after, turns = before ++ turn :: after ∧
    str' = str ++ bytesOf before ++ turn.byte.toList ∧
    WentOn start before (str ++ bytesOf before) ∧ Last start turn (str ++ bytesOf before) str'

theorem waitForQuitLoop_spec (start : Int) (turns : List Turn) {str : List Char}
    (h : Waiting str) :
    (waitForQuitLoop start str turns = none ∧ WentOn start turns (str ++ bytesOf turns)) ∨
      ∃ str', waitForQuitLoop start str turns = some str' ∧ Ended start turns str str' := by
  induction turns generalizing str with
  | nil => exact .inl ⟨rfl, nofun, (List.append_nil str).symm ▸ h⟩
  | cons turn turns ih =>
      rcases waitForQuitLoop_cons start h turn turns with ⟨hgoes, heq⟩ | ⟨hlast, heq⟩
      · rw [heq]
        have hfirst : ∀ before, WentOn start before (str ++ turn.byte.toList ++ bytesOf before) →
            WentOn start (turn :: before) (str ++ bytesOf (turn :: before)) := by
          intro before hbefore
          rw [bytesOf_cons, ← List.append_assoc]
          refine ⟨fun t ht => ?_, hbefore.waiting⟩
          rcases List.mem_cons.mp ht with rfl | ht
          · exact ⟨hgoes.read, hgoes.early⟩
          · exact hbefore.turns t ht
        rcases ih hgoes.waiting with ⟨hnone, hwent⟩ | ⟨str', hsome, hended⟩
        · exact .inl ⟨hnone, hfirst turns hwent⟩
        · obtain ⟨before, last, after, rfl, hbytes, hwent, hlast⟩ := hended.exists_last
          refine .inr ⟨str', hsome, hended.bounded, turn :: before, last, after, rfl, ?_,
            hfirst before hwent, ?_⟩
          · rw [hbytes, bytesOf_cons, List.append_assoc str]
          · rwa [bytesOf_cons, ← List.append_assoc]
      · have hlength : (str ++ turn.byte.toList).length ≤ 11 := by
          have hone : turn.byte.toList.length ≤ 1 := by cases turn.byte <;> simp
          have hle := h.2
          rw [List.length_append]
          omega
        have hnil : str ++ bytesOf [] = str := List.append_nil str
        refine .inr ⟨_, heq, hlength, [], turn, turns, rfl, ?_, ?_, ?_⟩
        · rw [hnil]
        · exact ⟨nofun, hnil.symm ▸ h⟩
        · rw [hnil]
          exact hlast

/-- Whatever is read and whenever, the program waits until it is told to quit and not a
byte longer, unless there are too many bytes, an error, or twenty seconds have passed. -/
theorem wait_for_quit_exact (start : Int) (turns : List Turn) :
    (waitForQuit start turns = none ∧ WentOn start turns (bytesOf turns)) ∨
      ∃ str, waitForQuit start turns = some str ∧ Ended start turns [] str :=
  waitForQuitLoop_spec start turns ⟨by decide, Nat.zero_le _⟩

/-! ## The key that is handed over -/

theorem nodup_apiKey (apiKey : Option String) :
    ((apiKey.toList.map fun value => (keyApiKey, value)).map Prod.fst).Nodup := by
  cases apiKey <;> simp

/-- The connection with the secrets that the dialog has printed. -/
def withKey (c : Service.NMConnection) (apiKey : Option String) : Service.NMConnection :=
  { c with
    sVpn :=
      { c.sVpn with
        secrets := apiKey.toList.map fun value => (keyApiKey, value)
        secrets_nodup := nodup_apiKey apiKey } }

/-- The dialog is run for a connection, and gets its details. -/
structure RunFor (c : Service.NMConnection) (env : Env) (o : Options) (vpnUuid : String) :
    Prop where
  uuid : o.vpnUuid = some vpnUuid
  name : o.vpnName.isSome = true
  service : o.vpnService = some dbusServiceAirvpn
  details : env.details = some (c.sVpn.data, c.sVpn.secrets)

/-- What the dialog prints and whom it asks: without a dialog it is the key that is saved,
and a dialog is shown, with this key in it, where it may and has to be. -/
structure Printed (env : Env) (o : Options) (saved key : Option String) (outcome : Outcome) :
    Prop where
  stdout : outcome.stdout = .secrets key
  asks : outcome.shown.isSome = true ↔
    o.allowInteraction = true ∧ (o.retry = true ∨ saved = none)
  silent : outcome.shown = none → key = saved
  asked : ∀ dialog, outcome.shown = some dialog →
    key = (env.answer dialog).join ∧ dialog.password = saved

/-- What it prints in external UI mode: the field of the key, with the key that is saved,
for another program to ask with. -/
structure Offered (o : Options) (saved : Option String) (outcome : Outcome) : Prop where
  silent : outcome.shown = none
  exists_keyfile : ∃ keyfile : KeyFile, outcome.stdout = .keyfile keyfile ∧
    (∀ value, (keyApiKey, "Value", value) ∈ keyfile ↔ value = .string (orEmpty saved)) ∧
    (∀ value, (keyApiKey, "IsSecret", value) ∈ keyfile ↔ value = .boolean true) ∧
    ∀ value, (keyApiKey, "ShouldAsk", value) ∈ keyfile ↔ value = .boolean o.allowInteraction

theorem offered_getSecrets (env : Env) {o : Options} (hexternal : o.externalUiMode = true)
    (vpnUuid vpnName : String) (inApiKey : Option String) {flags : Nat}
    (hflags : hasFlag flags flagNotRequired = false) :
    Offered o (savedKey env vpnUuid inApiKey flags)
      (getSecrets env o vpnUuid vpnName inApiKey flags) := by
  have hgroup : keyApiKey ≠ uiKeyfileGroup := by decide
  unfold getSecrets
  rw [hflags, hexternal]
  refine ⟨rfl, _, rfl, fun value => ?_, fun value => ?_, fun value => ?_⟩ <;>
    simp [keyfileAddEntryInfo, hgroup]

theorem savedKey_of_notSaved {flags : Nat} (h : hasFlag flags flagNotSaved = true) (env : Env)
    (vpnUuid : String) (inApiKey : Option String) : savedKey env vpnUuid inApiKey flags = none :=
  if_pos (by rw [h, Bool.true_or])

theorem printed_getSecrets (env : Env) {o : Options} (hplain : o.externalUiMode = false)
    (vpnUuid vpnName : String) (inApiKey : Option String) {flags : Nat}
    (hflags : hasFlag flags flagNotRequired = false) :
    ∃ key, Printed env o (savedKey env vpnUuid inApiKey flags) key
      (getSecrets env o vpnUuid vpnName inApiKey flags) := by
  have hunsaved : hasFlag flags flagNotSaved = true →
      savedKey env vpnUuid inApiKey flags = none := fun h => savedKey_of_notSaved h ..
  unfold getSecrets
  generalize savedKey env vpnUuid inApiKey flags = saved at hunsaved
  rw [hflags, hplain]
  simp only [Bool.false_eq_true, ↓reduceIte]
  split
  · next hsilent =>
      refine ⟨saved, rfl, ?_, fun _ => rfl, nofun⟩
      cases hallow : o.allowInteraction <;> cases hretry : o.retry <;> cases saved <;>
        simp_all
  · next hask =>
      refine ⟨_, rfl, ?_, nofun, fun dialog hdialog => ?_⟩
      · cases hallow : o.allowInteraction <;> cases hretry : o.retry <;> cases saved <;>
          simp_all
      · cases hdialog
        refine ⟨rfl, ?_⟩
        cases hsaved : hasFlag flags flagNotSaved with
        | false => rfl
        | true => exact (hunsaved hsaved).symm

theorem failsForKey_withKey (c : Service.NMConnection) (key : Option String)
    (cfg : Service.Config) (env : Service.Env) (s : Service.Daemon) :
    Service.FailsForKey cfg env (withKey c key) s ↔ nmAirvpnPropertiesValidate c.sVpn = .ok () ∧
      (key = none ∨ (key = some "" ∧ env.io.mkdirWithParents cfg.statedir = none ∧
        nmAirvpnCacheIsValid cfg.sha256 cfg.statedir c.uuid (getGeneratorParams c.sVpn) env.now
          s.disk = false)) := by
  have hsame : nmAirvpnPropertiesValidate (withKey c key).sVpn =
      nmAirvpnPropertiesValidate c.sVpn := rfl
  by_cases hdata : nmAirvpnPropertiesValidate c.sVpn = .ok ()
  · rw [and_iff_right hdata]
    have hvalid := hsame.trans hdata
    cases key with
    | none => exact iff_of_true (Service.failsForKey_of_none hvalid rfl) (.inl rfl)
    | some apiKey =>
        have hget : (withKey c (some apiKey)).sVpn.getSecret keyApiKey = some apiKey := by
          simp [withKey, NMSettingVpn.getSecret]
        have hparams : getGeneratorParams (withKey c (some apiKey)).sVpn =
            getGeneratorParams c.sVpn := rfl
        have hv : Service.validateConnection (withKey c (some apiKey)) = .ok () := by
          unfold Service.validateConnection
          rw [hvalid]
          exact Service.validateSecrets_key rfl
        rw [Service.failsForKey_of_key hv hget, hparams]
        simp [withKey]
  · exact iff_of_false (Service.not_failsForKey_of_invalid (hsame ▸ hdata)) fun h => hdata h.1

structure HandedOver (c : Service.NMConnection) (env : Env) (o : Options) (vpnUuid : String)
    (outcome : Outcome) : Prop where
  printed : o.externalUiMode = false →
    ∃ key, Printed env o (savedKey env vpnUuid none (env.secretFlags c.sVpn.data)) key outcome
  offered : o.externalUiMode = true →
    Offered o (savedKey env vpnUuid none (env.secretFlags c.sVpn.data)) outcome
  fails_iff : ∀ key cfg senv s, Service.FailsForKey cfg senv (withKey c key) s ↔
    nmAirvpnPropertiesValidate c.sVpn = .ok () ∧
      (key = none ∨ (key = some "" ∧ senv.io.mkdirWithParents cfg.statedir = none ∧
        nmAirvpnCacheIsValid cfg.sha256 cfg.statedir c.uuid (getGeneratorParams c.sVpn)
          senv.now s.disk = false))

/-- Where the service asks for the key of a connection, the dialog prints what is stored or
what the user enters, or has another program ask with what is stored. With the key that is
handed over in the end an accepted connection fails for it only if there is none, or an
empty one that has to be used. -/
theorem key_handed_over {c : Service.NMConnection} {env : Env} {o : Options} {vpnUuid : String}
    (h : RunFor c env o vpnUuid) (hsecrets : c.sVpn.secrets = [])
    (hasked : Service.realNeedSecrets (env.secretFlags c.sVpn.data) c =
      some Service.settingVpnName) :
    ∃ outcome, main env o = .ok outcome ∧ HandedOver c env o vpnUuid outcome := by
  obtain ⟨vpnName, hname⟩ := Option.isSome_iff_exists.mp h.name
  have hflags : hasFlag (env.secretFlags c.sVpn.data) flagNotRequired = false := by
    by_contra hnot
    have hset : env.secretFlags c.sVpn.data &&& Service.secretFlagNotRequired ≠ 0 :=
      of_decide_eq_true (Bool.not_eq_false _ ▸ hnot)
    unfold Service.realNeedSecrets at hasked
    simp [hset] at hasked
  have hmain : main env o = .ok (getSecrets env o vpnUuid vpnName none
      (env.secretFlags c.sVpn.data)) := by
    unfold main
    rw [h.uuid, h.service, hname, h.details, hsecrets]
    rfl
  exact ⟨_, hmain, fun hplain => printed_getSecrets env hplain vpnUuid vpnName none hflags,
    fun hexternal => offered_getSecrets env hexternal vpnUuid vpnName none hflags,
    failsForKey_withKey c⟩

def sampleKeyless : Service.NMConnection where
  uuid := sampleUuid
  sVpn :=
    { data := [(keyServer, "ch")]
      secrets := []
      data_nodup := List.nodup_singleton keyServer
      secrets_nodup := List.nodup_nil }

def sampleEnv (secretFlags : Nat) (stored : Option String) : Env where
  details := some ([(keyServer, "ch")], [])
  secretFlags := fun _ => secretFlags
  keyring := fun _ _ => [stored]
  answer := fun dialog => some dialog.password

def sampleOptions : Options where
  retry := false
  allowInteraction := true
  externalUiMode := false
  vpnUuid := some sampleUuid.val
  vpnName := some "AirVPN"
  vpnService := some dbusServiceAirvpn

theorem key_handed_over_sample :
    ∃ outcome, main (sampleEnv 1 (some "key")) sampleOptions = .ok outcome ∧
      HandedOver sampleKeyless (sampleEnv 1 (some "key")) sampleOptions sampleUuid.val outcome :=
  key_handed_over ⟨rfl, rfl, rfl, rfl⟩ rfl rfl

end AirVpn.AuthDialog
