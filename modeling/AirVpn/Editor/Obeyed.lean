import AirVpn.Editor.Entered
import AirVpn.Service.Keepalive
import AirVpn.Settings.Request

/-! # What the service makes of the dialog

The editor and the service share nothing but the items of a connection. What a session
saves, the service reads as it is shown in the dialog: in the request to the generator, on
the command line of openvpn and for the kill switch.
-/

namespace AirVpn.Editor.Session

open Machine Service Cache

variable {load : List Char → Except GError (Option JsonNode)} {dialog : Dialog}

/-! ## What is shown -/

def ShortPort (port : String) : Prop :=
  isBetween 65535 port = true ∧ port.toList = Nat.toDigits 10 (strtol port.toList).toNat

def shownRequest (dialog : Dialog) : List (String × String) :=
  [("system", "linux"), ("download", "auto"),
    ("protocols", "openvpn_3_" ++ orEmpty dialog.protocolCombo.activeId ++ "_" ++
      orEmpty dialog.portCombo.activeId),
    ("servers", orEmpty dialog.serverCombo.activeId)] ++
  meantIfSet "device" (some dialog.deviceEntry) ++
  meantIfSet "openvpn_directives" (some dialog.directivesText)

/-- Whether openvpn is to ping with the values of the dialog. -/
def shownPings (dialog : Dialog) : Bool :=
  dialog.keepaliveCheck && dialog.protocolCombo.activeId = some protocolUdp &&
    !tunesPing (some dialog.directivesText)

structure Obeyed (dialog : Dialog) (s : NMSettingVpn) : Prop where
  request : Query.decode (urlQuery (buildGeneratorUrl (getGeneratorParams s))) =
    (shownRequest dialog).map utf8Pair
  keepalive : keepaliveArgs (some s) =
    if shownPings dialog then
      ["--keepalive", toString dialog.keepaliveIntervalSpin, toString dialog.keepaliveRestartSpin]
    else []
  killSwitch : wantsKillSwitch (some s) = dialog.killSwitchCheck
  allowLan : allowsLan (some s) = (dialog.killSwitchCheck && dialog.allowLanCheck)

/-! ## What is saved -/

theorem updateConnection_eq_ok {s : NMSettingVpn} (h : updateConnection dialog = .ok s) :
    s = savedSetting dialog ∧ nmAirvpnPropertiesValidate (savedSetting dialog) = .ok () := by
  unfold updateConnection at h
  split at h
  · cases h
  · next hvalid => exact ⟨(Except.ok.inj h).symm, hvalid⟩

theorem obeyed_switches (dialog : Dialog) :
    wantsKillSwitch (some (savedSetting dialog)) = dialog.killSwitchCheck ∧
      allowsLan (some (savedSetting dialog)) =
        (dialog.killSwitchCheck && dialog.allowLanCheck) := by
  have hkill : (savedSetting dialog).getDataItem keyKillSwitch =
      if dialog.killSwitchCheck then some "yes" else none :=
    getDataItem_savedSetting (by simp [savedItems])
  have hlan : (savedSetting dialog).getDataItem keyAllowLan =
      if dialog.killSwitchCheck && dialog.allowLanCheck then some "yes" else none :=
    getDataItem_savedSetting (by simp [savedItems])
  unfold wantsKillSwitch allowsLan settingItem
  rw [Option.bind_some, Option.bind_some, hkill, hlan]
  cases dialog.killSwitchCheck <;> cases dialog.allowLanCheck <;> decide

theorem protocol_cases {id : String} (h : isProtocol id = true) :
    id = protocolUdp ∨ id = protocolTcp := by
  simpa [isProtocol] using h

theorem nonEmpty_spin {spin : Nat} (h : ∃ value, spin = spinValue value) :
    nonEmpty (some (toString spin)) = some (toString spin) := by
  obtain ⟨value, rfl⟩ := h
  exact nonEmpty_some (ne_empty_of_isBetween (isBetween_spinValue value))

theorem obeyed_keepalive {P : String → Prop} (h : Savable P dialog) :
    keepaliveArgs (some (savedSetting dialog)) =
      if shownPings dialog then
        ["--keepalive", toString dialog.keepaliveIntervalSpin,
          toString dialog.keepaliveRestartSpin]
      else [] := by
  obtain ⟨id, hid, hprotocol⟩ := h.protocol.chosen
  have item : ∀ {key : String} {value : Option String}, (key, value) ∈ savedItems dialog →
      (savedSetting dialog).getDataItem key = value := getDataItem_savedSetting
  have hkeepalive : (savedSetting dialog).getDataItem keyKeepalive =
      if dialog.keepaliveCheck then none else some "no" := item (by simp [savedItems])
  have hitem : (savedSetting dialog).getDataItem keyProtocol =
      nonEmpty dialog.protocolCombo.activeId := item (by simp [savedItems])
  have hdirectives : (savedSetting dialog).getDataItem keyCustomDirectives =
      nonEmpty (some dialog.directivesText) := item (by simp [savedItems])
  have hinterval : (savedSetting dialog).getDataItem keyPingInterval =
      if dialog.keepaliveCheck then some (toString dialog.keepaliveIntervalSpin) else none :=
    item (by simp [savedItems])
  have hrestart : (savedSetting dialog).getDataItem keyPingRestart =
      if dialog.keepaliveCheck then some (toString dialog.keepaliveRestartSpin) else none :=
    item (by simp [savedItems])
  have hudp : protocolUdp ≠ protocolTcp ∧ protocolTcp ≠ "" ∧ protocolUdp ≠ "" := by decide
  have htunes : tunesPing (nonEmpty (some dialog.directivesText)) =
      tunesPing (some dialog.directivesText) := by
    unfold tunesPing
    rw [orEmpty_nonEmpty]
  rw [keepaliveArgs_eq, hkeepalive, hitem, hdirectives, hinterval, hrestart, htunes]
  unfold shownPings
  rw [hid]
  cases dialog.keepaliveCheck with
  | false => rfl
  | true =>
      simp only [if_true, nonEmpty_spin h.interval, nonEmpty_spin h.restart, Option.getD_some]
      rcases protocol_cases hprotocol with rfl | rfl
      · rw [nonEmpty_some hudp.2.2]
        simp
      · rw [nonEmpty_some hudp.2.1]
        simp [hudp.1.symm]

theorem obeyed_request (h : Savable ShortPort dialog)
    (hvalid : nmAirvpnPropertiesValidate (savedSetting dialog) = .ok ()) :
    Query.decode (urlQuery (buildGeneratorUrl (getGeneratorParams (savedSetting dialog)))) =
      (shownRequest dialog).map utf8Pair := by
  obtain ⟨id, hid, hprotocol⟩ := h.protocol.chosen
  obtain ⟨port, hport, hbetween, hshort⟩ := h.port.chosen
  have hparams : getGeneratorParams (savedSetting dialog) =
      { server := nonEmpty dialog.serverCombo.activeId
        device := nonEmpty (some dialog.deviceEntry)
        protocol := nonEmpty dialog.protocolCombo.activeId
        port := nonEmpty dialog.portCombo.activeId
        customDirectives := nonEmpty (some dialog.directivesText) } := by
    unfold getGeneratorParams
    congr 1 <;> exact getDataItem_savedSetting (by simp [savedItems])
  have hport' : requestedPort (getGeneratorParams (savedSetting dialog)) = port := by
    unfold requestedPort
    rw [hparams, nonEmpty_nonEmpty, hport, nonEmpty_some (ne_empty_of_isBetween hbetween)]
    rfl
  have hprotocol' : requestedProtocol (getGeneratorParams (savedSetting dialog)) = id := by
    have hne : id ≠ "" := by rcases protocol_cases hprotocol with rfl | rfl <;> decide
    unfold requestedProtocol
    rw [hparams, nonEmpty_nonEmpty, hid, nonEmpty_some hne]
    rfl
  have hdigits : (requestedPort (getGeneratorParams (savedSetting dialog))).toList =
      Nat.toDigits 10 (portNumber (getGeneratorParams (savedSetting dialog))) := by
    unfold portNumber
    rw [hport']
    exact hshort
  have hpasted : toString (portNumber (getGeneratorParams (savedSetting dialog))) = port := by
    rw [← String.toList_inj, ← hport', hdigits]
    simp
  have hmeant : RequestsAsMeant (savedSetting dialog) :=
    (requestsAsMeant_iff_protocols _).mpr
      ((decode_protocols_iff (protocolListed_of_accepted hvalid) (hport' ▸ hbetween)).mpr hdigits)
  have hshown : meantRequest (getGeneratorParams (savedSetting dialog)) = shownRequest dialog := by
    unfold meantRequest shownRequest
    rw [hpasted, hprotocol', hparams, hid, hport]
    simp only [meantIfSet, nonEmpty_nonEmpty, orEmpty_nonEmpty]
    rfl
  rw [← hshown]
  exact hmeant

theorem keepaliveTaken_toString {interval restart : Nat} (h : 1 ≤ interval) :
    KeepaliveTaken (toString interval) (toString restart) ↔ 2 * interval ≤ restart := by
  have htext : ∀ n : Nat, (toString n).toList = Nat.toDigits 10 n := fun n => by simp
  constructor
  · rintro ⟨-, -, -, htwice⟩
    rwa [htext, htext, Decimal.value_toDigits, Decimal.value_toDigits] at htwice
  · intro htwice
    refine ⟨?_, ?_, ?_, ?_⟩
    · exact htext interval ▸ Decimal.plain_toDigits interval
    · exact htext restart ▸ Decimal.plain_toDigits restart
    · rwa [htext, Decimal.value_toDigits]
    · rwa [htext, htext, Decimal.value_toDigits, Decimal.value_toDigits]

theorem starts_saved_iff {P : String → Prop} (h : Savable P dialog)
    (hvalid : nmAirvpnPropertiesValidate (savedSetting dialog) = .ok ()) (cfg : Config) (env : Env)
    (openvpn path : String) :
    StartsWithKeepalive (openvpnArgv cfg env openvpn path (some (savedSetting dialog))) ↔
      (shownPings dialog = true →
        2 * dialog.keepaliveIntervalSpin ≤ dialog.keepaliveRestartSpin) := by
  have hargs := obeyed_keepalive h
  obtain ⟨value, hvalue⟩ := h.interval
  have hpos : 1 ≤ dialog.keepaliveIntervalSpin := hvalue ▸ (spinValue_between value).1
  rw [startsWithKeepalive_iff hvalid]
  rcases keepaliveArgs_cases hvalid with ⟨hleaves, hnone⟩ | ⟨hpasses, hsome⟩
  · refine iff_of_true (.inl hleaves) fun hpings => ?_
    rw [hnone, if_pos hpings] at hargs
    cases hargs
  · rw [hsome] at hargs
    cases hpings : shownPings dialog with
    | false =>
        rw [hpings] at hargs
        cases hargs
    | true =>
        rw [hpings, if_pos rfl] at hargs
        obtain ⟨hinterval, hrest⟩ := List.cons.inj (List.cons.inj hargs).2
        rw [or_iff_right hpasses, hinterval, (List.cons.inj hrest).1, keepaliveTaken_toString hpos]
        exact ⟨fun htwice _ => htwice, fun htwice => htwice rfl⟩

/-- In every session, with a new connection or an accepted one that has its port in the
shortest form, whatever is saved is obeyed as the dialog shows it. With it openvpn can
start exactly if it is not to ping, or with a restart after two intervals at least. -/
theorem session_obeyed (hload : LoadErrors load) (collate : List String → List String)
    (nftFound : Bool) (secretFlags : SecretFlags) {sVpn : Option NMSettingVpn}
    (hport : ∀ s port, sVpn = some s → s.getDataItem keyPort = some port → ShortPort port)
    (events : List Event) :
    let dialog :=
      (final (step load collate) (nmAirvpnEditorNew nftFound secretFlags sVpn) events).dialog
    ∀ setting, updateConnection dialog = .ok setting → Obeyed dialog setting ∧
      ∀ cfg env openvpn path,
        StartsWithKeepalive (openvpnArgv cfg env openvpn path (some setting)) ↔
          (shownPings dialog = true →
            2 * dialog.keepaliveIntervalSpin ≤ dialog.keepaliveRestartSpin) := by
  intro dialog setting hsaved
  have hrows : ∀ id ∈ portIds, ShortPort id := by unfold ShortPort; decide
  have hinv : Inductive (step load collate) (nmAirvpnEditorNew nftFound secretFlags sVpn)
      fun s => Savable ShortPort s.dialog :=
    { start := savable_init hrows nftFound secretFlags hport
      next := fun h hs => h.step hload hs }
  have hsavable : Savable ShortPort dialog := hinv.final events
  obtain ⟨rfl, hvalid⟩ := updateConnection_eq_ok hsaved
  have hkeepalive := obeyed_keepalive hsavable
  obtain ⟨hkill, hlan⟩ := obeyed_switches dialog
  exact ⟨⟨obeyed_request hsavable hvalid, hkeepalive, hkill, hlan⟩,
    fun cfg env openvpn path => starts_saved_iff hsavable hvalid cfg env openvpn path⟩

def samplePort : NMSettingVpn where
  data := [(keyServer, "ch"), (keyPort, "1637")]
  secrets := []
  data_nodup := by decide
  secrets_nodup := List.nodup_nil

theorem samplePort_short (s : NMSettingVpn) (port : String) (hs : some samplePort = some s)
    (hport : s.getDataItem keyPort = some port) : ShortPort port := by
  obtain rfl := Option.some.inj hs
  have hitem : samplePort.getDataItem keyPort = some "1637" := by decide
  obtain rfl := Option.some.inj (hitem.symm.trans hport)
  unfold ShortPort
  decide +kernel

/-- A ping interval of forty seconds is saved with the restart of sixty that is shown, and
openvpn cannot start with them. -/
theorem session_obeyed_sample :
    let dialog := (final (step sampleStatusLoad id) (nmAirvpnEditorNew true .none (some samplePort))
      [.edits (.keepaliveIntervalSpin 40)]).dialog
    (updateConnection dialog).toOption.isSome = true ∧
      ∀ setting, updateConnection dialog = .ok setting → Obeyed dialog setting ∧
        ∀ cfg env openvpn path,
          ¬ StartsWithKeepalive (openvpnArgv cfg env openvpn path (some setting)) := by
  intro dialog
  have hspins : shownPings dialog = true ∧
      ¬ 2 * dialog.keepaliveIntervalSpin ≤ dialog.keepaliveRestartSpin := by decide +kernel
  refine ⟨by decide +kernel, fun setting hsaved => ?_⟩
  obtain ⟨hobeyed, hstarts⟩ :=
    session_obeyed loadErrors_sample id true .none samplePort_short _ setting hsaved
  exact ⟨hobeyed, fun cfg env openvpn path hstart =>
    hspins.2 ((hstarts cfg env openvpn path).mp hstart hspins.1)⟩

end AirVpn.Editor.Session
