import AirVpn.Model.Editor
import AirVpn.Settings.Request
import AirVpn.Service.Keepalive

/-! # A connection loaded and saved

What the service makes of a setting, and that loading it into the editor and saving
it again leaves this as it was. The kill switch is the exception: without nft in the
editor's path it is saved as off.
-/

namespace AirVpn.Editor

open ServerList (GtkComboBoxText comboAdd fillRows)
open Cache (requestedProtocol requestedPort)
open Service (keepaliveArgs keepaliveArgs_eq tunesPing wantsKillSwitch allowsLan settingItem)

/-! ## The effect of a setting -/

def keepaliveNumbers (s : NMSettingVpn) : Option (Int × Int) :=
  match keepaliveArgs (some s) with
  | [_, interval, restart] => some (strtol interval.toList, strtol restart.toList)
  | _ => none

/-- Two settings have the same effect in the service. -/
structure SameEffect (s s' : NMSettingVpn) : Prop where
  server : ∃ server server', s.getDataItem keyServer = some server ∧
    s'.getDataItem keyServer = some server' ∧ gAsciiStrcaseequal server server' = true
  device : nonEmpty (s'.getDataItem keyDevice) = nonEmpty (s.getDataItem keyDevice)
  directives : nonEmpty (s'.getDataItem keyCustomDirectives) =
    nonEmpty (s.getDataItem keyCustomDirectives)
  protocol : requestedProtocol (getGeneratorParams s') = requestedProtocol (getGeneratorParams s)
  port : requestedPort (getGeneratorParams s') = requestedPort (getGeneratorParams s)
  keepalive : keepaliveNumbers s' = keepaliveNumbers s
  killSwitch : wantsKillSwitch (some s') = wantsKillSwitch (some s)
  allowLan : wantsKillSwitch (some s) = true → allowsLan (some s') = allowsLan (some s)

/-- Without user interaction, and with whatever becomes of the refresh of the servers,
what is saved is accepted and has the same effect. -/
def RoundTrips (nftFound : Bool) (s : NMSettingVpn) : Prop :=
  ∀ secretFlags load collate fetched, ∃ s',
    updateConnection
      (refillServerCombo load collate fetched (initEditorPlugin nftFound secretFlags (some s))) =
        .ok s' ∧ SameEffect s s'

/-! ## The selections -/

theorem setActiveId_append (combo : GtkComboBoxText) (id : String) :
    ((combo.append id).setActiveId id).activeId = some id := by
  simp [GtkComboBoxText.setActiveId, GtkComboBoxText.append]

theorem strcaseequal_iff {a b : String} :
    gAsciiStrcaseequal a b = true ↔ a.toList.map gAsciiToLower = b.toList.map gAsciiToLower :=
  decide_eq_true_iff

theorem strcaseequal_refl (a : String) : gAsciiStrcaseequal a a = true := decide_eq_true rfl

theorem strcaseequal_trans {a b c : String} (hab : gAsciiStrcaseequal a b = true)
    (hbc : gAsciiStrcaseequal b c = true) : gAsciiStrcaseequal a c = true :=
  strcaseequal_iff.mpr ((strcaseequal_iff.mp hab).trans (strcaseequal_iff.mp hbc))

theorem ne_empty_of_strcaseequal {a b : String} (h : gAsciiStrcaseequal a b = true)
    (ha : a ≠ "") : b ≠ "" := by
  rintro rfl
  have hnil : a.toList.map gAsciiToLower = [] := strcaseequal_iff.mp h
  exact ha (String.toList_eq_nil_iff.mp (List.map_eq_nil_iff.mp hnil))

/-- The selection shows the token, up to ASCII case. -/
def Shows (token : String) (combo : GtkComboBoxText) : Prop :=
  ∃ id, combo.activeId = some id ∧ gAsciiStrcaseequal token id = true

theorem serverComboFrom_shows {server : String} (h : server ≠ "") :
    Shows server (serverComboFrom (some server)) := by
  unfold serverComboFrom
  rw [nonEmpty_some h]
  dsimp only
  split
  · next hearth => exact ⟨"earth", setActiveId_append _ _, hearth⟩
  · exact ⟨server, setActiveId_append _ _, strcaseequal_refl server⟩

theorem comboAdd_shows {token : String} {info : GtkComboBoxText × Bool}
    (h : info.2 = true → Shows token info.1) (row : String) :
    (comboAdd (some token) info row).2 = true → Shows token (comboAdd (some token) info row).1 := by
  unfold comboAdd
  dsimp only
  split
  · next hrow => exact fun _ => ⟨row, setActiveId_append _ _, by simpa using hrow⟩
  · exact h

theorem comboAdd_appends (selectToken : Option String) (info : GtkComboBoxText × Bool)
    (row : String) : (comboAdd selectToken info row).1.ids = info.1.ids ++ [row] := by
  unfold comboAdd
  split
  · simp [GtkComboBoxText.setActiveId, GtkComboBoxText.append]
  · rfl

theorem foldl_comboAdd_shows {token : String} (rows : List String)
    {info : GtkComboBoxText × Bool} (h : info.2 = true → Shows token info.1) :
    (rows.foldl (comboAdd (some token)) info).2 = true →
      Shows token (rows.foldl (comboAdd (some token)) info).1 := by
  induction rows generalizing info with
  | nil => exact h
  | cons row rows ih => exact ih (comboAdd_shows h row)

theorem fillRows_shows (collate : List String → List String) {token : String}
    (hne : token ≠ "") (root : List (String × JsonNode)) (combo : GtkComboBoxText) :
    Shows token (fillRows collate (some token) root combo) := by
  have hinfo := @foldl_comboAdd_shows token (ServerList.statusTokens collate root)
    (combo, false) (fun h => (by cases h))
  unfold fillRows
  dsimp only
  rw [nonEmpty_some hne]
  dsimp only
  revert hinfo
  generalize (ServerList.statusTokens collate root).foldl (comboAdd (some token))
    (combo, false) = info
  intro hinfo
  cases hselected : info.2 with
  | true =>
      obtain ⟨id, hid, hequal⟩ := hinfo hselected
      simp only [if_true, hid, Option.isNone_some, Bool.false_eq_true, if_false]
      exact ⟨id, hid, hequal⟩
  | false =>
      -- the row of the token is added last, and is the active one
      have hadd := comboAdd_appends (some token) info token
      have hactive : ((comboAdd (some token) info token).1.setActiveId token).activeId =
          some token := by
        simp [GtkComboBoxText.setActiveId, hadd]
      simp only [Bool.false_eq_true, if_false, hactive, Option.isNone_some]
      exact ⟨token, hactive, strcaseequal_refl token⟩

/-- The refresh sets nothing but the selection, which goes on showing the server. -/
theorem refillServerCombo_shows (load : List Char → Except GError (Option JsonNode))
    (collate : List String → List String) (fetched : Option (List Char)) {dialog : Dialog}
    {server : String} (hne : server ≠ "") (h : Shows server dialog.serverCombo) :
    ∃ combo, refillServerCombo load collate fetched dialog =
        { dialog with serverCombo := combo } ∧ Shows server combo := by
  unfold refillServerCombo
  split
  · exact ⟨_, rfl, h⟩
  · next json =>
      refine ⟨_, rfl, ?_⟩
      rcases ServerList.fillCombo_cases load collate (cString json) dialog.serverCombo.activeId
        dialog.serverCombo with ⟨e, heq⟩ | ⟨node, root, -, -, heq⟩
      · rw [heq]
        exact h
      · obtain ⟨id, hid, hequal⟩ := h
        rw [heq, hid]
        obtain ⟨id', hid', hequal'⟩ := fillRows_shows collate
          (ne_empty_of_strcaseequal hequal hne) root ⟨[], none⟩
        exact ⟨id', hid', strcaseequal_trans hequal hequal'⟩

theorem protocolComboFrom_activeId {value : Option String}
    (h : ∀ v, value = some v → isProtocol v = true) :
    (protocolComboFrom value).activeId = some (value.getD protocolUdp) := by
  cases value with
  | none => rfl
  | some v =>
      have hv := h v rfl
      simp only [isProtocol, Bool.or_eq_true, decide_eq_true_eq] at hv
      rcases hv with rfl | rfl <;> rfl

theorem portComboFrom_activeId (value : Option String) :
    (portComboFrom value).activeId = some ((nonEmpty value).getD defaultPort) := by
  unfold portComboFrom
  cases nonEmpty value with
  | none => rfl
  | some v =>
      dsimp only
      split
      · next hmem => simp [GtkComboBoxText.setActiveId, hmem]
      · exact setActiveId_append _ _

/-! ## The spin buttons -/

theorem spinFrom_some {value : String} (h : isBetween 3600 value = true) (shown : Int) :
    (spinFrom (some value) shown : Int) = strtol value.toList := by
  obtain ⟨hpos, hle⟩ := isBetween_iff.mp h
  unfold spinFrom spinValue
  rw [nonEmpty_some (ne_empty_of_isBetween h)]
  dsimp only
  omega

theorem strtol_toString {n : Nat} (h : n ≤ 3600) : strtol (toString n).toList = n := by
  have hdigits : (toString n).toList = Nat.toDigits 10 n := by simp
  rw [hdigits, strtol_of_plain (Decimal.plain_toDigits n), Decimal.value_toDigits]
  unfold longMax
  omega

theorem spinValue_between (value : Int) : 1 ≤ spinValue value ∧ spinValue value ≤ 3600 := by
  unfold spinValue
  omega

/-! ## What is saved -/

/-- The dialog of a setting, whatever the server selection has become. -/
def loaded (nftFound : Bool) (secretFlags : SecretFlags) (s : NMSettingVpn)
    (combo : GtkComboBoxText) : Dialog :=
  { initEditorPlugin nftFound secretFlags (some s) with serverCombo := combo }

section

variable (nftFound : Bool) (secretFlags : SecretFlags) (s : NMSettingVpn)
  (combo : GtkComboBoxText)

theorem saved_server {id : String} (hid : combo.activeId = some id) (hne : id ≠ "") :
    (savedSetting (loaded nftFound secretFlags s combo)).getDataItem keyServer = some id := by
  have hvalue : nonEmpty (loaded nftFound secretFlags s combo).serverCombo.activeId = some id :=
    nonEmpty_eq_some.mpr ⟨hid, hne⟩
  rw [← hvalue]
  exact getDataItem_savedSetting (by simp [savedItems])

theorem saved_device :
    (savedSetting (loaded nftFound secretFlags s combo)).getDataItem keyDevice =
      nonEmpty (s.getDataItem keyDevice) := by
  rw [← nonEmpty_orEmpty]
  exact getDataItem_savedSetting (by simp [savedItems, loaded, initEditorPlugin])

theorem saved_directives :
    (savedSetting (loaded nftFound secretFlags s combo)).getDataItem keyCustomDirectives =
      nonEmpty (s.getDataItem keyCustomDirectives) := by
  rw [← nonEmpty_orEmpty]
  exact getDataItem_savedSetting (by simp [savedItems, loaded, initEditorPlugin])

theorem saved_protocol (hpass : Passes s keyProtocol isProtocol) :
    (savedSetting (loaded nftFound secretFlags s combo)).getDataItem keyProtocol =
      some ((s.getDataItem keyProtocol).getD protocolUdp) := by
  have hvalue : nonEmpty (loaded nftFound secretFlags s combo).protocolCombo.activeId =
      some ((s.getDataItem keyProtocol).getD protocolUdp) := by
    refine nonEmpty_eq_some.mpr ⟨protocolComboFrom_activeId hpass, ?_⟩
    cases hitem : s.getDataItem keyProtocol with
    | none => decide
    | some value =>
        rintro rfl
        exact absurd (hpass _ hitem) (by decide)
  rw [← hvalue]
  exact getDataItem_savedSetting (by simp [savedItems])

theorem requestedPort_ne_empty (params : NMAirvpnGeneratorParams) : requestedPort params ≠ "" := by
  unfold requestedPort
  cases hport : nonEmpty params.port with
  | none => decide
  | some port => exact (nonEmpty_eq_some.mp hport).2

theorem saved_port :
    (savedSetting (loaded nftFound secretFlags s combo)).getDataItem keyPort =
      some (requestedPort (getGeneratorParams s)) := by
  have hvalue : nonEmpty (loaded nftFound secretFlags s combo).portCombo.activeId =
      some (requestedPort (getGeneratorParams s)) :=
    nonEmpty_eq_some.mpr ⟨portComboFrom_activeId _, requestedPort_ne_empty _⟩
  rw [← hvalue]
  exact getDataItem_savedSetting (by simp [savedItems])

theorem saved_keepalive :
    (savedSetting (loaded nftFound secretFlags s combo)).getDataItem keyKeepalive =
      if s.getDataItem keyKeepalive = some "no" then some "no" else none := by
  apply getDataItem_savedSetting
  simp [savedItems, loaded, initEditorPlugin]

theorem saved_pingInterval :
    (savedSetting (loaded nftFound secretFlags s combo)).getDataItem keyPingInterval =
      if s.getDataItem keyKeepalive ≠ some "no" then
        some (toString (spinFrom (s.getDataItem keyPingInterval) 10)) else none := by
  apply getDataItem_savedSetting
  simp [savedItems, loaded, initEditorPlugin]

theorem saved_pingRestart :
    (savedSetting (loaded nftFound secretFlags s combo)).getDataItem keyPingRestart =
      if s.getDataItem keyKeepalive ≠ some "no" then
        some (toString (spinFrom (s.getDataItem keyPingRestart) 60)) else none := by
  apply getDataItem_savedSetting
  simp [savedItems, loaded, initEditorPlugin]

theorem saved_killSwitch :
    (savedSetting (loaded nftFound secretFlags s combo)).getDataItem keyKillSwitch =
      if nftFound = true ∧ s.getDataItem keyKillSwitch = some "yes" then some "yes" else none := by
  apply getDataItem_savedSetting
  simp [savedItems, loaded, initEditorPlugin]

theorem saved_allowLan :
    (savedSetting (loaded nftFound secretFlags s combo)).getDataItem keyAllowLan =
      if (nftFound = true ∧ s.getDataItem keyKillSwitch = some "yes") ∧
        s.getDataItem keyAllowLan = some "yes" then some "yes" else none := by
  apply getDataItem_savedSetting
  simp [savedItems, loaded, initEditorPlugin]

/-! ## What is saved is accepted -/

theorem isBetween_spinValue (value : Int) :
    isBetween 3600 (toString (spinValue value)) = true := by
  obtain ⟨hpos, hle⟩ := spinValue_between value
  rw [isBetween_iff, strtol_toString hle]
  omega

theorem passes_of_eq_ite {s : NMSettingVpn} {key value : String} {accepts : String → Bool}
    {p : Prop} [Decidable p] (h : s.getDataItem key = if p then some value else none)
    (hvalue : accepts value = true) : Passes s key accepts := by
  intro v hv
  rw [h] at hv
  split at hv
  · exact Option.some.inj hv ▸ hvalue
  · cases hv

theorem passes_of_eq_some {s : NMSettingVpn} {key value : String} {accepts : String → Bool}
    (h : s.getDataItem key = some value) (hvalue : accepts value = true) :
    Passes s key accepts := by
  intro v hv
  rw [h] at hv
  exact Option.some.inj hv ▸ hvalue

theorem listed_savedSetting {id : String} (hid : combo.activeId = some id) (hne : id ≠ "") :
    Listed validProperties (savedSetting (loaded nftFound secretFlags s combo)).data := by
  have hkeys : ∀ key ∈ savedKeys, key ∈ dataItemNames ∨ isFlags key = true := by decide +kernel
  refine listed_validProperties.mpr ⟨?_, id, ?_⟩
  · rintro ⟨key, value⟩ hitem
    apply hkeys
    rw [← map_fst_savedItems (loaded nftFound secretFlags s combo)]
    exact List.mem_map_of_mem (Entries.mem_present.mp hitem)
  · exact NMSettingVpn.getDataItem_eq_some.mp (saved_server nftFound secretFlags s combo hid hne)

theorem updateConnection_accepts (hs : nmAirvpnPropertiesValidate s = .ok ()) {id : String}
    (hid : combo.activeId = some id) (hne : id ≠ "") :
    updateConnection (loaded nftFound secretFlags s combo) =
      .ok (savedSetting (loaded nftFound secretFlags s combo)) := by
  obtain ⟨_, hprotocol, hport, _⟩ := nmAirvpnPropertiesValidate_eq_ok.mp hs
  have hok : nmAirvpnPropertiesValidate (savedSetting (loaded nftFound secretFlags s combo)) =
      .ok () := by
    refine nmAirvpnPropertiesValidate_eq_ok.mpr
      ⟨validateProperties_eq_ok.mpr (listed_savedSetting nftFound secretFlags s combo hid hne),
        ?protocol, ?port, ?keepalive, ?killSwitch, ?allowLan, ?interval, ?restart⟩
    case protocol =>
      refine passes_of_eq_some (saved_protocol nftFound secretFlags s combo hprotocol) ?_
      cases hitem : s.getDataItem keyProtocol with
      | none => decide
      | some value => exact hprotocol value hitem
    case port =>
      refine passes_of_eq_some (saved_port nftFound secretFlags s combo) ?_
      rw [requestedPort_eq hs]
      cases hitem : s.getDataItem keyPort with
      | none => decide
      | some value => exact hport value hitem
    case keepalive =>
      exact passes_of_eq_ite (saved_keepalive nftFound secretFlags s combo) (by decide)
    case killSwitch =>
      exact passes_of_eq_ite (saved_killSwitch nftFound secretFlags s combo) (by decide)
    case allowLan =>
      exact passes_of_eq_ite (saved_allowLan nftFound secretFlags s combo) (by decide)
    case interval =>
      exact passes_of_eq_ite (saved_pingInterval nftFound secretFlags s combo)
        (isBetween_spinValue _)
    case restart =>
      exact passes_of_eq_ite (saved_pingRestart nftFound secretFlags s combo)
        (isBetween_spinValue _)
  unfold updateConnection
  rw [hok]

end

/-! ## The effect of what is saved -/

theorem keepaliveNumbers_eq (s : NMSettingVpn) :
    keepaliveNumbers s =
      if s.getDataItem keyKeepalive ≠ some "no" ∧
        (s.getDataItem keyProtocol).getD protocolUdp = protocolUdp ∧
          tunesPing (s.getDataItem keyCustomDirectives) = false then
        some (strtol ((nonEmpty (s.getDataItem keyPingInterval)).getD defaultPingInterval).toList,
          strtol ((nonEmpty (s.getDataItem keyPingRestart)).getD defaultPingRestart).toList)
      else none := by
  have hudp : (s.getDataItem keyProtocol = none ∨ s.getDataItem keyProtocol = some protocolUdp) ↔
      (s.getDataItem keyProtocol).getD protocolUdp = protocolUdp := by
    cases s.getDataItem keyProtocol <;> simp
  unfold keepaliveNumbers
  rw [keepaliveArgs_eq]
  by_cases h : s.getDataItem keyKeepalive ≠ some "no" ∧
      (s.getDataItem keyProtocol).getD protocolUdp = protocolUdp ∧
        tunesPing (s.getDataItem keyCustomDirectives) = false
  · rw [if_pos h, if_pos (by simpa [hudp, and_assoc] using h)]
  · rw [if_neg h, if_neg (by simpa [hudp, and_assoc] using h)]

theorem strtol_saved {s : NMSettingVpn} {key : String} (hpass : Passes s key (isBetween 3600))
    {shown : Int} {usual : String} (husual : strtol usual.toList = spinValue shown) :
    strtol ((nonEmpty (some (toString (spinFrom (s.getDataItem key) shown)))).getD usual).toList =
      strtol ((nonEmpty (s.getDataItem key)).getD usual).toList := by
  have hsaved : strtol (toString (spinFrom (s.getDataItem key) shown)).toList =
      spinFrom (s.getDataItem key) shown := strtol_toString (spinValue_between _).2
  have hne : toString (spinFrom (s.getDataItem key) shown) ≠ "" :=
    ne_empty_of_isBetween (isBetween_spinValue _)
  rw [nonEmpty_some hne, Option.getD_some, hsaved]
  cases hitem : s.getDataItem key with
  | none => exact husual.symm
  | some value =>
      have hvalue := hpass value hitem
      rw [spinFrom_some hvalue, nonEmpty_some (ne_empty_of_isBetween hvalue), Option.getD_some]

theorem keepaliveNumbers_saved (nftFound : Bool) (secretFlags : SecretFlags) {s : NMSettingVpn}
    (combo : GtkComboBoxText) (hs : nmAirvpnPropertiesValidate s = .ok ()) :
    keepaliveNumbers (savedSetting (loaded nftFound secretFlags s combo)) =
      keepaliveNumbers s := by
  obtain ⟨_, hprotocol, _, _, _, _, hinterval, hrestart⟩ := nmAirvpnPropertiesValidate_eq_ok.mp hs
  have htunes : tunesPing (nonEmpty (s.getDataItem keyCustomDirectives)) =
      tunesPing (s.getDataItem keyCustomDirectives) := by
    unfold tunesPing
    rw [orEmpty_nonEmpty]
  rw [keepaliveNumbers_eq, keepaliveNumbers_eq s, saved_keepalive, saved_directives, htunes,
    saved_protocol nftFound secretFlags s combo hprotocol, saved_pingInterval, saved_pingRestart,
    Option.getD_some]
  by_cases hno : s.getDataItem keyKeepalive = some "no"
  · simp [hno]
  · have husualInterval : strtol defaultPingInterval.toList = spinValue 10 := by decide
    have husualRestart : strtol defaultPingRestart.toList = spinValue 60 := by decide
    simp only [hno, if_false, ne_eq, not_false_eq_true, if_true, true_and, reduceCtorEq,
      strtol_saved hinterval husualInterval, strtol_saved hrestart husualRestart]

theorem killSwitch_saved (nftFound : Bool) (secretFlags : SecretFlags) (s : NMSettingVpn)
    (combo : GtkComboBoxText) :
    wantsKillSwitch (some (savedSetting (loaded nftFound secretFlags s combo))) =
      (nftFound && wantsKillSwitch (some s)) := by
  have hsaved := saved_killSwitch nftFound secretFlags s combo
  unfold wantsKillSwitch settingItem
  simp only [Option.bind_some, hsaved]
  cases nftFound <;> simp

theorem sameEffect_saved (nftFound : Bool) (secretFlags : SecretFlags) {s : NMSettingVpn}
    {combo : GtkComboBoxText} (hs : nmAirvpnPropertiesValidate s = .ok ()) {server : String}
    (hserver : s.getDataItem keyServer = some server) (hne : server ≠ "")
    (hcombo : Shows server combo) (hkill : nftFound = true ∨ wantsKillSwitch (some s) = false) :
    SameEffect s (savedSetting (loaded nftFound secretFlags s combo)) := by
  obtain ⟨_, hprotocol, _⟩ := nmAirvpnPropertiesValidate_eq_ok.mp hs
  obtain ⟨id, hid, hequal⟩ := hcombo
  have hkeep : (nftFound && wantsKillSwitch (some s)) = wantsKillSwitch (some s) := by
    rcases hkill with h | h <;> simp [h]
  refine ⟨?server, ?device, ?directives, ?protocol, ?port, ?keepalive, ?killSwitch, ?allowLan⟩
  case server =>
    exact ⟨server, id, hserver, saved_server nftFound secretFlags s combo hid
      (ne_empty_of_strcaseequal hequal hne), hequal⟩
  case device => rw [saved_device, nonEmpty_nonEmpty]
  case directives => rw [saved_directives, nonEmpty_nonEmpty]
  case protocol =>
    have hsaved := saved_protocol nftFound secretFlags s combo hprotocol
    unfold requestedProtocol getGeneratorParams
    dsimp only
    rw [hsaved]
    cases hitem : s.getDataItem keyProtocol with
    | none => rfl
    | some value => rfl
  case port =>
    have hsaved : (getGeneratorParams (savedSetting (loaded nftFound secretFlags s combo))).port =
        some (requestedPort (getGeneratorParams s)) := saved_port nftFound secretFlags s combo
    rw [requestedPort, hsaved, nonEmpty_some (requestedPort_ne_empty _), Option.getD_some]
  case keepalive => exact keepaliveNumbers_saved nftFound secretFlags combo hs
  case killSwitch => rw [killSwitch_saved, hkeep]
  case allowLan =>
    intro hwants
    have hyes : s.getDataItem keyKillSwitch = some "yes" := of_decide_eq_true hwants
    have hnft : nftFound = true := hkill.resolve_right (by simp [hwants])
    have hitem : (savedSetting (loaded nftFound secretFlags s combo)).getDataItem keyAllowLan =
        some "yes" ↔ s.getDataItem keyAllowLan = some "yes" := by
      rw [saved_allowLan]
      simp [hnft, hyes]
    exact decide_eq_decide.mpr hitem

/-- What the editor saves has the effect of what it loaded exactly when it finds nft
or the kill switch is not wanted. -/
theorem round_trips_iff (nftFound : Bool) {s : NMSettingVpn}
    (hs : nmAirvpnPropertiesValidate s = .ok ())
    (hserver : ∃ server, s.getDataItem keyServer = some server ∧ server ≠ "") :
    RoundTrips nftFound s ↔ nftFound = true ∨ s.getDataItem keyKillSwitch ≠ some "yes" := by
  obtain ⟨server, hserver, hne⟩ := hserver
  have hwants : wantsKillSwitch (some s) = false ↔ s.getDataItem keyKillSwitch ≠ some "yes" :=
    decide_eq_false_iff_not
  have hshows : ∀ secretFlags,
      Shows server (initEditorPlugin nftFound secretFlags (some s)).serverCombo := by
    intro secretFlags
    have hcombo : (initEditorPlugin nftFound secretFlags (some s)).serverCombo =
        serverComboFrom (s.getDataItem keyServer) := rfl
    rw [hcombo, hserver]
    exact serverComboFrom_shows hne
  rw [← hwants]
  constructor
  · intro h
    obtain ⟨s', hsaved, heffect⟩ := h .none (fun _ => .ok none) id none
    have hdialog : refillServerCombo (fun _ => .ok none) id none
        (initEditorPlugin nftFound .none (some s)) =
          loaded nftFound .none s (initEditorPlugin nftFound .none (some s)).serverCombo := rfl
    obtain ⟨token, hid, hequal⟩ := hshows .none
    rw [hdialog, updateConnection_accepts nftFound .none s _ hs hid
      (ne_empty_of_strcaseequal hequal hne)] at hsaved
    have hkill := heffect.killSwitch
    rw [← Except.ok.inj hsaved, killSwitch_saved] at hkill
    cases hnft : nftFound with
    | true => exact .inl rfl
    | false => exact .inr (by simpa [hnft] using hkill.symm)
  · intro hkill secretFlags load collate fetched
    obtain ⟨combo, hdialog, hcombo⟩ :=
      refillServerCombo_shows load collate fetched hne (hshows secretFlags)
    obtain ⟨token, hid, hequal⟩ := hcombo
    rw [hdialog]
    exact ⟨_, updateConnection_accepts nftFound secretFlags s combo hs hid
        (ne_empty_of_strcaseequal hequal hne),
      sameEffect_saved nftFound secretFlags hs hserver hne ⟨token, hid, hequal⟩ hkill⟩

/-! ## A setting with the kill switch -/

def sampleSetting : NMSettingVpn where
  data := [(keyServer, "ch"), (keyPort, "443"), (keyKillSwitch, "yes"), (keyAllowLan, "yes")]
  secrets := []
  data_nodup := by decide
  secrets_nodup := List.nodup_nil

theorem sampleSetting_accepted : nmAirvpnPropertiesValidate sampleSetting = .ok () := by rfl

theorem round_trips_sample : RoundTrips true sampleSetting :=
  (round_trips_iff true sampleSetting_accepted ⟨"ch", rfl, by decide⟩).mpr (.inl rfl)

/-- Without nft in the path of the editor, the kill switch is gone after saving. -/
theorem unfound_nft_drops_killSwitch : ¬ RoundTrips false sampleSetting := by
  intro h
  obtain ⟨s', hsaved, heffect⟩ := h .none (fun _ => .ok none) id none
  have hkill := heffect.killSwitch
  rw [← Except.ok.inj ((updateConnection_accepts false .none sampleSetting _ sampleSetting_accepted
    rfl (by decide)).symm.trans hsaved), killSwitch_saved] at hkill
  exact absurd hkill (by decide)

end AirVpn.Editor
