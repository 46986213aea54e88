import AirVpn.Lib.Entries
import AirVpn.Model.ServerList

/-! # The connection editor

`nm-airvpn-editor.c`: the widgets of the dialog, how a connection is loaded into them
and saved from them. Widgets return the value last set; spin buttons clamp it to
the bounds of their adjustment.
-/

namespace AirVpn.Editor

open ServerList (GtkComboBoxText)

/-! ## The dialog -/

/-- `nma_utils_menu_to_secret_flags`. -/
inductive SecretFlags where
  | none
  | agentOwned
  | notSaved
  | notRequired
  deriving DecidableEq, Repr

def SecretFlags.toNat : SecretFlags → Nat
  | .none => 0
  | .agentOwned => 1
  | .notSaved => 2
  | .notRequired => 4

structure Dialog where
  apiKeyEntry : String
  secretFlags : SecretFlags
  serverCombo : GtkComboBoxText
  deviceEntry : String
  protocolCombo : GtkComboBoxText
  portCombo : GtkComboBoxText
  keepaliveCheck : Bool
  keepaliveIntervalSpin : Nat
  keepaliveRestartSpin : Nat
  killSwitchCheck : Bool
  allowLanCheck : Bool
  directivesText : String

/-- The rows of the dialog file. -/
def protocolIds : List String := [protocolUdp, protocolTcp]

def portIds : List String := ["443", "80", "1194", "41185"]

/-- `gtk_spin_button_set_value` with the adjustment from 1 to 3600. -/
def spinValue (value : Int) : Nat := (max 1 (min 3600 value)).toNat

/-- The value of a spin button from an item, or what it shows without one. -/
def spinFrom (item : Option String) (shown : Int) : Nat :=
  spinValue
    (match nonEmpty item with
    | some value => strtol value.toList
    | none => shown)

def serverComboFrom (value : Option String) : GtkComboBoxText :=
  let combo := (⟨[], none⟩ : GtkComboBoxText).append "earth"
  match nonEmpty value with
  | some value =>
      if gAsciiStrcaseequal value "earth" then combo.setActiveId "earth"
      else (combo.append value).setActiveId value
  | none => combo.setActiveId "earth"

def protocolComboFrom (value : Option String) : GtkComboBoxText :=
  let combo : GtkComboBoxText := ⟨protocolIds, none⟩
  if value.getD protocolUdp ∈ combo.ids then combo.setActiveId (value.getD protocolUdp)
  else combo.setActiveId protocolUdp

def portComboFrom (value : Option String) : GtkComboBoxText :=
  let combo : GtkComboBoxText := ⟨portIds, none⟩
  match nonEmpty value with
  | some value =>
      if value ∈ combo.ids then combo.setActiveId value
      else (combo.append value).setActiveId value
  | none => combo.setActiveId defaultPort

/-- `init_editor_plugin`, but for the refresh that it starts. `nftFound` says that
`g_find_program_in_path` finds nft; the storage of the key is chosen by libnma. -/
def initEditorPlugin (nftFound : Bool) (secretFlags : SecretFlags) (sVpn : Option NMSettingVpn) :
    Dialog :=
  let item := fun key => sVpn.bind (·.getDataItem key)
  { apiKeyEntry := orEmpty (sVpn.bind (·.getSecret keyApiKey))
    secretFlags := secretFlags
    serverCombo := serverComboFrom (item keyServer)
    deviceEntry := orEmpty (item keyDevice)
    protocolCombo := protocolComboFrom (item keyProtocol)
    portCombo := portComboFrom (item keyPort)
    keepaliveCheck := item keyKeepalive ≠ some "no"
    keepaliveIntervalSpin := spinFrom (item keyPingInterval) 10
    keepaliveRestartSpin := spinFrom (item keyPingRestart) 60
    killSwitchCheck := nftFound && item keyKillSwitch = some "yes"
    allowLanCheck := item keyAllowLan = some "yes"
    directivesText := orEmpty (item keyCustomDirectives) }

/-- The part of `refresh_done_cb` that fills the server selection again with what was
fetched, if anything was. -/
def refillServerCombo (load : List Char → Except GError (Option JsonNode))
    (collate : List String → List String) (fetched : Option (List Char)) (dialog : Dialog) :
    Dialog :=
  match fetched with
  | none => dialog
  | some json =>
      { dialog with
        serverCombo :=
          (ServerList.nmAirvpnServerListFillCombo load collate (cString json)
            dialog.serverCombo.activeId dialog.serverCombo).1 }

/-! ## Saving -/

/-- The data items that `update_connection` adds, each with its value if it adds
it. libnm keeps the storage of the key as an item, too. -/
def savedItems (dialog : Dialog) : List (String × Option String) :=
  [(keyServer, nonEmpty dialog.serverCombo.activeId),
    (keyDevice, nonEmpty (some dialog.deviceEntry)),
    (keyProtocol, nonEmpty dialog.protocolCombo.activeId),
    (keyPort, nonEmpty dialog.portCombo.activeId),
    (keyPingInterval,
      if dialog.keepaliveCheck then some (toString dialog.keepaliveIntervalSpin) else none),
    (keyPingRestart,
      if dialog.keepaliveCheck then some (toString dialog.keepaliveRestartSpin) else none),
    (keyKeepalive, if dialog.keepaliveCheck then none else some "no"),
    (keyKillSwitch, if dialog.killSwitchCheck then some "yes" else none),
    (keyAllowLan, if dialog.killSwitchCheck && dialog.allowLanCheck then some "yes" else none),
    (keyCustomDirectives, nonEmpty (some dialog.directivesText)),
    (keyApiKey ++ "-flags", some (toString dialog.secretFlags.toNat))]

/-- The key is saved by the editor unless it is asked for or not needed. -/
def savedSecrets (dialog : Dialog) : List (String × Option String) :=
  [(keyApiKey,
    match dialog.secretFlags with
    | .none | .agentOwned => nonEmpty (some dialog.apiKeyEntry)
    | .notSaved | .notRequired => none)]

def savedKeys : List String :=
  [keyServer, keyDevice, keyProtocol, keyPort, keyPingInterval, keyPingRestart, keyKeepalive,
    keyKillSwitch, keyAllowLan, keyCustomDirectives, keyApiKey ++ "-flags"]

theorem map_fst_savedItems (dialog : Dialog) : (savedItems dialog).map Prod.fst = savedKeys := rfl

theorem nodup_savedItems (dialog : Dialog) : ((savedItems dialog).map Prod.fst).Nodup := by
  rw [map_fst_savedItems]
  decide

def savedSetting (dialog : Dialog) : NMSettingVpn where
  data := Entries.present (savedItems dialog)
  secrets := Entries.present (savedSecrets dialog)
  data_nodup := Entries.nodup_present (nodup_savedItems dialog)
  secrets_nodup := Entries.nodup_present (List.pairwise_singleton _ keyApiKey)

theorem getDataItem_savedSetting {dialog : Dialog} {key : String} {value : Option String}
    (h : (key, value) ∈ savedItems dialog) : (savedSetting dialog).getDataItem key = value := by
  cases value with
  | some value => exact NMSettingVpn.getDataItem_eq_some.mpr (Entries.mem_present.mpr h)
  | none =>
      apply Option.eq_none_iff_forall_ne_some.mpr
      intro value hvalue
      have hmem := Entries.mem_present.mp (NMSettingVpn.getDataItem_eq_some.mp hvalue)
      have heq := List.inj_on_of_nodup_map (nodup_savedItems dialog) h hmem rfl
      cases heq

def updateConnection (dialog : Dialog) : Except GError NMSettingVpn :=
  match nmAirvpnPropertiesValidate (savedSetting dialog) with
  | .error e => .error e
  | .ok () => .ok (savedSetting dialog)

end AirVpn.Editor
