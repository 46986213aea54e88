import AirVpn.Editor.Session

/-! # What the user has entered

Of all that happens in a session only the user's own entries change what is saved: a
refresh exchanges the rows of the server selection, and the row that it leaves active is
the one entered last, up to case. Whenever it is asked to, the dialog can be saved.
-/

namespace AirVpn.Editor.Session

open Machine
open ServerList (GtkComboBoxText)

variable {load : List Char → Except GError (Option JsonNode)}
  {collate : List String → List String} {s s' : Session} {dialog entered : Dialog}

/-! ## Entries -/

def Event.entry : Event → Option Edit
  | .edits e => some e
  | _ => none

def entries (ts : List (Transition Session Event)) : List Edit := ts.filterMap (·.event.entry)

structure Holds (entered dialog : Dialog) : Prop where
  others : dialog = { entered with serverCombo := dialog.serverCombo }
  server : ∀ server, entered.serverCombo.activeId = some server → server ≠ "" →
    Shows server dialog.serverCombo

theorem Holds.refl (dialog : Dialog) : Holds dialog dialog :=
  ⟨rfl, fun server hserver _ => ⟨server, hserver, strcaseequal_refl server⟩⟩

theorem Holds.enter (h : Holds entered dialog) (e : Edit) :
    Holds (e.enter entered) (e.enter dialog) := by
  obtain ⟨hothers, hserver⟩ := h
  cases e with
  | serverCombo id =>
      refine ⟨?_, fun server hactive _ => ?_⟩
      · rw [hothers]
        rfl
      · cases hactive
        exact ⟨id, rfl, strcaseequal_refl id⟩
  | _ =>
      refine ⟨?_, hserver⟩
      rw [hothers]
      rfl

theorem refillServerCombo_eq (load : List Char → Except GError (Option JsonNode))
    (collate : List String → List String) (fetched : Option (List Char)) (dialog : Dialog) :
    ∃ combo, Editor.refillServerCombo load collate fetched dialog =
      { dialog with serverCombo := combo } := by
  unfold Editor.refillServerCombo
  split
  · exact ⟨_, rfl⟩
  · exact ⟨_, rfl⟩

theorem Holds.refillServerCombo (h : Holds entered dialog)
    (load : List Char → Except GError (Option JsonNode)) (collate : List String → List String)
    (fetched : Option (List Char)) :
    Holds entered (Editor.refillServerCombo load collate fetched dialog) := by
  refine ⟨?_, fun server hactive hne => ?_⟩
  · obtain ⟨combo, heq⟩ := refillServerCombo_eq load collate fetched dialog
    rw [heq, h.others]
  · obtain ⟨combo, heq, hshows⟩ :=
      refillServerCombo_shows load collate fetched hne (h.server server hactive hne)
    rw [heq]
    exact hshows

theorem dialog_step (hload : LoadErrors load) {e : Event} (h : Holds entered s.dialog)
    (hs : step load collate s e = some s') :
    Holds (e.entry.toList.foldl (fun dialog e => e.enter dialog) entered) s'.dialog := by
  cases step_cases hload hs with
  | edits _ _ =>
      rw [edit_eq]
      exact h.enter _
  | clicks _ _ hclicked => cases hclicked <;> exact h
  | cancelled _ _ _ => exact h
  | enabled _ _ _ he =>
      rcases he.dialog with heq | ⟨json, heq⟩
      · exact heq ▸ h
      · exact heq ▸ h.refillServerCombo load collate (some json)
  | disposes => exact h

/-- In every session the dialog holds what was loaded and what the user has entered
since, whatever has been fetched in between. -/
theorem session_holds_entries (hload : LoadErrors load) (collate : List String → List String)
    (nftFound : Bool) (secretFlags : SecretFlags) (sVpn : Option NMSettingVpn)
    (events : List Event) :
    let opened := nmAirvpnEditorNew nftFound secretFlags sVpn
    Holds
      ((entries (run (step load collate) opened events)).foldl (fun dialog e => e.enter dialog)
        (initEditorPlugin nftFound secretFlags sVpn))
      (final (step load collate) opened events).dialog := by
  intro opened
  have hstart : Holds (initEditorPlugin nftFound secretFlags sVpn) opened.dialog := Holds.refl _
  refine final_induction
    (P := fun s ts => Holds
      ((entries ts).foldl (fun dialog e => e.enter dialog)
        (initEditorPlugin nftFound secretFlags sVpn)) s.dialog)
    hstart (fun ts t h hs => ?_) events
  have hnew : entries (ts ++ [t]) = entries ts ++ t.event.entry.toList := by
    unfold entries
    rw [List.filterMap_append]
    cases hentry : t.event.entry <;> simp [hentry]
  rw [hnew, List.foldl_append]
  exact dialog_step hload h hs

theorem session_holds_entries_sample :
    let opened := nmAirvpnEditorNew true .none none
    let dialog := (final (step sampleStatusLoad id) opened sampleSession).dialog
    Holds
        ((entries (run (step sampleStatusLoad id) opened sampleSession)).foldl
          (fun dialog e => e.enter dialog) (initEditorPlugin true .none none)) dialog ∧
      dialog.serverCombo.activeId = some "Achernar" :=
  ⟨session_holds_entries loadErrors_sample id true .none none sampleSession, by decide +kernel⟩

/-! ## The rows and the switches -/

/-- A selection whose rows all have a property, with one of them chosen. -/
structure Offers (P : String → Prop) (combo : GtkComboBoxText) : Prop where
  rows : ∀ id ∈ combo.ids, P id
  chosen : ∃ id, combo.activeId = some id ∧ P id

theorem Offers.choose {P : String → Prop} {combo : GtkComboBoxText} (h : Offers P combo)
    {id : String} (hid : id ∈ combo.ids) : Offers P { combo with activeId := some id } :=
  ⟨h.rows, id, rfl, h.rows id hid⟩

theorem Offers.of_active {P : String → Prop} {combo : GtkComboBoxText} (h : Offers P combo) :
    ∀ id, combo.activeId = some id → P id := by
  obtain ⟨_, id, hid, hP⟩ := h
  intro id' hid'
  exact Option.some.inj (hid.symm.trans hid') ▸ hP

/-- What can be chosen and what is chosen can be saved, with ports of one kind. -/
structure Savable (P : String → Prop) (dialog : Dialog) : Prop where
  protocol : Offers (isProtocol · = true) dialog.protocolCombo
  port : Offers P dialog.portCombo
  interval : ∃ value, dialog.keepaliveIntervalSpin = spinValue value
  restart : ∃ value, dialog.keepaliveRestartSpin = spinValue value

theorem Savable.enter {P : String → Prop} (h : Savable P s.dialog) {e : Edit}
    (hpossible : e.possible s = true) : Savable P (e.enter s.dialog) := by
  cases e with
  | protocolCombo id =>
      exact { h with protocol := h.protocol.choose (by simpa [Edit.possible] using hpossible) }
  | portCombo id =>
      exact { h with port := h.port.choose (by simpa [Edit.possible] using hpossible) }
  | keepaliveIntervalSpin value => exact { h with interval := ⟨value, rfl⟩ }
  | keepaliveRestartSpin value => exact { h with restart := ⟨value, rfl⟩ }
  | _ => exact { h with }

theorem Savable.congr {P : String → Prop} (h : Savable P dialog) (combo : GtkComboBoxText) :
    Savable P { dialog with serverCombo := combo } := { h with }

/-- The kill switch is off where there is no nft, and a switch that depends on another
one can be used exactly with it. -/
structure Switched (nftFound : Bool) (s : Session) : Prop where
  spins : s.spinsSensitive = s.dialog.keepaliveCheck
  allowLan : s.allowLanSensitive = s.dialog.killSwitchCheck
  killSwitch : s.killSwitchSensitive = nftFound
  nft : s.dialog.killSwitchCheck = true → nftFound = true

theorem Switched.step {nftFound : Bool} (hload : LoadErrors load) {e : Event}
    (h : Switched nftFound s) (hs : step load collate s e = some s') : Switched nftFound s' := by
  cases step_cases hload hs with
  | @edits e _ hpossible =>
      cases e with
      | keepaliveCheck active => exact ⟨rfl, h.allowLan, h.killSwitch, h.nft⟩
      | killSwitchCheck active =>
          have hsensitive : s.killSwitchSensitive = true := hpossible
          exact ⟨h.spins, rfl, h.killSwitch, fun _ => h.killSwitch.symm.trans hsensitive⟩
      | _ => exact ⟨h.spins, h.allowLan, h.killSwitch, h.nft⟩
  | clicks _ _ hclicked => cases hclicked <;> exact ⟨h.spins, h.allowLan, h.killSwitch, h.nft⟩
  | cancelled _ _ _ => exact ⟨h.spins, h.allowLan, h.killSwitch, h.nft⟩
  | enabled _ _ _ he =>
      obtain ⟨hspins, hkill, hlan⟩ := he.greyed
      have hchecks : s'.dialog.keepaliveCheck = s.dialog.keepaliveCheck ∧
          s'.dialog.killSwitchCheck = s.dialog.killSwitchCheck := by
        rcases he.dialog with heq | ⟨json, heq⟩
        · rw [heq]
          exact ⟨rfl, rfl⟩
        · obtain ⟨combo, hcombo⟩ := refillServerCombo_eq load collate (some json) s.dialog
          rw [heq, hcombo]
          exact ⟨rfl, rfl⟩
      exact ⟨hspins.trans (h.spins.trans hchecks.1.symm),
        hlan.trans (h.allowLan.trans hchecks.2.symm), hkill.trans h.killSwitch,
        fun hcheck => h.nft (hchecks.2.symm.trans hcheck)⟩
  | disposes => exact ⟨h.spins, h.allowLan, h.killSwitch, h.nft⟩

theorem Savable.step {P : String → Prop} (hload : LoadErrors load) {e : Event}
    (h : Savable P s.dialog) (hs : step load collate s e = some s') : Savable P s'.dialog := by
  cases step_cases hload hs with
  | edits _ hpossible =>
      rw [edit_eq]
      exact h.enter hpossible
  | clicks _ _ hclicked => cases hclicked <;> exact h
  | cancelled _ _ _ => exact h
  | enabled _ _ _ he =>
      rcases he.dialog with heq | ⟨json, heq⟩
      · exact heq ▸ h
      · obtain ⟨combo, hcombo⟩ := refillServerCombo_eq load collate (some json) s.dialog
        rw [heq, hcombo]
        exact h.congr combo
  | disposes => exact h

/-! ## Saving -/

theorem offers_protocolComboFrom (value : Option String) :
    Offers (isProtocol · = true) (protocolComboFrom value) := by
  have hrows : ∀ id ∈ protocolIds, isProtocol id = true := by decide
  have hset : ∀ id ∈ protocolIds, Offers (isProtocol · = true)
      ((⟨protocolIds, none⟩ : GtkComboBoxText).setActiveId id) := by
    intro id hid
    rw [GtkComboBoxText.setActiveId, if_pos hid]
    exact ⟨hrows, id, rfl, hrows id hid⟩
  unfold protocolComboFrom
  dsimp only
  split
  · next hlisted => exact hset _ hlisted
  · exact hset _ (by decide)

theorem offers_portComboFrom {P : String → Prop} (hrows : ∀ id ∈ portIds, P id)
    {value : Option String} (hvalue : ∀ port, value = some port → P port) :
    Offers P (portComboFrom value) := by
  have hactive := portComboFrom_activeId value
  have hchosen : P ((nonEmpty value).getD defaultPort) := by
    cases hport : nonEmpty value with
    | none => exact hrows _ (by decide)
    | some port => exact hvalue port (nonEmpty_eq_some.mp hport).1
  refine ⟨fun id hid => ?_, _, hactive, hchosen⟩
  unfold portComboFrom at hid
  dsimp only at hid
  split at hid
  · next port hport =>
      split at hid
      · exact hrows id (by simpa using hid)
      · rw [setActiveId_ids] at hid
        rcases List.mem_append.mp hid with hid | hid
        · exact hrows id hid
        · rw [List.mem_singleton.mp hid]
          exact hvalue port (nonEmpty_eq_some.mp hport).1
  · exact hrows id (by simpa using hid)

theorem savable_init {P : String → Prop} (hrows : ∀ id ∈ portIds, P id) (nftFound : Bool)
    (secretFlags : SecretFlags) {sVpn : Option NMSettingVpn}
    (hport : ∀ s port, sVpn = some s → s.getDataItem keyPort = some port → P port) :
    Savable P (initEditorPlugin nftFound secretFlags sVpn) where
  protocol := offers_protocolComboFrom _
  port := offers_portComboFrom hrows fun port hloaded => by
    obtain ⟨s, hs, hitem⟩ := Option.bind_eq_some_iff.mp hloaded
    exact hport s port hs hitem
  interval := ⟨_, rfl⟩
  restart := ⟨_, rfl⟩

theorem port_accepted {sVpn : Option NMSettingVpn}
    (hvalid : ∀ s, sVpn = some s → nmAirvpnPropertiesValidate s = .ok ()) (s : NMSettingVpn)
    (port : String) (hs : sVpn = some s) (hitem : s.getDataItem keyPort = some port) :
    isBetween 65535 port = true :=
  (nmAirvpnPropertiesValidate_eq_ok.mp (hvalid s hs)).2.2.1 port hitem

theorem listed_saved_iff (dialog : Dialog) :
    Listed validProperties (savedSetting dialog).data ↔
      (nonEmpty dialog.serverCombo.activeId).isSome = true := by
  have hkeys : ∀ key ∈ savedKeys, key ∈ dataItemNames ∨ isFlags key = true := by decide +kernel
  have hserver : (savedSetting dialog).getDataItem keyServer =
      nonEmpty dialog.serverCombo.activeId := getDataItem_savedSetting (by simp [savedItems])
  rw [listed_validProperties, Option.isSome_iff_exists, ← hserver]
  simp only [NMSettingVpn.getDataItem_eq_some]
  refine and_iff_right ?_
  rintro ⟨key, value⟩ hitem
  apply hkeys
  rw [← map_fst_savedItems dialog]
  exact List.mem_map_of_mem (Entries.mem_present.mp hitem)

theorem passes_of_nonEmpty {s : NMSettingVpn} {key : String} {item : Option String}
    {accepts : String → Bool} (h : s.getDataItem key = nonEmpty item)
    (hitem : ∀ id, item = some id → accepts id = true) : Passes s key accepts := by
  intro value hvalue
  rw [h] at hvalue
  exact hitem value (nonEmpty_eq_some.mp hvalue).1

theorem Savable.updateConnection_iff (h : Savable (isBetween 65535 · = true) dialog) :
    updateConnection dialog = .ok (savedSetting dialog) ↔
      (nonEmpty dialog.serverCombo.activeId).isSome = true := by
  have hupdate : updateConnection dialog = .ok (savedSetting dialog) ↔
      nmAirvpnPropertiesValidate (savedSetting dialog) = .ok () := by
    unfold updateConnection
    split
    · next e he => simp [he]
    · next he => simp [he]
  have item : ∀ {key : String} {value : Option String}, (key, value) ∈ savedItems dialog →
      (savedSetting dialog).getDataItem key = value := getDataItem_savedSetting
  obtain ⟨interval, hinterval⟩ := h.interval
  obtain ⟨restart, hrestart⟩ := h.restart
  rw [hupdate, nmAirvpnPropertiesValidate_eq_ok, validateProperties_eq_ok, listed_saved_iff]
  refine and_iff_left ⟨?protocol, ?port, ?keepalive, ?killSwitch, ?allowLan, ?interval, ?restart⟩
  case protocol => exact passes_of_nonEmpty (item (by simp [savedItems])) h.protocol.of_active
  case port => exact passes_of_nonEmpty (item (by simp [savedItems])) h.port.of_active
  case keepalive =>
    have hitem : (savedSetting dialog).getDataItem keyKeepalive =
        if dialog.keepaliveCheck = true then none else some "no" := item (by simp [savedItems])
    rw [← ite_not] at hitem
    exact passes_of_eq_ite hitem (by decide)
  case killSwitch =>
    have hitem : (savedSetting dialog).getDataItem keyKillSwitch =
        if dialog.killSwitchCheck = true then some "yes" else none := item (by simp [savedItems])
    exact passes_of_eq_ite hitem (by decide)
  case allowLan =>
    have hitem : (savedSetting dialog).getDataItem keyAllowLan =
        if (dialog.killSwitchCheck && dialog.allowLanCheck) = true then some "yes" else none :=
      item (by simp [savedItems])
    exact passes_of_eq_ite hitem (by decide)
  case interval =>
    have hitem : (savedSetting dialog).getDataItem keyPingInterval =
        if dialog.keepaliveCheck = true then some (toString dialog.keepaliveIntervalSpin)
        else none := item (by simp [savedItems])
    exact passes_of_eq_ite hitem (hinterval ▸ isBetween_spinValue interval)
  case restart =>
    have hitem : (savedSetting dialog).getDataItem keyPingRestart =
        if dialog.keepaliveCheck = true then some (toString dialog.keepaliveRestartSpin)
        else none := item (by simp [savedItems])
    exact passes_of_eq_ite hitem (hrestart ▸ isBetween_spinValue restart)

/-- In every session with a new or an accepted connection the dialog can be saved as soon
as a server is chosen, and the kill switch is only ever saved where nft is found. -/
theorem session_saves (hload : LoadErrors load) (collate : List String → List String)
    (nftFound : Bool) (secretFlags : SecretFlags) {sVpn : Option NMSettingVpn}
    (hvalid : ∀ s, sVpn = some s → nmAirvpnPropertiesValidate s = .ok ()) (events : List Event) :
    let s := final (step load collate) (nmAirvpnEditorNew nftFound secretFlags sVpn) events
    (updateConnection s.dialog = .ok (savedSetting s.dialog) ↔
      (nonEmpty s.dialog.serverCombo.activeId).isSome = true) ∧ Switched nftFound s := by
  intro s
  have hinv : Inductive (step load collate) (nmAirvpnEditorNew nftFound secretFlags sVpn)
      fun s => Savable (isBetween 65535 · = true) s.dialog ∧ Switched nftFound s :=
    { start := ⟨savable_init (by decide) nftFound secretFlags (port_accepted hvalid), rfl, rfl, rfl,
        fun h => (Bool.and_eq_true_iff.mp h).1⟩
      next := fun h hs => ⟨h.1.step hload hs, h.2.step hload hs⟩ }
  exact ⟨(hinv.final events).1.updateConnection_iff, (hinv.final events).2⟩

theorem session_saves_sample :
    let s := final (step sampleStatusLoad id) (nmAirvpnEditorNew true .none (some sampleSetting))
      sampleSession
    updateConnection s.dialog = .ok (savedSetting s.dialog) := by
  intro s
  have hvalid : ∀ setting, some sampleSetting = some setting →
      nmAirvpnPropertiesValidate setting = .ok () :=
    fun setting heq => Option.some.inj heq ▸ sampleSetting_accepted
  have hsaves := session_saves loadErrors_sample id true .none hvalid sampleSession
  exact hsaves.1.mpr (by decide +kernel)

end AirVpn.Editor.Session
