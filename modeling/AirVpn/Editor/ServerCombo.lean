import AirVpn.Editor.RoundTrip

/-! # The rows of the server selection

What the selection holds after it has been filled from a status document: the tokens
of the document, whatever the sort does to them, and the token that was selected.
-/

namespace AirVpn.Editor

open ServerList

/-! ## What the rows are meant to be -/

def continentNames (root : List (String × JsonNode)) : List String :=
  (memberObjects root "continents").filterMap (jsonObjectGetStringMember · "public_name")

/-- The codes of the countries that have a name and a code. -/
def countryCodes (root : List (String × JsonNode)) : List String :=
  (memberObjects root "countries").filterMap fun item =>
    (jsonObjectGetStringMember item "country_name").bind fun _ =>
      jsonObjectGetStringMember item "country_code"

def serverNames (root : List (String × JsonNode)) : List String :=
  (memberObjects root "servers").filterMap (jsonObjectGetStringMember · "public_name")

/-- What is added for a token that none of the rows equals. -/
def handEntered (selectToken : Option String) (rows : List String) : List String :=
  match nonEmpty selectToken with
  | some token => if rows.any (gAsciiStrcaseequal token) then [] else [token]
  | none => []

/-- The rows are those of the document and the selected token, and the active row is
this token or, without one, the first row. -/
structure Filled (root : List (String × JsonNode)) (selectToken : Option String)
    (combo : GtkComboBoxText) : Prop where
  rows : ∃ countries servers : List String,
    countries.Perm ((countryCodes root).map lineToken) ∧
    servers.Perm ((serverNames root).map lineToken) ∧
    let listed := "earth" :: (continentNames root).map gAsciiStrdown ++ countries ++ servers
    combo.ids = listed ++ handEntered selectToken listed
  active : ∃ id ∈ combo.ids, combo.activeId = some id ∧
    (∀ token, nonEmpty selectToken = some token → gAsciiStrcaseequal token id = true) ∧
    (selectToken = none → id = "earth")

/-- What is documented of the sort: it permutes the lines. -/
def Sorts (collate : List String → List String) : Prop := ∀ lines, (collate lines).Perm lines

/-! ## The tokens -/

theorem lineToken_append (token display : String) :
    lineToken (token ++ ("\n" ++ display)) = lineToken token := by
  unfold lineToken
  have hline : (token ++ ("\n" ++ display)).toList = token.toList ++ '\n' :: display.toList := by
    simp
  rw [hline, List.takeWhile_append]
  split
  · next hlength =>
      have hall := List.IsPrefix.eq_of_length (List.takeWhile_prefix _) hlength
      rw [hall, List.takeWhile_cons_of_neg (by decide), List.append_nil]
  · rfl

theorem countryLine_token (item : List (String × JsonNode)) :
    (countryLine item).map lineToken =
      ((jsonObjectGetStringMember item "country_name").bind fun _ =>
        jsonObjectGetStringMember item "country_code").map lineToken := by
  unfold countryLine
  cases jsonObjectGetStringMember item "country_name" with
  | none => rfl
  | some name =>
      cases jsonObjectGetStringMember item "country_code" with
      | none => rfl
      | some code =>
          simp only [String.append_assoc, Option.map_some, Option.bind_some, lineToken_append]

theorem serverLine_token (item : List (String × JsonNode)) :
    (serverLine item).map lineToken =
      (jsonObjectGetStringMember item "public_name").map lineToken := by
  unfold serverLine
  cases jsonObjectGetStringMember item "public_name" with
  | none => rfl
  | some name => simp only [String.append_assoc, Option.map_some, lineToken_append]

theorem continentTokens_eq (root : List (String × JsonNode)) :
    (memberObjects root "continents").filterMap continentToken =
      (continentNames root).map gAsciiStrdown := by
  rw [continentNames, List.map_filterMap]
  rfl

theorem countryTokens_eq (root : List (String × JsonNode)) :
    ((memberObjects root "countries").filterMap countryLine).map lineToken =
      (countryCodes root).map lineToken := by
  rw [countryCodes, List.map_filterMap, List.map_filterMap]
  exact List.filterMap_congr fun item _ => countryLine_token item

theorem serverTokens_eq (root : List (String × JsonNode)) :
    ((memberObjects root "servers").filterMap serverLine).map lineToken =
      (serverNames root).map lineToken := by
  rw [serverNames, List.map_filterMap, List.map_filterMap]
  exact List.filterMap_congr fun item _ => serverLine_token item

/-! ## The loop over the rows -/

theorem foldl_comboAdd_ids (selectToken : Option String) (rows : List String)
    (info : GtkComboBoxText × Bool) :
    (rows.foldl (comboAdd selectToken) info).1.ids = info.1.ids ++ rows := by
  induction rows generalizing info with
  | nil => simp
  | cons row rows ih =>
      rw [List.foldl_cons, ih, comboAdd_appends, List.append_assoc, List.singleton_append]

theorem foldl_comboAdd_selected (selectToken : Option String) (rows : List String)
    (info : GtkComboBoxText × Bool) :
    (rows.foldl (comboAdd selectToken) info).2 =
      (info.2 || rows.any fun row => selectToken.any (gAsciiStrcaseequal · row)) := by
  induction rows generalizing info with
  | nil => simp
  | cons row rows ih =>
      rw [List.foldl_cons, ih, List.any_cons, ← Bool.or_assoc]
      congr 1
      unfold comboAdd
      split <;> simp_all

def ActiveListed (combo : GtkComboBoxText) : Prop := ∀ id, combo.activeId = some id → id ∈ combo.ids

theorem ActiveListed.append {combo : GtkComboBoxText} (h : ActiveListed combo) (row : String) :
    ActiveListed (combo.append row) :=
  fun id hid => List.mem_append_left _ (h id hid)

theorem ActiveListed.setActiveId {combo : GtkComboBoxText} (h : ActiveListed combo)
    (row : String) : ActiveListed (combo.setActiveId row) := by
  unfold GtkComboBoxText.setActiveId
  split
  · next hrow =>
      intro id hid
      rw [← Option.some.inj hid]
      exact hrow
  · exact h

theorem ActiveListed.comboAdd {info : GtkComboBoxText × Bool} (h : ActiveListed info.1)
    (selectToken : Option String) (row : String) :
    ActiveListed (comboAdd selectToken info row).1 := by
  unfold ServerList.comboAdd
  dsimp only
  split
  · exact (h.append row).setActiveId row
  · exact h.append row

theorem ActiveListed.foldl {info : GtkComboBoxText × Bool} (h : ActiveListed info.1)
    (selectToken : Option String) (rows : List String) :
    ActiveListed (rows.foldl (ServerList.comboAdd selectToken) info).1 := by
  induction rows generalizing info with
  | nil => exact h
  | cons row rows ih => exact ih (h.comboAdd selectToken row)

theorem foldl_comboAdd_none (rows : List String) (info : GtkComboBoxText × Bool) :
    (rows.foldl (comboAdd none) info).1.activeId = info.1.activeId := by
  induction rows generalizing info with
  | nil => rfl
  | cons row rows ih =>
      rw [List.foldl_cons, ih]
      rfl

/-! ## The filled selection -/

@[simp] theorem setActiveId_ids (combo : GtkComboBoxText) (id : String) :
    (combo.setActiveId id).ids = combo.ids := by
  unfold GtkComboBoxText.setActiveId
  split <;> rfl

/-- The selection once all rows are there, before a default is set. -/
def chosen (selectToken : Option String) (info : GtkComboBoxText × Bool) : GtkComboBoxText :=
  match nonEmpty selectToken with
  | some token => if info.2 then info.1 else (comboAdd selectToken info token).1.setActiveId token
  | none => info.1

theorem fillRows_eq (collate : List String → List String) (selectToken : Option String)
    (root : List (String × JsonNode)) (combo : GtkComboBoxText) :
    fillRows collate selectToken root combo =
      let combo := chosen selectToken
        ((statusTokens collate root).foldl (comboAdd selectToken) (combo, false))
      if combo.activeId.isNone then combo.setActiveId "earth" else combo := rfl

theorem chosen_ids (selectToken : Option String) (rows : List String) :
    (chosen selectToken (rows.foldl (comboAdd selectToken) (⟨[], none⟩, false))).ids =
      rows ++ handEntered selectToken rows := by
  have hids := foldl_comboAdd_ids selectToken rows (⟨[], none⟩, false)
  have hselected := foldl_comboAdd_selected selectToken rows (⟨[], none⟩, false)
  generalize rows.foldl (comboAdd selectToken) (⟨[], none⟩, false) = info at hids hselected
  rw [List.nil_append] at hids
  rw [Bool.false_or] at hselected
  unfold chosen handEntered
  cases htoken : nonEmpty selectToken with
  | none =>
      dsimp only
      rw [hids, List.append_nil]
  | some token =>
      rw [(nonEmpty_eq_some.mp htoken).1] at hselected ⊢
      have hany : info.2 = rows.any (gAsciiStrcaseequal token) := hselected
      dsimp only
      rw [← hany]
      cases info.2 with
      | true => simp [hids]
      | false => simp [comboAdd_appends, hids]

theorem chosen_listed {selectToken : Option String} {info : GtkComboBoxText × Bool}
    (h : ActiveListed info.1) : ActiveListed (chosen selectToken info) := by
  unfold chosen
  split
  · next token _ =>
      split
      · exact h
      · exact (h.comboAdd selectToken token).setActiveId token
  · exact h

theorem filled_fillRows {collate : List String → List String} (hsort : Sorts collate)
    (selectToken : Option String) (root : List (String × JsonNode)) :
    Filled root selectToken (fillRows collate selectToken root ⟨[], none⟩) := by
  have hshows : ∀ token, nonEmpty selectToken = some token →
      Shows token (fillRows collate selectToken root ⟨[], none⟩) := by
    intro token htoken
    obtain ⟨hselect, hne⟩ := nonEmpty_eq_some.mp htoken
    rw [hselect]
    exact fillRows_shows collate hne root _
  have heq := fillRows_eq collate selectToken root ⟨[], none⟩
  generalize fillRows collate selectToken root ⟨[], none⟩ = combo at hshows heq
  have hids := chosen_ids selectToken (statusTokens collate root)
  have hlisted : ActiveListed (chosen selectToken
      ((statusTokens collate root).foldl (comboAdd selectToken) (⟨[], none⟩, false))) :=
    chosen_listed (ActiveListed.foldl (fun id hid => by cases hid) _ _)
  have hnone : selectToken = none → (chosen selectToken
      ((statusTokens collate root).foldl (comboAdd selectToken) (⟨[], none⟩, false))).activeId =
        none := by
    rintro rfl
    exact foldl_comboAdd_none (statusTokens collate root) (⟨[], none⟩, false)
  generalize chosen selectToken
    ((statusTokens collate root).foldl (comboAdd selectToken) (⟨[], none⟩, false)) = before
    at heq hids hlisted hnone
  have hcomboIds : combo.ids = before.ids := by
    rw [heq]
    dsimp only
    split <;> simp
  have hearth : "earth" ∈ before.ids := by
    rw [hids, statusTokens]
    simp
  refine ⟨⟨_, _, ((hsort _).map lineToken).trans (.of_eq (countryTokens_eq root)),
    ((hsort _).map lineToken).trans (.of_eq (serverTokens_eq root)), ?_⟩, ?_⟩
  · rw [hcomboIds, hids, statusTokens, continentTokens_eq]
  · cases hactive : before.activeId with
    | none =>
        have hearthActive : combo.activeId = some "earth" := by
          rw [heq]
          simp [hactive, GtkComboBoxText.setActiveId, hearth]
        refine ⟨"earth", hcomboIds ▸ hearth, hearthActive, fun token htoken => ?_, fun _ => rfl⟩
        obtain ⟨id, hid, hequal⟩ := hshows token htoken
        rw [hearthActive] at hid
        exact Option.some.inj hid ▸ hequal
    | some id =>
        have hsame : combo.activeId = some id := by
          rw [heq]
          simp [hactive]
        refine ⟨id, hcomboIds ▸ hlisted id hactive, hsame, fun token htoken => ?_, fun hnull => ?_⟩
        · obtain ⟨id', hid, hequal⟩ := hshows token htoken
          rw [hsame] at hid
          exact Option.some.inj hid ▸ hequal
        · rw [hnone hnull] at hactive
          cases hactive

/-- A selection that is not filled is left as it is, one that is filled has the rows of
the document, and a refresh of the dialog keeps the server that it shows. -/
theorem fill_combo_exact {collate : List String → List String} (hsort : Sorts collate)
    (load : List Char → Except GError (Option JsonNode)) (json : List Char) :
    (∀ selectToken combo,
      (∀ e, (nmAirvpnServerListFillCombo load collate json selectToken combo).2 = .error e →
        (nmAirvpnServerListFillCombo load collate json selectToken combo).1 = combo) ∧
      ((nmAirvpnServerListFillCombo load collate json selectToken combo).2 = .ok () →
        ∃ node root, load json = .ok node ∧ jsonNodeGetObject node = some root ∧
          Filled root selectToken
            (nmAirvpnServerListFillCombo load collate json selectToken combo).1)) ∧
      ∀ dialog server, nonEmpty dialog.serverCombo.activeId = some server →
        Shows server (refillServerCombo load collate (some json) dialog).serverCombo := by
  refine ⟨fun selectToken combo => ?_, fun dialog server hserver => ?_⟩
  · rcases fillCombo_cases load collate json selectToken combo with
      ⟨e, heq⟩ | ⟨node, root, hload, hroot, heq⟩
    · rw [heq]
      exact ⟨fun e' _ => rfl, fun h => by cases h⟩
    · rw [heq]
      exact ⟨fun e h => (by cases h),
        fun _ => ⟨node, root, hload, hroot, filled_fillRows hsort selectToken root⟩⟩
  · obtain ⟨hactive, hne⟩ := nonEmpty_eq_some.mp hserver
    obtain ⟨combo, heq, hshows⟩ := refillServerCombo_shows load collate (some json) hne
      ⟨server, hactive, strcaseequal_refl server⟩
    rw [heq]
    exact hshows

def sampleStatus : String :=
  "\x7b\"countries\":[\x7b\"country_name\":\"Chile\",\"country_code\":\"cl\"\x7d]," ++
    "\"servers\":[\x7b\"public_name\":\"Achernar\"\x7d,\x7b\x7d]\x7d"

def sampleStatusLoad (doc : List Char) : Except GError (Option JsonNode) :=
  if doc = sampleStatus.toList then
    .ok (some (.object
      [("countries", .array [.object
        [("country_name", .string "Chile"), ("country_code", .string "cl")]]),
       ("servers", .array [.object [("public_name", .string "Achernar")], .object []])]))
  else .error ⟨.jsonError, "not the sample"⟩

theorem fill_combo_sample :
    ∃ node root, sampleStatusLoad sampleStatus.toList = .ok node ∧
      jsonNodeGetObject node = some root ∧
      Filled root (some "CL")
        (nmAirvpnServerListFillCombo sampleStatusLoad (List.mergeSort · (· ≤ ·))
          sampleStatus.toList (some "CL") ⟨["earth"], some "earth"⟩).1 := by
  have hsort : Sorts (List.mergeSort · (· ≤ ·)) := fun lines => List.mergeSort_perm lines _
  have hexact := fill_combo_exact hsort sampleStatusLoad sampleStatus.toList
  refine (hexact.1 (some "CL") ⟨["earth"], some "earth"⟩).2 ?_
  simp [nmAirvpnServerListFillCombo, sampleStatusLoad, jsonNodeGetObject]

end AirVpn.Editor
