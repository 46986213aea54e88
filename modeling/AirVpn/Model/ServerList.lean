import AirVpn.Model.Fetch

/-! # The lists of the editor

`nm-airvpn-server-list.c`: the editor's own transfers, its reading of the devices
API, and the filling of the server selection from the status API.
-/

namespace AirVpn.ServerList

open Returned

def maxResponseSize : Nat := 8 * 1024 * 1024

def httpGet (curl : Curl) : GReturned (List Char) :=
  if !curl.initialized then fail ⟨.ioFailed, "Could not initialize libcurl."⟩
  else
    match curl.body maxResponseSize with
    | none => fail ⟨.ioFailed, "Could not reach airvpn.org: " ++ curl.errbuf⟩
    | some body =>
        if curl.httpStatus ≠ 200 then
          fail ⟨.ioFailed, "Could not reach airvpn.org: " ++ curl.errbuf⟩
        else ok body

/-- The test for a rejected key; other error documents are parsed. -/
def checkAuthorized (body : List Char) : GReturned Unit :=
  if mentionsError body && mentionsNotAuthorized body then
    fail ⟨.ioPermissionDenied,
      "AirVPN rejected the API key (get a key at " ++ apiSettingsUrl ++ ")."⟩
  else ok ()

/-- `nm_airvpn_device_list_fetch`. The text is loaded up to its NUL. -/
def nmAirvpnDeviceListFetch (load : List Char → Except GError (Option JsonNode))
    (network : Network) (apiKey : String) : GReturned (List String) :=
  (httpGet (network airvpnDevicesUrl.toList apiKey)).bind fun json =>
  (checkAuthorized json).bind fun () =>
  (ofExcept (load (cString json))).bind fun root =>
  match devicesOf root with
  | none => fail ⟨.ioInvalidData, "Unexpected AirVPN devices list format."⟩
  | some devices => ok (devices.filterMap fun item => nonEmpty (deviceName item))

/-! ## The server selection -/

/-- A `GtkComboBoxText`: the ids of its rows and that of the active one. -/
structure GtkComboBoxText where
  ids : List String
  activeId : Option String
  deriving DecidableEq, Repr

namespace GtkComboBoxText

def append (combo : GtkComboBoxText) (id : String) : GtkComboBoxText :=
  { combo with ids := combo.ids ++ [id] }

def removeAll (_ : GtkComboBoxText) : GtkComboBoxText := ⟨[], none⟩

/-- `gtk_combo_box_set_active_id`, which changes nothing without a row of that id. -/
def setActiveId (combo : GtkComboBoxText) (id : String) : GtkComboBoxText :=
  if id ∈ combo.ids then { combo with activeId := some id } else combo

end GtkComboBoxText

def memberInt (members : List (String × JsonNode)) (name : String) : Int :=
  match members.lookup name with
  | some (.scalar int) => int
  | some (.string _) => 0
  | _ => -1

/-- The objects of an array member; what is no object has no members. -/
def memberObjects (root : List (String × JsonNode)) (name : String) :
    List (List (String × JsonNode)) :=
  ((jsonObjectGetArrayMember root name).getD []).map fun item =>
    (jsonNodeGetObject (some item)).getD []

def continentToken (item : List (String × JsonNode)) : Option String :=
  (jsonObjectGetStringMember item "public_name").map gAsciiStrdown

def countryLine (item : List (String × JsonNode)) : Option String :=
  match jsonObjectGetStringMember item "country_name",
    jsonObjectGetStringMember item "country_code" with
  | some name, some code =>
      some (code ++ "\n" ++ name ++ " (" ++ toString (max (memberInt item "servers") 0) ++ ")")
  | _, _ => none

def serverLine (item : List (String × JsonNode)) : Option String :=
  (jsonObjectGetStringMember item "public_name").map fun name =>
    let country := (jsonObjectGetStringMember item "country_name").getD "?"
    let location := (jsonObjectGetStringMember item "location").getD "?"
    let health :=
      match jsonObjectGetStringMember item "health" with
      | some health => if health ≠ "ok" then ", " ++ health else ""
      | none => ""
    name ++ "\n" ++ name ++ " — " ++ country ++ ", " ++ location ++ " (" ++
      toString (max (memberInt item "currentload") 0) ++ "%" ++ health ++ ")"

def lineToken (line : String) : String := String.ofList (line.toList.takeWhile (· ≠ '\n'))

/-- The tokens of the status document, in the order of the rows. `collate` is
`g_ptr_array_sort` with `g_utf8_collate`. -/
def statusTokens (collate : List String → List String) (root : List (String × JsonNode)) :
    List String :=
  "earth" :: (memberObjects root "continents").filterMap continentToken ++
    (collate ((memberObjects root "countries").filterMap countryLine)).map lineToken ++
    (collate ((memberObjects root "servers").filterMap serverLine)).map lineToken

def comboAdd (selectToken : Option String) (info : GtkComboBoxText × Bool) (token : String) :
    GtkComboBoxText × Bool :=
  let combo := info.1.append token
  if selectToken.any (gAsciiStrcaseequal · token) then (combo.setActiveId token, true)
  else (combo, info.2)

/-- The part of `nm_airvpn_server_list_fill_combo` that adds the rows. -/
def fillRows (collate : List String → List String) (selectToken : Option String)
    (root : List (String × JsonNode)) (combo : GtkComboBoxText) : GtkComboBoxText :=
  let info := (statusTokens collate root).foldl (comboAdd selectToken) (combo, false)
  let combo :=
    match nonEmpty selectToken with
    | some token => if info.2 then info.1 else (comboAdd selectToken info token).1.setActiveId token
    | none => info.1
  if combo.activeId.isNone then combo.setActiveId "earth" else combo

def nmAirvpnServerListFillCombo (load : List Char → Except GError (Option JsonNode))
    (collate : List String → List String) (json : List Char) (selectToken : Option String)
    (combo : GtkComboBoxText) : GtkComboBoxText × Except GError Unit :=
  match load json with
  | .error e => (combo, .error e)
  | .ok root =>
      match jsonNodeGetObject root with
      | none => (combo, .error ⟨.ioInvalidData, "Unexpected server list format."⟩)
      | some root => (fillRows collate selectToken root combo.removeAll, .ok ())

theorem fillCombo_cases (load : List Char → Except GError (Option JsonNode))
    (collate : List String → List String) (json : List Char) (selectToken : Option String)
    (combo : GtkComboBoxText) :
    (∃ e, nmAirvpnServerListFillCombo load collate json selectToken combo = (combo, .error e)) ∨
      ∃ node root, load json = .ok node ∧ jsonNodeGetObject node = some root ∧
        nmAirvpnServerListFillCombo load collate json selectToken combo =
          (fillRows collate selectToken root ⟨[], none⟩, .ok ()) := by
  unfold nmAirvpnServerListFillCombo
  cases load json with
  | error e => exact .inl ⟨e, rfl⟩
  | ok node =>
      dsimp only
      cases hroot : jsonNodeGetObject node with
      | none => exact .inl ⟨_, rfl⟩
      | some root => exact .inr ⟨node, root, rfl, hroot, rfl⟩

end AirVpn.ServerList
