import AirVpn.Model.ServerList
import AirVpn.Lib.Text

/-! # The devices that can be picked

The editor lists the devices of an account and the service checks the device of a
connection, each from its own transfer and reading of the same document. The
service looks for the word that marks an error anywhere in the text and receives
half as much.
-/

namespace AirVpn.ServerList

open Returned

/-! ## Documents -/

/-- The transfer from the devices API ends well and brings the document. -/
structure Serves (network : Network) (apiKey : String) (doc : List Char) : Prop where
  initialized : (network airvpnDevicesUrl.toList apiKey).initialized = true
  delivered : (network airvpnDevicesUrl.toList apiKey).delivered = true
  pieces : (network airvpnDevicesUrl.toList apiKey).pieces.flatten = doc
  httpStatus : (network airvpnDevicesUrl.toList apiKey).httpStatus = 200

/-- A JSON object without an `error` member. A JSON text has no NUL. -/
structure DevicesDoc (load : List Char → Except GError (Option JsonNode)) (doc : List Char)
    (members : List (String × JsonNode)) : Prop where
  loads : load doc = .ok (some (.object members))
  no_error : members.lookup "error" = none
  no_nul : ∀ c ∈ doc, c.toNat ≠ 0

/-- Each name that the editor lists is one that the service accepts, from whatever
transfers of the document. -/
def DevicesAgree (load : List Char → Except GError (Option JsonNode)) (doc : List Char) : Prop :=
  ∀ apiKey editor service, Serves editor apiKey doc → Serves service apiKey doc →
    ∀ names, (nmAirvpnDeviceListFetch load editor apiKey).value = some names →
      ∀ name ∈ names, ∀ params : NMAirvpnGeneratorParams, params.device = some name →
        (validateDevice load service params apiKey).value = some ()

def NamesDevice (members : List (String × JsonNode)) : Prop :=
  ∃ items, jsonObjectGetArrayMember members "devices" = some items ∧
    ∃ item ∈ items, ∃ name, deviceName item = some name ∧ name ≠ ""

/-- The editor reads a document up to 8 MiB that does not mention both. -/
def EditorReads (doc : List Char) : Prop :=
  doc.length ≤ ServerList.maxResponseSize ∧
    ¬ (mentionsError doc = true ∧ mentionsNotAuthorized doc = true)

/-- The service reads a document up to 4 MiB that does not mention an error. -/
def ServiceReads (doc : List Char) : Prop :=
  doc.length ≤ AirVpn.maxResponseSize ∧ mentionsError doc = false

/-! ## Transfers -/

section

variable {load : List Char → Except GError (Option JsonNode)} {network : Network} {apiKey : String}
  {doc : List Char} {members : List (String × JsonNode)}

theorem Serves.body (h : Serves network apiKey doc) (limit : Nat) :
    (network airvpnDevicesUrl.toList apiKey).body limit =
      if doc.length ≤ limit then some doc else none := by
  rw [Curl.body, if_pos h.delivered, receive_eq (Nat.zero_le _), List.nil_append, h.pieces]

theorem Serves.httpGet_value (h : Serves network apiKey doc) :
    ServerList.httpGet (network airvpnDevicesUrl.toList apiKey) =
        (if doc.length ≤ ServerList.maxResponseSize then ok doc else
          fail ⟨.ioFailed, "Could not reach airvpn.org: " ++
            (network airvpnDevicesUrl.toList apiKey).errbuf⟩) := by
  unfold ServerList.httpGet
  rw [h.body, h.initialized, h.httpStatus]
  by_cases hlength : doc.length ≤ ServerList.maxResponseSize
  · rw [if_pos hlength, if_pos hlength]
    rfl
  · rw [if_neg hlength, if_neg hlength]
    rfl

theorem Serves.service_httpGet (h : Serves network apiKey doc) :
    AirVpn.httpGet (network airvpnDevicesUrl.toList apiKey) =
        (if doc.length ≤ AirVpn.maxResponseSize then ok doc else
          fail ⟨.launchFailed, "Could not reach the AirVPN API: " ++
            (network airvpnDevicesUrl.toList apiKey).errbuf⟩) := by
  unfold AirVpn.httpGet
  rw [h.body, h.initialized, h.httpStatus]
  by_cases hlength : doc.length ≤ AirVpn.maxResponseSize
  · rw [if_pos hlength, if_pos hlength]
    rfl
  · rw [if_neg hlength, if_neg hlength]
    rfl

theorem checkJsonError_of_mentions {body : List Char} (h : mentionsError body = true) :
    ∃ e, checkJsonError body = fail e := by
  unfold checkJsonError
  rw [if_pos h]
  split
  · exact ⟨_, rfl⟩
  · exact ⟨_, rfl⟩

theorem checkJsonError_of_not {body : List Char} (h : mentionsError body = false) :
    checkJsonError body = ok () := by
  unfold checkJsonError
  rw [h]
  rfl

theorem DevicesDoc.cString (h : DevicesDoc load doc members) : AirVpn.cString doc = doc :=
  List.takeWhile_eq_self_iff.mpr fun c hc => by simpa using h.no_nul c hc

theorem DevicesDoc.devicesOf (members : List (String × JsonNode)) :
    AirVpn.devicesOf (some (.object members)) = jsonObjectGetArrayMember members "devices" := rfl

theorem listed_iff (hdoc : DevicesDoc load doc members) (h : Serves network apiKey doc)
    (names : List String) :
    (nmAirvpnDeviceListFetch load network apiKey).value = some names ↔
      EditorReads doc ∧ ∃ items, jsonObjectGetArrayMember members "devices" = some items ∧
        names = items.filterMap fun item => nonEmpty (deviceName item) := by
  unfold nmAirvpnDeviceListFetch EditorReads
  rw [h.httpGet_value]
  by_cases hlength : doc.length ≤ ServerList.maxResponseSize
  · by_cases hrejected : mentionsError doc = true ∧ mentionsNotAuthorized doc = true
    · simp [hlength, hrejected, checkAuthorized]
    · have hcheck : checkAuthorized doc = ok () := by
        unfold checkAuthorized
        rw [if_neg (by simpa using hrejected)]
      simp only [hlength, hrejected, if_true, bind_ok, hcheck, hdoc.cString, hdoc.loads,
        ofExcept_ok, DevicesDoc.devicesOf, not_false_eq_true, true_and]
      cases jsonObjectGetArrayMember members "devices" with
      | none => simp
      | some items => simp [eq_comm]
  · simp [hlength]

theorem accepted_iff (hdoc : DevicesDoc load doc members) (h : Serves network apiKey doc)
    {params : NMAirvpnGeneratorParams} {device : String} (hparams : params.device = some device)
    (hne : device ≠ "") :
    (validateDevice load network params apiKey).value = some () ↔
      ServiceReads doc ∧ ∃ items, jsonObjectGetArrayMember members "devices" = some items ∧
        ∃ item ∈ items, ∃ name, deviceName item = some name ∧
          gAsciiStrcaseequal name device = true := by
  unfold validateDevice ServiceReads
  rw [hparams, nonEmpty_some hne, h.service_httpGet]
  by_cases hlength : doc.length ≤ AirVpn.maxResponseSize
  · cases herror : mentionsError doc with
    | true =>
        obtain ⟨e, he⟩ := checkJsonError_of_mentions herror
        simp [hlength, he]
    | false =>
        simp only [hlength, if_true, bind_ok, checkJsonError_of_not herror, hdoc.loads, ofExcept_ok,
          DevicesDoc.devicesOf, true_and]
        cases jsonObjectGetArrayMember members "devices" with
        | none => simp
        | some items =>
            simp only [Option.some.injEq, exists_eq_left']
            split
            · next hany =>
                obtain ⟨item, hitem, hmatch⟩ := List.any_eq_true.mp hany
                refine ⟨fun _ => ⟨item, hitem, ?_⟩, fun _ => rfl⟩
                split at hmatch
                · cases hmatch
                · next name hname => exact ⟨name, hname, hmatch⟩
            · next hany =>
                refine ⟨fun h => (by cases h), ?_⟩
                rintro ⟨item, hitem, name, hname, hequal⟩
                exact absurd (List.any_eq_true.mpr ⟨item, hitem, by simp [hname, hequal]⟩) hany
  · simp [hlength]

end

/-! ## Agreement -/

def serving (doc : List Char) : Network := fun _ _ => ⟨true, true, [doc], "", 200⟩

theorem serves_serving (apiKey : String) (doc : List Char) : Serves (serving doc) apiKey doc :=
  ⟨rfl, rfl, by simp [serving], rfl⟩

theorem namesDevice_iff (members : List (String × JsonNode)) :
    NamesDevice members ↔
      ∃ items, jsonObjectGetArrayMember members "devices" = some items ∧
        (items.filterMap fun item => nonEmpty (deviceName item)) ≠ [] := by
  unfold NamesDevice
  refine exists_congr fun items => and_congr_right fun _ => ?_
  constructor
  · rintro ⟨item, hitem, name, hname, hne⟩ hnil
    have hnone := List.filterMap_eq_nil_iff.mp hnil item hitem
    rw [hname, nonEmpty_some hne] at hnone
    cases hnone
  · intro hne
    obtain ⟨name, hmem⟩ := List.exists_mem_of_ne_nil _ hne
    obtain ⟨item, hitem, hname⟩ := List.mem_filterMap.mp hmem
    obtain ⟨hget, hne⟩ := nonEmpty_eq_some.mp hname
    exact ⟨item, hitem, name, hget, hne⟩

/-- The editor and the service agree on a document exactly when it names no device,
or the editor cannot read it, or the service can. -/
theorem devices_agree_iff {load : List Char → Except GError (Option JsonNode)} {doc : List Char}
    {members : List (String × JsonNode)} (hdoc : DevicesDoc load doc members) :
    DevicesAgree load doc ↔ (NamesDevice members → EditorReads doc → ServiceReads doc) := by
  constructor
  · intro h hnames hreads
    obtain ⟨items, hitems, hne⟩ := (namesDevice_iff members).mp hnames
    obtain ⟨name, hname⟩ := List.exists_mem_of_ne_nil _ hne
    have hserves := serves_serving "" doc
    have hlisted := (listed_iff hdoc hserves _).mpr ⟨hreads, items, hitems, rfl⟩
    have haccepted := h "" (serving doc) (serving doc) hserves hserves _ hlisted name hname
      ⟨none, some name, none, none, none⟩ rfl
    obtain ⟨_, _, hsome⟩ := List.mem_filterMap.mp hname
    exact ((accepted_iff hdoc hserves rfl (nonEmpty_eq_some.mp hsome).2).mp haccepted).1
  · intro h apiKey editor service heditor hservice names hlisted name hname params hparams
    obtain ⟨hreads, items, hitems, rfl⟩ := (listed_iff hdoc heditor names).mp hlisted
    obtain ⟨item, hitem, hsome⟩ := List.mem_filterMap.mp hname
    obtain ⟨hget, hne⟩ := nonEmpty_eq_some.mp hsome
    have hservice_reads := h ⟨items, hitems, item, hitem, name, hget, hne⟩ hreads
    exact (accepted_iff hdoc hservice hparams hne).mpr
      ⟨hservice_reads, items, hitems, item, hitem, name, hget, decide_eq_true rfl⟩

/-! ## Sample documents -/

def sampleDevices (name : String) : String :=
  "\x7b\"devices\":[\x7b\"name\":\"" ++ name ++ "\"\x7d]\x7d"

def sampleLoad (name : String) (doc : List Char) : Except GError (Option JsonNode) :=
  if doc = (sampleDevices name).toList then
    .ok (some (.object [("devices", .array [.object [("name", .string name)]])]))
  else .error ⟨.jsonError, "Unexpected character"⟩

theorem devicesDoc_sample (name : String)
    (h : ∀ c ∈ (sampleDevices name).toList, c.toNat ≠ 0) :
    DevicesDoc (sampleLoad name) (sampleDevices name).toList
      [("devices", .array [.object [("name", .string name)]])] :=
  ⟨if_pos rfl, rfl, h⟩

theorem devices_agree_sample :
    DevicesAgree (sampleLoad "laptop") (sampleDevices "laptop").toList :=
  (devices_agree_iff (devicesDoc_sample "laptop" (Text.forall_of_all (by decide +kernel)))).mpr
    fun _ _ => ⟨by decide +kernel, by decide +kernel⟩

/-- A device may be called “error”. -/
theorem device_named_error_refused :
    ¬ DevicesAgree (sampleLoad "error") (sampleDevices "error").toList := by
  intro h
  have hdoc := devicesDoc_sample "error" (Text.forall_of_all (by decide +kernel))
  have hserves := serves_serving "" (sampleDevices "error").toList
  have hlisted := (listed_iff hdoc hserves ["error"]).mpr
    ⟨⟨by decide +kernel, by decide +kernel⟩, _, rfl, by decide⟩
  have haccepted := h "" _ _ hserves hserves _ hlisted "error" (List.mem_singleton_self _)
    ⟨none, some "error", none, none, none⟩ rfl
  have hreads := ((accepted_iff hdoc hserves rfl (by decide)).mp haccepted).1.2
  exact absurd hreads (by decide +kernel)

end AirVpn.ServerList
