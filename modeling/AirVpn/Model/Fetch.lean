import AirVpn.Lib.Returned
import AirVpn.Model.Api

/-! # Fetching a profile

`nm-airvpn-api.c` with the errors it reports: the transfers, the checks of what is
received, and the worker thread. libcurl and json-glib are answers of the
environment. A received body is a list with one character for each byte.
-/

namespace AirVpn

/-! ## json-glib -/

/-- A number or a boolean stands for what `json_node_get_int` makes of it. -/
inductive JsonNode where
  | null
  | string (value : String)
  | scalar (int : Int)
  | array (elements : List JsonNode)
  | object (members : List (String × JsonNode))

/-- `json_node_get_object`; also of no node at all. -/
def jsonNodeGetObject : Option JsonNode → Option (List (String × JsonNode))
  | some (.object members) => some members
  | _ => none

/-- `json_object_get_array_member`, NULL also where there is no such member. -/
def jsonObjectGetArrayMember (members : List (String × JsonNode)) (name : String) :
    Option (List JsonNode) :=
  match members.lookup name with
  | some (.array elements) => some elements
  | _ => none

def jsonObjectGetStringMember (members : List (String × JsonNode)) (name : String) :
    Option String :=
  match members.lookup name with
  | some (.string value) => some value
  | _ => none

def devicesOf (root : Option JsonNode) : Option (List JsonNode) :=
  (jsonNodeGetObject root).bind (jsonObjectGetArrayMember · "devices")

def deviceName (item : JsonNode) : Option String :=
  (jsonNodeGetObject (some item)).bind (jsonObjectGetStringMember · "name")

/-! ## libcurl -/

/-- What happens in one use of libcurl: `curl_easy_init`, whether the transfer ends
well apart from `write_cb`, the pieces handed to `write_cb`, the text of an error,
and the HTTP status. -/
structure Curl where
  initialized : Bool
  delivered : Bool
  pieces : List (List Char)
  errbuf : String
  httpStatus : Nat

abbrev Network := List Char → String → Curl

/-- `write_cb` over the pieces: a piece that would make the body too long ends the
transfer. -/
def receive (limit : Nat) : List Char → List (List Char) → Option (List Char)
  | body, [] => some body
  | body, piece :: pieces =>
      if limit < body.length + piece.length then none else receive limit (body ++ piece) pieces

def Curl.body (curl : Curl) (limit : Nat) : Option (List Char) :=
  if curl.delivered then receive limit [] curl.pieces else none

theorem receive_eq {limit : Nat} {body : List Char} (h : body.length ≤ limit)
    (pieces : List (List Char)) :
    receive limit body pieces =
      if (body ++ pieces.flatten).length ≤ limit then some (body ++ pieces.flatten) else none := by
  induction pieces generalizing body with
  | nil => simp [receive, h]
  | cons piece pieces ih =>
      unfold receive
      split
      · next hlong =>
          rw [if_neg]
          simp only [List.flatten_cons, List.length_append]
          omega
      · next hfits =>
          rw [ih (by rw [List.length_append]; omega), List.append_assoc]
          rfl

/-! ## Transfers -/

def airvpnDevicesUrl : String := "https://airvpn.org/api/devices/"

def maxResponseSize : Nat := 4 * 1024 * 1024

/-- What a function of the sources returns, with its `GError`. -/
abbrev GReturned := Returned GError

open Returned

def httpGet (curl : Curl) : GReturned (List Char) :=
  if !curl.initialized then fail ⟨.launchFailed, "Could not initialize libcurl."⟩
  else
    match curl.body maxResponseSize with
    | none => fail ⟨.launchFailed, "Could not reach the AirVPN API: " ++ curl.errbuf⟩
    | some body =>
        if curl.httpStatus ≠ 200 then
          fail ⟨.launchFailed,
            "AirVPN API returned HTTP status " ++ toString curl.httpStatus ++ "."⟩
        else ok body

/-- The textual test for an error document, in both readers. -/
def mentionsError (body : List Char) : Bool :=
  body.head? = some '\x7b' && strstr (cString body) "\"error\"".toList

def mentionsNotAuthorized (body : List Char) : Bool :=
  strstr (cString body) "Not authorized".toList

def checkJsonError (body : List Char) : GReturned Unit :=
  if mentionsError body then
    if mentionsNotAuthorized body then
      fail ⟨.launchFailed,
        "AirVPN rejected the API key (get a key at " ++ apiSettingsUrl ++ ")."⟩
    else
      fail ⟨.launchFailed,
        "AirVPN API request failed: " ++ String.ofList (cString (body.take 200))⟩
  else ok ()

section

/-! `load` is `json_parser_load_from_data` and `json_parser_get_root`: the root of what
is loaded, which is missing for an empty text. -/

variable (load : List Char → Except GError (Option JsonNode)) (network : Network)

def validateDevice (params : NMAirvpnGeneratorParams) (apiKey : String) : GReturned Unit :=
  match nonEmpty params.device with
  | none => ok ()
  | some device =>
      (httpGet (network airvpnDevicesUrl.toList apiKey)).bind fun body =>
      (checkJsonError body).bind fun () =>
      (ofExcept (load body)).bind fun root =>
      match devicesOf root with
      | none => fail ⟨.launchFailed, "Unexpected AirVPN devices list format."⟩
      | some devices =>
          if devices.any fun item =>
              match deviceName item with
              | none => false
              | some name => gAsciiStrcaseequal name device
          then ok ()
          else
            fail ⟨.launchFailed, "Device “" ++ device ++
              "” does not exist on your AirVPN account. Pick one of your devices in the " ++
              "connection editor (Load devices) or create it at airvpn.org."⟩

def validateProfile (body : List Char) : GReturned Unit :=
  if body = [] then
    fail ⟨.launchFailed, "AirVPN generator returned an empty response."⟩
  else
    (checkJsonError body).bind fun () =>
    if !strstr (cString body) "client".toList || !strstr (cString body) "<ca>".toList ||
        !strstr (cString body) "<key>".toList then
      fail ⟨.launchFailed, "AirVPN generator response is not an OpenVPN profile."⟩
    else ok ()

/-- `g_cancellable_set_error_if_cancelled`, as a step of its caller. -/
def unlessCancelled (cancelled : Bool) : GReturned Unit :=
  if cancelled then fail ⟨.ioCancelled, "Operation was cancelled"⟩ else ok ()

/-- What a fetch meets besides the network: its cancellable at the two places where
it is looked at, and the `curl_easy_init` for the URL. -/
structure FetchRun where
  cancelledEarly : Bool
  initialized : Bool
  cancelledLate : Bool

/-- `nm_airvpn_generator_fetch_sync`. The two `g_return_val_if_fail` report
nothing. -/
def nmAirvpnGeneratorFetchSync (run : FetchRun) (params : NMAirvpnGeneratorParams)
    (apiKey : String) : GReturned (List Char) :=
  if (nonEmpty params.server).isNone then silent
  else if apiKey = "" then silent
  else
    (validateDevice load network params apiKey).bind fun () =>
    (unlessCancelled run.cancelledEarly).bind fun () =>
    if !run.initialized then fail ⟨.launchFailed, "Could not initialize libcurl."⟩
    else
      (httpGet (network (buildGeneratorUrl params) apiKey)).bind fun body =>
      (unlessCancelled run.cancelledLate).bind fun () =>
      (validateProfile body).bind fun () =>
      ok (cString body)

end

/-! ## The task -/

/-- `fetch_thread_cb`: the task gets the profile if there is one, and otherwise the
error. `g_task_return_error` refuses a missing error and leaves the task empty. -/
def fetchThreadCb (fetched : GReturned (List Char)) : GReturned (List Char) :=
  match fetched.value with
  | some config => ok config
  | none => ⟨none, fetched.error⟩

/-- `nm_airvpn_generator_fetch_finish`, that is `g_task_propagate_pointer`: a task
whose cancellable is cancelled by now reports that. -/
def nmAirvpnGeneratorFetchFinish (cancelled : Bool) (task : GReturned (List Char)) :
    GReturned (List Char) :=
  if cancelled then fail ⟨.ioCancelled, "Operation was cancelled"⟩
  else
    match task.error with
    | some e => fail e
    | none => ⟨task.value, none⟩

end AirVpn
