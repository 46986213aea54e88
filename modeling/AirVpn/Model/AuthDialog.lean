import AirVpn.Model.Properties

/-! # The auth dialog

`auth-dialog/main.c`: where the API key comes from, what is shown and printed, and how the
program waits to be told to quit. The parsed command line, what libnm reads from stdin and
makes of the secret flags, the keyring, and what the user does with the dialog are answers
of the environment. GLib and libc write the output.
-/

namespace AirVpn.AuthDialog

def dbusServiceAirvpn : String := "org.freedesktop.NetworkManager.airvpn"

def uiKeyfileGroup : String := "VPN Plugin UI"

def flagNotSaved : Nat := 2

def flagNotRequired : Nat := 4

structure Options where
  retry : Bool
  allowInteraction : Bool
  externalUiMode : Bool
  vpnUuid : Option String
  vpnName : Option String
  vpnService : Option String

structure PasswordDialog where
  title : String
  message : String
  passwordLabel : String
  password : Option String
  deriving DecidableEq, Repr

inductive KeyValue where
  | string (value : String)
  | integer (value : Int)
  | boolean (value : Bool)
  deriving DecidableEq, Repr

/-- The values of a `GKeyFile` with their groups and keys, in order. -/
abbrev KeyFile := List (String × String × KeyValue)

/-- What `nm_vpn_service_plugin_read_vpn_details` returns, the flags that
`nm_vpn_service_plugin_get_secret_flags` finds in the data, the secrets of the items that a
search of the keyring finds, and whether the dialog is confirmed, with which password. -/
structure Env where
  details : Option (List (String × String) × List (String × String))
  secretFlags : List (String × String) → Nat
  keyring : String → String → List (Option String)
  answer : PasswordDialog → Option (Option String)

/-- `keyring_lookup_secret`: the first item counts, even if it has no secret. -/
def keyringLookupSecret (keyring : String → String → List (Option String))
    (uuid secretName : String) : Option String := (keyring uuid secretName).head?.join

def keyfileAddEntryInfo (key value label : String) (isSecret shouldAsk : Bool)
    (keyfile : KeyFile) : KeyFile :=
  keyfile ++
    [(key, "Value", .string value), (key, "Label", .string label),
      (key, "IsSecret", .boolean isSecret), (key, "ShouldAsk", .boolean shouldAsk)]

inductive Output where
  | nothing
  | keyfile (keyfile : KeyFile)
  | secrets (apiKey : Option String)
  deriving DecidableEq, Repr

structure Outcome where
  shown : Option PasswordDialog
  stdout : Output
  deriving DecidableEq, Repr

def promptFor (vpnName : String) : String :=
  "Your AirVPN API key is needed for the VPN connection “" ++ vpnName ++
    "”. You can find it at " ++ apiSettingsUrl ++ "."

def hasFlag (flags flag : Nat) : Bool := flags &&& flag ≠ 0

def savedKey (env : Env) (vpnUuid : String) (inApiKey : Option String) (flags : Nat) :
    Option String :=
  if hasFlag flags flagNotSaved || hasFlag flags flagNotRequired then none
  else
    match inApiKey with
    | some apiKey => some apiKey
    | none => keyringLookupSecret env.keyring vpnUuid keyApiKey

/-- `get_secrets`, which always succeeds, and the printing of what it has returned. -/
def getSecrets (env : Env) (o : Options) (vpnUuid vpnName : String) (inApiKey : Option String)
    (flags : Nat) : Outcome :=
  let pw := savedKey env vpnUuid inApiKey flags
  if hasFlag flags flagNotRequired then
    ⟨none, if o.externalUiMode then .nothing else .secrets none⟩
  else if o.externalUiMode then
    ⟨none, .keyfile <| keyfileAddEntryInfo keyApiKey (orEmpty pw) "API key" true
      o.allowInteraction
      [(uiKeyfileGroup, "Version", .integer 2),
        (uiKeyfileGroup, "Description", .string (promptFor vpnName)),
        (uiKeyfileGroup, "Title", .string "Authenticate VPN")]⟩
  else if !o.allowInteraction || (!o.retry && pw.isSome && !hasFlag flags flagNotSaved) then
    -- If interaction isn't allowed, just return the existing secret.
    ⟨none, .secrets pw⟩
  else
    let dialog : PasswordDialog :=
      { title := "Authenticate VPN"
        message := promptFor vpnName
        passwordLabel := "API _key:"
        password := if hasFlag flags flagNotSaved then none else pw }
    ⟨some dialog, .secrets (env.answer dialog).join⟩

/-- `main` up to `wait_for_quit`: the message of the errors that end it with 1, or what
has been done. -/
def main (env : Env) (o : Options) : Except String Outcome :=
  match o.vpnUuid, o.vpnService, o.vpnName with
  | some vpnUuid, some vpnService, some vpnName =>
      if vpnService ≠ dbusServiceAirvpn then
        .error ("This dialog only works with the '" ++ dbusServiceAirvpn ++ "' service\n")
      else
        match env.details with
        | none =>
            .error ("Failed to read '" ++ vpnName ++ "' (" ++ vpnUuid ++
              ") data and secrets from stdin.\n")
        | some (data, secrets) =>
            .ok (getSecrets env o vpnUuid vpnName (secrets.lookup keyApiKey)
              (env.secretFlags data))
  | _, _, _ => .error "A connection UUID, name, and VPN plugin service name are required.\n"

/-! ## Waiting to quit -/

inductive ReadResult where
  | byte (c : Char)
  | nothing
  | failed
  deriving DecidableEq, Repr

/-- A turn of the loop: what is read, and the time at its end. -/
structure Turn where
  read : ReadResult
  now : Int
  deriving DecidableEq, Repr

/-- The loop of `wait_for_quit` with what has been read so far; without a result it goes
on. -/
def waitForQuitLoop (start : Int) : List Char → List Turn → Option (List Char)
  | _, [] => none
  | str, turn :: turns =>
      match turn.read with
      | .failed => some str
      | .nothing => if turn.now < start + 20 then waitForQuitLoop start str turns else some str
      | .byte c =>
          if strstr (cString (str ++ [c])) "QUIT".toList || 10 < (str ++ [c]).length then
            some (str ++ [c])
          else if turn.now < start + 20 then waitForQuitLoop start (str ++ [c]) turns
          else some (str ++ [c])

def waitForQuit (start : Int) (turns : List Turn) : Option (List Char) :=
  waitForQuitLoop start [] turns

end AirVpn.AuthDialog
