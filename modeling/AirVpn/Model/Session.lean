import Mathlib.Logic.Function.Basic
import AirVpn.Model.Editor

/-! # The dialog while it is open

`nm-airvpn-editor.c`: what the user enters into the widgets, the two buttons that fetch a
list in a thread, their callbacks, and `dispose`. An event is one dispatch of the main loop;
the end of a task comes with what its thread has got from the network. What a callback
does to an editor that has been disposed of is recorded as dangling.
-/

namespace AirVpn.ServerList

def airvpnStatusUrl : String := "https://airvpn.org/api/status/"

def nmAirvpnServerListFetch (network : Network) : GReturned (List Char) :=
  httpGet (network airvpnStatusUrl.toList "")

end AirVpn.ServerList

namespace AirVpn.Editor

open ServerList (nmAirvpnServerListFetch nmAirvpnDeviceListFetch)

/-! ## The data -/

inductive Fetcher where
  | refresh
  | devices
  deriving DecidableEq, Repr

/-- A task under way. It is named like its cancellable. -/
structure GTask where
  id : Nat
  button : Fetcher
  taskData : String
  cancelled : Bool
  deriving DecidableEq, Repr

/-- A button, and the cancellable that the editor keeps for it. -/
structure FetchButton where
  cancellable : Option Nat
  sensitive : Bool
  tooltip : String

@[ext] structure Session where
  dialog : Dialog
  deviceRows : List String
  buttons : Fetcher → FetchButton
  spinsSensitive : Bool
  killSwitchSensitive : Bool
  allowLanSensitive : Bool
  tasks : List GTask
  nextTask : Nat
  disposed : Bool
  dangling : Bool

/-! ## What the user enters -/

inductive Edit where
  | apiKeyEntry (text : String)
  | secretFlags (flags : SecretFlags)
  | serverCombo (id : String)
  | deviceEntry (text : String)
  | protocolCombo (id : String)
  | portCombo (id : String)
  | keepaliveCheck (active : Bool)
  | keepaliveIntervalSpin (value : Int)
  | keepaliveRestartSpin (value : Int)
  | killSwitchCheck (active : Bool)
  | allowLanCheck (active : Bool)
  | directivesText (text : String)

namespace Edit

def enter (dialog : Dialog) : Edit → Dialog
  | apiKeyEntry text => { dialog with apiKeyEntry := text }
  | secretFlags flags => { dialog with secretFlags := flags }
  | serverCombo id =>
      { dialog with serverCombo := { dialog.serverCombo with activeId := some id } }
  | deviceEntry text => { dialog with deviceEntry := text }
  | protocolCombo id =>
      { dialog with protocolCombo := { dialog.protocolCombo with activeId := some id } }
  | portCombo id => { dialog with portCombo := { dialog.portCombo with activeId := some id } }
  | keepaliveCheck active => { dialog with keepaliveCheck := active }
  | keepaliveIntervalSpin value => { dialog with keepaliveIntervalSpin := spinValue value }
  | keepaliveRestartSpin value => { dialog with keepaliveRestartSpin := spinValue value }
  | killSwitchCheck active => { dialog with killSwitchCheck := active }
  | allowLanCheck active => { dialog with allowLanCheck := active }
  | directivesText text => { dialog with directivesText := text }

/-- A row can be chosen if it is there, and a widget changed if it is sensitive. -/
def possible (s : Session) : Edit → Bool
  | serverCombo id => s.dialog.serverCombo.ids.contains id
  | protocolCombo id => s.dialog.protocolCombo.ids.contains id
  | portCombo id => s.dialog.portCombo.ids.contains id
  | keepaliveIntervalSpin _ | keepaliveRestartSpin _ => s.spinsSensitive
  | killSwitchCheck _ => s.killSwitchSensitive
  | allowLanCheck _ => s.allowLanSensitive
  | _ => true

end Edit

namespace Session

def keepaliveToggledCb (s : Session) : Session :=
  { s with spinsSensitive := s.dialog.keepaliveCheck }

def killSwitchToggledCb (s : Session) : Session :=
  { s with allowLanSensitive := s.dialog.killSwitchCheck }

def edit (e : Edit) (s : Session) : Session :=
  let s := { s with dialog := e.enter s.dialog }
  match e with
  | .keepaliveCheck _ => keepaliveToggledCb s
  | .killSwitchCheck _ => killSwitchToggledCb s
  | _ => s

/-! ## The buttons -/

def setButton (which : Fetcher) (button : FetchButton) (s : Session) : Session :=
  { s with buttons := Function.update s.buttons which button }

/-- What both clicks end with. -/
def startTask (which : Fetcher) (taskData : String) (s : Session) : Session :=
  { s.setButton which
      { s.buttons which with cancellable := some s.nextTask, sensitive := false } with
    tasks := s.tasks ++ [⟨s.nextTask, which, taskData, false⟩]
    nextTask := s.nextTask + 1 }

def refreshButtonClickedCb (s : Session) : Session :=
  if (s.buttons .refresh).cancellable.isSome then s else startTask .refresh "" s

def devicesButtonClickedCb (s : Session) : Session :=
  if (s.buttons .devices).cancellable.isSome then s
  else
    match nonEmpty (some s.dialog.apiKeyEntry) with
    | none =>
        s.setButton .devices
          { s.buttons .devices with tooltip := "Enter your API key first (see the link above)." }
    | some apiKey => startTask .devices apiKey s

/-! ## The threads -/

/-- `g_task_return_pointer` or `g_task_return_error`; the latter does nothing without an
error. -/
def taskReturn {α : Type} (r : GReturned α) : Option (Except GError α) :=
  match r.value with
  | some value => some (.ok value)
  | none => r.error.map .error

def refreshThreadCb (network : Network) : Option (Except GError (List Char)) :=
  taskReturn (nmAirvpnServerListFetch network)

def devicesThreadCb (load : List Char → Except GError (Option JsonNode)) (taskData : String)
    (network : Network) : Option (Except GError (List String)) :=
  taskReturn (nmAirvpnDeviceListFetch load network taskData)

/-- `g_task_propagate_pointer`, which looks at the cancellable first. -/
def gTaskPropagatePointer {α : Type} (task : GTask) (result : Except GError α) :
    Except GError α :=
  if task.cancelled then .error ⟨.ioCancelled, "Operation was cancelled"⟩ else result

/-! ## Their ends -/

/-- What both ends begin with, unless the task was cancelled. -/
def enable (which : Fetcher) (s : Session) : Session :=
  { s.setButton which { s.buttons which with cancellable := none, sensitive := true } with
    dangling := s.dangling || s.disposed }

def refreshDoneCb (load : List Char → Except GError (Option JsonNode))
    (collate : List String → List String) (result : Except GError (List Char)) (s : Session) :
    Session :=
  match result with
  | .error error => if error.code = .ioCancelled then s else enable .refresh s
  | .ok json =>
      { enable .refresh s with
        dialog := Editor.refillServerCombo load collate (some json) s.dialog }

def devicesDoneCb (result : Except GError (List String)) (s : Session) : Session :=
  match result with
  | .error error =>
      if error.code = .ioCancelled then s
      else
        let s := enable .devices s
        s.setButton .devices { s.buttons .devices with tooltip := error.message }
  | .ok names =>
      -- Clears only the list; the entry text is preserved.
      { enable .devices s with deviceRows := names }

/-! ## The editor -/

def cancelTask (cancellable : Option Nat) (tasks : List GTask) : List GTask :=
  tasks.map fun task => if cancellable = some task.id then { task with cancelled := true } else task

/-- `dispose`, but for the button that reconnects. -/
def dispose (s : Session) : Session :=
  { s with
    buttons := fun which => { s.buttons which with cancellable := none }
    tasks := cancelTask (s.buttons .devices).cancellable
      (cancelTask (s.buttons .refresh).cancellable s.tasks)
    disposed := true }

def initialButtons : Fetcher → FetchButton
  | .refresh => ⟨none, true, "Fetch the current server list and load from airvpn.org"⟩
  | .devices =>
      ⟨none, true, "List the devices of your AirVPN account (requires the API key above)"⟩

/-- `nm_airvpn_editor_new`: the dialog is loaded and refreshed at once. -/
def nmAirvpnEditorNew (nftFound : Bool) (secretFlags : SecretFlags) (sVpn : Option NMSettingVpn) :
    Session :=
  killSwitchToggledCb <| keepaliveToggledCb <| refreshButtonClickedCb
    { dialog := initEditorPlugin nftFound secretFlags sVpn
      deviceRows := []
      buttons := initialButtons
      spinsSensitive := true
      killSwitchSensitive := nftFound
      allowLanSensitive := false
      tasks := []
      nextTask := 0
      disposed := false
      dangling := false }

inductive Event where
  | edits (edit : Edit)
  | clicks (which : Fetcher)
  | completes (id : Nat) (network : Network)
  | disposes

def click (s : Session) : Fetcher → Session
  | .refresh => refreshButtonClickedCb s
  | .devices => devicesButtonClickedCb s

def complete (load : List Char → Except GError (Option JsonNode))
    (collate : List String → List String) (task : GTask) (network : Network) (s : Session) :
    Option Session :=
  match task.button with
  | .refresh =>
      (refreshThreadCb network).map fun result =>
        refreshDoneCb load collate (gTaskPropagatePointer task result) s
  | .devices =>
      (devicesThreadCb load task.taskData network).map fun result =>
        devicesDoneCb (gTaskPropagatePointer task result) s

/-- One dispatch of the main loop. The widgets are gone with the editor, its tasks are
not. -/
def step (load : List Char → Except GError (Option JsonNode))
    (collate : List String → List String) (s : Session) : Event → Option Session
  | .edits e => if !s.disposed && e.possible s then some (s.edit e) else none
  | .clicks which =>
      if !s.disposed && (s.buttons which).sensitive then some (s.click which) else none
  | .completes id network =>
      (s.tasks.find? (·.id = id)).bind fun task =>
        complete load collate task network { s with tasks := s.tasks.filter (·.id ≠ id) }
  | .disposes => some (dispose s)

end Session

end AirVpn.Editor
