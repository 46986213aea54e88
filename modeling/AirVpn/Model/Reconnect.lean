import AirVpn.Lib.Logs
import AirVpn.Lib.Machine
import AirVpn.Model.Editor

/-! # The reconnect button of the editor

`nm-airvpn-editor.c`: the button "Apply & Reconnect", its `ReconnectCtx`, the chain of
completion callbacks and the poll. An event is one dispatch of the main loop; it comes
with whatever libnm answers in it: how an operation has ended, which connections there
are, and which of them are active. A context is freed by taking it out of the list, and
what would use it afterwards is recorded as dangling.
-/

namespace AirVpn.Reconnect

open Editor (Dialog updateConnection)

/-! ## The data -/

inductive Callback where
  | clientReady
  | commitDone
  | deactivateDone
  | activateDone
  deriving DecidableEq, Repr

/-- The UUIDs of the active connections, in the order of libnm. -/
abbrev Actives := List (Option String)

/-- The VPN settings of the connections that a client knows, by UUID. -/
abbrev NMClient := List (String × NMSettingVpn)

/-- Without `self`, which is the one editor here; `pollId` is 0 for no source. -/
structure ReconnectCtx where
  client : Option NMClient
  remote : Option NMSettingVpn
  pollId : Nat
  pollCount : Nat

structure Button where
  sensitive : Bool
  label : String
  useUnderline : Bool
  tooltip : String
  deriving DecidableEq, Repr

inductive Act where
  | created
  | called (callback : Callback)
  | polled (actives : Actives)
  | committed
  | activationRequested
  | finished (errorMsg : Option String)
  | dangling
  deriving DecidableEq, Repr

/-- The private data of the editor, its button as long as the builder is there, whether
others hold a reference to it, the contexts, and what the main loop has registered:
callbacks of operations under way and sources of the poll, each with its context. A
cancellable is there together with whether it is cancelled; nothing reads the log. -/
structure State where
  uuid : Option String
  reconnectCancellable : Option Bool
  reconnectBusy : Bool
  button : Option Button
  held : Bool
  disposed : Bool
  ctxs : List (Nat × ReconnectCtx)
  pending : List (Callback × Nat)
  sources : List (Nat × Nat)
  nextCtx : Nat
  nextSource : Nat
  log : List (Nat × Act)

def initialButton : Button where
  sensitive := true
  label := "_Reconnect"
  useUnderline := true
  tooltip := "Save the selected server and restart the VPN connection if it is active"

def init (uuid : Option String) : State where
  uuid := uuid
  reconnectCancellable := none
  reconnectBusy := false
  button := some initialButton
  held := true
  disposed := false
  ctxs := []
  pending := []
  sources := []
  nextCtx := 0
  nextSource := 1
  log := []

def State.record (s : State) (id : Nat) (act : Act) : State :=
  { s with log := s.log ++ [(id, act)] }

def State.setCtx (s : State) (id : Nat) (ctx : ReconnectCtx) : State :=
  { s with ctxs := s.ctxs.map fun entry => if entry.1 = id then (id, ctx) else entry }

def State.start (s : State) (callback : Callback) (id : Nat) : State :=
  { s with pending := s.pending ++ [(callback, id)] }

/-! ## The editor's references -/

/-- `dispose`. An operation that is cancelled completes like any other. -/
def dispose (s : State) : State :=
  { s with
    reconnectCancellable := s.reconnectCancellable.map fun _ => true
    uuid := none
    button := none
    disposed := true }

/-- `g_object_unref`: each context holds a reference, too. -/
def State.unref (s : State) : State :=
  if s.held || !s.ctxs.isEmpty then s else dispose s

/-! ## The context -/

def needsSaving : String := "Save the connection once before using Apply & Reconnect."

def finishedButton (errorMsg : Option String) (button : Button) : Button :=
  { sensitive := true
    label := if errorMsg.isSome then "Failed — try again" else "Appl_y & Reconnect"
    useUnderline := true
    tooltip := errorMsg.getD button.tooltip }

def clearSource (sources : List (Nat × Nat)) (pollId : Nat) : List (Nat × Nat) :=
  if pollId = 0 then sources else sources.filter (·.1 ≠ pollId)

def reconnectCtxFinish (errorMsg : Option String) (s : State) (id : Nat) (ctx : ReconnectCtx) :
    State :=
  State.unref
    { s.record id (.finished errorMsg) with
      button := s.button.map (finishedButton errorMsg)
      reconnectBusy := false
      reconnectCancellable := none
      sources := clearSource s.sources ctx.pollId
      ctxs := s.ctxs.filter (·.1 ≠ id) }

def reconnectSetLabel (s : State) (label : String) : State :=
  { s with button := s.button.map fun button => { button with label := label } }

def reconnectFindActive (s : State) (actives : Actives) : Option (Option String) :=
  actives.find? (· = s.uuid)

/-- The message of an error, or none if the operation was cancelled. -/
def failure (error : GError) : Option String :=
  if error.code = .ioCancelled then none else some error.message

def reconnectActivateDone (result : Except GError Unit) (s : State) (id : Nat)
    (ctx : ReconnectCtx) : State :=
  match result with
  | .error error => reconnectCtxFinish (failure error) s id ctx
  | .ok () => reconnectCtxFinish none s id ctx

/-- `reconnect_poll_deactivated`, and whether the source stays. -/
def reconnectPollDeactivated (actives : Actives) (s : State) (id : Nat) (ctx : ReconnectCtx) :
    State × Bool :=
  match reconnectFindActive s actives with
  | some _ =>
      let ctx := { ctx with pollCount := ctx.pollCount + 1 }
      if 20 < ctx.pollCount then
        let ctx := { ctx with pollId := 0 }
        (reconnectCtxFinish (some "The connection did not deactivate in time.") s id ctx, false)
      else (s.setCtx id ctx, true)
  | none =>
      let s := reconnectSetLabel (s.setCtx id { ctx with pollId := 0 }) "Reconnecting…"
      ((s.record id .activationRequested).start .activateDone id, false)

def reconnectDeactivateDone (result : Except GError Unit) (s : State) (id : Nat)
    (ctx : ReconnectCtx) : State :=
  match result with
  | .error error => reconnectCtxFinish (failure error) s id ctx
  | .ok () =>
      -- Wait for the active connection to disappear before re-activating.
      { s.setCtx id { ctx with pollCount := 0, pollId := s.nextSource } with
        sources := s.sources ++ [(s.nextSource, id)]
        nextSource := s.nextSource + 1 }

def reconnectCommitDone (result : Except GError Unit) (actives : Actives) (s : State) (id : Nat)
    (ctx : ReconnectCtx) : State :=
  match result with
  | .error error => reconnectCtxFinish (failure error) s id ctx
  | .ok () =>
      let s := s.record id .committed
      match reconnectFindActive s actives with
      | none => reconnectCtxFinish none s id ctx
      | some _ => (reconnectSetLabel s "Disconnecting…").start .deactivateDone id

def reconnectClientReady (result : Except GError NMClient) (dialog : Dialog) (s : State)
    (id : Nat) (ctx : ReconnectCtx) : State :=
  match result with
  | .error error => reconnectCtxFinish (failure error) s id ctx
  | .ok client =>
      let ctx := { ctx with client := some client }
      match s.uuid.bind fun uuid => client.lookup uuid with
      | none => reconnectCtxFinish (some needsSaving) s id ctx
      | some remote =>
          let ctx := { ctx with remote := some remote }
          match updateConnection dialog with
          | .error error => reconnectCtxFinish (some error.message) s id ctx
          | .ok setting =>
              let s := s.setCtx id { ctx with remote := some setting }
              (reconnectSetLabel s "Saving…").start .commitDone id

def reconnectButtonClicked (s : State) : State :=
  if s.reconnectBusy then s
  else
    match nonEmpty s.uuid with
    | none =>
        { s with button := s.button.map fun button => { button with tooltip := needsSaving } }
    | some _ =>
        State.start
          { s.record s.nextCtx .created with
            reconnectBusy := true
            reconnectCancellable := some false
            button := s.button.map fun button =>
              { button with sensitive := false, label := "Connecting to NetworkManager…" }
            ctxs := s.ctxs ++ [(s.nextCtx, ⟨none, none, 0, 0⟩)]
            nextCtx := s.nextCtx + 1 }
          .clientReady s.nextCtx

/-! ## The main loop -/

/-- The end of an operation, with what its callback looks at. -/
inductive Completion where
  | clientReady (result : Except GError NMClient) (dialog : Dialog)
  | commitDone (result : Except GError Unit) (actives : Actives)
  | deactivateDone (result : Except GError Unit)
  | activateDone (result : Except GError Unit)

def Completion.callback : Completion → Callback
  | .clientReady _ _ => .clientReady
  | .commitDone _ _ => .commitDone
  | .deactivateDone _ => .deactivateDone
  | .activateDone _ => .activateDone

def Completion.run : Completion → State → Nat → ReconnectCtx → State
  | .clientReady result dialog => reconnectClientReady result dialog
  | .commitDone result actives => reconnectCommitDone result actives
  | .deactivateDone result => reconnectDeactivateDone result
  | .activateDone result => reconnectActivateDone result

inductive Event where
  | clicked
  | completes (completion : Completion) (id : Nat)
  | ticks (source : Nat) (actives : Actives)
  | released

def dispatch (completion : Completion) (s : State) (id : Nat) : State :=
  let s := { s with pending := s.pending.erase (completion.callback, id) }
  match s.ctxs.lookup id with
  | none => s.record id .dangling
  | some ctx => completion.run (s.record id (.called completion.callback)) id ctx

/-- A source is removed once its function has returned FALSE. -/
def tick (source : Nat) (actives : Actives) (s : State) (id : Nat) : State :=
  match s.ctxs.lookup id with
  | none => s.record id .dangling
  | some ctx =>
      let (s, stays) := reconnectPollDeactivated actives (s.record id (.polled actives)) id ctx
      if stays then s else { s with sources := s.sources.filter (·.1 ≠ source) }

/-- One dispatch of the main loop; an editor that has been disposed of gets none. -/
def step (s : State) (event : Event) : Option State :=
  if s.disposed then none
  else
    match event with
    | .clicked => some (reconnectButtonClicked s)
    | .completes completion id =>
        if (completion.callback, id) ∈ s.pending then some (dispatch completion s id) else none
    | .ticks source actives => (s.sources.lookup source).map (tick source actives s)
    | .released => if s.held then some (State.unref { s with held := false }) else none

end AirVpn.Reconnect
