import Scanout.OutputModeset
import Scanout.OutputScan

/-!
# Histories of a backend

Whatever is done with the outputs of a device is a sequence of actions. A history of actions
may end with the backend being shut down; then the session is left, and the events that
nobody has taken yet.
-/

namespace Scanout

/-- What can be asked of a backend. -/
inductive BackendAction
  | scan
  | selectMode (id : OutputId) (request : String)
  | commitMode (id : OutputId) (request : ModeRequest)
  | beginFrame (id : OutputId)
  | endFrame (id : OutputId)
  | teardownOutput (id : OutputId)
  | dispatch
  | clear (width height : UInt32) (colour : Colour)
  | setDrainTimeout (timeout : Duration)
  | teardownRenderer
  /-- Puts an event into the queue that did not come from an output. -/
  | pushEvent (e : OutputEvent)

/-- What an action answers with if it succeeds: only dispatching counts something. -/
abbrev BackendAction.Answer : BackendAction → Type
  | dispatch => Nat
  | _ => Unit

namespace Backend

variable {W : World}

def perform : (a : BackendAction) → ExceptT BackendError (BackendM W) a.Answer
  | .scan => scan
  | .selectMode id request => selectAndCommitMode id request
  | .commitMode id request => commitMode id request
  | .beginFrame id => beginFrame id
  | .endFrame id => endFrame id
  | .teardownOutput id => teardownOutput id
  | .dispatch => dispatchCompletions
  | .clear width height colour =>
    ExceptT.lift (BackendM.inContext (RenderContext.clear width height colour))
  | .setDrainTimeout timeout =>
    ExceptT.lift (modify fun b => { b with flipDrainTimeout := timeout })
  | .teardownRenderer => ExceptT.lift (BackendM.inContext RenderContext.teardown)
  | .pushEvent e => ExceptT.lift (modify fun b => { b with queue := b.queue.push e })

/-- The backend after an action, whether it succeeded or not. -/
def after (b : Backend W) (a : BackendAction) : Backend W := ((perform a).run b).2

def run (b : Backend W) (actions : List BackendAction) : Backend W := actions.foldl after b

@[simp] theorem run_nil (b : Backend W) : b.run [] = b := rfl

@[simp] theorem run_cons (b : Backend W) (a : BackendAction) (actions : List BackendAction) :
    b.run (a :: actions) = (b.after a).run actions := rfl

theorem run_append (b : Backend W) (first second : List BackendAction) :
    b.run (first ++ second) = (b.run first).run second := List.foldl_append

end Backend

/-- A backend, or what is left of it once it was shut down. -/
inductive BackendLife (W : World)
  | live (backend : Backend W)
  | ended (session : Session W) (unread : List OutputEvent)

namespace BackendLife

variable {W : World}

def session : BackendLife W → Session W
  | live b => b.toSession
  | ended s _ => s

def perform (a : BackendAction) :
    BackendLife W → Option (Except BackendError a.Answer × BackendLife W)
  | live b =>
    let (r, b) := (Backend.perform a).run b
    some (r, live b)
  | ended _ _ => none

def shutDown : BackendLife W → BackendLife W
  | live b => ended b.shutDown.toSession b.shutDown.queue.events
  | ended s unread => ended s unread

def takeEvents : BackendLife W → List OutputEvent × BackendLife W
  | live b =>
    let (events, b) := b.takeEvents
    (events, live b)
  | ended s unread => (unread, ended s [])

/-- Changes the world by other means than the backend's. -/
def setWorld (w : W.State) : BackendLife W → BackendLife W
  | live b => live { b with world := w }
  | ended s unread => ended { s with world := w } unread

end BackendLife
end Scanout
