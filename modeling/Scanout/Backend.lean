import Scanout.CrtcClaims
import Scanout.Output
import Scanout.RenderContext

/-!
# The outputs of a device

A backend holds the output records of one device, the table of CRTC claims, the rendering
context they share, and the queue its events go to. This module has the state and the small
steps on it; scanning, setting modes, presenting frames and tearing down are built from
them elsewhere.
-/

namespace Scanout

structure Backend (W : World) extends RenderContext W where
  outputs : List Output
  claims : CrtcClaims
  queue : EventQueue
  /-- How long teardown waits for a page flip to complete. -/
  flipDrainTimeout : Duration

abbrev BackendM (W : World) := StateM (Backend W)

/-- What is done with the rendering context is done with the backend that holds it. -/
def BackendM.inContext {W : World} {α : Type} (act : RenderM W α) : BackendM W α := fun b =>
  let (a, c) := act b.toRenderContext
  (a, { b with toRenderContext := c })

instance {W : World} : Conversation (BackendM W) where
  call c := BackendM.inContext (call c)
  note e := BackendM.inContext (note e)

namespace Backend

variable {W : World}

/-- How long teardown waits for a page flip if nothing else is set. -/
def defaultFlipDrainTimeout : Duration := .ofMilliseconds 1000

def new (context : RenderContext W) : Backend W :=
  { toRenderContext := context, outputs := [], claims := .empty, queue := .empty,
    flipDrainTimeout := defaultFlipDrainTimeout }

/-- Sets up a rendering context in a session and a backend on it. -/
def setUp (s : Session W) : Except (BackendError × Session W) (Backend W) :=
  match RenderContext.setUp s with
  | .ok context => .ok (new context)
  | .error (cause, s) => .error (.rendererInit cause, s)

def output? (b : Backend W) (id : OutputId) : Option Output := b.outputs[id.slot]?

def findOutput (b : Backend W) (name : String) : Option OutputId :=
  (b.outputs.findIdx? (·.name == name)).map fun slot => ⟨slot⟩

def updateOutput (id : OutputId) (change : Output → Output) : BackendM W Unit :=
  modify fun b => { b with outputs := b.outputs.modify id.slot change }

def emit (e : OutputEvent) : BackendM W Unit := do
  note (.event e)
  modify fun b => { b with queue := b.queue.push e }

def takeEvents (b : Backend W) : List OutputEvent × Backend W :=
  (b.queue.events, { b with queue := { b.queue with events := [] } })

def releaseClaims (id : OutputId) : BackendM W Unit := do
  note (.released id)
  modify fun b => { b with claims := b.claims.release id }

/-- Performs a drawing operation and takes its failure as a failure of one's own. -/
def render {ε α : Type} (cause : RenderError → ε) (act : ExceptT RenderError (RenderM W) α) :
    ExceptT ε (BackendM W) α :=
  orFail cause (BackendM.inContext act.run)

def requireOutput (id : OutputId) : ExceptT BackendError (BackendM W) Output := do
  match (← get).output? id with
  | some o => return o
  | none => throw (.unknownOutput id)

end Backend
end Scanout
