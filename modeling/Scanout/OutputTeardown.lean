import Scanout.OutputFrames

/-!
# Tearing outputs down

Tearing an output down waits for its outstanding page flip, puts the configuration found
before its mode was set back, and gives surface and CRTC up. When the device itself goes,
outputs whose flip does not complete are released all the same.
-/

namespace Scanout
namespace Backend

variable {W : World}

/-- Puts the configuration found before back, if it had a mode, and switches off the claimed
CRTC unless it is the one that was put back. Refusals of the kernel are accepted. -/
def restoreCrtc {m : Type → Type} [Monad m] [Conversation m] (connector : ConnectorHandle)
    (claimed : Option CrtcHandle) (saved : Option CrtcInfo) : m Unit := do
  let restored ← match saved.filter (·.mode.isSome) with
    | none => pure none
    | some saved =>
      match ← kernel (.setCrtc (saved.restoring connector)) with
      | .ok () => pure (some saved.handle)
      | .error _ => pure none
  match claimed with
  | none => return
  | some crtc =>
    unless restored == some crtc do discard (kernel (.setCrtc (.switchOff crtc)))

/-- Waits until the flip of an output is no longer pending, passing on whatever completes
meanwhile. Gives up when the clock has reached the deadline, or when the rounds run out. -/
def drainFlip (id : OutputId) (deadline : Duration) :
    Nat → ExceptT BackendError (BackendM W) Unit
  | 0 => do
    let b ← get
    if (b.output? id).any (·.flipPending) then throw (.flipDrainStalled id)
  | rounds + 1 => do
    let b ← get
    if (b.output? id).any (·.flipPending) then
      let time ← now
      if deadline ≤ time then throw (.flipDrainTimeout id b.flipDrainTimeout)
      let readable ← orFail .kernel (kernel (.wait (deadline - time)))
      if readable then discard dispatchCompletions
      drainFlip id deadline rounds

/-- Frees everything that setting a mode acquired, without waiting for page flips. -/
def releaseOutput (id : OutputId) : BackendM W Unit := do
  let b ← get
  match b.output? id with
  | none => return
  | some output =>
    match output.surface with
    | none => return
    | some surface =>
      updateOutput id fun o => { o with surface := none }
      restoreCrtc output.connector output.crtc output.savedCrtc
      BackendM.inContext (RenderContext.destroySurface surface.surface)
      releaseClaims id
      updateOutput id fun o =>
        { o.resetModeset with
          state := if o.state = .connected then .disconnected else o.state }

/-- Tears an output down once its flip has completed. An output without a surface has nothing
to tear down. If the flip does not complete in time, the output keeps everything. The deadline is
the sum of a reading of the clock and a length, which exists for every length (see `Duration`). -/
def teardownOutput (id : OutputId) : ExceptT BackendError (BackendM W) Unit := do
  let output ← requireOutput id
  if output.surface.isNone then return
  ExceptT.lift (updateOutput id fun o => { o with cleaningUp := true })
  let b ← get
  let start ← now
  drainFlip id (start + b.flipDrainTimeout) W.patience
  ExceptT.lift (releaseOutput id)

def forceTeardown (id : OutputId) : BackendM W Unit := do
  match ← (teardownOutput id).run with
  | .ok () => return
  | .error _ => releaseOutput id

/-- Tears all outputs down, in the order of their slots. -/
def releaseAllOutputs : BackendM W Unit := do
  let b ← get
  (List.range b.outputs.length).forM fun slot => forceTeardown ⟨slot⟩

/-- Ends the use of a device: all outputs go, and then the rendering context. -/
def shutDown (b : Backend W) : Backend W :=
  (releaseAllOutputs *> BackendM.inContext RenderContext.teardown : BackendM W Unit) b |>.2

end Backend
end Scanout
