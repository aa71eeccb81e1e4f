import Scanout.CrtcAllocation
import Scanout.OutputTeardown

/-!
# Setting modes

Setting the mode of an output reads its connector, chooses a mode, claims a CRTC, creates
a surface and shows a black first frame with a page flip. If a step fails, what the steps
before acquired is given up again, the output counts as disconnected, and its owner is told
to tear it down.
-/

namespace Scanout
namespace Backend

variable {W : World}

/-- The configuration that drives a connector now, through its current encoder. -/
def activeCrtc {m : Type → Type} [Monad m] [Conversation m] (connector : ConnectorInfo) :
    m (Option CrtcInfo) := do
  match connector.currentEncoder with
  | none => return none
  | some encoder =>
    match ← kernel (.encoder encoder) with
    | .error _ => return none
    | .ok info =>
      match info.crtc with
      | none => return none
      | some crtc => return (← kernel (.crtc crtc)).toOption

/-- Draws a black frame, commits the mode with it and schedules the first page flip. -/
def presentFirstFrame (surface : SurfaceId) (connector : ConnectorHandle) (crtc : CrtcHandle)
    (mode : DisplayMode) : ExceptT ModesetError (BackendM W) FramebufferId := do
  render .render (RenderContext.makeCurrent surface)
  ExceptT.lift (BackendM.inContext (RenderContext.clear mode.size.1 mode.size.2 .black))
  render .render (RenderContext.swapBuffers surface)
  withFrontBuffer .render surface fun buffer => do
    let framebuffer ← render .render (RenderContext.scanoutId buffer)
    orFail .kernel
      (kernel (.setCrtc ⟨crtc, some framebuffer, (0, 0), [connector], some mode⟩))
    orFail .kernel (kernel (.pageFlip crtc framebuffer))
    return framebuffer

/-- Creates the surface of an output and shows its first frame, or leaves neither behind. -/
def initSurface (id : OutputId) (connector : ConnectorHandle) (crtc : CrtcHandle)
    (saved : Option CrtcInfo) (mode : DisplayMode) : ExceptT ModesetError (BackendM W) Unit := do
  let surface ← render .render (RenderContext.createSurface mode.size.1 mode.size.2)
  let giveUp : BackendM W Unit := do
    restoreCrtc connector (some crtc) saved
    BackendM.inContext (RenderContext.destroySurface surface)
  let framebuffer ← orRelease giveUp (presentFirstFrame surface connector crtc mode)
  ExceptT.lift <| updateOutput id fun o =>
    { o with
      surface := some ⟨surface, mode.size.1, mode.size.2, some framebuffer⟩
      flipPending := true }

def claimCrtc (id : OutputId) (connector : ConnectorInfo) (crtcs : List CrtcHandle) :
    ExceptT ModesetError (BackendM W) (EncoderHandle × CrtcHandle) :=
  orFail .allocation do
    let b ← get
    let (result, claims) ← allocateCrtc connector crtcs id b.claims
    modify fun b => { b with claims := claims }
    return result

def tryModeset (id : OutputId) (connector : ConnectorHandle) (request : ModeRequest) :
    ExceptT ModesetError (BackendM W) Unit := do
  let info ← orFail .kernel (kernel (.connector connector))
  unless info.isConnected do throw .linkInactive
  if info.modes.isEmpty then throw .noModes
  let saved ← activeCrtc info
  let mode ← orFail .mode (pure (resolveMode info.modes (saved.bind (·.mode)) request))
  let resources ← orFail .kernel (kernel .resources)
  let (encoder, crtc) ← claimCrtc id info resources.crtcs
  ExceptT.lift <| updateOutput id fun o =>
    { o with
      modes := info.modes, savedCrtc := saved, mode := some mode, encoder := some encoder
      crtc := some crtc, state := .connected }
  initSurface id connector crtc saved mode

/-- Takes note that setting a mode failed: claims and record are given up. -/
def failModeset (id : OutputId) : BackendM W Unit := do
  releaseClaims id
  updateOutput id fun o => { o.resetModeset with state := .disconnected }
  emit (.removed id)

/-- Sets the mode of an output. An output that has a surface is torn down first; if that
fails, it keeps its surface and CRTC and only counts as disconnected. -/
def commitMode (id : OutputId) (request : ModeRequest) :
    ExceptT BackendError (BackendM W) Unit := do
  let output ← requireOutput id
  if output.surface.isSome then
    let giveUp : BackendM W Unit := do
      updateOutput id fun o => { o with state := .disconnected }
      emit (.removed id)
    orRelease giveUp (teardownOutput id)
  orRelease (failModeset id)
    (orFail .modeset (tryModeset id output.connector request).run)

def selectAndCommitMode (id : OutputId) (request : String) :
    ExceptT BackendError (BackendM W) Unit := do
  discard (requireOutput id)
  match ModeRequest.parse request with
  | .ok request => commitMode id request
  | .error cause =>
    ExceptT.lift (failModeset id)
    throw (.modeset (.mode (.invalidRequest cause)))

end Backend
end Scanout
