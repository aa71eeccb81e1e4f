import Scanout.Backend

/-!
# Presenting frames

A frame is begun by making the output's surface current and ended by a page flip to the
buffer that was drawn. The kernel reports completed flips by their CRTC; the claims tell
whose flip it was, and that output may draw again.
-/

namespace Scanout
namespace Backend

variable {W : World}

def beginFrame (id : OutputId) : ExceptT BackendError (BackendM W) Unit := do
  let output ← requireOutput id
  let some surface := output.surface | throw (.notConnected id)
  render .render (RenderContext.makeCurrent surface.surface)

/-- Performs `act` on the front buffer of a surface, which is handed back afterwards in any
case. The registration stays with the buffer. -/
def withFrontBuffer {ε α : Type} (cause : RenderError → ε) (surface : SurfaceId)
    (act : BufferSlot → ExceptT ε (BackendM W) α) : ExceptT ε (BackendM W) α := do
  let buffer ← render cause (RenderContext.lockFrontBuffer surface)
  ExceptT.mk do
    let result ← (act buffer).run
    BackendM.inContext (RenderContext.releaseBuffer buffer)
    return result

/-- Presents what was drawn since the frame was begun. The kernel refuses a second flip while
one is outstanding. -/
def endFrame (id : OutputId) : ExceptT BackendError (BackendM W) Unit := do
  let output ← requireOutput id
  let some crtc := output.crtc | throw (.notConnected id)
  let some surface := output.surface | throw (.notConnected id)
  render .render (RenderContext.swapBuffers surface.surface)
  let framebuffer ← withFrontBuffer .render surface.surface fun buffer => do
    let framebuffer ← render .render (RenderContext.scanoutId buffer)
    orFail .kernel (kernel (.pageFlip crtc framebuffer))
    return framebuffer
  ExceptT.lift <| updateOutput id fun o =>
    { o with
      surface := o.surface.map fun s => { s with lastFramebuffer := some framebuffer }
      flipPending := true }

/-- Passes one completion on to the output that owns its CRTC, and tells whether there is one.
An output that is being torn down is not asked for another frame. -/
def complete (completion : FlipCompletion) : BackendM W Bool := do
  let b ← get
  match b.claims.owner completion.crtc with
  | none => return false
  | some id =>
    match b.output? id with
    | none => return false
    | some output =>
      updateOutput id fun o => { o with flipPending := false }
      unless output.cleaningUp do emit (.renderReady id)
      return true

/-- Passes completions on and counts those that belonged to an output. -/
def completeAll : List FlipCompletion → BackendM W Nat
  | [] => return 0
  | completion :: others => do
    let handled ← complete completion
    let count ← completeAll others
    return (if handled then 1 else 0) + count

def dispatchCompletions : ExceptT BackendError (BackendM W) Nat := do
  let completions ← orFail .kernel (kernel .receive)
  ExceptT.lift (completeAll completions)

end Backend
end Scanout
