import Scanout.Session
import Scanout.SwapChains

/-!
# The rendering context of a device

One allocation device, one display connection and one rendering context serve all outputs
of a device. They are acquired together: if one step fails, what was acquired before is
released again in reverse order. Surfaces are created and destroyed through the context,
and every buffer that is shown gets one registration with the kernel.
-/

namespace Scanout

/-- `XR24`: 32 bits per pixel, 8 bits per channel, no alpha. Every device scans it out. -/
def xrgb8888 : UInt32 := 0x34325258

def scanoutDepth : UInt32 := 24

def scanoutBpp : UInt32 := 32

structure ContextHandles where
  device : GpuDevice
  display : GpuDisplay
  config : GpuConfig
  context : GpuContext
  deriving DecidableEq, Inhabited

/-- A session with a device that can be drawn with. Without handles the context is released. -/
structure RenderContext (W : World) extends Session W where
  handles : Option ContextHandles
  chains : SwapChains

abbrev RenderM (W : World) := StateM (RenderContext W)

/-- What is done in the session is done with the context that holds it. -/
def RenderM.inSession {W : World} {α : Type} (act : SessionM W α) : RenderM W α := fun c =>
  let (a, s) := act c.toSession
  (a, { c with toSession := s })

instance {W : World} : Conversation (RenderM W) where
  call c := RenderM.inSession (call c)
  note e := RenderM.inSession (note e)

def chooseConfig (configs : List ConfigDescriptor) : Option GpuConfig :=
  (configs.find? (·.nativeVisual == some xrgb8888)).map (·.config)

/-- Performs `act`; if it fails, performs `release` before the failure is passed on. -/
def orRelease {m : Type → Type} [Monad m] {ε α : Type} (release : m Unit)
    (act : ExceptT ε m α) : ExceptT ε m α :=
  ExceptT.mk do
    match ← act.run with
    | .ok a => return .ok a
    | .error e =>
      release
      return .error e

namespace RenderContext

variable {W : World}

/-- Acquires device, display and context, or fails with everything released again. -/
def acquire : ExceptT RendererInitError (SessionM W) ContextHandles := do
  unless ← gpu .loadExtensions do throw .noDisplayExtension
  let device ← orFail .noDevice (gpu .createDevice)
  orRelease (gpu (.destroyDevice device)) do
    unless ← gpu .bindApi do throw .apiBind
    let some display ← gpu (.openDisplay device) | throw .noDisplay
    orRelease (gpu (.terminateDisplay display)) do
      let some config := chooseConfig ((← gpu (.configs display)).getD []) | throw .noConfig
      let some context ← gpu (.createContext display config) | throw .noContext
      return ⟨device, display, config, context⟩

def ofHandles (s : Session W) (handles : ContextHandles) : RenderContext W :=
  { toSession := s, handles := some handles, chains := .empty }

def setUp (s : Session W) : Except (RendererInitError × Session W) (RenderContext W) :=
  match acquire.run s with
  | (.ok handles, s) => .ok (ofHandles s handles)
  | (.error e, s) => .error (e, s)

def isInitialized (c : RenderContext W) : Bool := c.handles.isSome

/-- Releases context, display and device, in this order. A released context stays released. -/
def teardown : RenderM W Unit := do
  match (← get).handles with
  | none => return
  | some h =>
    modify fun c => { c with handles := none }
    discard (gpu (.makeCurrent h.display h.context none))
    gpu (.destroyContext h.display h.context)
    gpu (.terminateDisplay h.display)
    gpu (.destroyDevice h.device)

def requireHandles : ExceptT RenderError (RenderM W) ContextHandles := do
  match (← get).handles with
  | some h => return h
  | none => throw .contextReleased

/-- Removes scan-out registrations from the kernel, as far as it lets them go. -/
def removeFramebuffers (framebuffers : List FramebufferId) : RenderM W Unit :=
  framebuffers.forM fun fb => discard (kernel (.removeFramebuffer fb))

/-- Changes the table of swap chains and removes the registrations that end by it. -/
def updateChains (change : SwapChains → List FramebufferId × SwapChains) : RenderM W Unit := do
  let c ← get
  let (ended, chains) := change c.chains
  set { c with chains := chains }
  removeFramebuffers ended

def createSurface (width height : UInt32) : ExceptT RenderError (RenderM W) SurfaceId := do
  let h ← requireHandles
  let surface := (← get).chains.nextSurface
  orFail id (gpu (.createSurface surface h.device h.display h.config width height))
  modify fun c => { c with chains := c.chains.create }
  return surface

/-- Lets a surface go without telling the platform. -/
def abandonSurface (surface : SurfaceId) : RenderM W Unit := updateChains (·.abandon surface)

/-- Destroys a surface, which may still be current and is unbound first. Once the context is
released the platform knows no surfaces any more, and the surface is just let go. -/
def destroySurface (surface : SurfaceId) : RenderM W Unit := do
  match (← get).handles with
  | none => abandonSurface surface
  | some h =>
    discard (gpu (.makeCurrent h.display h.context none))
    gpu (.destroySurface h.display surface)
    updateChains (·.destroy surface)

def makeCurrent (surface : SurfaceId) : ExceptT RenderError (RenderM W) Unit := do
  let h ← requireHandles
  orFail id (gpu (.makeCurrent h.display h.context (some surface)))

def clear (width height : UInt32) (colour : Colour) : RenderM W Unit :=
  gpu (.clear width height colour)

/-- Presents what was drawn to a surface as its front buffer. -/
def swapBuffers (surface : SurfaceId) : ExceptT RenderError (RenderM W) Unit := do
  let h ← requireHandles
  orFail id (gpu (.swapBuffers h.display surface))

/-- Takes the front buffer of a surface, which must be handed back by `releaseBuffer`. -/
def lockFrontBuffer (surface : SurfaceId) : ExceptT RenderError (RenderM W) BufferSlot := do
  let index ← orFail id (gpu (.lockFrontBuffer surface))
  let buffer : BufferSlot := ⟨surface, index⟩
  modify fun c => { c with chains := c.chains.lock buffer }
  return buffer

/-- Hands a locked buffer back to its swap chain. -/
def releaseBuffer (buffer : BufferSlot) : RenderM W Unit := do
  gpu (.releaseBuffer buffer)
  updateChains (·.unlock buffer)

/-- The scan-out registration of a buffer, which is made on first use and kept. -/
def scanoutId (buffer : BufferSlot) : ExceptT RenderError (RenderM W) FramebufferId := do
  match (← get).chains.framebuffer? buffer with
  | some fb => return fb
  | none =>
    let geometry ← orFail id (gpu (.geometry buffer))
    let fb ← orFail .framebuffer (kernel (.addFramebuffer geometry scanoutDepth scanoutBpp))
    orRelease (removeFramebuffers [fb]) (orFail id (gpu (.attach buffer fb)))
    modify fun c => { c with chains := c.chains.attach buffer fb }
    return fb

end RenderContext
end Scanout
