import Scanout.DisplayError

/-!
# Calls on a graphics device

Everything outside this library is reached by calls: requests to the kernel, operations of
the GPU platform, and readings of the clock. Each call has a type of answers. A `World`
answers calls from a state of its own; nothing more is assumed about it, so a statement
about all worlds covers every order of failures and answers a device may show.
-/

namespace Scanout

structure Colour where
  red : Float32
  green : Float32
  blue : Float32
  alpha : Float32

/-- The colour of the first frame of an output. -/
def Colour.black : Colour := ⟨0, 0, 0, 1⟩

structure GpuDevice where
  id : Nat
  deriving DecidableEq, Inhabited

structure GpuDisplay where
  id : Nat
  deriving DecidableEq, Inhabited

structure GpuConfig where
  id : Nat
  deriving DecidableEq, Inhabited

structure GpuContext where
  id : Nat
  deriving DecidableEq, Inhabited

/-- A configuration with the pixel format it renders into. -/
structure ConfigDescriptor where
  config : GpuConfig
  nativeVisual : Option UInt32
  deriving DecidableEq, Inhabited

/-- A swap chain. The surfaces of a device are numbered from one in order of creation. -/
structure SurfaceId where
  number : Nat
  deriving DecidableEq, Inhabited

structure BufferSlot where
  surface : SurfaceId
  index : Nat
  deriving DecidableEq, Inhabited

inductive KernelCall
  | resources
  | connector (handle : ConnectorHandle)
  | encoder (handle : EncoderHandle)
  | crtc (handle : CrtcHandle)
  | addFramebuffer (geometry : BufferGeometry) (depth bpp : UInt32)
  | removeFramebuffer (framebuffer : FramebufferId)
  | setCrtc (commit : CrtcCommit)
  | pageFlip (crtc : CrtcHandle) (framebuffer : FramebufferId)
  /-- Waits until flip completions can be read, but no longer than `timeout`. -/
  | wait (timeout : Duration)
  /-- Reads the flip completions there are. -/
  | receive

abbrev KernelCall.Answer : KernelCall → Type
  | resources => Except SystemError ResourceHandles
  | connector _ => Except SystemError ConnectorInfo
  | encoder _ => Except SystemError EncoderInfo
  | crtc _ => Except SystemError CrtcInfo
  | addFramebuffer _ _ _ => Except SystemError FramebufferId
  | removeFramebuffer _ => Except SystemError Unit
  | setCrtc _ => Except SystemError Unit
  | pageFlip _ _ => Except SystemError Unit
  | wait _ => Except SystemError Bool
  | receive => Except SystemError (List FlipCompletion)

/-- Operations of the GPU platform. Those that release something cannot fail. -/
inductive GpuCall
  | loadExtensions
  | createDevice
  | destroyDevice (device : GpuDevice)
  | bindApi
  | openDisplay (device : GpuDevice)
  | terminateDisplay (display : GpuDisplay)
  | configs (display : GpuDisplay)
  | createContext (display : GpuDisplay) (config : GpuConfig)
  | destroyContext (display : GpuDisplay) (context : GpuContext)
  | createSurface (surface : SurfaceId) (device : GpuDevice) (display : GpuDisplay)
      (config : GpuConfig) (width height : UInt32)
  | destroySurface (display : GpuDisplay) (surface : SurfaceId)
  /-- Makes a surface the target of drawing; without a surface, unbinds the context. -/
  | makeCurrent (display : GpuDisplay) (context : GpuContext) (surface : Option SurfaceId)
  | clear (width height : UInt32) (colour : Colour)
  | swapBuffers (display : GpuDisplay) (surface : SurfaceId)
  /-- Takes the buffer that was drawn last out of its swap chain. -/
  | lockFrontBuffer (surface : SurfaceId)
  | geometry (buffer : BufferSlot)
  /-- Notes the scan-out registration of a buffer on the buffer. -/
  | attach (buffer : BufferSlot) (framebuffer : FramebufferId)
  /-- Hands a locked buffer back to its swap chain. -/
  | releaseBuffer (buffer : BufferSlot)

abbrev GpuCall.Answer : GpuCall → Type
  | loadExtensions => Bool
  | createDevice => Except SystemError GpuDevice
  | destroyDevice _ => Unit
  | bindApi => Bool
  | openDisplay _ => Option GpuDisplay
  | terminateDisplay _ => Unit
  | configs _ => Option (List ConfigDescriptor)
  | createContext _ _ => Option GpuContext
  | destroyContext _ _ => Unit
  | createSurface _ _ _ _ _ _ => Except RenderError Unit
  | destroySurface _ _ => Unit
  | makeCurrent _ _ _ => Except RenderError Unit
  | clear _ _ _ => Unit
  | swapBuffers _ _ => Except RenderError Unit
  | lockFrontBuffer _ => Except RenderError Nat
  | geometry _ => Except RenderError BufferGeometry
  | attach _ _ => Except RenderError Unit
  | releaseBuffer _ => Unit

/-- A call on a device, or a reading of the clock. -/
inductive Call
  | kernel (request : KernelCall)
  | gpu (operation : GpuCall)
  | clock

abbrev Call.Answer : Call → Type
  | kernel request => request.Answer
  | gpu operation => operation.Answer
  | clock => Duration

/-- A device and the clock beside it: states that answer calls. -/
structure World where
  State : Type
  answer : (c : Call) → State → c.Answer × State
  /-- The number of rounds after which a wait for a page flip is given up even if the clock
  has not reached the deadline. -/
  patience : Nat

end Scanout
