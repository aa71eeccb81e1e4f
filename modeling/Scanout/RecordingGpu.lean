import Scanout.DeviceCall

/-!
# A GPU platform that keeps records

A platform that records its operations by kind and can be made to refuse one kind for good.
What is refused is not recorded. Its swap chains have two buffers, which are taken in turn.
-/

namespace Scanout

inductive GpuCallKind
  | loadExtensions
  | createDevice
  | destroyDevice
  | bindApi
  | openDisplay
  | terminateDisplay
  | configs
  | createContext
  | destroyContext
  | createSurface
  | destroySurface
  | makeCurrent
  | clear
  | swapBuffers
  | lockFrontBuffer
  deriving DecidableEq, Inhabited

namespace GpuCallKind

def all : List GpuCallKind :=
  [loadExtensions, createDevice, destroyDevice, bindApi, openDisplay, terminateDisplay, configs,
    createContext, destroyContext, createSurface, destroySurface, makeCurrent, clear, swapBuffers,
    lockFrontBuffer]

def text : GpuCallKind → String
  | loadExtensions => "LoadExtensions"
  | createDevice => "CreateDevice"
  | destroyDevice => "DestroyDevice"
  | bindApi => "BindApi"
  | openDisplay => "OpenDisplay"
  | terminateDisplay => "TerminateDisplay"
  | configs => "Configs"
  | createContext => "CreateContext"
  | destroyContext => "DestroyContext"
  | createSurface => "CreateSurface"
  | destroySurface => "DestroySurface"
  | makeCurrent => "MakeCurrent"
  | clear => "Clear"
  | swapBuffers => "SwapBuffers"
  | lockFrontBuffer => "LockFrontBuffer"

def ofText? (s : String) : Option GpuCallKind := all.find? (·.text == s)

/-- What an operation adds to the number of devices, displays, contexts and surfaces held. -/
def balance : GpuCallKind → Int
  | createDevice | openDisplay | createContext | createSurface => 1
  | destroyDevice | terminateDisplay | destroyContext | destroySurface => -1
  | _ => 0

end GpuCallKind

/-- The devices, displays, contexts and surfaces acquired and not released. -/
def liveResources (calls : List GpuCallKind) : Int := calls.foldr (·.balance + ·) 0

/-- A swap chain of two buffers: its size and the buffer that is taken next. -/
structure RecordedSurface where
  id : SurfaceId
  width : UInt32
  height : UInt32
  next : Nat
  deriving DecidableEq, Inhabited

structure RecordingGpu where
  visuals : List (Option UInt32)
  failOn : Option GpuCallKind
  /-- The operations that were not refused, the latest first. -/
  record : List GpuCallKind
  surfaces : List RecordedSurface
  deriving Inhabited

namespace RecordingGpu

def new (visuals : List (Option UInt32)) (failOn : Option GpuCallKind) : RecordingGpu :=
  ⟨visuals, failOn, [], []⟩

def calls (g : RecordingGpu) : List GpuCallKind := g.record.reverse

/-- The operations recorded since an earlier state, in order. -/
def callsSince (earlier later : RecordingGpu) : List GpuCallKind :=
  later.calls.drop earlier.record.length

/-- The devices, displays, contexts and surfaces that are held. -/
def live (g : RecordingGpu) : Int := liveResources g.calls

/-- Records an operation, or tells that it is refused. -/
def attempt (g : RecordingGpu) (kind : GpuCallKind) : Bool × RecordingGpu :=
  if g.failOn = some kind then (false, g) else (true, { g with record := kind :: g.record })

def attemptOr {ε : Type} (g : RecordingGpu) (kind : GpuCallKind) (e : ε) :
    Except ε Unit × RecordingGpu :=
  let (accepted, g) := g.attempt kind
  (if accepted then .ok () else .error e, g)

def refusal : String := "mock failure"

def configs (g : RecordingGpu) : List ConfigDescriptor :=
  g.visuals.zipIdx.map fun (visual, i) => ⟨⟨i⟩, visual⟩

def surface? (g : RecordingGpu) (s : SurfaceId) : Option RecordedSurface :=
  g.surfaces.find? (·.id == s)

def takeBuffer (g : RecordingGpu) (s : SurfaceId) : Nat × RecordingGpu :=
  match g.surface? s with
  | none => (0, g)
  | some t =>
    (t.next, { g with
      surfaces := g.surfaces.map fun t => if t.id = s then { t with next := (t.next + 1) % 2 } else t })

/-- A buffer has the size of its surface, four bytes for each pixel, and its place from one
on as its handle. -/
def geometry (g : RecordingGpu) (b : BufferSlot) : BufferGeometry :=
  let (width, height) := match g.surface? b.surface with
    | some s => (s.width, s.height)
    | none => (0, 0)
  ⟨width, height, width * 4, UInt32.ofNat b.index + 1⟩

def answer (g : RecordingGpu) : (operation : GpuCall) → operation.Answer × RecordingGpu
  | .loadExtensions => g.attempt .loadExtensions
  | .createDevice =>
    let (accepted, g) := g.attempt .createDevice
    (if accepted then .ok ⟨1⟩ else .error (.numbered 19), g)
  | .destroyDevice _ => ((), (g.attempt .destroyDevice).2)
  | .bindApi => g.attempt .bindApi
  | .openDisplay _ =>
    let (accepted, g) := g.attempt .openDisplay
    (if accepted then some ⟨2⟩ else none, g)
  | .terminateDisplay _ => ((), (g.attempt .terminateDisplay).2)
  | .configs _ =>
    let (accepted, g) := g.attempt .configs
    (if accepted then some g.configs else none, g)
  | .createContext _ _ =>
    let (accepted, g) := g.attempt .createContext
    (if accepted then some ⟨3⟩ else none, g)
  | .destroyContext _ _ => ((), (g.attempt .destroyContext).2)
  | .createSurface s _ _ _ width height =>
    let (result, g) := g.attemptOr .createSurface (RenderError.surfaceCreation refusal)
    (result, if result.isOk then { g with surfaces := g.surfaces ++ [⟨s, width, height, 0⟩] } else g)
  | .destroySurface _ _ => ((), (g.attempt .destroySurface).2)
  | .makeCurrent _ _ _ => g.attemptOr .makeCurrent (RenderError.makeCurrent refusal)
  | .clear _ _ _ => ((), (g.attempt .clear).2)
  | .swapBuffers _ _ => g.attemptOr .swapBuffers (RenderError.swapBuffers refusal)
  | .lockFrontBuffer s =>
    let (accepted, g) := g.attempt .lockFrontBuffer
    if accepted then let (i, g) := g.takeBuffer s; (.ok i, g)
    else (.error (.frontBuffer refusal), g)
  | .geometry b => (.ok (g.geometry b), g)
  | .attach _ _ => (.ok (), g)
  | .releaseBuffer _ => ((), g)

end RecordingGpu
end Scanout
