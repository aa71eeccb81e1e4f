import Scanout.DeviceCall

/-!
# A simulated GPU platform

A platform with a fixed list of pixel formats and a fixed number of buffers for each swap
chain, which are taken in turn. Any operation that acquires something can be made to fail
from outside.
-/

namespace Scanout

/-- A swap chain: its size, the buffers that are locked, and the one locked last. -/
structure SimulatedSurface where
  id : SurfaceId
  width : UInt32
  height : UInt32
  locked : List Nat
  lastLocked : Option Nat
  deriving DecidableEq, Inhabited

/-- The first buffer that is not locked, cyclically after the one locked last. -/
def SimulatedSurface.nextBuffer (buffers : Nat) (s : SimulatedSurface) : Option Nat :=
  let first := match s.lastLocked with
    | some i => i + 1
    | none => 0
  ((List.range buffers).map fun i => (first + i) % buffers).find? fun i => i ∉ s.locked

structure SimulatedGpu where
  visuals : List (Option UInt32)
  buffers : Nat
  surfaces : List SimulatedSurface
  deriving Inhabited

namespace SimulatedGpu

def new (visuals : List (Option UInt32)) (buffers : Nat) : SimulatedGpu := ⟨visuals, buffers, []⟩

/-- A format with an alpha channel comes first, the one for scan-out second. -/
def defaultVisuals : List (Option UInt32) := [some 0x34324241, some 0x34325258]

def defaultBuffers : Nat := 2

def configs (g : SimulatedGpu) : List ConfigDescriptor :=
  g.visuals.zipIdx.map fun (visual, i) => ⟨⟨i⟩, visual⟩

def surface? (g : SimulatedGpu) (s : SurfaceId) : Option SimulatedSurface :=
  g.surfaces.find? (·.id == s)

def updateSurface (g : SimulatedGpu) (s : SurfaceId)
    (change : SimulatedSurface → SimulatedSurface) : SimulatedGpu :=
  { g with surfaces := g.surfaces.map fun t => if t.id = s then change t else t }

def lock (g : SimulatedGpu) (s : SurfaceId) : Except RenderError Nat × SimulatedGpu :=
  match (g.surface? s).bind (·.nextBuffer g.buffers) with
  | none => (.error (.frontBuffer "no free buffer"), g)
  | some i =>
    (.ok i, g.updateSurface s fun t => { t with locked := i :: t.locked, lastLocked := some i })

/-- A buffer has the size of its surface, four bytes for each pixel, and a handle that tells
surface and buffer. -/
def geometry (g : SimulatedGpu) (b : BufferSlot) : BufferGeometry :=
  let (width, height) := match g.surface? b.surface with
    | some s => (s.width, s.height)
    | none => (0, 0)
  ⟨width, height, 4 * width, UInt32.ofNat (1000 * b.surface.number + b.index)⟩

/-- The answer to an operation, which fails if a failure is given for it. -/
def answer (failure : Option String) (g : SimulatedGpu) :
    (operation : GpuCall) → operation.Answer × SimulatedGpu
  | .loadExtensions => (failure.isNone, g)
  | .createDevice =>
    match failure with
    | some text => (.error (.described .other text), g)
    | none => (.ok ⟨1⟩, g)
  | .bindApi => (failure.isNone, g)
  | .openDisplay _ => (if failure.isNone then some ⟨1⟩ else none, g)
  | .configs _ => (if failure.isNone then some g.configs else none, g)
  | .createContext _ config => (if failure.isNone then some ⟨config.id⟩ else none, g)
  | .createSurface s _ _ _ width height =>
    match failure with
    | some text => (.error (.surfaceCreation text), g)
    | none =>
      (.ok (), { g with surfaces := g.surfaces ++ [⟨s, width, height, [], none⟩] })
  | .makeCurrent _ _ _ =>
    match failure with
    | some text => (.error (.makeCurrent text), g)
    | none => (.ok (), g)
  | .swapBuffers _ _ =>
    match failure with
    | some text => (.error (.swapBuffers text), g)
    | none => (.ok (), g)
  | .lockFrontBuffer s =>
    match failure with
    | some text => (.error (.frontBuffer text), g)
    | none => g.lock s
  | .geometry b =>
    match failure with
    | some text => (.error (.frontBuffer text), g)
    | none => (.ok (g.geometry b), g)
  | .attach _ _ =>
    match failure with
    | some text => (.error (.frontBuffer text), g)
    | none => (.ok (), g)
  | .releaseBuffer b =>
    ((), g.updateSurface b.surface fun t => { t with locked := t.locked.erase b.index })
  | .destroyDevice _ | .terminateDisplay _ | .destroyContext _ _ | .destroySurface _ _
  | .clear _ _ _ => ((), g)

end SimulatedGpu
end Scanout
