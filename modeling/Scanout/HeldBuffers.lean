import Scanout.ByName
import Scanout.RenderContext

/-!
# Surfaces and buffers held by name

A surface belongs to whoever created it, and a locked buffer to whoever locked it. The
holder here keeps both under names of its choice. Whatever is put under a name that is
taken replaces what was there, and what is replaced is let go.
-/

namespace Scanout

/-- A rendering context with what was created and locked through it. -/
structure RenderHolder (W : World) where
  context : RenderContext W
  surfaces : ByName SurfaceId
  buffers : ByName BufferSlot

namespace RenderHolder

variable {W : World}

def new (context : RenderContext W) : RenderHolder W := ⟨context, [], []⟩

def act {α : Type} (h : RenderHolder W) (m : RenderM W α) : α × RenderHolder W :=
  let (a, c) := m h.context
  (a, { h with context := c })

/-- Lets a surface go without destroying it. -/
def letSurfaceGo (h : RenderHolder W) : Option SurfaceId → RenderHolder W
  | some s => (h.act (RenderContext.abandonSurface s)).2
  | none => h

/-- Lets a buffer go, which hands it back. -/
def letBufferGo (h : RenderHolder W) : Option BufferSlot → RenderHolder W
  | some b => (h.act (RenderContext.releaseBuffer b)).2
  | none => h

def holdSurface (h : RenderHolder W) (name : String) (s : SurfaceId) : RenderHolder W :=
  { h with surfaces := ByName.put name s h.surfaces }.letSurfaceGo (h.surfaces.lookup name)

def holdBuffer (h : RenderHolder W) (name : String) (b : BufferSlot) : RenderHolder W :=
  { h with buffers := ByName.put name b h.buffers }.letBufferGo (h.buffers.lookup name)

def createSurface (h : RenderHolder W) (name : String) (width height : UInt32) :
    Except RenderError Unit × RenderHolder W :=
  match h.act (RenderContext.createSurface width height).run with
  | (.ok s, h) => (.ok (), h.holdSurface name s)
  | (.error e, h) => (.error e, h)

def lockFrontBuffer (h : RenderHolder W) (name : String) (s : SurfaceId) :
    Except RenderError Unit × RenderHolder W :=
  match h.act (RenderContext.lockFrontBuffer s).run with
  | (.ok b, h) => (.ok (), h.holdBuffer name b)
  | (.error e, h) => (.error e, h)

def destroySurface (h : RenderHolder W) (name : String) (s : SurfaceId) : RenderHolder W :=
  { (h.act (RenderContext.destroySurface s)).2 with surfaces := ByName.forget name h.surfaces }

def dropBuffer (h : RenderHolder W) (name : String) : RenderHolder W :=
  { h with buffers := ByName.forget name h.buffers }.letBufferGo (h.buffers.lookup name)

/-- Lets all buffers go, in the order of their names. -/
def dropBuffers (h : RenderHolder W) : RenderHolder W :=
  { h.buffers.foldl (fun h b => h.letBufferGo (some b.2)) h with buffers := [] }

/-- Lets all surfaces go, in the order of their names. -/
def dropSurfaces (h : RenderHolder W) : RenderHolder W :=
  { h.surfaces.foldl (fun h s => h.letSurfaceGo (some s.2)) h with surfaces := [] }

def dropContext (h : RenderHolder W) : RenderHolder W := (h.act RenderContext.teardown).2

end RenderHolder
end Scanout
