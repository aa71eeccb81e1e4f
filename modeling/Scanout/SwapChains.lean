import Scanout.DeviceCall

/-!
# Swap chains and their scan-out registrations

Every surface is a swap chain of buffers. A buffer that has been shown carries a scan-out
registration, which lives as long as the buffer: handing the buffer back keeps it, and it
goes when the swap chain is destroyed. A swap chain that is let go without being destroyed
keeps the buffers that are still locked until they are handed back.

The operations below say which registrations end; whoever performs them tells the kernel.
-/

namespace Scanout

/-- The swap chains of a device and the registrations their buffers carry. -/
structure SwapChains where
  /-- How many surfaces have been created so far. -/
  created : Nat
  /-- The surfaces that are neither destroyed nor let go. -/
  alive : List SurfaceId
  locked : List BufferSlot
  /-- The registered buffers, in ascending order. -/
  registered : List (BufferSlot × FramebufferId)
  deriving DecidableEq, Inhabited

/-- Buffers are ordered by surface and then by their place in the chain. -/
def BufferSlot.before (a b : BufferSlot) : Bool :=
  a.surface.number < b.surface.number ||
    a.surface.number == b.surface.number && a.index < b.index

namespace SwapChains

def empty : SwapChains := ⟨0, [], [], []⟩

def nextSurface (t : SwapChains) : SurfaceId := ⟨t.created + 1⟩

/-- A surface has been created under the next id. -/
def create (t : SwapChains) : SwapChains :=
  { t with created := t.created + 1, alive := t.alive ++ [t.nextSurface] }

def framebuffer? (t : SwapChains) (b : BufferSlot) : Option FramebufferId :=
  t.registered.lookup b

/-- A buffer has been taken out of its chain. -/
def lock (t : SwapChains) (b : BufferSlot) : SwapChains := { t with locked := b :: t.locked }

/-- Puts a registered buffer in its place in the order. -/
def insert (b : BufferSlot) (fb : FramebufferId) :
    List (BufferSlot × FramebufferId) → List (BufferSlot × FramebufferId)
  | [] => [(b, fb)]
  | (c, fc) :: rest =>
    if b.before c then (b, fb) :: (c, fc) :: rest else (c, fc) :: insert b fb rest

def attach (t : SwapChains) (b : BufferSlot) (fb : FramebufferId) : SwapChains :=
  { t with registered := insert b fb t.registered }

/-- Ends the registrations of some buffers. -/
def free (t : SwapChains) (gone : BufferSlot → Bool) : List FramebufferId × SwapChains :=
  ((t.registered.filter fun e => gone e.1).map Prod.snd,
    { t with registered := t.registered.filter fun e => !gone e.1 })

/-- A surface has been destroyed, and with it all registrations of its buffers. -/
def destroy (t : SwapChains) (s : SurfaceId) : List FramebufferId × SwapChains :=
  { t with alive := t.alive.filter (· ≠ s) }.free (·.surface = s)

/-- A surface has been let go without being destroyed: locked buffers stay for now. -/
def abandon (t : SwapChains) (s : SurfaceId) : List FramebufferId × SwapChains :=
  { t with alive := t.alive.filter (· ≠ s) }.free fun b => b.surface = s ∧ b ∉ t.locked

/-- A locked buffer has been handed back. If its surface is gone, so is the buffer now. -/
def unlock (t : SwapChains) (b : BufferSlot) : List FramebufferId × SwapChains :=
  let t := { t with locked := t.locked.erase b }
  if b.surface ∈ t.alive ∨ b ∈ t.locked then ([], t) else t.free (· = b)

theorem mem_insert {b : BufferSlot} {fb : FramebufferId} {l : List (BufferSlot × FramebufferId)}
    {e : BufferSlot × FramebufferId} : e ∈ insert b fb l ↔ e = (b, fb) ∨ e ∈ l := by
  induction l with
  | nil => simp [insert]
  | cons c rest ih =>
    obtain ⟨c, fc⟩ := c
    unfold insert
    split
    · simp
    · simp [ih]; grind

end SwapChains
end Scanout
