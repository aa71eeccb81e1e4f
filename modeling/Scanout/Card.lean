import Scanout.CardRequest
import Scanout.DeviceCall

/-!
# A graphics card as a kernel to talk to

`Card.answer` serves the requests of `KernelCall` from the node of a card. Handles are
numbers other than zero, and a zero is refused before the node is asked. The mask of an
encoder is made anew from the handles it selects, so it says nothing beyond the card's list
of CRTCs.
-/

namespace Scanout

/-- The mark of a page flip that asks for an event. -/
def pageFlipEvent : UInt32 := 1

def interrupted : SystemError := .numbered 4

def eventBufferBytes : Nat := 1024

/-- The longest time that a poll can be asked to wait, in milliseconds. -/
def longestPoll : Nat := Nat.pow 2 31 - 1

/-- A number that is no handle is refused. -/
def nullHandle : SystemError := .described .invalidInput "null DRM resource handle"

def handle? (id : UInt32) : Option UInt32 := if id = 0 then none else some id

/-- The kind of a connector by its number. Kinds without a name of their own are unknown. -/
def ConnectorInterface.ofNumber (n : UInt32) : ConnectorInterface :=
  match n.toNat with
  | 1 => .vga
  | 2 => .dviI
  | 3 => .dviD
  | 4 => .dviA
  | 5 => .composite
  | 6 => .sVideo
  | 7 => .lvds
  | 8 => .component
  | 9 => .ninePinDin
  | 10 => .displayPort
  | 11 => .hdmiA
  | 12 => .hdmiB
  | 13 => .tv
  | 14 => .embeddedDisplayPort
  | 15 => .virtual
  | 16 => .dsi
  | _ => .unknown

def ConnectionState.ofNumber (n : UInt32) : ConnectionState :=
  match n.toNat with
  | 1 => .connected
  | 2 => .disconnected
  | _ => .unknown

/-- The mask with one bit set; a mask has 32 bits. -/
def maskBit (index : Nat) : UInt32 := 1 <<< UInt32.ofNat index

/-- The handles at the places of a list whose bit is set in a mask. -/
def selectedBy (mask : UInt32) (crtcs : List UInt32) : List UInt32 :=
  (crtcs.zipIdx.filter fun (_, i) => mask &&& maskBit i ≠ 0).map Prod.fst

/-- The mask with the bit of every place set whose handle the given mask selects. -/
def rebuiltMask (mask : UInt32) (crtcs : List UInt32) : UInt32 :=
  let allowed := selectedBy mask crtcs
  (crtcs.zipIdx.filter fun (crtc, _) => crtc ∈ allowed).foldl (fun m (_, i) => m ||| maskBit i) 0

/-- The completion that an event record tells of. Records that do not name their CRTC have it
in the low half of what was given along with the flip. -/
def CardEvent.completion? (e : CardEvent) : Option FlipCompletion :=
  match e.kind with
  | .flipComplete =>
    let crtc := if e.crtc ≠ 0 then e.crtc else e.userData.toUInt32
    some ⟨⟨crtc⟩, e.sequence, .ofSecondsAndNanos e.seconds.toNat (e.microseconds.toNat * 1000)⟩
  | .vblank | .other => none

namespace Card

variable {N : CardNode}

abbrev CardM (N : CardNode) := ExceptT SystemError (StateM N.State)

def requireHandle (id : UInt32) : CardM N UInt32 :=
  if id = 0 then throw nullHandle else return id

def ask {α : Type} (answer : N.State → Except SystemError α × N.State) : CardM N α :=
  ExceptT.mk answer

def rawResources : CardM N RawResources := ask (N.answer .resources)

def resources : CardM N ResourceHandles := do
  let r ← rawResources
  return ⟨r.connectors.map (⟨·⟩), r.crtcs.map (⟨·⟩)⟩

def connector (h : ConnectorHandle) : CardM N ConnectorInfo := do
  let id ← requireHandle h.id
  let c ← ask (N.answer (.connector id))
  return {
    handle := h, interface := .ofNumber c.kind, interfaceId := c.kindId,
    state := .ofNumber c.connection, modes := c.modes.map .ofRaw,
    encoders := c.encoders.map (⟨·⟩), currentEncoder := (handle? c.encoder).map (⟨·⟩) }

def encoder (h : EncoderHandle) : CardM N EncoderInfo := do
  let id ← requireHandle h.id
  let e ← ask (N.answer (.encoder id))
  let r ← rawResources
  return ⟨h, (handle? e.crtc).map (⟨·⟩), rebuiltMask e.possibleCrtcs r.crtcs⟩

def crtc (h : CrtcHandle) : CardM N CrtcInfo := do
  let id ← requireHandle h.id
  let c ← ask (N.answer (.crtc id))
  return ⟨h, (handle? c.framebuffer).map (⟨·⟩), (c.x, c.y), c.mode.map .ofRaw⟩

def addFramebuffer (g : BufferGeometry) (depth bpp : UInt32) : CardM N FramebufferId := do
  let handle ← requireHandle g.handle
  let id ← ask (N.answer (.addFramebuffer g.width g.height g.stride bpp depth handle))
  return ⟨id⟩

def removeFramebuffer (fb : FramebufferId) : CardM N Unit := do
  let id ← requireHandle fb.id
  ask (N.answer (.removeFramebuffer id))

def setCrtc (c : CrtcCommit) : CardM N Unit := do
  let crtc ← requireHandle c.crtc.id
  let fb ← match c.framebuffer with
    | some fb => requireHandle fb.id
    | none => pure 0
  let connectors ← c.connectors.mapM fun h => requireHandle h.id
  ask (N.answer (.setCrtc crtc fb c.position.1 c.position.2 connectors (c.mode.map (·.toRaw))))

def pageFlip (crtc : CrtcHandle) (fb : FramebufferId) : CardM N Unit := do
  let crtc ← requireHandle crtc.id
  let fb ← requireHandle fb.id
  ask (N.answer (.pageFlip crtc fb pageFlipEvent crtc.toUInt64))

/-- An interrupted wait finds nothing to read; any other failure is told by its name. -/
def wait (timeout : Duration) : CardM N Bool :=
  tryCatch (do return (← ask (N.answer (.poll (min timeout.milliseconds longestPoll)))) > 0)
    fun e => if e = interrupted then return false else throw e.byName

def receive : CardM N (List FlipCompletion) := do
  let events ← ask (N.answer (.read eventBufferBytes))
  return events.filterMap (·.completion?)

def answer : (request : KernelCall) → N.State → request.Answer × N.State
  | .resources => resources.run
  | .connector h => (connector h).run
  | .encoder h => (encoder h).run
  | .crtc h => (crtc h).run
  | .addFramebuffer g depth bpp => (addFramebuffer g depth bpp).run
  | .removeFramebuffer fb => (removeFramebuffer fb).run
  | .setCrtc c => (setCrtc c).run
  | .pageFlip crtc fb => (pageFlip crtc fb).run
  | .wait timeout => (wait timeout).run
  | .receive => receive.run

end Card
end Scanout
