import Scanout.DeviceCall
import Scanout.StandardTiming

/-!
# A kernel that keeps records

A small kernel without faults of its own making, which remembers what it was asked to
program. Page flips complete as soon as their completions are read, unless flips are being
dropped.
-/

namespace Scanout

/-- The layout of a registered buffer, with the colour depth and bits per pixel it was
registered for. -/
structure FramebufferFormat where
  geometry : BufferGeometry
  depth : UInt32
  bpp : UInt32
  deriving DecidableEq, Inhabited

structure RecordingKernel where
  connectors : List ConnectorInfo
  encoders : List EncoderInfo
  crtcs : List CrtcInfo
  unreadable : List ConnectorHandle
  framebuffers : List (FramebufferId × FramebufferFormat)
  nextFramebuffer : UInt32
  framebuffersAdded : Nat
  framebuffersDestroyed : List FramebufferId
  commits : List CrtcCommit
  flips : List (CrtcHandle × FramebufferId)
  /-- The CRTCs with a flip under way, in the order of the flips. -/
  pending : List CrtcHandle
  /-- How many waits are still to come back without anything to read. -/
  withheldWaits : Nat
  dropsFlips : Bool
  waits : Nat
  /-- The number of completions so far. -/
  frame : UInt32
  deriving Inhabited

namespace RecordingKernel

def new : RecordingKernel :=
  { connectors := [], encoders := [], crtcs := [], unreadable := [], framebuffers := [],
    nextFramebuffer := 100, framebuffersAdded := 0, framebuffersDestroyed := [], commits := [],
    flips := [], pending := [], withheldWaits := 0, dropsFlips := false, waits := 0, frame := 0 }

def addCrtc (k : RecordingKernel) (h : CrtcHandle) : RecordingKernel :=
  { k with crtcs := k.crtcs ++ [⟨h, none, (0, 0), none⟩] }

/-- Adds an encoder, which takes the place of one with the same handle. -/
def addEncoder (k : RecordingKernel) (h : EncoderHandle) (possibleCrtcs : UInt32) :
    RecordingKernel :=
  { k with encoders := k.encoders.filter (·.handle ≠ h) ++ [⟨h, none, possibleCrtcs⟩] }

/-- Adds a connector with nothing plugged in. It is an HDMI connector with two modes, and
numbered by how many connectors there are. -/
def addConnector (k : RecordingKernel) (h : ConnectorHandle) (encoders : List EncoderHandle) :
    ConnectorInfo × RecordingKernel :=
  let info : ConnectorInfo :=
    { handle := h, interface := .hdmiA, interfaceId := UInt32.ofNat k.connectors.length + 1,
      state := .disconnected, modes := [.ofSize 1920 1080 60, .ofSize 1280 720 60],
      encoders, currentEncoder := none }
  (info, { k with connectors := k.connectors ++ [info] })

def updateFirst {α : Type} (p : α → Bool) (change : α → α) : List α → List α
  | [] => []
  | a :: rest => if p a then change a :: rest else a :: updateFirst p change rest

def updateConnector (k : RecordingKernel) (h : ConnectorHandle)
    (change : ConnectorInfo → ConnectorInfo) : RecordingKernel :=
  { k with connectors := updateFirst (·.handle == h) change k.connectors }

def plug (k : RecordingKernel) (h : ConnectorHandle) : RecordingKernel :=
  k.updateConnector h fun c => { c with state := .connected }

def unplug (k : RecordingKernel) (h : ConnectorHandle) : RecordingKernel :=
  k.updateConnector h fun c => { c with state := .disconnected }

def removeConnector (k : RecordingKernel) (h : ConnectorHandle) : RecordingKernel :=
  { k with connectors := k.connectors.filter (·.handle ≠ h) }

def setModes (k : RecordingKernel) (h : ConnectorHandle) (modes : List DisplayMode) :
    RecordingKernel :=
  k.updateConnector h fun c => { c with modes }

def setUnreadable (k : RecordingKernel) (h : ConnectorHandle) (unreadable : Bool) :
    RecordingKernel :=
  let others := k.unreadable.filter (· ≠ h)
  { k with unreadable := if unreadable then h :: others else others }

/-- Routes a connector through an encoder to a CRTC, which is left as it is. -/
def bindEncoder (k : RecordingKernel) (connector : ConnectorHandle) (encoder : EncoderHandle)
    (crtc : CrtcHandle) : RecordingKernel :=
  let k := k.updateConnector connector fun c => { c with currentEncoder := some encoder }
  { k with
    encoders := updateFirst (·.handle == encoder) (fun e => { e with crtc := some crtc }) k.encoders }

/-- Has a CRTC drive a connector, as somebody else may have left it behind. -/
def setActiveCrtc (k : RecordingKernel) (connector : ConnectorHandle) (encoder : EncoderHandle)
    (crtc : CrtcHandle) (framebuffer : FramebufferId) (mode : DisplayMode) : RecordingKernel :=
  let k := k.bindEncoder connector encoder crtc
  { k with
    crtcs := updateFirst (·.handle == crtc)
      (fun c => { c with framebuffer := some framebuffer, mode := some mode }) k.crtcs }

def withholdWaits (k : RecordingKernel) (count : Nat) : RecordingKernel :=
  { k with withheldWaits := count }

def dropFlips (k : RecordingKernel) (drop : Bool) : RecordingKernel := { k with dropsFlips := drop }

def crtc? (k : RecordingKernel) (h : CrtcHandle) : Option CrtcInfo :=
  k.crtcs.find? (·.handle == h)

/-- The format a framebuffer was registered with, as long as it is registered. -/
def format? (k : RecordingKernel) (fb : FramebufferId) : Option FramebufferFormat :=
  k.framebuffers.lookup fb

def missing (what : String) : SystemError := .described .notFound ("no such " ++ what)

def orMissing {α : Type} (what : String) : Option α → Except SystemError α
  | some a => .ok a
  | none => .error (missing what)

/-- The number of the error that a resource is in use. -/
def busy : SystemError := .numbered 16

def readConnector (k : RecordingKernel) (h : ConnectorHandle) : Except SystemError ConnectorInfo :=
  if h ∈ k.unreadable then .error (.described .other "connector probe failed")
  else orMissing "connector" (k.connectors.find? (·.handle == h))

def readEncoder (k : RecordingKernel) (h : EncoderHandle) : Except SystemError EncoderInfo :=
  orMissing "encoder" (k.encoders.find? (·.handle == h))

def addFramebuffer (k : RecordingKernel) (format : FramebufferFormat) :
    FramebufferId × RecordingKernel :=
  let fb : FramebufferId := ⟨k.nextFramebuffer⟩
  (fb, { k with
    nextFramebuffer := k.nextFramebuffer + 1
    framebuffersAdded := k.framebuffersAdded + 1
    framebuffers := k.framebuffers ++ [(fb, format)] })

def removeFramebuffer (k : RecordingKernel) (fb : FramebufferId) :
    Except SystemError Unit × RecordingKernel :=
  if (k.format? fb).isSome then
    (.ok (), { k with
      framebuffers := k.framebuffers.filter (·.1 ≠ fb)
      framebuffersDestroyed := k.framebuffersDestroyed ++ [fb] })
  else (.error (missing "framebuffer"), k)

def setCrtc (k : RecordingKernel) (commit : CrtcCommit) :
    Except SystemError Unit × RecordingKernel :=
  if (k.crtc? commit.crtc).isSome then
    (.ok (), { k with
      crtcs := updateFirst (·.handle == commit.crtc) (fun _ => commit.result) k.crtcs
      commits := k.commits ++ [commit] })
  else (.error (missing "crtc"), k)

def pageFlip (k : RecordingKernel) (crtc : CrtcHandle) (fb : FramebufferId) :
    Except SystemError Unit × RecordingKernel :=
  if crtc ∈ k.pending then (.error busy, k)
  else if (k.format? fb).isSome then
    (.ok (), { k with pending := k.pending ++ [crtc], flips := k.flips ++ [(crtc, fb)] })
  else (.error (missing "framebuffer"), k)

/-- A wait comes back at once and tells whether a completion can be read. -/
def wait (k : RecordingKernel) : Bool × RecordingKernel :=
  let k := { k with waits := k.waits + 1 }
  if k.withheldWaits > 0 then (false, { k with withheldWaits := k.withheldWaits - 1 })
  else (!k.dropsFlips && !k.pending.isEmpty, k)

def receive (k : RecordingKernel) : List FlipCompletion × RecordingKernel :=
  if k.dropsFlips then ([], k)
  else
    let completions := k.pending.zipIdx.map fun (crtc, i) =>
      ⟨crtc, k.frame + 1 + UInt32.ofNat i, .zero⟩
    (completions, { k with pending := [], frame := k.frame + UInt32.ofNat k.pending.length })

def answer (k : RecordingKernel) : (request : KernelCall) → request.Answer × RecordingKernel
  | .resources => (.ok ⟨k.connectors.map (·.handle), k.crtcs.map (·.handle)⟩, k)
  | .connector h => (k.readConnector h, k)
  | .encoder h => (k.readEncoder h, k)
  | .crtc h => (orMissing "crtc" (k.crtc? h), k)
  | .addFramebuffer g depth bpp => let (fb, k) := k.addFramebuffer ⟨g, depth, bpp⟩; (.ok fb, k)
  | .removeFramebuffer fb => k.removeFramebuffer fb
  | .setCrtc commit => k.setCrtc commit
  | .pageFlip crtc fb => k.pageFlip crtc fb
  | .wait _ => let (readable, k) := k.wait; (.ok readable, k)
  | .receive => let (completions, k) := k.receive; (.ok completions, k)

end RecordingKernel
end Scanout
