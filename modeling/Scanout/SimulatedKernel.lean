import Scanout.DeviceCall

/-!
# A simulated kernel

A kernel whose connectors, encoders and CRTCs can be changed at will. Page flips complete
when their completions are read, unless they are held back; waits can be made to come back
early. Any request can be made to fail from outside.
-/

namespace Scanout

/-- The flips of which CRTCs do not complete. -/
structure FlipHold where
  all : Bool
  crtcs : List CrtcHandle
  deriving DecidableEq, Inhabited

structure SimulatedKernel where
  connectors : List ConnectorInfo
  encoders : List EncoderInfo
  crtcs : List CrtcInfo
  /-- The connectors to report in place of those there are. -/
  reportedConnectors : Option (List ConnectorHandle)
  /-- The CRTCs to report in place of those there are. -/
  reportedCrtcs : Option (List CrtcHandle)
  framebuffers : List FramebufferId
  nextFramebuffer : UInt32
  /-- The CRTCs with a flip under way, in the order of the flips. -/
  pending : List CrtcHandle
  held : FlipHold
  /-- How many waits are still to come back without anything to read. -/
  withheldWaits : Nat
  clock : Duration
  deriving Inhabited

namespace SimulatedKernel

def addConnector (k : SimulatedKernel) (c : ConnectorInfo) : SimulatedKernel :=
  { k with connectors := k.connectors ++ [c] }

/-- Adds an encoder, which takes the place of one with the same handle. -/
def addEncoder (k : SimulatedKernel) (e : EncoderInfo) : SimulatedKernel :=
  { k with encoders := k.encoders.filter (·.handle ≠ e.handle) ++ [e] }

/-- A kernel with the given hardware, on which nothing has happened. -/
def new (connectors : List ConnectorInfo) (encoders : List EncoderInfo) (crtcs : List CrtcInfo) :
    SimulatedKernel :=
  encoders.foldl addEncoder
    { connectors, encoders := [], crtcs, reportedConnectors := none, reportedCrtcs := none,
      framebuffers := [], nextFramebuffer := 100, pending := [], held := ⟨false, []⟩,
      withheldWaits := 0, clock := .zero }

def addCrtc (k : SimulatedKernel) (c : CrtcInfo) : SimulatedKernel :=
  { k with crtcs := k.crtcs ++ [c] }

def removeConnector (k : SimulatedKernel) (h : ConnectorHandle) : SimulatedKernel :=
  { k with connectors := k.connectors.filter (·.handle ≠ h) }

def removeEncoder (k : SimulatedKernel) (h : EncoderHandle) : SimulatedKernel :=
  { k with encoders := k.encoders.filter (·.handle ≠ h) }

def removeCrtc (k : SimulatedKernel) (h : CrtcHandle) : SimulatedKernel :=
  { k with crtcs := k.crtcs.filter (·.handle ≠ h) }

def updateConnector (k : SimulatedKernel) (h : ConnectorHandle)
    (change : ConnectorInfo → ConnectorInfo) : SimulatedKernel :=
  { k with connectors := k.connectors.map fun c => if c.handle = h then change c else c }

/-- Flips come under way that nobody asked for. -/
def inject (k : SimulatedKernel) (crtcs : List CrtcHandle) : SimulatedKernel :=
  { k with pending := k.pending ++ crtcs }

/-- The time that passes from one reading of the clock to the next. -/
def clockTick : Duration := ⟨100⟩

def readClock (k : SimulatedKernel) : Duration × SimulatedKernel :=
  (k.clock, { k with clock := k.clock + clockTick })

def isHeld (k : SimulatedKernel) (crtc : CrtcHandle) : Bool :=
  k.held.all || k.held.crtcs.contains crtc

def missing (what : String) : SystemError := .described .other ("no such " ++ what)

def orMissing {α : Type} (what : String) : Option α → Except SystemError α
  | some a => .ok a
  | none => .error (missing what)

def resources (k : SimulatedKernel) : ResourceHandles where
  connectors := k.reportedConnectors.getD (k.connectors.map (·.handle))
  crtcs := k.reportedCrtcs.getD (k.crtcs.map (·.handle))

def addFramebuffer (k : SimulatedKernel) : FramebufferId × SimulatedKernel :=
  let fb : FramebufferId := ⟨k.nextFramebuffer⟩
  (fb, { k with framebuffers := k.framebuffers ++ [fb], nextFramebuffer := k.nextFramebuffer + 1 })

def removeFramebuffer (k : SimulatedKernel) (fb : FramebufferId) :
    Except SystemError Unit × SimulatedKernel :=
  if fb ∈ k.framebuffers then
    (.ok (), { k with framebuffers := k.framebuffers.filter (· ≠ fb) })
  else (.error (missing "framebuffer"), k)

/-- Replaces the configuration of the CRTC that a commit names, if there is such a CRTC. -/
def replaceCrtc (new : CrtcInfo) (crtcs : List CrtcInfo) : Option (List CrtcInfo) :=
  (crtcs.findIdx? (·.handle == new.handle)).map fun i => crtcs.set i new

def setCrtc (k : SimulatedKernel) (commit : CrtcCommit) :
    Except SystemError Unit × SimulatedKernel :=
  match replaceCrtc commit.result k.crtcs with
  | some crtcs => (.ok (), { k with crtcs })
  | none => (.error (missing "crtc"), k)

def pageFlip (k : SimulatedKernel) (crtc : CrtcHandle) (fb : FramebufferId) :
    Except SystemError Unit × SimulatedKernel :=
  if crtc ∈ k.pending then (.error (.described .other "flip already pending"), k)
  else if fb ∈ k.framebuffers then (.ok (), { k with pending := k.pending ++ [crtc] })
  else (.error (missing "framebuffer"), k)

/-- A wait comes back early if it is made to; otherwise it comes back when a completion can
be read, or after the whole time. -/
def wait (k : SimulatedKernel) (timeout : Duration) : Bool × SimulatedKernel :=
  if k.withheldWaits > 0 then (false, { k with withheldWaits := k.withheldWaits - 1 })
  else if k.pending.any (!k.isHeld ·) then (true, k)
  else (false, { k with clock := k.clock + timeout })

def receive (k : SimulatedKernel) : List FlipCompletion × SimulatedKernel :=
  ((k.pending.filter (!k.isHeld ·)).map fun crtc => ⟨crtc, 0, .zero⟩,
    { k with pending := k.pending.filter k.isHeld })

/-- The answer to a request, which fails if a failure is given for it. -/
def answer (failure : Option String) (k : SimulatedKernel) :
    (request : KernelCall) → request.Answer × SimulatedKernel
  | .resources =>
    match failure with
    | some text => (.error (.described .other text), k)
    | none => (.ok k.resources, k)
  | .connector h =>
    match failure with
    | some text => (.error (.described .other text), k)
    | none => (orMissing "connector" (k.connectors.find? (·.handle == h)), k)
  | .encoder h =>
    match failure with
    | some text => (.error (.described .other text), k)
    | none => (orMissing "encoder" (k.encoders.find? (·.handle == h)), k)
  | .crtc h =>
    match failure with
    | some text => (.error (.described .other text), k)
    | none => (orMissing "crtc" (k.crtcs.find? (·.handle == h)), k)
  | .addFramebuffer _ _ _ =>
    match failure with
    | some text => (.error (.described .other text), k)
    | none => let (fb, k) := k.addFramebuffer; (.ok fb, k)
  | .removeFramebuffer fb =>
    match failure with
    | some text => (.error (.described .other text), k)
    | none => k.removeFramebuffer fb
  | .setCrtc commit =>
    match failure with
    | some text => (.error (.described .other text), k)
    | none => k.setCrtc commit
  | .pageFlip crtc fb =>
    match failure with
    | some text => (.error (.described .other text), k)
    | none => k.pageFlip crtc fb
  | .wait timeout =>
    match failure with
    | some text => (.error (.described .other text), k)
    | none => let (readable, k) := k.wait timeout; (.ok readable, k)
  | .receive =>
    match failure with
    | some text => (.error (.described .other text), k)
    | none => let (completions, k) := k.receive; (.ok completions, k)

end SimulatedKernel
end Scanout
