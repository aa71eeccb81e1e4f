import Scanout.DeviceCall

/-!
# Output records

An output is a connector together with what setting its mode has acquired for it: an
encoder, a CRTC, a mode, a surface and a snapshot of the configuration found before.
-/

namespace Scanout

inductive OutputState
  /-- The connector has not been read yet. -/
  | invalid
  | disconnected
  /-- The link is up and no mode has been set. -/
  | needsModeset
  | connected
  deriving DecidableEq, Inhabited

def OutputState.text : OutputState → String
  | invalid => "Invalid"
  | disconnected => "Disconnected"
  | needsModeset => "NeedsModeset"
  | connected => "Connected"

/-- The swap chain of an output and the framebuffer shown last. -/
structure OutputSurface where
  surface : SurfaceId
  width : UInt32
  height : UInt32
  lastFramebuffer : Option FramebufferId
  deriving DecidableEq, Inhabited

/-- The record of one connector, kept in its slot across rescans. -/
structure Output where
  /-- A stable name such as `HDMI-A-1`, empty until the connector was first read. -/
  name : String
  connector : ConnectorHandle
  state : OutputState
  encoder : Option EncoderHandle
  crtc : Option CrtcHandle
  mode : Option DisplayMode
  /-- The modes advertised when they were last read. -/
  modes : List DisplayMode
  /-- The configuration that drove the connector before its mode was set. -/
  savedCrtc : Option CrtcInfo
  surface : Option OutputSurface
  /-- A page flip was issued and its completion has not been seen. -/
  flipPending : Bool
  /-- Teardown has begun; completions are no longer passed on. -/
  cleaningUp : Bool
  deriving DecidableEq, Inhabited

namespace Output

def new (connector : ConnectorHandle) : Output :=
  { name := "", connector, state := .invalid, encoder := none, crtc := none, mode := none,
    modes := [], savedCrtc := none, surface := none, flipPending := false, cleaningUp := false }

/-- Forgets everything that setting a mode acquired, the surface apart. -/
def resetModeset (o : Output) : Output :=
  { o with
    encoder := none, crtc := none, mode := none, savedCrtc := none
    flipPending := false, cleaningUp := false }

def hasSurface (o : Output) : Bool := o.surface.isSome

def surfaceSize (o : Output) : Option (UInt32 × UInt32) :=
  o.surface.map fun s => (s.width, s.height)

def lastFramebuffer (o : Output) : Option FramebufferId := o.surface.bind (·.lastFramebuffer)

end Output
end Scanout
