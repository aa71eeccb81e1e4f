import Scanout.DisplayMode
import Scanout.Duration

/-!
# Kernel mode-setting resources

The handles and records by which the kernel describes the display hardware: connectors
are sockets, CRTCs are scan-out engines, and encoders stand between them. A framebuffer id
is the scan-out registration of a GPU buffer.
-/

namespace Scanout

/-- Handle of a connector, a physical output socket. -/
structure ConnectorHandle where
  id : UInt32
  deriving DecidableEq, Inhabited

structure EncoderHandle where
  id : UInt32
  deriving DecidableEq, Inhabited

/-- Handle of a CRTC, a scan-out engine. -/
structure CrtcHandle where
  id : UInt32
  deriving DecidableEq, Inhabited

structure FramebufferId where
  id : UInt32
  deriving DecidableEq, Inhabited

/-- Whether something is plugged into a connector. -/
inductive ConnectionState
  | connected
  | disconnected
  | unknown
  deriving DecidableEq, Inhabited

/-- The kind of a connector, the first half of an output's name. -/
inductive ConnectorInterface
  | unknown
  | vga
  | dviI
  | dviD
  | dviA
  | composite
  | sVideo
  | lvds
  | component
  | ninePinDin
  | displayPort
  | hdmiA
  | hdmiB
  | tv
  | embeddedDisplayPort
  | virtual
  | dsi
  deriving DecidableEq, Inhabited

/-- The customary short name of a connector kind. -/
def ConnectorInterface.text : ConnectorInterface → String
  | unknown => "Unknown"
  | vga => "VGA"
  | dviI => "DVI-I"
  | dviD => "DVI-D"
  | dviA => "DVI-A"
  | composite => "Composite"
  | sVideo => "SVIDEO"
  | lvds => "LVDS"
  | component => "Component"
  | ninePinDin => "DIN"
  | displayPort => "DP"
  | hdmiA => "HDMI-A"
  | hdmiB => "HDMI-B"
  | tv => "TV"
  | embeddedDisplayPort => "eDP"
  | virtual => "Virtual"
  | dsi => "DSI"

structure ConnectorInfo where
  handle : ConnectorHandle
  interface : ConnectorInterface
  interfaceId : UInt32
  state : ConnectionState
  /-- The advertised modes, the preferred one first. -/
  modes : List DisplayMode
  /-- The encoders that can serve this connector. -/
  encoders : List EncoderHandle
  /-- The encoder that drives it now. -/
  currentEncoder : Option EncoderHandle
  deriving DecidableEq, Inhabited

/-- The name of an output, such as `HDMI-A-1`, which stays the same across replugs. -/
def ConnectorInfo.name (c : ConnectorInfo) : String :=
  c.interface.text ++ "-" ++ toString c.interfaceId

def ConnectorInfo.isConnected (c : ConnectorInfo) : Bool := c.state == .connected

structure EncoderInfo where
  handle : EncoderHandle
  /-- The CRTC that feeds it now. -/
  crtc : Option CrtcHandle
  /-- Bit `i` is set if the CRTC at place `i` of the device's list can feed it. -/
  possibleCrtcs : UInt32
  deriving DecidableEq, Inhabited

/-- Whether the CRTC at a place of the device's list can feed the encoder; a mask has 32 bits,
so no later place qualifies. -/
def EncoderInfo.supportsCrtcIndex (e : EncoderInfo) (index : Nat) : Bool :=
  index < 32 && e.possibleCrtcs.toNat.testBit index

structure CrtcInfo where
  handle : CrtcHandle
  framebuffer : Option FramebufferId
  position : UInt32 × UInt32
  /-- A CRTC without a mode is off. -/
  mode : Option DisplayMode
  deriving DecidableEq, Inhabited

/-- The connectors and CRTCs of a device, in the kernel's order. -/
structure ResourceHandles where
  connectors : List ConnectorHandle
  crtcs : List CrtcHandle
  deriving DecidableEq, Inhabited

/-- The layout of a GPU buffer, as needed to register it for scan-out. -/
structure BufferGeometry where
  width : UInt32
  height : UInt32
  stride : UInt32
  handle : UInt32
  deriving DecidableEq, Inhabited

/-- The completion of a page flip, which names its CRTC and nothing else of the flip. -/
structure FlipCompletion where
  crtc : CrtcHandle
  frame : UInt32
  time : Duration
  deriving DecidableEq, Inhabited

/-- A new configuration for a CRTC. Without framebuffer and mode it switches the CRTC off. -/
structure CrtcCommit where
  crtc : CrtcHandle
  framebuffer : Option FramebufferId
  position : UInt32 × UInt32
  connectors : List ConnectorHandle
  mode : Option DisplayMode
  deriving DecidableEq, Inhabited

def CrtcCommit.switchOff (crtc : CrtcHandle) : CrtcCommit :=
  ⟨crtc, none, (0, 0), [], none⟩

/-- The commit that gives a CRTC the configuration of a snapshot, for one connector. -/
def CrtcInfo.restoring (saved : CrtcInfo) (connector : ConnectorHandle) : CrtcCommit :=
  ⟨saved.handle, saved.framebuffer, saved.position, [connector], saved.mode⟩

/-- The configuration that a commit leaves behind. -/
def CrtcCommit.result (c : CrtcCommit) : CrtcInfo :=
  ⟨c.crtc, c.framebuffer, c.position, c.mode⟩

end Scanout
