/-!
# Display modes

A display mode is a complete timing record as the kernel hands it out. Two modes are the
same only if all fifteen fields agree.
-/

namespace Scanout

/-- A timing record: pixel clock, horizontal and vertical timings, and a name. -/
structure DisplayMode where
  clock : UInt32
  hdisplay : UInt16
  hsyncStart : UInt16
  hsyncEnd : UInt16
  htotal : UInt16
  hskew : UInt16
  vdisplay : UInt16
  vsyncStart : UInt16
  vsyncEnd : UInt16
  vtotal : UInt16
  vscan : UInt16
  vrefresh : UInt32
  flags : UInt32
  kind : UInt32
  name : String
  deriving DecidableEq, Inhabited

namespace DisplayMode

def size (m : DisplayMode) : UInt32 × UInt32 := (m.hdisplay.toUInt32, m.vdisplay.toUInt32)

/-- Vertical refresh in Hz. -/
def refresh (m : DisplayMode) : UInt32 := m.vrefresh

/-- A mode in short, such as `1920x1080@60`. -/
def text (m : DisplayMode) : String := s!"{m.hdisplay}x{m.vdisplay}@{m.vrefresh}"

/-- A mode in short with its name and clock, as journals show it. -/
def trace (m : DisplayMode) : String := s!"{m.text}:{m.name}:{m.clock}"

end DisplayMode
end Scanout
