import Scanout.DisplayMode

/-!
# Standard timings

A timing for a size and a refresh rate with reduced blanking, for devices that exist only
as models.
-/

namespace Scanout

/-- A likely mode of the given size and refresh rate. -/
def DisplayMode.ofSize (width height : UInt16) (refresh : UInt32) : DisplayMode where
  clock := width.toUInt32 * height.toUInt32 * refresh / 800
  hdisplay := width
  hsyncStart := width + 48
  hsyncEnd := width + 80
  htotal := width + 160
  hskew := 0
  vdisplay := height
  vsyncStart := height + 3
  vsyncEnd := height + 8
  vtotal := height + 30
  vscan := 0
  vrefresh := refresh
  flags := 5
  kind := 64
  name := s!"{width}x{height}"

end Scanout
