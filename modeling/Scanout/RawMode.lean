import Scanout.DisplayMode
import Scanout.Utf8Text

/-!
# Modes as the kernel stores them

The kernel keeps the name of a mode in an array of 32 bytes that ends in a zero byte. A
longer name is cut, in the middle of a character if need be; bytes that are no text show
up as U+FFFD.
-/

namespace Scanout

structure RawMode where
  clock : UInt32
  hdisplay : UInt16
  hsyncStart : UInt16
  hsyncEnd : UInt16
  htotal : UInt16
  hskew : UInt16
  vdisplay : UInt16
  vsyncStart : UInt16
  vsyncEnd : UInt16
  vtotal : UInt16
  vscan : UInt16
  vrefresh : UInt32
  flags : UInt32
  kind : UInt32
  name : Vector UInt8 32
  deriving DecidableEq, Inhabited

/-- The first bytes of a list, filled up with zero bytes. -/
def nameBytes (bytes : List UInt8) : Vector UInt8 32 :=
  Vector.ofFn fun i => bytes.getD i 0

/-- The bytes of a name before the first zero byte. -/
def RawMode.nameText (m : RawMode) : List UInt8 := m.name.toList.takeWhile (· ≠ 0)

def DisplayMode.ofRaw (m : RawMode) : DisplayMode where
  clock := m.clock
  hdisplay := m.hdisplay
  hsyncStart := m.hsyncStart
  hsyncEnd := m.hsyncEnd
  htotal := m.htotal
  hskew := m.hskew
  vdisplay := m.vdisplay
  vsyncStart := m.vsyncStart
  vsyncEnd := m.vsyncEnd
  vtotal := m.vtotal
  vscan := m.vscan
  vrefresh := m.vrefresh
  flags := m.flags
  kind := m.kind
  name := String.ofList (Utf8.decodeLossy m.nameText)

/-- A mode for the kernel. The last byte of the name stays zero. -/
def DisplayMode.toRaw (m : DisplayMode) : RawMode where
  clock := m.clock
  hdisplay := m.hdisplay
  hsyncStart := m.hsyncStart
  hsyncEnd := m.hsyncEnd
  htotal := m.htotal
  hskew := m.hskew
  vdisplay := m.vdisplay
  vsyncStart := m.vsyncStart
  vsyncEnd := m.vsyncEnd
  vtotal := m.vtotal
  vscan := m.vscan
  vrefresh := m.vrefresh
  flags := m.flags
  kind := m.kind
  name := nameBytes ((Utf8.encode m.name.toList).take 31)

end Scanout
