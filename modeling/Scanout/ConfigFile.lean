import Scanout.ConfigReader
import Scanout.Utf8Text

/-!
# Configuration files

A configuration is loaded from a file, whose bytes have to be text. Where the bytes come
from is left open: whoever loads a file says how files are read.
-/

namespace Scanout

/-- The error that bytes are no text. -/
def notText : SystemError := .described .invalidData "stream did not contain valid UTF-8"

def Config.load (readFile : String → Except SystemError (List UInt8)) (path : String) :
    Except ConfigError Config :=
  match readFile path with
  | .error cause => .error (.unreadable path cause)
  | .ok bytes =>
    match Utf8.decodeStrict bytes with
    | none => .error (.unreadable path notText)
    | some text => Config.ofText (String.ofList text)

end Scanout
