import Scanout.Backend
import Scanout.QuotedText

/-!
# Records as shown to a developer

Outputs, rendering contexts and registrations on one line, with their fields by name.
-/

namespace Scanout

def recordText (name : String) (fields : List (String × String)) : String :=
  name ++ " \x7b " ++ ", ".intercalate (fields.map fun (field, value) => field ++ ": " ++ value) ++
    " \x7d"

/-- A value that may be absent. -/
def optionText (text : Option String) : String :=
  match text with
  | some text => "Some(" ++ text ++ ")"
  | none => "None"

def flagText (b : Bool) : String := if b then "true" else "false"

/-- An output record without its lists and handles of use to nobody else. -/
def Output.text (o : Output) : String :=
  recordText "Output" [
    ("name", quoted o.name),
    ("connector", o.connector.text),
    ("state", o.state.text),
    ("crtc", optionText (o.crtc.map (·.text))),
    ("mode", optionText (o.mode.map fun m => quoted m.text)),
    ("has_surface", flagText o.hasSurface),
    ("flip_pending", flagText o.flipPending),
    ("cleanup", flagText o.cleaningUp)]

def FramebufferId.text (fb : FramebufferId) : String := s!"FramebufferId({fb.id})"

def registrationText (fb : FramebufferId) : String :=
  recordText "FramebufferGuard" [("id", fb.text)]

/-- A rendering context, of which only whether it is released is told. -/
def RenderContext.text {W : World} (c : RenderContext W) : String :=
  "RenderContext \x7b initialized: " ++ flagText c.isInitialized ++ ", .. \x7d"

end Scanout
