import Scanout.DisplayMode
import Scanout.ModeRequest

/-!
# Choosing a mode

A request is resolved against the modes a display advertises and the mode it was driven
with before. `ModeRequest.accepts` says which modes satisfy a request; the first one that
does is chosen, and each way to find none has an error of its own.
-/

namespace Scanout

inductive ModeSelectionError
  | invalidRequest (cause : MalformedModeRequest)
  | noPreviousMode
  /-- The mode in use is not advertised: the device contradicts itself. -/
  | currentModeMissing
  | noMatchingMode (request : ModeRequest)
  deriving DecidableEq

/-- Whether a mode satisfies a request, given the mode in use before. -/
def ModeRequest.accepts (previous : Option DisplayMode) : ModeRequest → DisplayMode → Bool
  | .preferred, _ => true
  | .current, mode => previous == some mode
  | .resolution width height refresh, mode =>
    mode.size == (width, height) && refresh.all (mode.refresh == ·)

/-- The place of the first advertised mode that satisfies the request. -/
def resolveModeIndex (modes : List DisplayMode) (previous : Option DisplayMode)
    (request : ModeRequest) : Except ModeSelectionError (Fin modes.length) :=
  if request = .current ∧ previous = none then .error .noPreviousMode
  else match modes.findFinIdx? (request.accepts previous) with
    | some i => .ok i
    | none =>
      if request = .current then .error .currentModeMissing
      else .error (.noMatchingMode request)

/-- The first advertised mode that satisfies the request. -/
def resolveMode (modes : List DisplayMode) (previous : Option DisplayMode)
    (request : ModeRequest) : Except ModeSelectionError DisplayMode :=
  (resolveModeIndex modes previous request).map modes.get

/-- Reads a request and resolves it to the place of a mode. -/
def selectModeIndex (modes : List DisplayMode) (previous : Option DisplayMode)
    (request : String) : Except ModeSelectionError (Fin modes.length) :=
  match ModeRequest.parse request with
  | .ok request => resolveModeIndex modes previous request
  | .error cause => .error (.invalidRequest cause)

def selectMode (modes : List DisplayMode) (previous : Option DisplayMode) (request : String) :
    Except ModeSelectionError DisplayMode :=
  (selectModeIndex modes previous request).map modes.get

end Scanout
