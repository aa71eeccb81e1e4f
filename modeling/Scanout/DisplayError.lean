import Scanout.KernelResource
import Scanout.ModeSelection
import Scanout.OutputEvent
import Scanout.SystemError

/-!
# What can go wrong with outputs

Each error is a cause. `message` tells it in one sentence that includes the messages of the
errors it came from, and `causes` lists those errors' messages, the nearest first.
-/

namespace Scanout

inductive RendererInitError
  | libraryLoad (text : String)
  | noDisplayExtension
  | noDevice (cause : SystemError)
  | apiBind
  | noDisplay
  | noConfig
  | noContext
  deriving DecidableEq

inductive RenderError
  | contextReleased
  | surfaceCreation (text : String)
  | makeCurrent (text : String)
  | swapBuffers (text : String)
  | frontBuffer (text : String)
  | framebuffer (cause : SystemError)
  deriving DecidableEq, Inhabited

inductive AllocationError
  | noCrtcAvailable (connector : ConnectorHandle)
  deriving DecidableEq

inductive ModesetError
  | linkInactive
  | noModes
  | mode (cause : ModeSelectionError)
  | allocation (cause : AllocationError)
  | render (cause : RenderError)
  | kernel (cause : SystemError)
  deriving DecidableEq

inductive BackendError
  | rendererInit (cause : RendererInitError)
  | modeset (cause : ModesetError)
  | render (cause : RenderError)
  | kernel (cause : SystemError)
  | unknownOutput (id : OutputId)
  | notConnected (id : OutputId)
  | flipDrainTimeout (id : OutputId) (timeout : Duration)
  /-- The wait for a flip went through every round it was given before the clock reached its
  deadline. -/
  | flipDrainStalled (id : OutputId)
  deriving DecidableEq

def ConnectorHandle.text (h : ConnectorHandle) : String := s!"ConnectorHandle({h.id})"

def CrtcHandle.text (h : CrtcHandle) : String := s!"CrtcHandle({h.id})"

namespace RendererInitError

def message : RendererInitError → String
  | libraryLoad text => "Could not load libEGL: " ++ text
  | noDisplayExtension =>
    "EGL platform display extensions (EGL_EXT_platform_base) are not available"
  | noDevice cause => "Could not create GBM device: " ++ cause.message
  | apiBind => "Could not bind the OpenGL ES API"
  | noDisplay => "Could not create or initialize the EGL display"
  | noConfig => "No EGL config with an XRGB8888 native visual"
  | noContext => "Could not create EGL context"

def causes : RendererInitError → List String
  | noDevice cause => [cause.message]
  | _ => []

end RendererInitError

namespace RenderError

def message : RenderError → String
  | contextReleased => "Rendering context has already been torn down"
  | surfaceCreation text => "Failed to create output surface: " ++ text
  | makeCurrent text => "Failed to make output surface current: " ++ text
  | swapBuffers text => "Buffer swap failed: " ++ text
  | frontBuffer text => "Failed to lock front buffer: " ++ text
  | framebuffer cause => "Failed to register scan-out framebuffer: " ++ cause.message

def causes : RenderError → List String
  | framebuffer cause => [cause.message]
  | _ => []

end RenderError

namespace MalformedModeRequest

def message (e : MalformedModeRequest) : String :=
  "Invalid mode request '" ++ e.text ++
    "', expected 'preferred', 'current' or '<width>x<height>[@<refresh>]'"

end MalformedModeRequest

namespace ModeSelectionError

/-- A malformed request speaks for itself here. -/
def message : ModeSelectionError → String
  | invalidRequest cause => cause.message
  | noPreviousMode => "Output does not have a currently configured mode"
  | currentModeMissing => "Active mode is not in the advertised mode list"
  | noMatchingMode request => "No advertised mode matches '" ++ request.text ++ "'"

def causes (_ : ModeSelectionError) : List String := []

end ModeSelectionError

namespace AllocationError

def message : AllocationError → String
  | noCrtcAvailable connector =>
    "No free encoder/CRTC pairing for connector " ++ connector.text

def causes (_ : AllocationError) : List String := []

end AllocationError

namespace ModesetError

def message : ModesetError → String
  | linkInactive => "Connector link is not active"
  | noModes => "Connector advertises no modes"
  | mode cause => "Could not select mode: " ++ cause.message
  | allocation cause => "Could not allocate display resources: " ++ cause.message
  | render cause => "Could not set up output rendering: " ++ cause.message
  | kernel cause => "KMS request failed: " ++ cause.message

def causes : ModesetError → List String
  | linkInactive | noModes => []
  | mode cause => cause.message :: cause.causes
  | allocation cause => cause.message :: cause.causes
  | render cause => cause.message :: cause.causes
  | kernel cause => [cause.message]

end ModesetError

namespace BackendError

def message : BackendError → String
  | rendererInit cause => "Renderer initialization failed: " ++ cause.message
  | modeset cause => "Mode-set failed: " ++ cause.message
  | render cause => "Rendering failed: " ++ cause.message
  | kernel cause => "KMS request failed: " ++ cause.message
  | unknownOutput id => "Unknown output " ++ id.text
  | notConnected id => "Output " ++ id.text ++ " has no active surface"
  | flipDrainTimeout id timeout =>
    "Page flip on output " ++ id.text ++ " did not complete within " ++ timeout.text
  | flipDrainStalled id =>
    "Page flip on output " ++ id.text ++ " did not complete and the clock does not advance"

def causes : BackendError → List String
  | rendererInit cause => cause.message :: cause.causes
  | modeset cause => cause.message :: cause.causes
  | render cause => cause.message :: cause.causes
  | kernel cause => [cause.message]
  | unknownOutput _ | notConnected _ | flipDrainTimeout _ _ | flipDrainStalled _ => []

end BackendError
end Scanout
