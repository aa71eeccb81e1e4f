import Scanout.DisplayError

/-!
# Kinds of errors

Every error has a short kind by which a program can tell it from others, whatever its message
says. The kind of an error that has another one as its cause is the path to that cause, with
dots in between.
-/

namespace Scanout

def RendererInitError.kind : RendererInitError → String
  | libraryLoad _ => "LibraryLoad"
  | noDisplayExtension => "NoDisplayExtension"
  | noDevice _ => "NoDevice"
  | apiBind => "ApiBind"
  | noDisplay => "NoDisplay"
  | noConfig => "NoConfig"
  | noContext => "NoContext"

def RenderError.kind : RenderError → String
  | contextReleased => "ContextReleased"
  | surfaceCreation _ => "SurfaceCreation"
  | makeCurrent _ => "MakeCurrent"
  | swapBuffers _ => "SwapBuffers"
  | frontBuffer _ => "FrontBuffer"
  | framebuffer _ => "Framebuffer"

def ModeSelectionError.kind : ModeSelectionError → String
  | invalidRequest _ => "InvalidRequest"
  | noPreviousMode => "NoPreviousMode"
  | currentModeMissing => "CurrentModeMissing"
  | noMatchingMode _ => "NoMatchingMode"

def AllocationError.kind : AllocationError → String
  | noCrtcAvailable _ => "NoCrtcAvailable"

def ModesetError.kind : ModesetError → String
  | linkInactive => "LinkInactive"
  | noModes => "NoModes"
  | mode cause => "Mode." ++ cause.kind
  | allocation cause => "Allocation." ++ cause.kind
  | render cause => "Render." ++ cause.kind
  | kernel _ => "Kms"

def BackendError.kind : BackendError → String
  | rendererInit cause => "RendererInit." ++ cause.kind
  | modeset cause => "Modeset." ++ cause.kind
  | render cause => "Render." ++ cause.kind
  | kernel _ => "Kms"
  | unknownOutput _ => "UnknownOutput"
  | notConnected _ => "NotConnected"
  | flipDrainTimeout _ _ => "FlipDrainTimeout"
  | flipDrainStalled _ => "FlipDrainStalled"

end Scanout
