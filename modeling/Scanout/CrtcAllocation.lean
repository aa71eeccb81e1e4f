import Scanout.CrtcClaims
import Scanout.Session

/-!
# Assigning CRTCs

A connector gets the first CRTC that is free and that one of its encoders can be fed from.
Encoders are asked in the order of the connector's list, and only until one serves; an
encoder that cannot be read is passed over.
-/

namespace Scanout

/-- The first unclaimed CRTC of the device's list that can feed an encoder. -/
def EncoderInfo.firstFree (encoder : EncoderInfo) (crtcs : List CrtcHandle)
    (claims : CrtcClaims) : Option CrtcHandle :=
  (crtcs.zipIdx.find? fun (crtc, index) =>
    encoder.supportsCrtcIndex index && !claims.isClaimed crtc).map Prod.fst

/-- The first encoder of a list that can be fed from a free CRTC, with that CRTC. -/
def firstFit {m : Type → Type} [Monad m] [Conversation m] (crtcs : List CrtcHandle)
    (claims : CrtcClaims) : List EncoderHandle → m (Option (EncoderHandle × CrtcHandle))
  | [] => return none
  | encoder :: others => do
    match ← kernel (.encoder encoder) with
    | .error _ => firstFit crtcs claims others
    | .ok info =>
      match info.firstFree crtcs claims with
      | some crtc => return some (encoder, crtc)
      | none => firstFit crtcs claims others

/-- Assigns a CRTC of the device's list to an output on a connector and claims it. -/
def allocateCrtc {m : Type → Type} [Monad m] [Conversation m] (connector : ConnectorInfo)
    (crtcs : List CrtcHandle) (id : OutputId) (claims : CrtcClaims) :
    m (Except AllocationError (EncoderHandle × CrtcHandle) × CrtcClaims) := do
  match ← firstFit crtcs claims connector.encoders with
  | none => return (.error (.noCrtcAvailable connector.handle), claims)
  | some (encoder, crtc) =>
    note (.claimed crtc id)
    return (.ok (encoder, crtc), (claims.claim crtc id).2)

end Scanout
