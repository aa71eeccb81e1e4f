import Scanout.RawMode
import Scanout.SystemError

/-!
# Requests on a card node

The node of a graphics card takes requests with records of plain numbers, in which zero
stands for "none", can be polled, and can be read for event records. A `CardNode` answers
requests from a state of its own.
-/

namespace Scanout

structure RawResources where
  connectors : List UInt32
  crtcs : List UInt32
  deriving DecidableEq, Inhabited

structure RawConnector where
  id : UInt32
  kind : UInt32
  kindId : UInt32
  connection : UInt32
  modes : List RawMode
  encoders : List UInt32
  encoder : UInt32
  deriving DecidableEq, Inhabited

structure RawEncoder where
  id : UInt32
  crtc : UInt32
  possibleCrtcs : UInt32
  deriving DecidableEq, Inhabited

structure RawCrtc where
  id : UInt32
  framebuffer : UInt32
  x : UInt32
  y : UInt32
  mode : Option RawMode
  deriving DecidableEq, Inhabited

inductive CardEventKind
  | flipComplete
  | vblank
  | other
  deriving DecidableEq, Inhabited

/-- An event record of 32 bytes. -/
structure CardEvent where
  kind : CardEventKind
  crtc : UInt32
  sequence : UInt32
  seconds : UInt32
  microseconds : UInt32
  userData : UInt64
  deriving DecidableEq, Inhabited

def CardEvent.bytes : Nat := 32

inductive CardRequest
  | resources
  | connector (id : UInt32)
  | encoder (id : UInt32)
  | crtc (id : UInt32)
  | addFramebuffer (width height pitch bpp depth handle : UInt32)
  | removeFramebuffer (framebuffer : UInt32)
  | setCrtc (crtc framebuffer x y : UInt32) (connectors : List UInt32) (mode : Option RawMode)
  | pageFlip (crtc framebuffer flags : UInt32) (userData : UInt64)
  /-- Waits until the node can be read, but no longer than some milliseconds. -/
  | poll (timeout : Nat)
  /-- Reads whole event records into a buffer of some bytes. -/
  | read (bytes : Nat)
  deriving DecidableEq

/-- What a card node answers; a poll tells how many nodes are ready. -/
abbrev CardRequest.Answer : CardRequest → Type
  | resources => Except SystemError RawResources
  | connector _ => Except SystemError RawConnector
  | encoder _ => Except SystemError RawEncoder
  | crtc _ => Except SystemError RawCrtc
  | addFramebuffer _ _ _ _ _ _ => Except SystemError UInt32
  | removeFramebuffer _ => Except SystemError Unit
  | setCrtc _ _ _ _ _ _ => Except SystemError Unit
  | pageFlip _ _ _ _ => Except SystemError Unit
  | poll _ => Except SystemError Nat
  | read _ => Except SystemError (List CardEvent)

structure CardNode where
  State : Type
  answer : (r : CardRequest) → State → r.Answer × State

end Scanout
