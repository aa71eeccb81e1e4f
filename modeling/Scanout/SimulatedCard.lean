import Scanout.Card

/-!
# A simulated card node

A node with resources that can be replaced at will, which keeps the requests that reached
it. One request of a name can be made to fail; such a request does not reach the node,
except that a poll does.
-/

namespace Scanout

/-- A failure that the next request of a name meets. -/
structure CardFault where
  requestName : String
  errno : Int
  deriving DecidableEq, Inhabited

structure SimulatedCard where
  connectors : List RawConnector
  encoders : List RawEncoder
  crtcs : List RawCrtc
  /-- The framebuffers that exist; how often one is listed does not matter. -/
  framebuffers : List UInt32
  nextFramebuffer : UInt32
  /-- The events that can be read, the oldest first. -/
  events : List CardEvent
  faults : List CardFault
  /-- The requests that reached the node, the latest first. -/
  reached : List CardRequest
  deriving Inhabited

/-- The name by which faults know a request. Reading events cannot be made to fail. -/
def CardRequest.name? : CardRequest → Option String
  | resources => some "resources"
  | connector _ => some "connector"
  | encoder _ => some "encoder"
  | crtc _ => some "crtc"
  | addFramebuffer _ _ _ _ _ _ => some "add_fb"
  | removeFramebuffer _ => some "rm_fb"
  | setCrtc _ _ _ _ _ _ => some "set_crtc"
  | pageFlip _ _ _ _ => some "page_flip"
  | poll _ => some "poll"
  | read _ => none

namespace SimulatedCard

def empty : SimulatedCard := ⟨[], [], [], [], 100, [], [], []⟩

/-- The error that something does not exist. -/
def missing : SystemError := .numbered 2

/-- The error that there is nothing to read now. -/
def tryAgain : SystemError := .numbered 11

/-- Opening a path that does not exist. -/
def openMissing : SystemError := .numbered 2

/-- Opening a directory for writing. -/
def openDirectory : SystemError := .numbered 21

/-- Takes the failure that a request meets, if there is one for its name. -/
def takeFault (d : SimulatedCard) (r : CardRequest) : Option SystemError × SimulatedCard :=
  match d.faults.find? fun f => some f.requestName = r.name? with
  | none => (none, d)
  | some f => (some (.numbered f.errno), { d with faults := d.faults.erase f })

def reach (d : SimulatedCard) (r : CardRequest) : SimulatedCard :=
  { d with reached := r :: d.reached }

def orMissing {α : Type} : Option α → Except SystemError α
  | some a => .ok a
  | none => .error missing

def storeCrtc (d : SimulatedCard) (c : RawCrtc) : SimulatedCard :=
  { d with crtcs := d.crtcs.map fun old => if old.id = c.id then c else old }

/-- The answer to a request that meets no failure. -/
def serve (d : SimulatedCard) : (r : CardRequest) → r.Answer × SimulatedCard
  | .resources => (.ok ⟨d.connectors.map (·.id), d.crtcs.map (·.id)⟩, d)
  | .connector id => (orMissing (d.connectors.find? (·.id == id)), d)
  | .encoder id => (orMissing (d.encoders.find? (·.id == id)), d)
  | .crtc id => (orMissing (d.crtcs.find? (·.id == id)), d)
  | .addFramebuffer _ _ _ _ _ _ =>
    (.ok d.nextFramebuffer, { d with
      framebuffers := d.framebuffers.insert d.nextFramebuffer
      nextFramebuffer := d.nextFramebuffer + 1 })
  | .removeFramebuffer fb =>
    if fb ∈ d.framebuffers then (.ok (), { d with framebuffers := d.framebuffers.filter (· ≠ fb) })
    else (.error missing, d)
  | .setCrtc crtc fb x y _ mode =>
    if d.crtcs.any (·.id == crtc) then (.ok (), d.storeCrtc ⟨crtc, fb, x, y, mode⟩)
    else (.error missing, d)
  | .pageFlip crtc fb _ _ =>
    if d.crtcs.any (·.id == crtc) && d.framebuffers.contains fb then (.ok (), d)
    else (.error missing, d)
  | .poll _ => (.ok (if d.events.isEmpty then 0 else 1), d)
  | .read bytes =>
    let count := bytes / CardEvent.bytes
    if d.events.isEmpty then (.error tryAgain, d)
    else (.ok (d.events.take count), { d with events := d.events.drop count })

def refuse (e : SystemError) : (r : CardRequest) → r.Answer
  | .resources => .error e
  | .connector _ => .error e
  | .encoder _ => .error e
  | .crtc _ => .error e
  | .addFramebuffer _ _ _ _ _ _ => .error e
  | .removeFramebuffer _ => .error e
  | .setCrtc _ _ _ _ _ _ => .error e
  | .pageFlip _ _ _ _ => .error e
  | .poll _ => .error e
  | .read _ => .error e

def answer (r : CardRequest) (d : SimulatedCard) : r.Answer × SimulatedCard :=
  match d.takeFault r with
  | (none, d) => (d.reach r).serve r
  | (some e, d) =>
    match r with
    | .poll timeout => (refuse e (.poll timeout), d.reach (.poll timeout))
    | r => (refuse e r, d)

def node : CardNode := ⟨SimulatedCard, answer⟩

/-- The requests that reached the node since an earlier state of it, in order. -/
def reachedSince (earlier later : SimulatedCard) : List CardRequest :=
  (later.reached.take (later.reached.length - earlier.reached.length)).reverse

end SimulatedCard
end Scanout
