/-!
# Outputs as seen from outside

An output is known by the number of its slot. Whoever drives the outputs is told by events
what happened to them; an event queue keeps events in order for as long as somebody is
there to receive them.
-/

namespace Scanout

/-- An output, by the number of its slot. Slots are never given up, so an id stays valid. -/
structure OutputId where
  slot : Nat
  deriving DecidableEq, Inhabited

/-- An output in messages, such as `#3`. -/
def OutputId.text (id : OutputId) : String := "#" ++ toString id.slot

inductive OutputEvent
  /-- A link came up; the output waits for its mode to be set. -/
  | added (id : OutputId)
  /-- A link went down or setting a mode failed; the output should be torn down. -/
  | removed (id : OutputId)
  /-- The last page flip completed; the next frame may be drawn. -/
  | renderReady (id : OutputId)
  deriving DecidableEq, Inhabited

namespace OutputEvent

def output : OutputEvent → OutputId
  | added id | removed id | renderReady id => id

def text : OutputEvent → String
  | added id => s!"Added(OutputId({id.slot}))"
  | removed id => s!"Removed(OutputId({id.slot}))"
  | renderReady id => s!"RenderReady(OutputId({id.slot}))"

end OutputEvent

/-- Events in the order in which they were pushed, and whether anybody still receives them. -/
structure EventQueue where
  events : List OutputEvent
  hasReceiver : Bool
  deriving DecidableEq, Inhabited

namespace EventQueue

def empty : EventQueue := ⟨[], true⟩

/-- Adds an event at the end; without a receiver the event is lost. -/
def push (q : EventQueue) (e : OutputEvent) : EventQueue :=
  if q.hasReceiver then { q with events := q.events ++ [e] } else q

/-- The receiver goes away; what it was sent before stays sent. -/
def dropReceiver (q : EventQueue) : EventQueue := { q with hasReceiver := false }

/-- The queue after a list of events was pushed; the receiver may go away before the event at a
given place of the list. -/
def ofList (events : List OutputEvent) (goesBefore : Option Nat) : EventQueue :=
  match goesBefore with
  | none => events.foldl push empty
  | some n => (events.drop n).foldl push ((events.take n).foldl push empty).dropReceiver

/-- A queue gains events at its end, in their order, if somebody is there to receive them; otherwise
it stays as it is. -/
structure Gains (q : EventQueue) (events : List OutputEvent) (q' : EventQueue) : Prop where
  received : q.hasReceiver = true → q'.events = q.events ++ events
  lost : q.hasReceiver = false → q'.events = q.events
  hasReceiver : q'.hasReceiver = q.hasReceiver

theorem foldl_push_received (es fs : List OutputEvent) :
    fs.foldl push ⟨es, true⟩ = ⟨es ++ fs, true⟩ := by
  induction fs generalizing es with
  | nil => simp
  | cons f fs ih => simp [push, ih]

theorem foldl_push_lost (es fs : List OutputEvent) :
    fs.foldl push ⟨es, false⟩ = ⟨es, false⟩ := by
  induction fs with
  | nil => rfl
  | cons f fs ih => simpa [push] using ih

theorem gains_foldl_push (q : EventQueue) (events : List OutputEvent) :
    q.Gains events (events.foldl push q) := by
  obtain ⟨es, received⟩ := q
  cases received with
  | true =>
    rw [foldl_push_received]
    exact ⟨fun _ => rfl, nofun, rfl⟩
  | false =>
    rw [foldl_push_lost]
    exact ⟨nofun, fun _ => rfl, rfl⟩

theorem events_ofList_none (events : List OutputEvent) : (ofList events none).events = events := by
  simp [ofList, empty, foldl_push_received]

/-- What was pushed before the receiver went away is received. -/
theorem events_ofList_some (events : List OutputEvent) (n : Nat) :
    (ofList events (some n)).events = events.take n := by
  simp [ofList, empty, foldl_push_received, dropReceiver, foldl_push_lost]

end EventQueue
end Scanout
