import Scanout.DeviceCall

/-!
# Sessions with a device

A session is the state of a world together with the journal of what was said to it. The
journal also notes what the outputs' owner did in between: claims that were granted or
given up and events that were sent, so that their order with the calls can be told.
-/

namespace Scanout

inductive JournalEntry
  | call (c : Call) (answer : c.Answer)
  | claimed (crtc : CrtcHandle) (id : OutputId)
  | released (id : OutputId)
  | event (e : OutputEvent)

/-- A world and the journal of the session with it, the latest entry first. -/
structure Session (W : World) where
  world : W.State
  journal : List JournalEntry

abbrev SessionM (W : World) := StateM (Session W)

/-- What can make calls and write the journal: a session, and whatever holds one. -/
class Conversation (m : Type → Type) where
  /-- Makes a call and notes it with its answer. -/
  call : (c : Call) → m c.Answer
  note : JournalEntry → m Unit

export Conversation (call note)

instance {W : World} : Conversation (SessionM W) where
  call c := fun s =>
    let (answer, world) := W.answer c s.world
    (answer, ⟨world, .call c answer :: s.journal⟩)
  note e := fun s => ((), { s with journal := e :: s.journal })

instance {m : Type → Type} [Monad m] [Conversation m] {ε : Type} :
    Conversation (ExceptT ε m) where
  call c := ExceptT.lift (call c)
  note e := ExceptT.lift (note e)

def kernel {m : Type → Type} [Conversation m] (request : KernelCall) : m request.Answer :=
  call (.kernel request)

def gpu {m : Type → Type} [Conversation m] (operation : GpuCall) : m operation.Answer :=
  call (.gpu operation)

def now {m : Type → Type} [Conversation m] : m Duration := call .clock

/-- Takes a failure that was answered as the failure of what is being done. -/
def orFail {m : Type → Type} [Monad m] {δ ε α : Type} (cause : δ → ε) (act : m (Except δ α)) :
    ExceptT ε m α :=
  ExceptT.mk do
    match ← act with
    | .ok a => return .ok a
    | .error e => return .error (cause e)

namespace Session

variable {W : World}

def start (w : W.State) : Session W := ⟨w, []⟩

end Session

/-- The entries that a journal has gained since an earlier state of it, in order. -/
def JournalEntry.since (earlier later : List JournalEntry) : List JournalEntry :=
  (later.take (later.length - earlier.length)).reverse

@[simp] theorem JournalEntry.since_append (gained earlier : List JournalEntry) :
    since earlier (gained ++ earlier) = gained.reverse := by
  simp [since]

end Scanout
