import Scanout.Proofs.JournalMoments
import Scanout.Proofs.OutputRelease

/-!
# Waiting for a flip

Waiting goes in rounds. Each round reads the clock and gives up if it is too late; otherwise it asks
the kernel to wait for the time that is left, and passes on what completed meanwhile. `Drained` is
the trace of the rounds. All that becomes of the books is that the completions are passed on, and
the flip is pending in the end exactly if waiting failed.
-/

namespace Scanout

/-- The completions that the entry reads. -/
def JournalEntry.completions : JournalEntry → List FlipCompletion
  | .call (.kernel .receive) (.ok completions) => completions
  | .call _ _ | .claimed _ _ | .released _ | .event _ => []

/-- All completions that were read, in the order in which they were. -/
def received : List JournalEntry → List FlipCompletion
  | [] => []
  | e :: earlier => received earlier ++ e.completions

section Received

variable {g g' : List JournalEntry}

theorem received_append (g' g : List JournalEntry) :
    received (g' ++ g) = received g ++ received g' := by
  induction g' with
  | nil => simp [received]
  | cons e g' ih => rw [List.cons_append, received, ih, received, List.append_assoc]

theorem received_eq_nil (h : ∀ e ∈ g, e.completions = []) : received g = [] := by
  induction g with
  | nil => rfl
  | cons e g ih =>
    rw [received, ih fun e' he' => h e' (List.mem_cons_of_mem _ he'), h e (by simp)]
    rfl

theorem mem_received {k : FlipCompletion} : k ∈ received g ↔
    ∃ later completions earlier,
      g = later ++ .call (.kernel .receive) (.ok completions) :: earlier ∧ k ∈ completions := by
  constructor
  · intro h
    induction g with
    | nil => contradiction
    | cons e g ih =>
      rcases List.mem_append.1 h with h | h
      · obtain ⟨later, completions, earlier, rfl, hk⟩ := ih h
        exact ⟨e :: later, completions, earlier, rfl, hk⟩
      · unfold JournalEntry.completions at h
        split at h
        · exact ⟨[], _, g, rfl, h⟩
        · contradiction
        · contradiction
        · contradiction
        · contradiction
  · rintro ⟨later, completions, earlier, rfl, hk⟩
    simp [received_append, received, JournalEntry.completions, hk]

theorem received_readyEntries (ids : List OutputId) : received (Backend.readyEntries ids) = [] := by
  refine received_eq_nil fun e he => ?_
  obtain ⟨id, -, rfl⟩ := List.mem_map.1 (List.mem_reverse.1 he)
  rfl

end Received

/-- So far the clock was never read at or past the deadline, and a wait comes right after a reading
and is for the time that is left. -/
def Timely (deadline : Duration) (earlier : List JournalEntry) (e : JournalEntry) : Prop :=
  (∀ time, .call .clock time ∈ earlier → ¬deadline ≤ time) ∧
    ∀ timeout answer, e = .call (.kernel (.wait timeout)) answer →
      ∃ time before, earlier = .call .clock time :: before ∧ timeout = deadline - time

/-- The entry neither reads the clock nor waits. -/
def JournalEntry.Untimed : JournalEntry → Prop
  | .call .clock _ | .call (.kernel (.wait _)) _ => False
  | .call _ _ | .claimed _ _ | .released _ | .event _ => True

section Timely

variable {deadline : Duration} {g g' : List JournalEntry}

theorem timely_append (h : Each (Timely deadline) g)
    (hearly : ∀ time, .call .clock time ∈ g → ¬deadline ≤ time) (h' : Each (Timely deadline) g') :
    Each (Timely deadline) (g' ++ g) := by
  refine Each.append_iff.2 ⟨h'.imp ?_, h⟩
  rintro earlier e ⟨hbefore, hwait⟩
  refine ⟨fun time htime => ?_, fun timeout answer he => ?_⟩
  · exact (List.mem_append.1 htime).elim (hbefore time) (hearly time)
  · obtain ⟨time, before, rfl, ht⟩ := hwait timeout answer he
    exact ⟨time, before ++ g, rfl, ht⟩

theorem timely_of_untimed (h : ∀ e ∈ g, e.Untimed) : Each (Timely deadline) g := by
  rw [Each.iff_forall]
  rintro later e earlier rfl
  constructor
  · intro time htime
    exact (h (.call .clock time) (by simp [htime])).elim
  · rintro timeout answer rfl
    exact (h (.call (.kernel (.wait timeout)) answer) (by simp)).elim

end Timely

/-- An entry such as waiting makes: the clock is read, the kernel waits or reads completions, or an
output is told that it may draw. -/
def JournalEntry.Waits : JournalEntry → Prop
  | .call .clock _ | .call (.kernel (.wait _)) _ | .call (.kernel .receive) _
  | .event (.renderReady _) => True
  | .call _ _ | .event _ | .claimed _ _ | .released _ => False

namespace RenderContext

variable {W : World}

theorem untimed_destroySurface (surface : SurfaceId) :
    Always (Only JournalEntry.Untimed) (destroySurface surface : RenderM W Unit) := by
  apply always_destroySurface
  case hset => simp [Only]
  case hremove | hunbind | hdestroy => exact fun _ => only_call fun _ => trivial

end RenderContext

namespace Backend

variable {W : World} {id : OutputId} {deadline : Duration} {b b₁ b' : Backend W}
  {r : Except BackendError Unit} {g : List JournalEntry}

def isPending (b : Backend W) (id : OutputId) : Bool := (b.output? id).any (·.flipPending)

theorem SameBooks.isPending (h : SameBooks b b') (id : OutputId) :
    b'.isPending id = b.isPending id := by
  rw [Backend.isPending, h.output?, ← Backend.isPending]

/-- One round of waiting for the flip of an output, which fails or leads to the next one. -/
inductive Round (id : OutputId) (deadline : Duration) (b : Backend W) :
    Except BackendError Unit → List JournalEntry → Backend W → Prop where
  | late {time b'} (ht : deadline ≤ time) (h : SameBooks b b') :
      Round id deadline b (.error (.flipDrainTimeout id b.flipDrainTimeout))
        [.call .clock time] b'
  | unwaited {time cause b'} (ht : ¬deadline ≤ time) (h : SameBooks b b') :
      Round id deadline b (.error (.kernel cause))
        [.call (.kernel (.wait (deadline - time))) (.error cause), .call .clock time] b'
  | idle {time b'} (ht : ¬deadline ≤ time) (h : SameBooks b b') :
      Round id deadline b (.ok ())
        [.call (.kernel (.wait (deadline - time))) (.ok false), .call .clock time] b'
  | unread {time cause b'} (ht : ¬deadline ≤ time) (h : SameBooks b b') :
      Round id deadline b (.error (.kernel cause))
        [.call (.kernel .receive) (.error cause),
          .call (.kernel (.wait (deadline - time))) (.ok true), .call .clock time] b'
  | read {time completions b'} (ht : ¬deadline ≤ time)
      (h : SameBooks (b.completed completions) b') :
      Round id deadline b (.ok ())
        (readyEntries (b.ready completions) ++ [.call (.kernel .receive) (.ok completions),
          .call (.kernel (.wait (deadline - time))) (.ok true), .call .clock time]) b'

namespace Round

theorem books (h : Round id deadline b r g b') : SameBooks (b.completed (received g)) b' := by
  cases h with
  | late _ h | unwaited _ h | idle _ h | unread _ h =>
    simpa [received, JournalEntry.completions] using h
  | read _ h =>
    rw [received_append, received_readyEntries]
    simpa [received, JournalEntry.completions] using h

/-- A round that fails has read nothing. -/
theorem books_of_error {e : BackendError} (h : Round id deadline b (.error e) g b') :
    SameBooks b b' := by
  cases h with
  | late _ h | unwaited _ h | unread _ h => exact h

theorem waits (h : Round id deadline b r g b') : ∀ e ∈ g, e.Waits := by
  cases h with
  | late _ _ | unwaited _ _ | idle _ _ | unread _ _ => simp [JournalEntry.Waits]
  | read _ _ =>
    refine List.forall_mem_append.2 ⟨fun e he => ?_, by simp [JournalEntry.Waits]⟩
    obtain ⟨id, -, rfl⟩ := List.mem_map.1 (List.mem_reverse.1 he)
    trivial

/-- The clock of a round that leads to the next one was not late. -/
theorem early (h : Round id deadline b (.ok ()) g b') (time : Duration)
    (htime : .call .clock time ∈ g) : ¬deadline ≤ time := by
  cases h with
  | idle ht _ =>
    obtain rfl : time = _ := by simpa using htime
    exact ht
  | read ht _ =>
    obtain rfl : time = _ := by simpa [readyEntries] using htime
    exact ht

theorem timely (h : Round id deadline b r g b') : Each (Timely deadline) g := by
  cases h with
  | late _ _ => simp [Each, Timely]
  | unwaited ht _ | idle ht _ | unread ht _ => simp [Each, Timely, ht]
  | read ht _ =>
    refine timely_append ?_ ?_ (timely_of_untimed ?_)
    · simp [Each, Timely, ht]
    · simp [ht]
    · simp [readyEntries, JournalEntry.Untimed]

end Round

/-- The rounds of waiting for the flip of an output. -/
inductive Drained (id : OutputId) (deadline : Duration) : Backend W →
    Except BackendError Unit → List JournalEntry → Backend W → Prop where
  | settled {b : Backend W} (hp : b.isPending id = false) : Drained id deadline b (.ok ()) [] b
  | exhausted {b : Backend W} (hp : b.isPending id = true) :
      Drained id deadline b (.error (.flipDrainStalled id)) [] b
  | stopped {b b' : Backend W} {e : BackendError} {g : List JournalEntry}
      (hp : b.isPending id = true) (h : Round id deadline b (.error e) g b') :
      Drained id deadline b (.error e) g b'
  | again {b b₁ b' : Backend W} {r : Except BackendError Unit} {g g' : List JournalEntry}
      (hp : b.isPending id = true) (h : Round id deadline b (.ok ()) g b₁)
      (hrest : Drained id deadline b₁ r g' b') : Drained id deadline b r (g' ++ g) b'

theorem yields_drainFlip_drained (id : OutputId) (deadline : Duration) (rounds : Nat)
    (b : Backend W) : Yields (drainFlip id deadline rounds).run b (Drained id deadline b) := by
  induction rounds generalizing b with
  | zero =>
    refine .getOk_bind ?_
    cases hp : (b.output? id).any (·.flipPending) with
    | true => exact .throw (.exhausted hp)
    | false => exact .pureOk (.settled hp)
  | succ rounds ih =>
    refine .getOk_bind ?_
    cases hp : (b.output? id).any (·.flipPending) with
    | false => exact .pureOk (.settled hp)
    | true =>
      rw [if_pos rfl]
      refine (yields_quietCallOk (c := .clock) b fun _ => trivial).bindOk ?_ (by simp)
      rintro time _ b₁ ⟨_, ⟨⟩, rfl, ⟨-, h₁⟩⟩
      by_cases ht : deadline ≤ time
      · rw [if_pos ht]
        exact .throw (.stopped hp (.late ht h₁))
      · rw [if_neg ht]
        refine (yields_call (.kernel (.wait (deadline - time))) b₁).orFail_bindOk ?_ ?_
        · rintro readable _ b₂ ⟨rfl, h₂⟩
          have hsame : SameBooks b b₂ := h₁.trans h₂
          cases readable with
          | false =>
            refine (ih b₂).mono fun r g b' hrest => ?_
            simpa using Drained.again hp (.idle ht hsame) hrest
          | true =>
            rw [if_pos rfl]
            refine (Yields.discardOk (yields_dispatchCompletions b₂)).bindOk ?_ ?_
            · rintro _ _ b₃ ⟨_, hr, ⟨cause, rfl, -, -⟩ | ⟨count, completions, rfl, rfl, h₃⟩⟩
              · cases hr
              · refine (ih b₃).mono fun r g b' hrest => ?_
                rw [hsame.ready]
                have hround : Round id deadline b (.ok ()) _ b₃ :=
                  .read ht ((hsame.completed completions).trans h₃)
                simpa using Drained.again hp hround hrest
            · rintro e _ b₃ ⟨_, hr, ⟨cause, rfl, rfl, h₃⟩ | ⟨count, completions, rfl, -, -⟩⟩
              · obtain rfl := Except.error.inj hr
                exact .stopped hp (.unread ht (hsame.trans h₃))
              · cases hr
        · rintro cause _ b₂ ⟨rfl, h₂⟩
          exact .stopped hp (.unwaited ht (h₁.trans h₂))

/-- Releasing an output takes no time. -/
theorem untimed_releaseOutput (id : OutputId) :
    Always (Only JournalEntry.Untimed) (releaseOutput id : BackendM W Unit) := by
  refine always_releaseOutput ?_ ?_ ?_ ?_
  · intro commit b
    refine (yields_call (.kernel (.setCrtc commit)) b).mono ?_
    rintro answer _ _ ⟨rfl, -⟩
    simp [Only, JournalEntry.Untimed]
  · intro surface b
    obtain ⟨g, hg, h⟩ := RenderContext.untimed_destroySurface surface b.toRenderContext
    exact ⟨g, hg, h⟩
  · exact fun b => ⟨[.released id], rfl, by simp [Only, JournalEntry.Untimed]⟩
  · exact fun f b => ⟨[], rfl, by simp [Only]⟩

namespace Drained

theorem books (h : Drained id deadline b r g b') : SameBooks (b.completed (received g)) b' := by
  induction h with
  | settled _ | exhausted _ => simpa [received] using SameBooks.refl _
  | stopped _ h => exact h.books
  | again _ h _ ih =>
    rw [received_append, completed_append]
    exact (h.books.completed _).trans ih

/-- Waiting succeeds exactly if the flip has completed. -/
theorem isPending (h : Drained id deadline b r g b') : b'.isPending id = !r.isOk := by
  induction h with
  | settled hp | exhausted hp => exact hp
  | stopped hp h => exact (h.books_of_error.isPending id).trans hp
  | again _ _ _ ih => exact ih

/-- Waiting fails only where there is something to wait for. -/
theorem pending_of_error {e : BackendError} (h : Drained id deadline b (.error e) g b') :
    b.isPending id = true := by
  cases h with
  | exhausted hp | stopped hp _ | again hp _ _ => exact hp

theorem waits (h : Drained id deadline b r g b') : ∀ e ∈ g, e.Waits := by
  induction h with
  | settled _ | exhausted _ => simp
  | stopped _ h => exact h.waits
  | again _ h _ ih => exact List.forall_mem_append.2 ⟨ih, h.waits⟩

theorem timely (h : Drained id deadline b r g b') : Each (Timely deadline) g := by
  induction h with
  | settled _ | exhausted _ => trivial
  | stopped _ h => exact h.timely
  | again _ h _ ih => exact timely_append h.timely h.early ih

/-- Where waiting succeeds, the deadline was not seen to pass. -/
theorem early (h : Drained id deadline b (.ok ()) g b') (time : Duration)
    (htime : .call .clock time ∈ g) : ¬deadline ≤ time := by
  generalize hr : Except.ok () = r at h
  induction h with
  | settled _ => simp at htime
  | exhausted _ | stopped _ _ => cases hr
  | again _ h _ ih => exact (List.mem_append.1 htime).elim (fun htime => ih htime hr) (h.early time)

/-- That time has run out is told only after a reading of the clock at or past the deadline. -/
theorem timeout {j : OutputId} {timeout : Duration} (h : Drained id deadline b r g b')
    (hr : r = .error (.flipDrainTimeout j timeout)) : j = id ∧ timeout = b.flipDrainTimeout ∧
      ∃ time before, g = .call .clock time :: before ∧ deadline ≤ time := by
  induction h with
  | settled _ => cases hr
  | exhausted _ => cases hr
  | stopped _ h =>
    obtain rfl := Except.error.inj hr
    cases h with
    | late ht _ => exact ⟨rfl, rfl, _, [], rfl, ht⟩
  | again _ h _ ih =>
    obtain ⟨hj, htimeout, time, before, rfl, ht⟩ := ih hr
    exact ⟨hj, htimeout.trans h.books.timeout, time, before ++ _, rfl, ht⟩

/-- A flip that was awaited in vain is still pending, and one that was not has been reported. -/
theorem record {o : Output} (h : Drained id deadline b r g b') (ho : b.output? id = some o) :
    b'.output? id = some { o with flipPending := !r.isOk } := by
  have hrecord := (h.books.output? id).trans (output?_completed b (received g) id)
  have hpending := h.isPending
  rw [ho, Option.map_some] at hrecord
  rw [Backend.isPending, hrecord, Option.any_some] at hpending
  rw [hrecord, ← hpending]

/-- Where a flip was pending and waiting succeeded, its completion was read. -/
theorem reported {o : Output} (h : Drained id deadline b (.ok ()) g b')
    (ho : b.output? id = some o) (hp : o.flipPending = true) :
    ∃ k ∈ received g, b.claims.owner k.crtc = some id := by
  have hpending := h.isPending
  rw [Backend.isPending, h.books.output?, output?_completed, ho] at hpending
  simpa [hp, completes, Except.isOk, Except.toBool] using hpending

end Drained
end Backend
end Scanout
