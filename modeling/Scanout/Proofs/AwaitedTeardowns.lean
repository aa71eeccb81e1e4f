import Scanout.Proofs.BufferUpkeep
import Scanout.Proofs.ResourceConservation

/-!
# A teardown waits, or it leaves the output as it was

A teardown gives nothing up before the flip of its output has completed. If that takes too long or a
call fails, the output is marked as being torn down and otherwise keeps what it has. So a teardown
may be tried again: what the attempts leave behind depends on the completions that they read, and
not on how many attempts there were.
-/

namespace Scanout

theorem JournalEntry.IsMuteTo.completions_eq {j : OutputId} {e : JournalEntry} (h : e.IsMuteTo j) :
    e.completions = [] := by
  unfold JournalEntry.completions
  split
  · exact absurd h nofun
  · rfl
  · rfl
  · rfl
  · rfl

namespace Backend

variable {W : World} {id : OutputId} {deadline : Duration} {b b₁ b' : Backend W} {o : Output}
  {s : OutputSurface} {r : Except BackendError Unit} {g : List JournalEntry}

@[simp] theorem ready_nil (b : Backend W) : b.ready [] = [] := rfl

theorem told_readyEntries (ids : List OutputId) :
    told (readyEntries ids) = ids.map .renderReady := by
  rw [told, readyEntries, List.filterMap_reverse, List.reverse_reverse, List.filterMap_map]
  exact congrFun List.filterMap_eq_map' ids

theorem Round.told_eq (h : Round id deadline b r g b') :
    told g = (b.ready (received g)).map .renderReady := by
  cases h with
  | late _ _ | unwaited _ _ | idle _ _ | unread _ _ =>
    simp [told, JournalEntry.event?, received, JournalEntry.completions]
  | read _ _ =>
    rw [told_append, told_readyEntries, received_append, received_readyEntries]
    simp [told, JournalEntry.event?, received, JournalEntry.completions]

/-- While a flip is awaited, the outputs that are told are those whose flips are reported. -/
theorem Drained.told_eq (h : Drained id deadline b r g b') :
    told g = (b.ready (received g)).map .renderReady := by
  induction h with
  | settled _ | exhausted _ => rfl
  | stopped _ h => exact h.told_eq
  | again _ h _ ih =>
    rw [told_append, received_append, ready_append, List.map_append, h.told_eq, ih, h.books.ready,
      ready_completed]

/-- A surface is freed in the course of a release, and only the context knows how. -/
theorem yields_releaseOutput_frees (ho : b.output? id = some o) (hs : o.surface = some s) :
    Yields (releaseOutput id) b fun _ _ b' => b'.chains = (b.freed s.surface).2 := by
  refine Yields.get_bind ?_
  simp only [ho, hs]
  refine (yields_updateOutput id _ b).bind ?_
  rintro _ _ b₁ ⟨rfl, hb₁⟩
  refine ((always_restoreCrtc (fun _ => sameChains_call) o.connector o.crtc o.savedCrtc b₁).and
    (relays_restoreCrtc o.connector o.crtc o.savedCrtc b₁)).bind ?_
  rintro _ _ b₂ ⟨hchains, hrelays⟩
  have hfreed : b₂.freed s.surface = b.freed s.surface := by
    rw [RenderContext.freed, hrelays.handles, show b₂.chains = b₁.chains from hchains, hb₁]
    rfl
  refine (yields_context (RenderContext.yields_destroySurface_frees s.surface _)).bind ?_
  rintro _ _ b₃ ⟨⟨-, h₃⟩, -⟩
  have hclaims : Yields (releaseClaims id) b₃ fun _ _ b' => b'.chains = b₃.chains :=
    ⟨[.released id], rfl, rfl⟩
  refine hclaims.bind ?_
  intro _ _ b₄ h₄
  exact ⟨[], rfl, (h₄.trans h₃).trans (congrArg Prod.snd hfreed)⟩

/-- The swap chains stay as they are unless the surface is released. -/
theorem yields_teardownOutput_frees (ho : b.output? id = some o) (hs : o.surface = some s) :
    Yields (teardownOutput id).run b fun r _ b' =>
      b'.chains = if r.isOk then (b.freed s.surface).2 else b.chains := by
  have hwait := (always_awaitFlip (R := Calm) id (b.marked id)).and
    (always_awaitFlip (R := Relays) id (b.marked id))
  refine yields_teardownOutput_of_parts ho hs hwait ?_ ?_
  · rintro g b₁ ⟨hcalm, hrelays⟩
    have hholding : b₁.holding? id = some ⟨s.surface, o.crtc, o.savedCrtc⟩ := by
      rw [hcalm.holding, holding?_marked, holding?_of_output? ho, Output.holding?, hs,
        Option.map_some]
    obtain ⟨o₁, s₁, ho₁, hs₁, heq⟩ := holding?_eq_some_iff.1 hholding
    refine (yields_releaseOutput_frees ho₁ hs₁).mono ?_
    intro _ _ b' h'
    have hsurface : s₁.surface = s.surface := congrArg Holding.surface heq
    rw [h', hsurface]
    simp only [RenderContext.freed, hrelays.handles, hcalm.chains]
    rfl
  · rintro e g b₁ ⟨hcalm, -⟩
    exact hcalm.chains

/-- Two backends, which may have to do with different devices, that are alike in everything but
what is outside of them. -/
structure Alike {W W' : World} (b : Backend W) (c : Backend W') : Prop where
  outputs : c.outputs = b.outputs
  claims : c.claims = b.claims
  queue : c.queue = b.queue
  timeout : c.flipDrainTimeout = b.flipDrainTimeout
  handles : c.handles = b.handles
  chains : c.chains = b.chains

/-- The queue once the other outputs were told of the completions that a teardown read. -/
def queueAfter (b : Backend W) (id : OutputId) (completions : List FlipCompletion) : EventQueue :=
  (((b.marked id).ready completions).map .renderReady).foldl EventQueue.push b.queue

/-- What a failed teardown leaves behind, given the completions that it read. -/
def stalled (b : Backend W) (id : OutputId) (completions : List FlipCompletion) : Backend W :=
  { (b.marked id).completed completions with queue := b.queueAfter id completions }

/-- What a successful teardown leaves behind, given the completions that it read. -/
def torn (b : Backend W) (id : OutputId) (surface : SurfaceId)
    (completions : List FlipCompletion) : Backend W :=
  { (b.completed completions).withdrawn id with
    queue := b.queueAfter id completions
    chains := (b.freed surface).2 }

theorem completed_marked (b : Backend W) (id : OutputId) (completions : List FlipCompletion) :
    ((b.marked id).completed completions).outputs =
      ((b.completed completions).marked id).outputs := by
  have hmarked (b : Backend W) (j : OutputId) : (b.marked id).output? j =
      if id = j then (b.output? j).map fun o => { o with cleaningUp := true } else b.output? j :=
    output?_modify rfl j
  refine outputs_ext fun j => ?_
  rw [hmarked, output?_completed, output?_completed, hmarked]
  split
  · rw [Option.map_map, Option.map_map]
    rfl
  · rfl

theorem marked_marked (b : Backend W) (id : OutputId) :
    (b.marked id).marked id = b.marked id := by
  have houtputs : ((b.marked id).marked id).outputs = (b.marked id).outputs :=
    List.modify_modify_eq ..
  exact congrArg (fun outputs => { b with outputs }) houtputs

theorem SameBooks.withdrawn (h : SameBooks b b') (id : OutputId) :
    SameBooks (b.withdrawn id) (b'.withdrawn id) :=
  (h.modify id.slot .withdrawn).mapClaims (·.release id)

/-- That an output was marked is not to be seen when it was released. -/
theorem withdrawn_completed_marked (b : Backend W) (id : OutputId)
    (completions : List FlipCompletion) :
    SameBooks ((b.completed completions).withdrawn id)
      (((b.marked id).completed completions).withdrawn id) := by
  refine ⟨?_, rfl, rfl, Nat.le_refl _⟩
  show ((b.marked id).completed completions).outputs.modify id.slot .withdrawn = _
  rw [completed_marked]
  exact List.modify_modify_eq ..

namespace Alike

variable {W₁ W₂ W₃ : World} {b₁ : Backend W₁} {b₂ : Backend W₂} {b₃ : Backend W₃}

theorem symm (h : Alike b₁ b₂) : Alike b₂ b₁ :=
  ⟨h.outputs.symm, h.claims.symm, h.queue.symm, h.timeout.symm, h.handles.symm, h.chains.symm⟩

theorem trans (h : Alike b₁ b₂) (h' : Alike b₂ b₃) : Alike b₁ b₃ :=
  ⟨h'.outputs.trans h.outputs, h'.claims.trans h.claims, h'.queue.trans h.queue,
    h'.timeout.trans h.timeout, h'.handles.trans h.handles, h'.chains.trans h.chains⟩

theorem queueAfter (h : Alike b₁ b₂) (id : OutputId) (completions : List FlipCompletion) :
    b₂.queueAfter id completions = b₁.queueAfter id completions := by
  simp only [Backend.queueAfter, Backend.ready, marked, output?, h.outputs, h.claims, h.queue]

theorem torn (h : Alike b₁ b₂) (id : OutputId) (surface : SurfaceId)
    (completions : List FlipCompletion) :
    Alike (b₁.torn id surface completions) (b₂.torn id surface completions) where
  outputs := by simp only [Backend.torn, withdrawn, completed, completes, h.outputs, h.claims]
  claims := by simp only [Backend.torn, withdrawn, completed, h.claims]
  queue := h.queueAfter id completions
  timeout := h.timeout
  handles := h.handles
  chains := by simp only [Backend.torn, RenderContext.freed, h.handles, h.chains]

end Alike

/-- The completions that a failed attempt has read count for the next one. -/
theorem torn_stalled (b : Backend W) (id : OutputId) (surface : SurfaceId)
    (first others : List FlipCompletion) :
    Alike ((b.stalled id first).torn id surface others) (b.torn id surface (first ++ others)) where
  outputs := by
    have hstalled : SameBooks ((b.completed first).marked id) (b.stalled id first) :=
      ⟨completed_marked b id first, rfl, rfl, Nat.le_refl _⟩
    have hbooks := (withdrawn_completed_marked (b.completed first) id others).trans
      ((hstalled.completed others).withdrawn id)
    rw [← completed_append] at hbooks
    exact hbooks.outputs.symm
  claims := rfl
  queue := by
    have hmarked : SameBooks ((b.marked id).completed first) ((b.stalled id first).marked id) := by
      refine ⟨?_, rfl, rfl, Nat.le_refl _⟩
      exact (completed_marked (b.marked id) id first).symm.trans (by rw [marked_marked])
    show b.queueAfter id (first ++ others) = (b.stalled id first).queueAfter id others
    rw [queueAfter, queueAfter, hmarked.ready, ready_completed, ready_append, List.map_append,
      List.foldl_append]
    rfl
  timeout := rfl
  handles := rfl
  chains := rfl

private theorem Drained.heard {start : Duration} (hstart : SameBooks (b.marked id) b₁)
    (h : Drained id deadline b₁ r g b') :
    received (g ++ [.call .clock start]) = received g ∧
      told (g ++ [.call .clock start]) = ((b.marked id).ready (received g)).map .renderReady ∧
      SameBooks ((b.marked id).completed (received g)) b' := by
  refine ⟨by simp [received_append, received, JournalEntry.completions], ?_,
    (hstart.completed _).trans h.books⟩
  rw [told_append, h.told_eq, hstart.ready]
  rfl

theorem Awaited.heard (h : Awaited id o s b r g b') :
    told g = ((b.marked id).ready (received g)).map .renderReady ∧
      (r = .ok () → SameBooks ((b.completed (received g)).withdrawn id) b') ∧
      ∀ e, r = .error e → SameBooks ((b.marked id).completed (received g)) b' := by
  cases h with
  | stalled hstart h =>
    obtain ⟨hreceived, htold, hbooks⟩ := h.heard hstart
    rw [hreceived]
    exact ⟨htold, nofun, fun _ _ => hbooks⟩
  | @released start g g₁ g₂ b₁ b₂ _ hstart h hback hdestroy _ h' =>
    obtain ⟨hreceived, htold, hbooks⟩ := h.heard hstart
    have hmute (j : OutputId) : ∀ e ∈ .released id :: g₂ ++ g₁, e.IsMuteTo j := by
      simp only [List.forall_mem_append, List.forall_mem_cons]
      exact ⟨⟨trivial, hdestroy.isMuteTo j⟩, hback.isMuteTo j⟩
    have hnone : received (.released id :: g₂ ++ g₁) = [] :=
      received_eq_nil fun e he => (hmute id e he).completions_eq
    rw [received_append, hnone, List.append_nil, hreceived, told_append, told_of_mute hmute,
      List.append_nil]
    refine ⟨htold, fun _ => ?_, nofun⟩
    exact (withdrawn_completed_marked b id (received g)).trans ((hbooks.withdrawn id).trans h')

/-- Whatever a teardown meets, all that counts for what it leaves behind is whether it succeeds and
which completions it read. -/
theorem yields_teardownOutput_alike (ho : b.output? id = some o) (hs : o.surface = some s) :
    Yields (teardownOutput id).run b fun r g b' =>
      (r = .ok () → (b.torn id s.surface (received g)).Alike b') ∧
        ∀ e, r = .error e → (b.stalled id (received g)).Alike b' := by
  refine (((yields_teardownOutput_awaited ho hs).and (relays_teardownOutput id b)).and
    (yields_teardownOutput_frees ho hs)).mono ?_
  rintro r g b' ⟨⟨h, hrelays⟩, hchains⟩
  obtain ⟨htold, hok, herr⟩ := h.heard
  have hqueue : b'.queue = b.queueAfter id (received g) := by rw [hrelays.queue, htold, queueAfter]
  cases r with
  | ok _ =>
    have hbooks := hok rfl
    refine ⟨fun _ => ?_, nofun⟩
    exact ⟨hbooks.outputs, hbooks.claims, hqueue, hbooks.timeout, hrelays.handles, hchains⟩
  | error e =>
    have hbooks := herr e rfl
    refine ⟨nofun, fun _ _ => ?_⟩
    exact ⟨hbooks.outputs, hbooks.claims, hqueue, hbooks.timeout, hrelays.handles, hchains⟩

/-- Failed attempts and one that succeeds leave behind what a single one would have that read the
same completions. -/
theorem run_attempts_alike (n : Nat) (ho : b.output? id = some o) (hs : o.surface = some s)
    (hfail : ∀ i < n, ∃ e, ((teardownOutput id).run
      (b.run (List.replicate i (.teardownOutput id)))).1 = .error e)
    (hok : ((teardownOutput id).run (b.run (List.replicate n (.teardownOutput id)))).1 = .ok ()) :
    ∃ gained, (b.run (List.replicate (n + 1) (.teardownOutput id))).journal = gained ++ b.journal ∧
      (b.torn id s.surface (received gained)).Alike
        (b.run (List.replicate (n + 1) (.teardownOutput id))) := by
  induction n generalizing b o with
  | zero =>
    obtain ⟨g, hg, hsucceeded, -⟩ := yields_teardownOutput_alike ho hs
    exact ⟨g, hg, hsucceeded hok⟩
  | succ n ih =>
    obtain ⟨e, he⟩ := hfail 0 (Nat.succ_pos n)
    obtain ⟨g, hg, -, hfailed⟩ := yields_teardownOutput_alike ho hs
    have hstalled : (b.stalled id (received g)).Alike (b.after (.teardownOutput id)) := hfailed e he
    have ho₁ : (b.after (.teardownOutput id)).output? id =
        ((b.marked id).completed (received g)).output? id := by
      rw [output?, hstalled.outputs]
      rfl
    rw [output?_completed, output?_marked ho, Option.map_some] at ho₁
    obtain ⟨g', hg', halike⟩ := ih ho₁ hs (fun i hi => hfail (i + 1) (Nat.succ_lt_succ hi)) hok
    refine ⟨g' ++ g, ?_, ?_⟩
    · rw [List.append_assoc, ← show (b.after (.teardownOutput id)).journal = g ++ b.journal from hg]
      exact hg'
    · rw [received_append]
      exact ((torn_stalled b id s.surface (received g) (received g')).symm.trans
        (hstalled.torn id s.surface (received g'))).trans halike

/-- An output whose teardown failed: it is marked, and apart from that it has what it had. -/
structure KeptWaiting (id : OutputId) (o : Output) (b : Backend W) (gained : List JournalEntry)
    (b' : Backend W) : Prop where
  pending : o.flipPending = true
  record : b'.output? id = some { o with cleaningUp := true }
  claims : b'.claims = b.claims
  uncommitted : ∀ commit answer, .call (.kernel (.setCrtc commit)) answer ∉ gained
  undrawn : ∀ operation answer, .call (.gpu operation) answer ∉ gained

/-- An output whose teardown succeeded: a flip that was pending was reported before anything was
committed, and everything that setting its mode acquired is gone. -/
structure LetGo (id : OutputId) (o : Output) (b : Backend W) (gained : List JournalEntry)
    (b' : Backend W) : Prop where
  reported : o.flipPending = true → ∃ later completions earlier k,
    gained = later ++ .call (.kernel .receive) (.ok completions) :: earlier ∧
      k ∈ completions ∧ o.crtc = some k.crtc ∧
      ∀ commit answer, .call (.kernel (.setCrtc commit)) answer ∉ earlier
  record : b'.output? id = some
    { o.resetModeset with
      surface := none
      state := if o.state = .connected then .disconnected else o.state }
  claims : b'.claims = b.claims.release id
  unclaimed : ∀ crtc, b'.claims.owner crtc ≠ some id

private theorem Drained.waits_since (h : Drained id deadline b r g b') (start : Duration) :
    ∀ e ∈ g ++ [.call .clock start], e.Waits :=
  List.forall_mem_append.2 ⟨h.waits, by simp [JournalEntry.Waits]⟩

theorem Drained.keptWaiting {start : Duration} {e : BackendError} (ho : b.output? id = some o)
    (hstart : SameBooks (b.marked id) b₁) (h : Drained id deadline b₁ (.error e) g b') :
    KeptWaiting id o b (g ++ [.call .clock start]) b' := by
  have ho₁ := (hstart.output? id).trans (output?_marked ho)
  have hpending : o.flipPending = true := by
    simpa [Backend.isPending, ho₁] using h.pending_of_error
  refine ⟨hpending, ?_, h.books.claims.trans hstart.claims, ?_, ?_⟩
  · rw [h.record ho₁, hpending]
    rfl
  · exact fun commit answer hmem => h.waits_since start _ hmem
  · exact fun operation answer hmem => h.waits_since start _ hmem

/-- The completion that ended the wait was read while nothing had been committed. -/
theorem Drained.reported_before {start : Duration} {g' : List JournalEntry} (hb : b.Agrees)
    (ho : b.output? id = some o) (hstart : SameBooks (b.marked id) b₁)
    (h : Drained id deadline b₁ (.ok ()) g b') (hpending : o.flipPending = true) :
    ∃ later completions earlier k, g' ++ (g ++ [.call .clock start]) =
        later ++ .call (.kernel .receive) (.ok completions) :: earlier ∧
      k ∈ completions ∧ o.crtc = some k.crtc ∧
      ∀ commit answer, .call (.kernel (.setCrtc commit)) answer ∉ earlier := by
  obtain ⟨k, hk, howner⟩ := h.reported ((hstart.output? id).trans (output?_marked ho)) hpending
  rw [hstart.claims, show (b.marked id).claims = b.claims from rfl, hb.owner] at howner
  obtain ⟨o', ho', hcrtc⟩ := howner
  obtain rfl := Option.some.inj (ho.symm.trans ho')
  obtain ⟨later, completions, earlier, hg, hmem⟩ := mem_received.1 hk
  refine ⟨g' ++ later, completions, earlier ++ [.call .clock start], k, by simp [hg], hmem, hcrtc,
    ?_⟩
  intro commit answer hcommit
  refine h.waits_since start (.call (.kernel (.setCrtc commit)) answer) ?_
  rw [hg, List.append_assoc]
  exact List.mem_append_right later (List.mem_cons_of_mem _ hcommit)

/-- A teardown keeps to its time, and it fails with everything kept or succeeds with everything
given up. -/
theorem Awaited.outcome (hb : b.Agrees) (ho : b.output? id = some o)
    (h : Awaited id o s b r g b') :
    ∃ start passed, g = passed ++ [.call .clock start] ∧
      Each (Timely (start + b.flipDrainTimeout)) passed ∧
      (∀ j timeout, r = .error (.flipDrainTimeout j timeout) →
        j = id ∧ timeout = b.flipDrainTimeout ∧ ∃ time before,
          passed = .call .clock time :: before ∧ start + b.flipDrainTimeout ≤ time) ∧
      (∀ e, r = .error e → KeptWaiting id o b g b') ∧
      (r = .ok () → LetGo id o b g b') := by
  cases h with
  | @stalled start e g b₁ _ hstart h =>
    refine ⟨start, g, rfl, h.timely, ?_, fun _ _ => h.keptWaiting ho hstart, nofun⟩
    intro j timeout hr
    obtain ⟨hj, htimeout, time, before, hg, ht⟩ := h.timeout hr
    exact ⟨hj, htimeout.trans hstart.timeout, time, before, hg, ht⟩
  | @released start g g₁ g₂ b₁ b₂ _ hstart h hback hdestroy huntimed h' =>
    have hclaims : b'.claims = b.claims.release id := by
      rw [h'.claims, claims_withdrawn, h.books.claims, claims_completed, hstart.claims]
      rfl
    refine ⟨start, .released id :: g₂ ++ g₁ ++ g, by simp, ?_, nofun, nofun, fun _ => ?_⟩
    · exact timely_append h.timely h.early (timely_of_untimed huntimed)
    · refine ⟨h.reported_before hb ho hstart, ?_, hclaims, fun crtc => ?_⟩
      · have hrecord := output?_modify_self h'.outputs
          (h.record ((hstart.output? id).trans (output?_marked ho)))
        exact hrecord
      · rw [hclaims]
        exact b.claims.owner_release_self id crtc

/-- Whatever the device does after a run: the teardown of an output with a surface computes its
deadline from the first reading of the clock, waits for no longer than the time that is left, and
not at all once the deadline was seen to pass. If it fails, the output is marked and keeps
everything; if it succeeds, the pending flip was reported before anything was committed, and the
output has nothing left. Any number of failed attempts and one that succeeds end like a single
attempt of a backend that was the same before and reads the same completions, whatever device that
one is on. -/
theorem teardown_waits_or_keeps (context : RenderContext W) (actions : List BackendAction)
    (ho : ((Backend.new context).run actions).output? id = some o) (hs : o.surface = some s) :
    let b := (Backend.new context).run actions
    let b' := b.after (.teardownOutput id)
    let attempts := fun n => b.run (List.replicate n (.teardownOutput id))
    (∃ start passed, b'.journal = passed ++ .call .clock start :: b.journal ∧
      Each (Timely (start + b.flipDrainTimeout)) passed ∧
      (∀ j timeout, ((teardownOutput id).run b).1 = .error (.flipDrainTimeout j timeout) →
        j = id ∧ timeout = b.flipDrainTimeout ∧ ∃ time before,
          passed = .call .clock time :: before ∧ start + b.flipDrainTimeout ≤ time) ∧
      (∀ e, ((teardownOutput id).run b).1 = .error e →
        KeptWaiting id o b (passed ++ [.call .clock start]) b') ∧
      (((teardownOutput id).run b).1 = .ok () →
        LetGo id o b (passed ++ [.call .clock start]) b')) ∧
    ∀ n, (∀ i < n, ∃ e, ((teardownOutput id).run (attempts i)).1 = .error e) →
      ((teardownOutput id).run (attempts n)).1 = .ok () →
      ∃ gained, (attempts (n + 1)).journal = gained ++ b.journal ∧
        ∀ {W' : World} (c : Backend W'), b.Alike c → ((teardownOutput id).run c).1 = .ok () →
          ∃ gained', (c.after (.teardownOutput id)).journal = gained' ++ c.journal ∧
            (received gained' = received gained →
              (attempts (n + 1)).Alike (c.after (.teardownOutput id))) := by
  intro b b' attempts
  constructor
  · have hagrees : b.Agrees := (Agrees.new context).run actions
    obtain ⟨gained, hgained, hawaited⟩ := yields_teardownOutput_awaited ho hs
    obtain ⟨start, passed, rfl, houtcome⟩ := hawaited.outcome hagrees ho
    refine ⟨start, passed, ?_, houtcome⟩
    rw [List.append_assoc] at hgained
    exact hgained
  · intro n hfail hok
    obtain ⟨gained, hgained, halike⟩ := run_attempts_alike n ho hs hfail hok
    refine ⟨gained, hgained, fun c hc hcok => ?_⟩
    have hoc : c.output? id = some o := by
      rw [output?, hc.outputs]
      exact ho
    obtain ⟨gained', hgained', hsucceeded, -⟩ := yields_teardownOutput_alike hoc hs
    refine ⟨gained', hgained', fun hreceived => ?_⟩
    have hsingle := (hc.torn id s.surface (received gained')).trans (hsucceeded hcok)
    rw [hreceived] at hsingle
    exact halike.symm.trans hsingle

/-- A monitor whose next wait comes back with nothing to read. -/
def drowsyMonitor : RenderContext SimulatedDevice.world :=
  let device : SimulatedDevice := oneMonitor.world
  { oneMonitor with world := { device with kernel := { device.kernel with withheldWaits := 1 } } }

/-- A monitor is lit, and its flip is given little time. -/
def hasty : List BackendAction := [.scan, .commitMode ⟨0⟩ .preferred, .setDrainTimeout ⟨150⟩]

/-- A wait that comes back early makes the first teardown run out of time. The second one succeeds,
and together they end like the teardown on a device that answers at once. -/
theorem second_attempt_ends_like_single :
    let b := (Backend.new drowsyMonitor).run hasty
    let c := (Backend.new oneMonitor).run hasty
    ((teardownOutput ⟨0⟩).run b).1 = .error (.flipDrainTimeout ⟨0⟩ ⟨150⟩) ∧
      (b.run [.teardownOutput ⟨0⟩, .teardownOutput ⟨0⟩]).Alike (c.after (.teardownOutput ⟨0⟩)) := by
  have hlit : (((Backend.new drowsyMonitor).run hasty).output? ⟨0⟩).any
      (·.surface.isSome) = true := by decide +kernel
  have hfirst : (match ((teardownOutput ⟨0⟩).run ((Backend.new drowsyMonitor).run hasty)).1 with
      | .ok _ => none
      | .error e => some e) = some (.flipDrainTimeout ⟨0⟩ ⟨150⟩) := by decide +kernel
  have hsecond : ((teardownOutput ⟨0⟩).run (((Backend.new drowsyMonitor).run hasty).after
      (.teardownOutput ⟨0⟩))).1.isOk = true := by decide +kernel
  have hsingle : ((teardownOutput ⟨0⟩).run ((Backend.new oneMonitor).run hasty)).1.isOk = true := by
    decide +kernel
  have hsame : ((Backend.new drowsyMonitor).run hasty).Alike
      ((Backend.new oneMonitor).run hasty) := by
    constructor <;> decide +kernel
  have hreceived : received ((Backend.new drowsyMonitor).run hasty).journal =
      received ((Backend.new oneMonitor).run hasty).journal := by decide +kernel
  have hreceived' : received (((Backend.new drowsyMonitor).run hasty).run
        [.teardownOutput ⟨0⟩, .teardownOutput ⟨0⟩]).journal =
      received (((Backend.new oneMonitor).run hasty).after (.teardownOutput ⟨0⟩)).journal := by
    decide +kernel
  obtain ⟨o, ho, hs⟩ := (Option.any_eq_true _ _).1 hlit
  obtain ⟨s, hs⟩ := Option.isSome_iff_exists.1 hs
  obtain ⟨-, hattempts⟩ := teardown_waits_or_keeps drowsyMonitor hasty ho hs
  generalize (Backend.new drowsyMonitor).run hasty = b at *
  generalize (Backend.new oneMonitor).run hasty = c at *
  have hfailed : ((teardownOutput ⟨0⟩).run b).1 = .error (.flipDrainTimeout ⟨0⟩ ⟨150⟩) := by
    cases hr : ((teardownOutput ⟨0⟩).run b).1 with
    | ok _ =>
      rw [hr] at hfirst
      contradiction
    | error e =>
      rw [hr] at hfirst
      rw [Option.some.inj hfirst]
  refine ⟨hfailed, ?_⟩
  have hfail : ∀ i < 1, ∃ e, ((teardownOutput ⟨0⟩).run
      (b.run (List.replicate i (.teardownOutput ⟨0⟩)))).1 = .error e := by
    intro i hi
    obtain rfl : i = 0 := by omega
    exact ⟨_, hfailed⟩
  obtain ⟨gained, hgained, hend⟩ := hattempts 1 hfail (eq_ok_of_isOk hsecond)
  obtain ⟨gained', hgained', halike⟩ := hend c hsame (eq_ok_of_isOk hsingle)
  refine halike ?_
  rw [show [.teardownOutput ⟨0⟩, .teardownOutput ⟨0⟩] =
    List.replicate 2 (BackendAction.teardownOutput ⟨0⟩) from rfl, hgained, hgained',
    received_append, received_append, hreceived] at hreceived'
  exact (List.append_cancel_left hreceived').symm

end Backend
end Scanout
