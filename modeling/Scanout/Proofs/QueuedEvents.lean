import Scanout.Proofs.ChoiceReads
import Scanout.Proofs.ContextRelease
import Scanout.Proofs.ReleasedContext

/-!
# What is told is queued

An event is queued by the act that tells it, which leaves an entry. So the queue gains by an action
what its entries tell, in their order, and after a run it holds all that was told. None of these acts
releases the context: where the handles are there after a run, they have been there all the time.
-/

namespace Scanout

def JournalEntry.event? : JournalEntry → Option OutputEvent
  | .event e => some e
  | .call _ _ | .claimed _ _ | .released _ => none

/-- The events among the entries, in the order in which they were told. -/
def told (g : List JournalEntry) : List OutputEvent := (g.filterMap (·.event?)).reverse

section Told

variable {g g' : List JournalEntry} {e : OutputEvent}

theorem told_append (g' g : List JournalEntry) : told (g' ++ g) = told g ++ told g' := by
  rw [told, List.filterMap_append, List.reverse_append]
  rfl

theorem mem_told : e ∈ told g ↔ .event e ∈ g := by
  rw [told, List.mem_reverse, List.mem_filterMap]
  constructor
  · rintro ⟨entry, hentry, he⟩
    cases entry with
    | event e' => exact Option.some.inj he ▸ hentry
    | call _ _ | claimed _ _ | released _ => contradiction
  · exact fun h => ⟨_, h, rfl⟩

theorem told_eq_nil (h : ∀ e, .event e ∉ g) : told g = [] :=
  List.eq_nil_iff_forall_not_mem.2 fun e he => h e (mem_told.1 he)

theorem told_of_quiet (h : ∀ e ∈ g, e.IsQuiet) : told g = [] := told_eq_nil fun _ he => h _ he

end Told

/-- The event that an action puts into the queue without telling it. -/
def BackendAction.pushed? : BackendAction → Option OutputEvent
  | .pushEvent e => some e
  | .scan | .selectMode _ _ | .commitMode _ _ | .beginFrame _ | .endFrame _ | .teardownOutput _
  | .dispatch | .clear _ _ _ | .setDrainTimeout _ | .teardownRenderer => none

theorem BackendAction.pushed?_of_subject (a : BackendAction) {id : OutputId}
    (h : a.subject = some id) : a.pushed? = none := by
  cases a with
  | pushEvent e => contradiction
  | _ => rfl

/-- The queue is received. It holds some events in their order, and others before, after and between
them. -/
structure EventQueue.Holds (q : EventQueue) (events others : List OutputEvent) : Prop where
  hasReceiver : q.hasReceiver = true
  ordered : events.Sublist q.events
  perm : q.events.Perm (events ++ others)

theorem EventQueue.Holds.gains {q q' : EventQueue} {es es' fs fs' : List OutputEvent}
    (h : q.Holds es fs) (h' : q.Gains (es' ++ fs') q') : q'.Holds (es ++ es') (fs ++ fs') where
  hasReceiver := h'.hasReceiver.trans h.hasReceiver
  ordered := by
    rw [h'.received h.hasReceiver]
    exact h.ordered.append (List.sublist_append_left es' fs')
  perm := by
    rw [h'.received h.hasReceiver]
    refine (h.perm.append_right (es' ++ fs')).trans ?_
    rw [List.append_assoc, List.append_assoc]
    exact (List.perm_append_comm_assoc fs es' fs').append_left es

namespace Backend

variable {W : World} {α ε : Type} {b b' : Backend W} {g : List JournalEntry} {id : OutputId}

/-- The handles stay as they are, and what is told is queued. -/
structure Relays (b : Backend W) (gained : List JournalEntry) (b' : Backend W) : Prop where
  handles : b'.handles = b.handles
  queue : b'.queue = (told gained).foldl EventQueue.push b.queue

instance : Composes (Relays (W := W)) where
  refl _ := ⟨rfl, rfl⟩
  trans h h' :=
    ⟨h'.handles.trans h.handles, by rw [h'.queue, h.queue, told_append, List.foldl_append]⟩

theorem Relays.gains (h : Relays b g b') : b.queue.Gains (told g) b'.queue :=
  h.queue ▸ b.queue.gains_foldl_push (told g)

/-- Where nothing is told, the queue stays as it is. -/
theorem Relays.queue_eq (h : Relays b g b') (htold : told g = []) : b'.queue = b.queue := by
  rw [h.queue, htold]
  rfl

theorem relays_inContext {act : RenderM W α} (h : Always RenderContext.Serves act)
    (hquiet : RenderContext.Quietly act) : Always Relays (BackendM.inContext act) := fun b => by
  obtain ⟨g, hg, hserves, hhushed⟩ := (h b.toRenderContext).and (hquiet b.toRenderContext)
  exact ⟨g, hg, hserves.handles, by rw [told_of_quiet hhushed.quiet]; rfl⟩

theorem relays_render {cause : RenderError → ε} {act : ExceptT RenderError (RenderM W) α}
    (h : Always RenderContext.Serves act.run) (hquiet : RenderContext.Quietly act.run) :
    Always Relays (render cause act).run := .orFail (relays_inContext h hquiet)

theorem relays_call (c : Call) : Always Relays (call c : BackendM W c.Answer) := fun b =>
  ⟨[.call c (W.answer c b.world).1], rfl, rfl, rfl⟩

theorem relays_emit (e : OutputEvent) : Always Relays (emit e : BackendM W Unit) := fun _ =>
  ⟨[.event e], rfl, rfl, rfl⟩

theorem relays_updateOutput (id : OutputId) (f : Output → Output) :
    Always Relays (updateOutput id f : BackendM W Unit) := fun _ => ⟨[], rfl, rfl, rfl⟩

theorem relays_releaseClaims (id : OutputId) : Always Relays (releaseClaims id : BackendM W Unit) :=
  fun _ => ⟨[.released id], rfl, rfl, rfl⟩

instance : RecordKeeping (Relays (W := W)) where
  read c _ := relays_call c
  told := relays_emit
  kept _ _ _ _ := ⟨rfl, rfl⟩
  slotted _ _ := ⟨rfl, rfl⟩

theorem relays_destroySurface (s : SurfaceId) :
    Always Relays (BackendM.inContext (RenderContext.destroySurface s) : BackendM W Unit) :=
  fun b => by
  obtain ⟨g, hg, hserves, hdestroys, -⟩ := (RenderContext.serves_destroySurface s b.toRenderContext).and
    (RenderContext.yields_destroySurface s b.toRenderContext)
  have htold : told g = [] := told_eq_nil fun e he => (hdestroys _ he).elim id nofun
  exact ⟨g, hg, hserves.handles, by rw [htold]; rfl⟩

theorem relays_restoreCrtc (connector : ConnectorHandle) (claimed : Option CrtcHandle)
    (saved : Option CrtcInfo) :
    Always Relays (restoreCrtc connector claimed saved : BackendM W Unit) :=
  always_restoreCrtc (fun _ => relays_call _) connector claimed saved

theorem relays_withFrontBuffer {cause : RenderError → ε} (surface : SurfaceId)
    {act : BufferSlot → ExceptT ε (BackendM W) α} (h : ∀ buffer, Always Relays (act buffer).run) :
    Always Relays (withFrontBuffer cause surface act).run := by
  refine .bindOk (relays_render (RenderContext.serves_perform (s := .ask (.lockFrontBuffer surface))
    nofun) (RenderContext.quietly_lockFrontBuffer surface)) fun buffer => ?_
  refine Always.bind (h buffer) fun result => .bind (relays_inContext ?_
    (RenderContext.quietly_releaseBuffer buffer)) fun _ => .pure result
  exact .bind (RenderContext.serves_call fun _ _ => trivial)
    fun _ => RenderContext.serves_updateChains _

theorem relays_scanoutId {cause : RenderError → ε} (buffer : BufferSlot) :
    Always Relays (render cause (RenderContext.scanoutId buffer) :
      ExceptT ε (BackendM W) FramebufferId).run :=
  relays_render (RenderContext.serves_scanoutId buffer) (RenderContext.quietly_scanoutId buffer)

theorem relays_teardownOutput (id : OutputId) :
    Always Relays (teardownOutput id : ExceptT BackendError (BackendM W) Unit).run :=
  always_teardownOutput (fun _ => relays_call _) relays_destroySurface (relays_releaseClaims id)
    (relays_updateOutput id)

theorem relays_presentFirstFrame (surface : SurfaceId) (connector : ConnectorHandle)
    (crtc : CrtcHandle) (mode : DisplayMode) :
    Always Relays (presentFirstFrame (W := W) surface connector crtc mode).run := by
  refine .bindOk (relays_render (RenderContext.serves_perform (s := .ask (.makeCurrent surface))
    nofun) (RenderContext.quietly_makeCurrent surface)) fun _ => ?_
  refine .bindOk (.lift (relays_inContext (RenderContext.serves_call fun _ _ => trivial)
    (RenderContext.quietly_clear _ _ _))) fun _ => ?_
  refine .bindOk (relays_render (RenderContext.serves_perform (s := .ask (.swapBuffers surface))
    nofun) (RenderContext.quietly_swapBuffers surface)) fun _ => ?_
  exact relays_withFrontBuffer surface fun buffer => .bindOk (relays_scanoutId buffer) fun fb =>
    .bindOk (.orFail (relays_call _)) fun _ => .bindOk (.orFail (relays_call _)) fun _ => .pureOk fb

/-- What follows the creation of a surface: its first frame is shown, or it is given up. -/
theorem relays_showOrGiveUp (id : OutputId) (surface : SurfaceId) (connector : ConnectorHandle)
    (crtc : CrtcHandle) (saved : Option CrtcInfo) (mode : DisplayMode)
    (f : FramebufferId → Output → Output) :
    Always Relays (orRelease (do
        restoreCrtc connector (some crtc) saved
        BackendM.inContext (RenderContext.destroySurface surface))
        (presentFirstFrame surface connector crtc mode) >>= fun framebuffer =>
      ExceptT.lift (updateOutput id (f framebuffer)) : ExceptT ModesetError (BackendM W) Unit).run := by
  have hgiveUp : Always Relays (do
      restoreCrtc connector (some crtc) saved
      BackendM.inContext (RenderContext.destroySurface surface) : BackendM W Unit) :=
    .bind (relays_restoreCrtc _ _ _) fun _ => relays_destroySurface surface
  exact .bindOk (.orRelease hgiveUp (relays_presentFirstFrame surface connector crtc mode)) fun _ =>
    .lift (relays_updateOutput id _)

theorem relays_initSurface (id : OutputId) (connector : ConnectorHandle) (crtc : CrtcHandle)
    (saved : Option CrtcInfo) (mode : DisplayMode) :
    Always Relays (initSurface (W := W) id connector crtc saved mode).run :=
  .bindOk (relays_render (RenderContext.serves_createSurface _ _) fun c =>
    (RenderContext.yields_createSurface _ _ c).mono fun _ _ _ h => h.1) fun s =>
      relays_showOrGiveUp id s connector crtc saved mode _

theorem relays_tryModeset (id : OutputId) (connector : ConnectorHandle) (request : ModeRequest) :
    Always Relays (tryModeset (W := W) id connector request).run := by
  rw [tryModeset_eq]
  refine .bindOk (always_chooseAndClaim (fun c _ => relays_call c) (fun crtc id _ =>
    ⟨[.claimed crtc id], rfl, rfl, rfl⟩) (fun _ _ => ⟨rfl, rfl⟩) id connector request) fun k => ?_
  exact .bindOk (.lift (relays_updateOutput id _)) fun _ => relays_initSurface id connector _ _ _

theorem relays_failModeset (id : OutputId) : Always Relays (failModeset id : BackendM W Unit) :=
  .bind (relays_releaseClaims id) fun _ => .bind (relays_updateOutput id _) fun _ =>
    relays_emit (.removed id)

theorem relays_commitMode (id : OutputId) (request : ModeRequest) :
    Always Relays (commitMode id request : ExceptT BackendError (BackendM W) Unit).run := by
  refine .bindOk (always_requireOutput id) fun o => ?_
  have hset : Always Relays (orRelease (failModeset id) (orFail BackendError.modeset
      (tryModeset id o.connector request).run) : ExceptT BackendError (BackendM W) Unit).run :=
    .orRelease (relays_failModeset id) (.orFail (relays_tryModeset id o.connector request))
  cases o.surface.isSome with
  | false => exact hset
  | true =>
    have hstalled : Always Relays (do
        updateOutput id fun o => { o with state := .disconnected }
        emit (.removed id) : BackendM W Unit) :=
      .bind (relays_updateOutput id _) fun _ => relays_emit _
    exact .bindOk (.orRelease hstalled (relays_teardownOutput id)) fun _ => hset

theorem relays_selectAndCommitMode (id : OutputId) (request : String) :
    Always Relays (selectAndCommitMode id request : ExceptT BackendError (BackendM W) Unit).run := by
  refine .bindOk (.discardOk (always_requireOutput id)) fun _ => ?_
  cases ModeRequest.parse request with
  | ok parsed => exact relays_commitMode id parsed
  | error cause => exact .bindOk (.lift (relays_failModeset id)) fun _ => .throw _

theorem relays_beginFrame (id : OutputId) :
    Always Relays (beginFrame id : ExceptT BackendError (BackendM W) Unit).run := by
  refine .bindOk (always_requireOutput id) fun o => ?_
  cases o.surface with
  | none => exact .throw _
  | some s =>
    exact relays_render (RenderContext.serves_perform (s := .ask (.makeCurrent s.surface)) nofun)
      (RenderContext.quietly_makeCurrent s.surface)

theorem relays_endFrame (id : OutputId) :
    Always Relays (endFrame id : ExceptT BackendError (BackendM W) Unit).run := by
  refine .bindOk (always_requireOutput id) fun o => ?_
  cases o.crtc with
  | none => exact .throw _
  | some crtc =>
    cases o.surface with
    | none => exact .throw _
    | some s =>
      refine .bindOk (relays_render (RenderContext.serves_perform (s := .ask (.swapBuffers s.surface))
        nofun) (RenderContext.quietly_swapBuffers s.surface)) fun _ => ?_
      refine .bindOk (relays_withFrontBuffer s.surface fun buffer => .bindOk (relays_scanoutId buffer)
        fun fb => .bindOk (.orFail (relays_call _)) fun _ => .pureOk fb) fun _ => ?_
      exact .lift (relays_updateOutput id _)

/-- Every action relays but the two that are not about outputs. -/
theorem relays_perform {a : BackendAction} (ha : a ≠ .teardownRenderer)
    (hpush : ∀ e, a ≠ .pushEvent e) : Always Relays (perform (W := W) a).run := by
  cases a with
  | scan => exact always_scan
  | selectMode id request => exact relays_selectAndCommitMode id request
  | commitMode id request => exact relays_commitMode id request
  | beginFrame id => exact relays_beginFrame id
  | endFrame id => exact relays_endFrame id
  | teardownOutput id => exact relays_teardownOutput id
  | dispatch => exact always_dispatchCompletions
  | clear _ _ _ =>
    exact .lift (relays_inContext (RenderContext.serves_call fun _ _ => trivial)
      (RenderContext.quietly_clear _ _ _))
  | setDrainTimeout _ => exact fun _ => ⟨[], rfl, rfl, rfl⟩
  | teardownRenderer => exact absurd rfl ha
  | pushEvent e => exact absurd rfl (hpush e)

/-- An action queues what its entries tell. Only one puts an event into the queue on its own, and it
makes no entry. -/
theorem gains_after (b : Backend W) (a : BackendAction) :
    ∃ gained, (b.after a).journal = gained ++ b.journal ∧
      b.queue.Gains (told gained ++ a.pushed?.toList) (b.after a).queue := by
  have hrelayed (ha : a ≠ .teardownRenderer) (hpush : ∀ e, a ≠ .pushEvent e)
      (hpushed : a.pushed? = none) : ∃ gained, (b.after a).journal = gained ++ b.journal ∧
        b.queue.Gains (told gained ++ a.pushed?.toList) (b.after a).queue := by
    obtain ⟨gained, hgained, hrelays⟩ := relays_perform ha hpush b
    rw [hpushed, Option.toList_none]
    exact ⟨gained, hgained, (List.append_nil (told gained)).symm ▸ hrelays.gains⟩
  cases a with
  | pushEvent e => exact ⟨[], rfl, b.queue.gains_foldl_push [e]⟩
  | teardownRenderer =>
    obtain ⟨gained, hgained, hhushed⟩ := RenderContext.quietly_teardown b.toRenderContext
    refine ⟨gained, hgained, ?_⟩
    rw [told_of_quiet hhushed.quiet]
    exact b.queue.gains_foldl_push []
  | _ => exact hrelayed nofun nofun rfl

/-- All that is told in the course of a run is queued. -/
theorem queueHolds_run {es fs : List OutputEvent} (h : b.queue.Holds es fs)
    (actions : List BackendAction) :
    ∃ gained, (b.run actions).journal = gained ++ b.journal ∧
      (b.run actions).queue.Holds (es ++ told gained) (fs ++ actions.filterMap (·.pushed?)) := by
  induction actions generalizing b es fs with
  | nil => exact ⟨[], rfl, by simpa [told] using h⟩
  | cons a actions ih =>
    obtain ⟨gained, hgained, hqueue⟩ := b.gains_after a
    obtain ⟨later, hlater, hholds⟩ := ih (h.gains hqueue)
    have hpushed : (a :: actions).filterMap (·.pushed?) =
        a.pushed?.toList ++ actions.filterMap (·.pushed?) := by
      cases h : a.pushed? <;> simp [h]
    refine ⟨later ++ gained, ?_, ?_⟩
    · rw [run_cons, hlater, hgained, List.append_assoc]
    · rwa [run_cons, told_append, hpushed, ← List.append_assoc, ← List.append_assoc]

theorem queueHolds_new (context : RenderContext W) : (Backend.new context).queue.Holds [] [] :=
  ⟨rfl, .slnil, .nil⟩

/-- Only one action changes the handles. -/
theorem handles_after {a : BackendAction} (ha : a ≠ .teardownRenderer) (b : Backend W) :
    (b.after a).handles = b.handles := by
  by_cases hpush : ∃ e, a = .pushEvent e
  · obtain ⟨e, rfl⟩ := hpush
    rfl
  · obtain ⟨g, -, hrelays⟩ := relays_perform ha (not_exists.1 hpush) b
    exact hrelays.handles

theorem handles_after_teardownRenderer (b : Backend W) :
    (b.after .teardownRenderer).handles = none :=
  RenderContext.handles_after_teardown b.toRenderContext

theorem handles_run_eq_none (hb : b.handles = none) (actions : List BackendAction) :
    (b.run actions).handles = none := by
  induction actions generalizing b with
  | nil => exact hb
  | cons a actions ih =>
    apply ih
    by_cases ha : a = .teardownRenderer
    · rw [ha, handles_after_teardownRenderer]
    · rw [handles_after ha, hb]

/-- Where the handles are there after a run, the context was not released in the course of it. -/
theorem ne_teardownRenderer_of_ready {actions : List BackendAction}
    (hready : (b.run actions).handles.isSome) : ∀ a ∈ actions, a ≠ .teardownRenderer := by
  rintro _ hmem rfl
  obtain ⟨before, later, rfl⟩ := List.append_of_mem hmem
  rw [run_append, run_cons, handles_run_eq_none (handles_after_teardownRenderer _)] at hready
  contradiction

end Backend
end Scanout
