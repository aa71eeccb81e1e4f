import Scanout.Proofs.ModesetFailures
import Scanout.Proofs.QueuedEvents
import Scanout.Proofs.ResourceConservation
import Scanout.Proofs.TeardownSilence

/-!
# How setting a mode ends

There are many ways to fail and many things to do before, but only two ends. Either the output is
disconnected, which its owner is told in the end and once, or it shows a frame in the mode that was
chosen, and nothing is told of it. Other outputs may be asked for frames meanwhile, while the flip of
an output that has to be torn down before is awaited.
-/

namespace Scanout

/-- The mode that an action asks for, if the request can be read. -/
def BackendAction.request? : BackendAction → Option ModeRequest
  | .commitMode _ request => some request
  | .selectMode _ request => (ModeRequest.parse request).toOption
  | .scan | .beginFrame _ | .endFrame _ | .teardownOutput _ | .dispatch | .clear _ _ _
  | .setDrainTimeout _ | .teardownRenderer | .pushEvent _ => none

/-- All that is told is that other outputs may draw. -/
def AsksOthers (id : OutputId) (events : List OutputEvent) : Prop :=
  ∀ e ∈ events, ∃ j ≠ id, e = .renderReady j

namespace Backend

variable {W : World} {b b₁ b' : Backend W} {g g' : List JournalEntry} {id : OutputId}
  {o : Output} {connector : ConnectorHandle} {request : ModeRequest}

/-- While completions are read, outputs are told that they may draw and nothing else. -/
theorem Stages.asks (h : Stages .dispatch b g b') {e : OutputEvent} (he : .event e ∈ g) :
    ∃ j, e = .renderReady j := by
  induction h with
  | nil => contradiction
  | cons h₀ _ ih =>
    rcases List.mem_append.1 he with he | he
    · exact ih he
    · cases h₀ with
      | quiet h => exact (h.quiet _ he).elim
      | completed _ =>
        rcases List.mem_append.1 he with he | he
        · obtain ⟨e', hready, heq⟩ := List.mem_map.1 (readyEntries_eq _ ▸ he)
          obtain ⟨j, -, rfl⟩ := List.mem_map.1 hready
          exact ⟨j, (JournalEntry.event.inj heq).symm⟩
        · simp at he
      | retimed _ ha | slotted _ ha _ | read ha _ _ | cleaning ha _ _ | undrained ha _ _ _
      | released ha _ _ _ _ _ _ | set ha _ _ _ | reverted ha _ _ _ _ | refused ha _ _ _
      | flipped ha _ _ _ _ _ _ | unflipped ha _ _ _ _ _ _ => contradiction

theorem TornDown.asks {s : OutputSurface} {r : Except BackendError Unit} (h : TornDown id o s b r g b')
    {e : OutputEvent} (he : .event e ∈ g) : ∃ j, e = .renderReady j := by
  cases h with
  | stalled h _ => exact h.asks he
  | released h _ hback hdestroy _ =>
    rcases List.mem_append.1 he with he | he
    · have hmute := mem_told.2 he
      rw [told_of_mute (g := _ :: _ ++ _) fun j => ?_] at hmute
      · contradiction
      · simp only [List.forall_mem_append, List.forall_mem_cons]
        exact ⟨⟨trivial, hdestroy.isMuteTo j⟩, hback.isMuteTo j⟩
    · exact h.asks he

theorem yields_teardownOutput_asks (hb : b.Agrees) (ho : b.output? id = some o) :
    Yields (teardownOutput id).run b fun _ g _ => AsksOthers id (told g) := by
  cases hs : o.surface with
  | none => exact .of_idle (run_teardownOutput_of_bare ho hs) nofun
  | some s =>
    refine ((yields_teardownOutput_lit ho hs).and (yields_teardownOutput_silent hb ho hs)).mono ?_
    rintro r g b' ⟨htorn, -, hunasked⟩ e he
    have hevent := mem_told.1 he
    obtain ⟨j, rfl⟩ := htorn.asks hevent
    exact ⟨j, fun hj => hunasked (hj ▸ hevent), rfl⟩

/-- Nothing is left of the last mode of an output, and nothing was told of it. -/
structure Cleared (id : OutputId) (o : Output) (b : Backend W) (g : List JournalEntry)
    (b' : Backend W) : Prop where
  record : b'.output? id = some o
  cleaningUp : o.cleaningUp = false
  claims : b'.claims = b.claims.release id
  acquired : acquired g = []
  asks : AsksOthers id (told g)

theorem yields_teardownOutput_cleared (hb : b.Agrees) (ho : b.output? id = some o) :
    Yields (teardownOutput id).run b fun r g b' => AsksOthers id (told g) ∧
      (∃ o', b'.output? id = some o') ∧ (r = .ok () → ∃ o', Cleared id o' b g b') := by
  refine ((yields_teardownOutput_asks hb ho).and ((yields_teardownOutput
    (a := .teardownOutput id) rfl b).and (sheds_teardownOutput id b))).mono ?_
  rintro r g b' ⟨hasks, htorn, hsheds⟩
  refine ⟨hasks, ?_, ?_⟩
  · cases htorn with
    | unknown hnone =>
      rw [ho] at hnone
      contradiction
    | bare _ _ => exact ⟨o, ho⟩
    | stalled _ _ _ hkept => exact ⟨_, hkept⟩
    | released _ _ _ hkept _ _ h' => exact ⟨_, output?_modify_self h'.outputs hkept⟩
  · rintro rfl
    have hb' : b'.Agrees := hb.stages (htorn.stages rfl)
    obtain ⟨-, o', -, ho', -, hs'⟩ := htorn.surface_none
    refine ⟨o', ho', ?_, ?_, hsheds.acquired, hasks⟩
    · refine Bool.eq_false_iff.2 fun hcleaning => ?_
      have hsome := (hb'.coherent id o' ho').cleaning hcleaning
      rw [hs'] at hsome
      contradiction
    · rw [← hsheds.claims]
      refine (b'.claims.release_of_unowned fun c hc => ?_).symm
      obtain ⟨o₁, ho₁, hc₁⟩ := (hb'.owner c id).1 hc
      obtain rfl := Option.some.inj (ho'.symm.trans ho₁)
      rw [hb'.crtc_none ho' hs'] at hc₁
      contradiction

/-- The two ends of setting a mode. The output is disconnected, which is told at last, or it was
cleared and then lit, and nothing was told of it. -/
inductive ModesetEnded {α : Type} (id : OutputId) (o : Output) (asked? : Option ModeRequest)
    (b : Backend W) : Except BackendError α → List JournalEntry → Backend W → Prop where
  | disconnected {cause events g o' b'} (hevents : AsksOthers id events)
      (htold : told g = events ++ [.removed id]) (ho' : b'.output? id = some o')
      (hstate : o'.state = .disconnected) : ModesetEnded id o asked? b (.error cause) g b'
  | lit {answer request o₁ k s fb g₁ g₂ b'} (hasked : asked? = some request)
      (hcleared : Cleared id o₁ b g₁ (b.after (.teardownOutput id))) (htold : told g₂ = [])
      (hlights : Lights id o.connector request o₁ k s fb (b.after (.teardownOutput id)) g₂ b') :
      ModesetEnded id o asked? b (.ok answer) (g₂ ++ g₁) b'

theorem yields_commitMode_ended (hb : b.Agrees) (ho : b.output? id = some o)
    (request : ModeRequest) :
    Yields (commitMode id request).run b (ModesetEnded id o (some request) b) := by
  refine yields_commitMode_of_torn ho (yields_teardownOutput_cleared hb ho).result ?_ ?_
  · rintro e g b₁ b' ⟨⟨hasks, ⟨o₁, ho₁⟩, -⟩, -⟩ hstalled
    exact .disconnected hasks (told_append [.event (.removed id)] g)
      (output?_modify_self hstalled.outputs ho₁) rfl
  · rintro g b₁ ⟨⟨hasks, -, hcleared⟩, hend⟩
    obtain rfl : b₁ = b.after (.teardownOutput id) := hend
    obtain ⟨o₁, hcleared⟩ := hcleared rfl
    have hattempt := (yields_tryModeset id o.connector request (b.after (.teardownOutput id))).and
      (yields_tryModeset_lights hcleared.record o.connector request)
    refine (yields_setOrRevert hattempt).mono ?_
    rintro r g' b' (⟨rfl, htried, hlights⟩ | ⟨cause, g₀, b₂, rfl, rfl, ⟨htried, -⟩, hreverted⟩)
    · obtain ⟨k, s, fb, hlights⟩ := hlights
      exact .lit rfl hcleared (told_of_mute htried.isMuteTo) hlights
    · obtain ⟨o₂, ho₂, -⟩ := htried.error_record hcleared.record
      refine .disconnected hasks ?_ (output?_modify_self hreverted.outputs ho₂) rfl
      have hreverting : told (.event (.removed id) :: .released id :: g₀) = [.removed id] := by
        show told ([_, _] ++ g₀) = _
        rw [told_append, told_of_mute htried.isMuteTo]
        rfl
      rw [told_append, hreverting]

theorem yields_perform_ended {a : BackendAction} (ha : a.modesetOf? = some id) (hb : b.Agrees)
    (ho : b.output? id = some o) :
    Yields (perform a).run b (ModesetEnded id o a.request? b) := by
  cases a with
  | commitMode i request =>
    obtain rfl := Option.some.inj ha
    exact yields_commitMode_ended hb ho request
  | selectMode i request =>
    obtain rfl := Option.some.inj ha
    cases hparse : ModeRequest.parse request with
    | ok parsed =>
      rw [BackendAction.request?, hparse]
      exact yields_selectReadable hparse (yields_commitMode_ended hb ho parsed)
    | error e =>
      refine (yields_selectUnreadable i hparse b).mono ?_
      rintro _ _ b' (⟨hnone, -⟩ | ⟨o', ho', rfl, rfl, hreverted⟩)
      · rw [ho] at hnone
        contradiction
      · have hnone : AsksOthers i [] := nofun
        exact .disconnected hnone rfl (output?_modify_self hreverted.outputs ho') rfl
  | _ => contradiction

theorem relays_perform_modeset {a : BackendAction} (ha : a.modesetOf? = some id) :
    Always Relays (perform (W := W) a).run := by
  refine relays_perform ?_ fun e => ?_
  · rintro rfl
    contradiction
  · rintro rfl
    contradiction

/-- There is no mode to set for an output that is not there. -/
theorem run_perform_of_unknown {a : BackendAction} (ha : a.modesetOf? = some id)
    (ho : b.output? id = none) : (perform a).run b = (.error (.unknownOutput id), b) := by
  cases a with
  | commitMode i request =>
    obtain rfl := Option.some.inj ha
    exact run_commitMode_of_unknown ho request
  | selectMode i request =>
    obtain rfl := Option.some.inj ha
    show (selectAndCommitMode i request).run b = _
    cases hparse : ModeRequest.parse request with
    | ok parsed => rw [run_selectAndCommitMode hparse, run_commitMode_of_unknown ho]
    | error e =>
      obtain ⟨-, -, ⟨-, hr, -, hb⟩ | ⟨o, ho', -⟩⟩ := yields_selectUnreadable i hparse b
      · exact Prod.ext hr hb
      · rw [ho] at ho'
        contradiction
  | _ => contradiction

/-- However a mode-set ends, its owner can tell how, in every state and whatever the device refuses: the
queue gains what is told. If the mode-set fails, the output is disconnected, and what is told ends with
the one event that says so. If it succeeds, no event is about the output, which shows a frame: its mode
was chosen from the modes and the configuration that were read, its CRTC was free and is one that its
encoder can be fed from, the last two commits show a framebuffer there and flip to it, and this
framebuffer is registered for a buffer of the new surface. Without the output nothing happens. -/
theorem modeset_outcome {w : W.State} {b₀ : Backend W} (hstart : setUp (.start w) = .ok b₀)
    (actions : List BackendAction) {a : BackendAction} {id : OutputId}
    (ha : a.modesetOf? = some id) :
    let b := b₀.run actions
    let b' := b.after a
    (b.output? id = none → ((perform a).run b).1 = .error (.unknownOutput id) ∧ b' = b) ∧
      ∀ o, b.output? id = some o → ∃ gained o' events, b'.journal = gained ++ b.journal ∧
        b'.output? id = some o' ∧ b'.queue = (told gained).foldl EventQueue.push b.queue ∧
        b.queue.Gains (told gained) b'.queue ∧
        (∀ e ∈ events, ∃ j ≠ id, e = .renderReady j) ∧
        match ((perform a).run b).1 with
        | .error _ => o'.state = .disconnected ∧ told gained = events ++ [.removed id]
        | .ok _ => o'.state = .connected ∧ o'.cleaningUp = false ∧ o'.flipPending = true ∧
          told gained = events ∧
          ∃ request k s fb reads, a.request? = some request ∧
            (reads <:+: gained ∧ Chosen id o.connector request (b.claims.release id) k reads) ∧
            (o'.modes = k.modes ∧ o'.savedCrtc = k.saved ∧ o'.mode = some k.mode ∧
              resolveMode k.modes (k.saved.bind (·.mode)) request = .ok k.mode) ∧
            (o'.encoder = some k.encoder ∧ o'.crtc = some k.crtc ∧
              (∀ j ≠ id, b.claims.owner k.crtc ≠ some j) ∧ b'.claims.owner k.crtc = some id ∧
              ∃ resources source i, .call (.kernel .resources) (.ok resources) ∈ reads ∧
                .call (.kernel (.encoder k.encoder)) (.ok source) ∈ reads ∧
                resources.crtcs[i]? = some k.crtc ∧ source.supportsCrtcIndex i = true) ∧
            [.call (.kernel (.pageFlip k.crtc fb)) (.ok ()), .call (.kernel (.setCrtc
              ⟨k.crtc, some fb, (0, 0), [o.connector], some k.mode⟩)) (.ok ())] <+: commits gained ∧
            o'.surface = some ⟨s, k.mode.size.1, k.mode.size.2, some fb⟩ ∧
            s ∈ b'.chains.alive ∧ fb ∈ b'.chains.framebuffersOf s ∧
            .framebuffer fb ∈ outstanding [] gained := by
  intro b b'
  have hb : b.Agrees := (booked_setUp hstart).2.run actions
  refine ⟨fun ho => ?_, fun o ho => ?_⟩
  · have hrun := run_perform_of_unknown ha ho
    exact ⟨congrArg Prod.fst hrun, congrArg Prod.snd hrun⟩
  · have hready (hhandles : b.handles.isSome) :
        (b.after (.teardownOutput id)).chains.InOrder := by
      rw [← handles_after (a := .teardownOutput id) nofun b] at hhandles
      have htorn : b.after (.teardownOutput id) = b₀.run (actions ++ [.teardownOutput id]) :=
        (run_append b₀ actions [.teardownOutput id]).symm
      rw [htorn] at hhandles ⊢
      obtain ⟨_, hbooked⟩ := booked_of_ready hstart hhandles
      exact hbooked.accounted.inOrder
    obtain ⟨gained, hgained, hended, hrelays⟩ :=
      (yields_perform_ended ha hb ho).and (relays_perform_modeset ha b)
    change b'.journal = _ at hgained
    change Relays b gained b' at hrelays
    change ModesetEnded id o a.request? b ((perform a).run b).1 gained b' at hended
    clear_value b'
    generalize ((perform a).run b).1 = r at hended ⊢
    refine ⟨gained, ?_⟩
    cases hended with
    | disconnected hevents htold ho' hstate =>
      exact ⟨_, _, hgained, ho', hrelays.queue, hrelays.gains, hevents, hstate, htold⟩
    | @lit _ request o₁ k s fb g₁ g₂ _ hasked hcleared htold hlights =>
      obtain ⟨reads, hreads, hchosen⟩ := hlights.choice
      obtain ⟨-, hfree⟩ := hchosen.unowned
      refine ⟨_, told g₁, hgained, hlights.record, hrelays.queue, hrelays.gains,
        hcleared.asks, rfl, hcleared.cleaningUp, rfl, by rw [told_append, htold, List.append_nil],
        request, k, s, fb, reads, hasked, ⟨?_, hcleared.claims ▸ hchosen⟩,
        ⟨rfl, rfl, rfl, hchosen.resolves⟩,
        ⟨rfl, rfl, fun j hj howner => ?_, ?_, hchosen.fits⟩, ?_, rfl, hlights.custody.alive,
        hlights.shown, ?_⟩
      · exact hreads.isInfix.trans (List.prefix_append g₂ g₁).isInfix
      · have howned := (b.claims.owner_release_of_ne hj k.crtc).2 howner
        rw [← hcleared.claims, hfree] at howned
        contradiction
      · rw [hlights.claims, CrtcClaims.owner_claim _ id hfree, if_pos rfl]
      · rw [commits_append, hlights.commits]
        exact List.prefix_append _ _
      · have hnew : (b.after (.teardownOutput id)).chains.framebuffersOf s = [] :=
          hlights.new ▸ (hready (hrelays.handles ▸ hlights.custody.ready)).framebuffersOf_nextSurface
        have hheld := hlights.custody.held.mem_iff.2
          (List.mem_cons_of_mem _ (List.mem_map_of_mem hlights.shown))
        rw [hnew, List.map_nil, List.append_nil] at hheld
        rwa [outstanding_append, outstanding_eq_nil hcleared.acquired (by simp)]

/-- A monitor that is lit is set to the same mode again, by its name: it ends connected, its owner is not
told of it, and the CRTC shows a framebuffer and is flipped to it. -/
theorem modeset_outcome_relit :
    ∃ b₀ : Backend SimulatedDevice.world, setUp (.start oneMonitor.world) = .ok b₀ ∧
      let b := b₀.run [.scan, .commitMode ⟨0⟩ .preferred, .dispatch]
      let b' := b.after (.selectMode ⟨0⟩ "1920x1080@60")
      ∃ gained o' crtc fb mode, b'.journal = gained ++ b.journal ∧ b'.output? ⟨0⟩ = some o' ∧
        o'.state = .connected ∧ o'.crtc = some crtc ∧ o'.mode = some mode ∧
        (∀ e ∈ told gained, ∃ j ≠ ⟨0⟩, e = .renderReady j) ∧
        [.call (.kernel (.pageFlip crtc fb)) (.ok ()), .call (.kernel (.setCrtc
          ⟨crtc, some fb, (0, 0), [⟨10⟩], some mode⟩)) (.ok ())] <+: commits gained := by
  have hset : (setUp (.start oneMonitor.world)).toOption.any (fun b₀ =>
      let b := b₀.run [.scan, .commitMode ⟨0⟩ .preferred, .dispatch]
      (b.output? ⟨0⟩).any (·.connector = ⟨10⟩) &&
        ((perform (.selectMode ⟨0⟩ "1920x1080@60")).run b).1.isOk) = true := by decide +kernel
  cases hstart : setUp (.start oneMonitor.world) with
  | error cause =>
    rw [hstart] at hset
    exact absurd hset Bool.false_ne_true
  | ok b₀ =>
    rw [hstart] at hset
    simp only [Except.toOption, Option.any_some, Bool.and_eq_true] at hset
    obtain ⟨hthere, hok⟩ := hset
    obtain ⟨o, ho, hconnector⟩ := (Option.any_eq_true _ _).1 hthere
    obtain ⟨-, houtcome⟩ := modeset_outcome hstart [.scan, .commitMode ⟨0⟩ .preferred, .dispatch]
      (show (BackendAction.selectMode ⟨0⟩ "1920x1080@60").modesetOf? = some ⟨0⟩ from rfl)
    have houtcome := houtcome o ho
    generalize ((perform (.selectMode ⟨0⟩ "1920x1080@60")).run
      (b₀.run [.scan, .commitMode ⟨0⟩ .preferred, .dispatch])).1 = r at hok houtcome
    cases r with
    | error _ => exact absurd hok Bool.false_ne_true
    | ok _ =>
      obtain ⟨gained, o', events, hgained, ho', -, -, hevents, hstate, -, -, htold, request, k, s, fb,
        reads, -, -, ⟨-, -, hmode, -⟩, ⟨-, hcrtc, -⟩, hcommits, -⟩ := houtcome
      refine ⟨b₀, rfl, gained, o', k.crtc, fb, k.mode, hgained, ho', hstate, hcrtc, hmode,
        htold ▸ hevents, ?_⟩
      rwa [of_decide_eq_true hconnector] at hcommits

end Backend
end Scanout
