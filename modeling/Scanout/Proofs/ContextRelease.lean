import Scanout.Proofs.ContextAcquisition
import Scanout.Proofs.ContextHistory

/-!
# Context, display and device are released once

What serves a device as a whole is acquired when the rendering context is set up and released when it
is torn down, and by nothing else that is asked of the context. However often it is torn down, context,
display and device are each released once, in this order, and until then every surface is created with
them.
-/

namespace Scanout

instance : DecidablePred Resource.OfOutputs
  | .surface _ | .framebuffer _ => .isTrue trivial
  | .device _ | .display _ | .context _ => .isFalse id

/-- What was released of the resources that serve the device as a whole. -/
def releasedOfDevice (g : List JournalEntry) : List Resource :=
  (released g).filter fun r => ¬r.OfOutputs

theorem releasedOfDevice_append (g' g : List JournalEntry) :
    releasedOfDevice (g' ++ g) = releasedOfDevice g' ++ releasedOfDevice g := by
  rw [releasedOfDevice, released_append, List.filter_append]
  rfl

section SetUp

variable {steps : List SetUpStep} {failure : Option RendererInitError} {cause : RendererInitError}
  {g : List JournalEntry}

theorem JournalEntry.acquired?_of_released? {e : JournalEntry} (h : e.released?.isSome) :
    e.acquired? = none := by
  unfold released? at h
  split at h <;> first | rfl | contradiction

/-- What the steps acquired before one of them failed is released, what was acquired last first. -/
theorem Attempt.balanced (h : Attempt steps (some cause) g) :
    released g = (acquired g).reverse := by
  cases h with
  | failure htries hreleases hback =>
    have hacquired : acquired _ = [] := List.filterMap_eq_nil_iff.2 fun e he =>
      JournalEntry.acquired?_of_released? (hreleases e he)
    rw [released_append, acquired_append, hback, htries.released_eq, hacquired]
    simp

/-- No configuration fits if the listing that was tried says so. -/
theorem JournalEntry.setUpStep?_noConfig_iff {e : JournalEntry} :
    (∃ step, e.setUpStep? = some (step, some .noConfig)) ↔
      ∃ display configs, e = .call (.gpu (.configs display)) configs ∧
        ∀ d ∈ configs.getD [], d.nativeVisual ≠ some xrgb8888 := by
  constructor
  · rintro ⟨step, he⟩
    unfold setUpStep? at he
    split at he
    case h_5 display configs =>
      refine ⟨display, configs, rfl, chooseConfig_eq_none_iff.1 ?_⟩
      exact (by simpa using he : _ ∧ _).2
    all_goals grind
  · rintro ⟨display, configs, rfl, hconfigs⟩
    simp [setUpStep?, chooseConfig_eq_none_iff.2 hconfigs]

/-- The attempt ends for want of a configuration if the listing that was tried has none that fits. -/
theorem Attempt.noConfig_iff (h : Attempt steps failure g) : failure = some .noConfig ↔
    ∃ display configs, .call (.gpu (.configs display)) configs ∈ g ∧
      ∀ d ∈ configs.getD [], d.nativeVisual ≠ some xrgb8888 := by
  have htries {failure g} (h : Tries steps failure g) : failure = some .noConfig ↔
      ∃ display configs, .call (.gpu (.configs display)) configs ∈ g ∧
        ∀ d ∈ configs.getD [], d.nativeVisual ≠ some xrgb8888 := by
    rw [h.failure_iff]
    simp only [JournalEntry.setUpStep?_noConfig_iff]
    grind
  cases h with
  | success h => exact htries h
  | @failure _ releases _ h hreleases hback =>
    have hreleasing (display configs) :
        JournalEntry.call (.gpu (.configs display)) configs ∉ releases :=
      fun he => by simpa [JournalEntry.released?] using hreleases _ he
    simp only [htries h, List.mem_append, hreleasing, false_or]

end SetUp

namespace JournalEntry

/-- The entry releases nothing that serves the device as a whole, and creates surfaces with the handles
only. -/
def Within (handles : Option ContextHandles) : JournalEntry → Prop
  | .call (.gpu (.destroyDevice _)) _ | .call (.gpu (.terminateDisplay _)) _
  | .call (.gpu (.destroyContext _ _)) _ => False
  | .call (.gpu (.createSurface _ device display config _ _)) _ =>
    ∃ context, handles = some ⟨device, display, config, context⟩
  | _ => True

theorem Within.ofOutputs {handles : Option ContextHandles} {e : JournalEntry} (h : e.Within handles)
    {r : Resource} (hr : e.released? = some r) : r.OfOutputs := by
  unfold released? at hr
  split at hr
  · exact h.elim
  · exact h.elim
  · exact h.elim
  · exact Option.some.inj hr ▸ trivial
  · obtain ⟨_, -, rfl⟩ := Option.map_eq_some_iff.1 hr
    trivial
  · contradiction

end JournalEntry

namespace RenderContext

variable {W : World} {α ε : Type} {c c' : RenderContext W} {g g₀ : List JournalEntry}
  {h : ContextHandles}

/-- The handles stay as they are, and surfaces are created with them. -/
structure Serves (c : RenderContext W) (gained : List JournalEntry) (c' : RenderContext W) : Prop where
  handles : c'.handles = c.handles
  within : ∀ e ∈ gained, e.Within c.handles

instance : Composes (Serves (W := W)) where
  refl _ := ⟨rfl, by simp⟩
  trans h h' := ⟨h'.handles.trans h.handles, fun e he =>
    (List.mem_append.1 he).elim (fun he => h.handles ▸ h'.within e he) (h.within e)⟩

theorem Serves.releasedOfDevice_eq (hs : Serves c g c') : releasedOfDevice g = [] := by
  refine List.filter_eq_nil_iff.2 fun r hr => ?_
  obtain ⟨e, he, hr⟩ := List.mem_filterMap.1 hr
  simpa using (hs.within e he).ofOutputs hr

theorem serves_call {k : Call} (h : ∀ a handles, (JournalEntry.call k a).Within handles) :
    Always Serves (call k : RenderM W k.Answer) := fun c =>
  ⟨[.call k (W.answer k c.world).1], rfl, rfl, by simpa using h _ _⟩

theorem serves_modifyChains (f : SwapChains → SwapChains) :
    Always Serves (modify fun c => { c with chains := f c.chains } :
      ExceptT ε (RenderM W) Unit).run := fun c => ⟨[], rfl, rfl, by simp⟩

theorem serves_removeFramebuffers (framebuffers : List FramebufferId) :
    Always Serves (removeFramebuffers framebuffers : RenderM W Unit) :=
  always_removeFramebuffers (fun _ => serves_call fun _ _ => trivial) framebuffers

theorem serves_updateChains (change : SwapChains → List FramebufferId × SwapChains) :
    Always Serves (updateChains change : RenderM W Unit) :=
  always_updateChains (fun _ => ⟨rfl, by simp⟩) fun _ => serves_call fun _ _ => trivial

theorem serves_createSurface (width height : UInt32) :
    Always Serves ((createSurface width height).run : RenderM W _) := by
  refine fun c => (yields_requireHandles c).bindOk ?_ ?_
  · rintro h _ c ⟨rfl, rfl, hh⟩
    have hwithin (answer : Except RenderError Unit) : (JournalEntry.call (.gpu (.createSurface
        c.chains.nextSurface h.device h.display h.config width height)) answer).Within c.handles :=
      ⟨h.context, hh h rfl⟩
    have hcall : Yields (gpu (.createSurface c.chains.nextSurface h.device h.display h.config width
        height) : RenderM W _) c fun _ g c' => Serves c g c' :=
      ⟨_, rfl, rfl, List.forall_mem_singleton.2 (hwithin _)⟩
    simp only [List.append_nil]
    refine Yields.getOk_bind (hcall.orFail_bindOk ?_ fun _ _ _ h' => h')
    intro _ g c₁ h₁
    exact ⟨[], rfl, h₁.handles, h₁.within⟩
  · rintro e _ c ⟨rfl, rfl, -⟩
    exact Composes.refl c

theorem serves_destroySurface (surface : SurfaceId) :
    Always Serves (destroySurface surface : RenderM W Unit) := by
  apply always_destroySurface
  case hset => exact fun _ _ => ⟨rfl, by simp⟩
  case hremove | hunbind | hdestroy => exact fun _ => serves_call fun _ _ => trivial

theorem serves_scanoutId (buffer : BufferSlot) :
    Always Serves ((scanoutId buffer).run : RenderM W _) := by
  refine fun c => Yields.getOk_bind ?_
  cases c.chains.framebuffer? buffer with
  | some fb => exact Always.pureOk fb c
  | none =>
    have hgeometry : Always Serves (orFail id (gpu (.geometry buffer)) :
        ExceptT RenderError (RenderM W) BufferGeometry).run :=
      .orFail (serves_call fun _ _ => trivial)
    refine Always.bindOk hgeometry (fun _ => ?_) c
    refine .bindOk (.orFail (serves_call fun _ _ => trivial)) fun fb => ?_
    have hremove := serves_removeFramebuffers (W := W) [fb]
    refine .bindOk (.orRelease hremove (.orFail (serves_call fun _ _ => trivial))) fun _ => ?_
    exact .bindOk (serves_modifyChains (·.attach buffer fb)) fun _ => .pureOk fb

/-- Only a teardown changes the handles. -/
theorem serves_perform {s : RenderStep} (hs : s ≠ .ask .teardown) :
    Always Serves ((perform s).run : RenderM W _) := by
  cases s with
  | ask a =>
    cases a with
    | createSurface width height => exact serves_createSurface width height
    | makeCurrent surface =>
      exact .bindOk always_requireHandles fun _ => .orFail (serves_call fun _ _ => trivial)
    | clear width height colour => exact .lift (serves_call fun _ _ => trivial)
    | swapBuffers surface =>
      exact .bindOk always_requireHandles fun _ => .orFail (serves_call fun _ _ => trivial)
    | lockFrontBuffer surface =>
      exact .bindOk (.orFail (serves_call fun _ _ => trivial)) fun index =>
        .bindOk (serves_modifyChains (·.lock ⟨surface, index⟩)) fun _ => .pureOk _
    | destroySurface surface => exact .lift (serves_destroySurface surface)
    | teardown => exact absurd rfl hs
  | scanoutId buffer => exact serves_scanoutId buffer
  | releaseBuffer buffer =>
    exact .lift (.bind (serves_call fun _ _ => trivial) fun _ => serves_updateChains _)

/-- The handles are there and nothing that serves the device was released, or they are gone and all of
it was, the context first and the device last. Surfaces were created with the handles only. -/
structure Serving (h : ContextHandles) (g : List JournalEntry) (c : RenderContext W) : Prop where
  spent : c.handles = some h ∧ releasedOfDevice g = [] ∨
    c.handles = none ∧ (releasedOfDevice g).reverse = h.resources
  surfaces : ∀ s device display config width height answer,
    .call (.gpu (.createSurface s device display config width height)) answer ∈ g →
      device = h.device ∧ display = h.display ∧ config = h.config

theorem Serving.of_serves (hc : Serving h g₀ c) (hs : Serves c g c') : Serving h (g ++ g₀) c' where
  spent := by
    rw [hs.handles, releasedOfDevice_append, hs.releasedOfDevice_eq, List.nil_append]
    exact hc.spent
  surfaces s device display config width height answer he := by
    rcases List.mem_append.1 he with he | he
    · obtain ⟨context, hcontext⟩ := hs.within _ he
      rcases hc.spent with ⟨hh, -⟩ | ⟨hnone, -⟩
      · obtain rfl := Option.some.inj (hh.symm.trans hcontext)
        exact ⟨rfl, rfl, rfl⟩
      · rw [hnone] at hcontext
        contradiction
    · exact hc.surfaces s device display config width height answer he

theorem Serving.teardown (hc : Serving h g₀ c) :
    Yields teardown c fun _ g c' => c'.handles = none ∧ Serving h (g ++ g₀) c' := by
  rcases hc.spent with ⟨hh, hg⟩ | ⟨hnone, -⟩
  · refine (yields_teardown_handles hh).mono ?_
    rintro _ g c' ⟨hnone, -, unbound, rfl⟩
    refine ⟨hnone, .inr ⟨hnone, ?_⟩, fun s device display config width height answer he => ?_⟩
    · rw [releasedOfDevice_append, hg]
      rfl
    · exact hc.surfaces s device display config width height answer (by simpa using he)
  · refine Yields.get_bind ?_
    rw [hnone]
    exact .pure ⟨hnone, hc⟩

theorem Serving.perform (hc : Serving h g₀ c) (s : RenderStep) :
    Yields (perform s).run c fun _ g c' => Serving h (g ++ g₀) c' := by
  by_cases hs : s = .ask .teardown
  · subst hs
    exact .lift (hc.teardown.mono fun _ _ _ h => h.2)
  · exact (serves_perform hs c).mono fun _ _ _ => hc.of_serves

/-- Dropping a context tears it down, whatever was done with it before. -/
theorem Serving.dropped (hc : Serving h [] c) (steps : List RenderStep) :
    let dropped := (c.run steps).after (.ask .teardown)
    dropped.handles = none ∧ ∃ g, dropped.journal = g ++ c.journal ∧ Serving h g dropped := by
  intro dropped
  obtain ⟨g, hg, hrun⟩ : ∃ g, (c.run steps).journal = g ++ c.journal ∧ Serving h (g ++ []) (c.run steps) :=
    run_keeps (fun s _ c g₀ hc => hc.perform s) hc
  obtain ⟨g', hg', hnone, hdropped⟩ := hrun.teardown
  rw [List.append_nil] at hdropped
  refine ⟨hnone, g' ++ g, ?_, hdropped⟩
  rw [List.append_assoc]
  exact hg'.trans (congrArg (g' ++ ·) hg)

/-- A rendering context is set up completely or not at all. If a step fails, no later one is tried, and
what was acquired is released, each resource once and the last one first; that no configuration fits
is the failure if the earlier steps succeeded and none of the listed ones renders into `xrgb8888`.
Otherwise device, display and context were acquired once and not released, and the first
configuration that fits is the one of the context. From then on, whatever is done with it, every
surface is created with these handles, and when the context is dropped, context, display and device
have been released, each once and in this order, whether or not the context could be unbound. -/
theorem context_released_once_in_reverse (w : W.State) :
    (match setUp (.start w) with
      | .error (cause, s) => released s.journal = (acquired s.journal).reverse ∧
        ∃ tries releases, s.journal = releases ++ tries ∧
          Tries SetUpStep.all (some cause) tries ∧ ∀ e ∈ releases, e.released?.isSome
      | .ok c => ∃ h, c.handles = some h ∧ Tries SetUpStep.all none c.journal ∧
        acquired c.journal = h.resources ∧ released c.journal = [] ∧
        (∃ before after, .call (.gpu (.configs h.display))
            (some (before ++ ⟨h.config, some xrgb8888⟩ :: after)) ∈ c.journal ∧
          ∀ d ∈ before, d.nativeVisual ≠ some xrgb8888) ∧
        .call (.gpu (.createContext h.display h.config)) (some h.context) ∈ c.journal ∧
        ∀ steps, let dropped := (c.run steps).after (.ask .teardown)
          dropped.handles = none ∧ ∃ g, dropped.journal = g ++ c.journal ∧
            (releasedOfDevice g).reverse = h.resources ∧
            ∀ s device display config width height answer,
              .call (.gpu (.createSurface s device display config width height)) answer ∈ g →
                device = h.device ∧ display = h.display ∧ config = h.config) ∧
    ((∃ s, setUp (.start w) = .error (.noConfig, s)) ↔
      ∃ display configs, .call (.gpu (.configs display)) configs ∈
          (acquire.run (Session.start w)).2.journal ∧
        ∀ d ∈ configs.getD [], d.nativeVisual ≠ some xrgb8888) := by
  obtain ⟨g, hg, hacquiring⟩ := yields_acquire (Session.start w)
  unfold setUp
  generalize acquire.run (Session.start w) = acquiring at hg hacquiring ⊢
  obtain ⟨cause | h, s⟩ := acquiring
  · obtain rfl : s.journal = g := hg.trans (List.append_nil g)
    refine ⟨⟨hacquiring.balanced, ?_⟩, ?_⟩
    · generalize s.journal = g at hacquiring ⊢
      cases hacquiring with
      | failure htries hreleases hback => exact ⟨_, _, rfl, htries, hreleases⟩
    · rw [← hacquiring.noConfig_iff]
      simp
  · obtain rfl : s.journal = g := hg.trans (List.append_nil g)
    obtain ⟨htries, htakes, hchosen⟩ := hacquiring
    refine ⟨⟨h, rfl, htries, htakes.acquired, htakes.released, ?_, hchosen.created, fun steps => ?_⟩, ?_⟩
    · obtain ⟨configs | configs, hconfigs, hfirst⟩ := hchosen.first
      · contradiction
      · obtain ⟨before, after, rfl, hbefore⟩ := chooseConfig_eq_some_iff.1 hfirst
        exact ⟨before, after, hconfigs, hbefore⟩
    · have hserving : Serving h [] (ofHandles s h) := ⟨.inl ⟨rfl, rfl⟩, by simp⟩
      obtain ⟨hnone, g, hg, hdropped⟩ := hserving.dropped steps
      obtain ⟨hhandles, -⟩ | ⟨-, hgone⟩ := hdropped.spent
      · cases hnone.symm.trans hhandles
      · exact ⟨hnone, g, hg, hgone, hdropped.surfaces⟩
    · rw [← (Attempt.success htries).noConfig_iff]
      simp

end RenderContext
end Scanout
