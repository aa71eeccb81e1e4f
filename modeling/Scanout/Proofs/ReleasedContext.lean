import Scanout.Proofs.ContextHistory

/-!
# A rendering context that was released

Without its handles a rendering context refuses what needs them, and lets surfaces go without telling
the platform. Two operations do not look for the handles: clearing, and locking a front buffer. They
are the only ones that still reach the platform once the context is released.
-/

namespace Scanout

/-- The operations on the platform among the entries. -/
def gpuCalls (g : List JournalEntry) : List GpuCall :=
  g.filterMap fun
    | .call (.gpu operation) _ => some operation
    | _ => none

theorem gpuCalls_append (g' g : List JournalEntry) : gpuCalls (g' ++ g) = gpuCalls g' ++ gpuCalls g :=
  List.filterMap_append

namespace RenderAction

/-- The action needs the handles of the context. -/
def NeedsHandles : RenderAction → Prop
  | createSurface _ _ | makeCurrent _ | swapBuffers _ => True
  | clear _ _ _ | lockFrontBuffer _ | destroySurface _ | teardown => False

/-- What the action asks of the platform without looking for the handles. -/
def unguarded : RenderAction → List GpuCall
  | clear width height colour => [.clear width height colour]
  | lockFrontBuffer surface => [.lockFrontBuffer surface]
  | createSurface _ _ | makeCurrent _ | swapBuffers _ | destroySurface _ | teardown => []

end RenderAction

namespace RenderContext

variable {W : World} {c c' : RenderContext W}

/-- The platform is not called, and the handles stay as they are. -/
structure Offstage (c : RenderContext W) (gained : List JournalEntry) (c' : RenderContext W) :
    Prop where
  calls : gpuCalls gained = []
  handles : c'.handles = c.handles

instance : Composes (Offstage (W := W)) where
  refl _ := ⟨rfl, rfl⟩
  trans h h' := ⟨by rw [gpuCalls_append, h'.calls, h.calls, List.append_nil],
    h'.handles.trans h.handles⟩

theorem yields_of_run_eq {α : Type} {act : RenderM W α} {a : α}
    {Q : α → List JournalEntry → RenderContext W → Prop} (h : act c = (a, c)) (hQ : Q a [] c) :
    Yields act c Q := by
  refine ⟨[], ?_, ?_⟩ <;> rw [h]
  · rfl
  · exact hQ

theorem offstage_kernel (request : KernelCall) :
    Always Offstage (kernel request : RenderM W request.Answer) := fun c =>
  ⟨[.call (.kernel request) (W.answer (.kernel request) c.world).1], rfl, rfl, rfl⟩

theorem yields_gpuCall (operation : GpuCall) (c : RenderContext W) :
    Yields (gpu operation : RenderM W operation.Answer) c fun _ g c' =>
      gpuCalls g = [operation] ∧ c'.handles = c.handles :=
  ⟨[.call (.gpu operation) (W.answer (.gpu operation) c.world).1], rfl, rfl, rfl⟩

theorem offstage_updateChains (change : SwapChains → List FramebufferId × SwapChains) :
    Always Offstage (updateChains change : RenderM W Unit) :=
  always_updateChains (fun _ => ⟨rfl, rfl⟩) fun _ => offstage_kernel _

/-- Without handles, what needs them is refused and nothing happens. -/
theorem ask_of_released (hc : c.handles = none) {a : RenderAction} (ha : a.NeedsHandles) :
    (ask a).run c = (.error .contextReleased, c) := by
  have hrefused : requireHandles.run c = (.error .contextReleased, c) := by
    obtain ⟨session, handles, chains⟩ := c
    obtain rfl : handles = none := hc
    rfl
  have hbind {α : Type} (f : ContextHandles → ExceptT RenderError (RenderM W) α) :
      (requireHandles >>= f).run c = (.error .contextReleased, c) := by
    change (ExceptT.bindCont f (requireHandles.run c).1) (requireHandles.run c).2 = _
    rw [hrefused]
    rfl
  cases a with
  | createSurface _ _ | makeCurrent _ | swapBuffers _ => exact hbind _
  | clear _ _ _ | lockFrontBuffer _ | destroySurface _ | teardown => exact ha.elim

/-- Without handles, only what does not look for them reaches the platform. -/
theorem yields_ask_released (hc : c.handles = none) (a : RenderAction) :
    Yields (ask a).run c fun _ g c' => gpuCalls g = a.unguarded ∧ c'.handles = none := by
  cases a with
  | createSurface width height =>
    exact yields_of_run_eq (ask_of_released hc (a := .createSurface width height) trivial) ⟨rfl, hc⟩
  | makeCurrent surface =>
    exact yields_of_run_eq (ask_of_released hc (a := .makeCurrent surface) trivial) ⟨rfl, hc⟩
  | swapBuffers surface =>
    exact yields_of_run_eq (ask_of_released hc (a := .swapBuffers surface) trivial) ⟨rfl, hc⟩
  | clear width height colour =>
    exact .lift ((yields_gpuCall _ c).mono fun _ _ _ h => ⟨h.1, h.2.trans hc⟩)
  | lockFrontBuffer surface =>
    refine (yields_gpuCall _ c).orFail_bindOk ?_ ?_
    · rintro index g c₁ ⟨hcalls, hhandles⟩
      exact ⟨[], rfl, hcalls, hhandles.trans hc⟩
    · rintro _ g c₁ ⟨hcalls, hhandles⟩
      exact ⟨hcalls, hhandles.trans hc⟩
  | destroySurface surface =>
    refine .lift (.get_bind ?_)
    rw [hc]
    exact (offstage_updateChains _ c).mono fun _ _ _ h => ⟨h.calls, h.handles.trans hc⟩
  | teardown =>
    refine .lift (.get_bind ?_)
    rw [hc]
    exact .pure ⟨rfl, hc⟩

theorem handles_after_teardown (c : RenderContext W) : (c.after (.ask .teardown)).handles = none := by
  cases hh : c.handles with
  | none => exact (yields_ask_released hh .teardown).choose_spec.2.2
  | some h => exact (yields_teardown_handles hh).choose_spec.2.1

/-- Actions on a released context reach the platform only where they do not look for the handles. -/
theorem run_released (hc : c.handles = none) (later : List RenderAction) :
    ∃ g, (c.run (later.map .ask)).journal = g ++ c.journal ∧
      gpuCalls g = (later.flatMap (·.unguarded)).reverse ∧ (c.run (later.map .ask)).handles = none := by
  induction later generalizing c with
  | nil => exact ⟨[], rfl, rfl, hc⟩
  | cons a later ih =>
    obtain ⟨g, hg, hcalls, hc₁⟩ := yields_ask_released hc a
    obtain ⟨g', hg', hcalls', hc'⟩ := ih (c := c.after (.ask a)) hc₁
    refine ⟨g' ++ g, ?_, ?_, hc'⟩
    · rw [List.append_assoc, List.map_cons, run_cons, hg']
      exact congrArg (g' ++ ·) hg
    · have hsingle : a.unguarded.reverse = a.unguarded := by cases a <;> rfl
      rw [gpuCalls_append, hcalls', hcalls, List.flatMap_cons, List.reverse_append, hsingle]

/-- Whether a front buffer can be locked is up to the platform. -/
theorem answer_lockFrontBuffer (c : RenderContext W) (surface : SurfaceId) :
    ((lockFrontBuffer surface).run c).1 =
      (W.answer (.gpu (.lockFrontBuffer surface)) c.world).1.map (⟨surface, ·⟩) := by
  have hcall : (call (.gpu (.lockFrontBuffer surface)) : RenderM W (Except RenderError Nat)) c =
      ((W.answer (.gpu (.lockFrontBuffer surface)) c.world).1, _) := rfl
  simp only [lockFrontBuffer, orFail, gpu, ExceptT.run, bind, ExceptT.bind, ExceptT.mk, StateT.bind,
    hcall]
  cases (W.answer (.gpu (.lockFrontBuffer surface)) c.world).1 with
  | ok index => rfl
  | error e => rfl

/-- Once a rendering context was torn down, what is asked of it reaches the platform only to clear
and to lock front buffers, once for each time that is asked: nothing does if that is not asked. What
needs the handles is refused, and leaves everything as it is. Locking a buffer is not refused, but
answers what the platform answers. -/
theorem released_context_reached_unguarded (c : RenderContext W) (later : List RenderAction) :
    let released := c.after (.ask .teardown)
    let c' := released.run (later.map .ask)
    (∃ g, c'.journal = g ++ released.journal ∧
      gpuCalls g = (later.flatMap (·.unguarded)).reverse ∧
      (gpuCalls g = [] ↔ ∀ a ∈ later, a.unguarded = [])) ∧
    (∀ a : RenderAction, a.NeedsHandles → (ask a).run c' = (.error .contextReleased, c')) ∧
    ∀ surface, ((ask (.lockFrontBuffer surface)).run c').1 =
      (W.answer (.gpu (.lockFrontBuffer surface)) c'.world).1.map (⟨surface, ·⟩) := by
  intro released c'
  obtain ⟨g, hg, hcalls, hc'⟩ := run_released (handles_after_teardown c) later
  refine ⟨⟨g, hg, hcalls, ?_⟩, fun a => ask_of_released hc', fun surface => ?_⟩
  · rw [hcalls, List.reverse_eq_nil_iff, List.flatMap_eq_nil_iff]
  · exact answer_lockFrontBuffer c' surface

/-- A surface was created and the context torn down, and still a buffer of the surface can be locked,
and the platform is told to clear. -/
theorem not_unreached_after_teardown :
    ∃ c₀ : RenderContext SimulatedDevice.world, setUp (.start plainDevice) = .ok c₀ ∧
      let c := c₀.run [.ask (.createSurface 640 480), .ask .teardown]
      (¬∀ surface, ((ask (.lockFrontBuffer surface)).run c).1 = .error .contextReleased) ∧
        ¬∀ a g, (c.after (.ask a)).journal = g ++ c.journal → gpuCalls g = [] := by
  refine ⟨_, rfl, fun h => ?_, fun h => ?_⟩
  · have hlocked := h ⟨1⟩
    rw [ask, answer_lockFrontBuffer] at hlocked
    cases hlocked
  · exact absurd (h (.clear 640 480 .black) [.call (.gpu (.clear 640 480 .black)) ()] rfl)
      (List.cons_ne_nil _ _)

end RenderContext
end Scanout
