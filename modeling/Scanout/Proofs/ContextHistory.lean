import Scanout.Proofs.ContextResources
import Scanout.SimulatedDevice

/-!
# Histories of a rendering context

Whoever draws asks something of the rendering context, or uses a buffer that was locked through it.
A history is a sequence of such steps, and goes on whatever the steps answer.
-/

namespace Scanout

/-- What can be asked of a rendering context. -/
inductive RenderAction
  | createSurface (width height : UInt32)
  | makeCurrent (surface : SurfaceId)
  | clear (width height : UInt32) (colour : Colour)
  | swapBuffers (surface : SurfaceId)
  | lockFrontBuffer (surface : SurfaceId)
  | destroySurface (surface : SurfaceId)
  | teardown

abbrev RenderAction.Answer : RenderAction → Type
  | createSurface _ _ => SurfaceId
  | lockFrontBuffer _ => BufferSlot
  | makeCurrent _ | clear _ _ _ | swapBuffers _ | destroySurface _ | teardown => Unit

/-- A step of whoever draws. -/
inductive RenderStep
  | ask (a : RenderAction)
  | scanoutId (buffer : BufferSlot)
  | releaseBuffer (buffer : BufferSlot)

abbrev RenderStep.Answer : RenderStep → Type
  | ask a => a.Answer
  | scanoutId _ => FramebufferId
  | releaseBuffer _ => Unit

namespace RenderContext

variable {W : World}

def ask : (a : RenderAction) → ExceptT RenderError (RenderM W) a.Answer
  | .createSurface width height => createSurface width height
  | .makeCurrent surface => makeCurrent surface
  | .clear width height colour => ExceptT.lift (clear width height colour)
  | .swapBuffers surface => swapBuffers surface
  | .lockFrontBuffer surface => lockFrontBuffer surface
  | .destroySurface surface => ExceptT.lift (destroySurface surface)
  | .teardown => ExceptT.lift teardown

def perform : (s : RenderStep) → ExceptT RenderError (RenderM W) s.Answer
  | .ask a => ask a
  | .scanoutId buffer => scanoutId buffer
  | .releaseBuffer buffer => ExceptT.lift (releaseBuffer buffer)

/-- The context after a step, whether it succeeded or not. -/
def after (c : RenderContext W) (s : RenderStep) : RenderContext W := ((perform s).run c).2

def run (c : RenderContext W) (steps : List RenderStep) : RenderContext W := steps.foldl after c

@[simp] theorem run_nil (c : RenderContext W) : c.run [] = c := rfl

@[simp] theorem run_cons (c : RenderContext W) (s : RenderStep) (steps : List RenderStep) :
    c.run (s :: steps) = (c.after s).run steps := rfl

theorem run_append (c : RenderContext W) (first second : List RenderStep) :
    c.run (first ++ second) = (c.run first).run second := List.foldl_append

/-- What every step keeps of the context and of the entries since the beginning, a run keeps. -/
theorem run_keeps {P : List JournalEntry → RenderContext W → Prop} {steps : List RenderStep}
    (h : ∀ s ∈ steps, ∀ c g₀, P g₀ c → Yields (perform s).run c fun _ g c' => P (g ++ g₀) c')
    {c : RenderContext W} {g₀ : List JournalEntry} (hc : P g₀ c) :
    ∃ g, (c.run steps).journal = g ++ c.journal ∧ P (g ++ g₀) (c.run steps) := by
  induction steps generalizing c g₀ with
  | nil => exact ⟨[], rfl, hc⟩
  | cons s steps ih =>
    obtain ⟨g, hg, hc₁⟩ := h s List.mem_cons_self c g₀ hc
    obtain ⟨g', hg', hc'⟩ :=
      ih (fun s' hs' => h s' (List.mem_cons_of_mem _ hs')) (c := c.after s) hc₁
    refine ⟨g' ++ g, ?_, by rwa [List.append_assoc]⟩
    rw [run_cons, hg', List.append_assoc]
    exact congrArg (g' ++ ·) hg

/-- A device without monitors, which grants whatever is asked. -/
def plainDevice : SimulatedDevice where
  faults := []
  kernel := .new [] [] []
  gpu := .new SimulatedGpu.defaultVisuals SimulatedGpu.defaultBuffers

end RenderContext
end Scanout
