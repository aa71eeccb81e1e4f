import Scanout.OutputTeardown
import Scanout.Proofs.FramePresentation

/-!
# What releasing an output does

Putting a snapshot back and switching a CRTC off are the only commits of a release, and the
claims are given up after the surface is gone. `PutBack` lists the ways in which the commits
can go.
-/

namespace Scanout

/-- The commits that put a snapshot back and switch off the CRTC claimed in its place. A
snapshot without a mode is not put back. -/
inductive PutBack (connector : ConnectorHandle) (claimed : Option CrtcHandle)
    (saved : Option CrtcInfo) : List JournalEntry → Prop where
  | nothing (hs : saved.filter (·.mode.isSome) = none) (hc : claimed = none) :
      PutBack connector claimed saved []
  | off {crtc answer} (hs : saved.filter (·.mode.isSome) = none) (hc : claimed = some crtc) :
      PutBack connector claimed saved [.call (.kernel (.setCrtc (.switchOff crtc))) answer]
  | restored {s} (hs : saved.filter (·.mode.isSome) = some s)
      (hc : claimed = none ∨ claimed = some s.handle) :
      PutBack connector claimed saved [.call (.kernel (.setCrtc (s.restoring connector))) (.ok ())]
  | moved {s crtc answer} (hs : saved.filter (·.mode.isSome) = some s)
      (hc : claimed = some crtc) (hne : crtc ≠ s.handle) :
      PutBack connector claimed saved
        [.call (.kernel (.setCrtc (.switchOff crtc))) answer,
          .call (.kernel (.setCrtc (s.restoring connector))) (.ok ())]
  | refused {s cause} (hs : saved.filter (·.mode.isSome) = some s) (hc : claimed = none) :
      PutBack connector claimed saved
        [.call (.kernel (.setCrtc (s.restoring connector))) (.error cause)]
  | refusedOff {s cause crtc answer} (hs : saved.filter (·.mode.isSome) = some s)
      (hc : claimed = some crtc) :
      PutBack connector claimed saved
        [.call (.kernel (.setCrtc (.switchOff crtc))) answer,
          .call (.kernel (.setCrtc (s.restoring connector))) (.error cause)]

/-- The entries of destroying a surface, which are quiet but for telling the platform. -/
def Destroys (surface : SurfaceId) (gained : List JournalEntry) : Prop :=
  ∀ e ∈ gained, e.IsQuiet ∨ ∃ d, e = .call (.gpu (.destroySurface d surface)) ()

/-- A record whose output was released. -/
def Output.withdrawn (o : Output) : Output :=
  { o.resetModeset with
    surface := none
    state := if o.state = .connected then .disconnected else o.state }

namespace Backend

variable {W : World}

private theorem yields_switchOff (claimed restored : Option CrtcHandle) (b : Backend W) :
    Yields (match claimed with
      | none => return
      | some crtc => unless restored == some crtc do
          discard (kernel (.setCrtc (.switchOff crtc))) : BackendM W Unit) b fun _ g b' =>
      SameBooks b b' ∧
        ((g = [] ∧ (claimed = none ∨ claimed = restored)) ∨
          ∃ crtc answer, g = [.call (.kernel (.setCrtc (.switchOff crtc))) answer] ∧
            claimed = some crtc ∧ restored ≠ some crtc) := by
  cases claimed with
  | none => exact .pure ⟨.refl b, .inl ⟨rfl, .inl rfl⟩⟩
  | some crtc =>
    dsimp only
    by_cases hr : restored = some crtc
    · rw [hr, beq_self_eq_true]
      exact .pure ⟨.refl b, .inl ⟨rfl, .inr rfl⟩⟩
    · rw [beq_eq_false_iff_ne.2 hr]
      refine .discard ((yields_call (.kernel (.setCrtc (.switchOff crtc))) b).mono ?_)
      rintro answer _ b₁ ⟨rfl, h₁⟩
      exact ⟨h₁, .inr ⟨crtc, answer, rfl, rfl, hr⟩⟩

theorem yields_restoreCrtc (connector : ConnectorHandle) (claimed : Option CrtcHandle)
    (saved : Option CrtcInfo) (b : Backend W) :
    Yields (restoreCrtc connector claimed saved) b fun _ g b' =>
      PutBack connector claimed saved g ∧ SameBooks b b' := by
  unfold restoreCrtc
  cases hs : saved.filter (·.mode.isSome) with
  | none =>
    refine Yields.bind (P := fun r g b' => r = none ∧ g = [] ∧ b' = b) (.pure ⟨rfl, rfl, rfl⟩) ?_
    rintro _ _ b ⟨rfl, rfl, rfl⟩
    refine (yields_switchOff claimed none b).mono ?_
    rintro _ _ b₁ ⟨h₁, ⟨rfl, hc⟩ | ⟨crtc, answer, rfl, hc, -⟩⟩
    · exact ⟨.nothing hs (hc.elim id id), h₁⟩
    · exact ⟨.off hs hc, h₁⟩
  | some s =>
    refine (yields_call (.kernel (.setCrtc (s.restoring connector))) b).bind ?_
    rintro answer _ b₁ ⟨rfl, h₁⟩
    cases answer with
    | ok _ =>
      refine (yields_switchOff claimed (some s.handle) b₁).mono ?_
      rintro _ _ b₂ ⟨h₂, ⟨rfl, hc⟩ | ⟨crtc, off, rfl, hc, hne⟩⟩
      · exact ⟨.restored hs hc, h₁.trans h₂⟩
      · exact ⟨.moved hs hc fun h => hne (h ▸ rfl), h₁.trans h₂⟩
    | error cause =>
      refine (yields_switchOff claimed none b₁).mono ?_
      rintro _ _ b₂ ⟨h₂, ⟨rfl, hc⟩ | ⟨crtc, off, rfl, hc, -⟩⟩
      · exact ⟨.refused hs (hc.elim id id), h₁.trans h₂⟩
      · exact ⟨.refusedOff hs hc, h₁.trans h₂⟩

theorem yields_destroySurface (surface : SurfaceId) (b : Backend W) :
    Yields (BackendM.inContext (RenderContext.destroySurface surface)) b fun _ g b' =>
      Destroys surface g ∧ SameBooks b b' :=
  (yields_inContext (RenderContext.yields_destroySurface surface _) fun _ _ _ h => h.2).mono
    fun _ _ _ h => ⟨h.1.1, h.2⟩

/-- An output with a surface gives everything up, whatever its flip is doing. -/
theorem yields_releaseOutput {id : OutputId} {b : Backend W} {o : Output} {s : OutputSurface}
    (ho : b.output? id = some o) (hs : o.surface = some s) :
    Yields (releaseOutput id) b fun _ g b' =>
      ∃ g₁ g₂, g = .released id :: g₂ ++ g₁ ∧ PutBack o.connector o.crtc o.savedCrtc g₁ ∧
        Destroys s.surface g₂ ∧
        SameBooks { b with
          outputs := b.outputs.modify id.slot .withdrawn
          claims := b.claims.release id } b' := by
  refine Yields.get_bind ?_
  simp only [ho, hs]
  refine (yields_updateOutput id _ b).bind ?_
  rintro _ _ _ ⟨rfl, rfl⟩
  refine (yields_restoreCrtc o.connector o.crtc o.savedCrtc _).bind ?_
  rintro _ g₁ b₁ ⟨hback, h₁⟩
  refine (yields_destroySurface s.surface b₁).bind ?_
  rintro _ g₂ b₂ ⟨hdestroy, h₂⟩
  refine (yields_releaseClaims id b₂).bind ?_
  rintro _ _ b₃ ⟨rfl, h₃⟩
  refine (yields_updateOutput id _ b₃).mono ?_
  rintro _ _ _ ⟨rfl, rfl⟩
  refine ⟨g₁, g₂, by simp, hback, hdestroy, ?_⟩
  have hbooks := ((h₁.trans h₂).mapClaims (·.release id)).trans h₃
  refine ⟨?_, hbooks.claims, hbooks.timeout, hbooks.created⟩
  show b₃.outputs.modify id.slot _ = _
  rw [hbooks.outputs, List.modify_modify_eq]
  rfl

section Always

variable {R : Backend W → List JournalEntry → Backend W → Prop} [Composes R]
  (hset : ∀ commit, Always R (kernel (.setCrtc commit) : BackendM W _))

include hset

private theorem always_switchOff (claimed restored : Option CrtcHandle) :
    Always R (match claimed with
      | none => return
      | some crtc => unless restored == some crtc do
          discard (kernel (.setCrtc (.switchOff crtc))) : BackendM W Unit) := by
  cases claimed with
  | none => exact .pure ()
  | some crtc =>
    dsimp only
    cases restored == some crtc with
    | true => exact .pure ()
    | false => exact .discard (hset _)

theorem always_restoreCrtc (connector : ConnectorHandle) (claimed : Option CrtcHandle)
    (saved : Option CrtcInfo) :
    Always R (restoreCrtc connector claimed saved : BackendM W Unit) := by
  unfold restoreCrtc
  cases saved.filter (·.mode.isSome) with
  | none => exact .bind (.pure none) (always_switchOff hset claimed)
  | some s =>
    refine .bind (hset _) fun answer => ?_
    cases answer with
    | ok _ => exact always_switchOff hset claimed (some s.handle)
    | error _ => exact always_switchOff hset claimed none

/-- A release stays within what its steps stay within. -/
theorem always_releaseOutput {id : OutputId}
    (hdestroy : ∀ s, Always R (BackendM.inContext (RenderContext.destroySurface s) : BackendM W Unit))
    (hrelease : Always R (releaseClaims id : BackendM W Unit))
    (hrecord : ∀ f, Always R (updateOutput id f : BackendM W Unit)) :
    Always R (releaseOutput id : BackendM W Unit) := by
  refine .get_bind fun b => ?_
  cases b.output? id with
  | none => exact Always.pure () b
  | some o =>
    dsimp only
    cases o.surface with
    | none => exact Always.pure () b
    | some s =>
      exact Always.bind (hrecord _) (fun _ => .bind (always_restoreCrtc hset _ _ _) fun _ =>
        .bind (hdestroy _) fun _ => .bind hrelease fun _ => hrecord _) b

end Always

end Backend
end Scanout
