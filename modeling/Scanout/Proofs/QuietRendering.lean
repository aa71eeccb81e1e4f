import Scanout.Proofs.JournalGrowth

/-!
# Entries that leave the outputs alone

Most calls neither program a CRTC nor tell of a page flip, and they come between no claim and
its release. Such entries are quiet. Everything that drawing needs is quiet, and so is
setting the context up and down; the one operation of the rendering context that is not is
the destruction of a surface.
-/

namespace Scanout

/-- The entry is a call that programs no CRTC, reports no completed flip and destroys no
surface. -/
def JournalEntry.IsQuiet : JournalEntry → Prop
  | .call (.kernel (.setCrtc _)) _ | .call (.kernel (.pageFlip _ _)) _ => False
  | .call (.kernel .receive) answer => answer.isOk = false
  | .call (.gpu (.destroySurface _ _)) _ => False
  | .call _ _ => True
  | .claimed _ _ | .released _ | .event _ => False

namespace SwapChains

@[simp] theorem created_destroy (t : SwapChains) (s : SurfaceId) :
    (t.destroy s).2.created = t.created := rfl

@[simp] theorem created_abandon (t : SwapChains) (s : SurfaceId) :
    (t.abandon s).2.created = t.created := rfl

@[simp] theorem created_unlock (t : SwapChains) (b : BufferSlot) :
    (t.unlock b).2.created = t.created := by
  unfold unlock
  dsimp only
  split <;> rfl

theorem locked_unlock (t : SwapChains) (b : BufferSlot) :
    (t.unlock b).2.locked = t.locked.erase b := by
  unfold unlock
  dsimp only
  split <;> rfl

end SwapChains

namespace RenderContext

variable {W : World} {α ε : Type}

/-- What a quiet act does: its entries are quiet, and no surface number is used again. -/
structure Hushed (c : RenderContext W) (gained : List JournalEntry) (c' : RenderContext W) :
    Prop where
  quiet : ∀ e ∈ gained, e.IsQuiet
  created : c.chains.created ≤ c'.chains.created

theorem Hushed.nil {c c' : RenderContext W} (h : c'.chains.created = c.chains.created) :
    Hushed c [] c' := ⟨by simp, Nat.le_of_eq h.symm⟩

theorem Hushed.trans {c c' c'' : RenderContext W} {g g' : List JournalEntry}
    (h : Hushed c g c') (h' : Hushed c' g' c'') : Hushed c (g' ++ g) c'' where
  quiet e he := (List.mem_append.1 he).elim (h'.quiet e) (h.quiet e)
  created := Nat.le_trans h.created h'.created

instance : Composes (Hushed (W := W)) where
  refl _ := .nil rfl
  trans := Hushed.trans

/-- The act is quiet in every state and whatever it answers. Spelled out, this is `Always Hushed act`,
so the lemmas about `Always` apply. -/
def Quietly (act : RenderM W α) : Prop := ∀ c, Yields act c fun _ g c' => Hushed c g c'

namespace Quietly

/-- Nearly every call is seen to be quiet by the kind of it. -/
protected theorem call {c : Call} (h : ∀ a, (JournalEntry.call c a).IsQuiet) :
    Quietly (call c : RenderM W c.Answer) := fun s =>
  ⟨[.call c (W.answer c s.world).1], rfl, by simpa using h _, Nat.le_refl _⟩

theorem modifyChains {f : SwapChains → SwapChains} (h : ∀ t, t.created ≤ (f t).created) :
    Quietly (modify fun c => { c with chains := f c.chains } :
      ExceptT ε (RenderM W) Unit).run := fun c => ⟨[], rfl, by simp, h c.chains⟩

end Quietly

theorem only_call {P : JournalEntry → Prop} {c : Call} (h : ∀ a, P (.call c a)) :
    Always (Only P) (call c : RenderM W c.Answer) := fun s =>
  ⟨[.call c (W.answer c s.world).1], rfl, by simpa [Only] using h _⟩

section Always

variable {R : RenderContext W → List JournalEntry → RenderContext W → Prop} [Composes R]

theorem always_requireHandles : Always R (requireHandles.run : RenderM W _) := by
  refine fun c => Yields.getOk_bind ?_
  cases c.handles with
  | none => exact Always.throw _ c
  | some h => exact Always.pureOk _ c

theorem always_removeFramebuffers
    (hremove : ∀ fb, Always R (kernel (.removeFramebuffer fb) : RenderM W _))
    (framebuffers : List FramebufferId) :
    Always R (removeFramebuffers framebuffers : RenderM W Unit) :=
  .forM (fun fb => (hremove fb).discard) framebuffers

/-- The chains are changed first, and what is no longer registered is removed after that. -/
theorem always_updateChains {change : SwapChains → List FramebufferId × SwapChains}
    (hset : ∀ c, R c [] { c with chains := (change c.chains).2 })
    (hremove : ∀ fb, Always R (kernel (.removeFramebuffer fb) : RenderM W _)) :
    Always R (updateChains change : RenderM W Unit) := by
  intro c
  refine Yields.get_bind (Yields.bind (P := fun _ g c' => R c g c') ⟨[], rfl, hset c⟩ ?_)
  intro _ _ _ h
  exact (always_removeFramebuffers hremove _ _).mono fun _ _ _ h' => Composes.trans h h'

theorem always_destroySurface {surface : SurfaceId}
    (hset : ∀ c chains, R c [] { c with chains })
    (hremove : ∀ fb, Always R (kernel (.removeFramebuffer fb) : RenderM W _))
    (hunbind : ∀ h : ContextHandles,
      Always R (gpu (.makeCurrent h.display h.context none) : RenderM W _))
    (hdestroy : ∀ h : ContextHandles,
      Always R (gpu (.destroySurface h.display surface) : RenderM W _)) :
    Always R (destroySurface surface : RenderM W Unit) := by
  refine .get_bind fun c => ?_
  cases c.handles with
  | none => exact always_updateChains (fun c => hset c _) hremove c
  | some h =>
    exact Always.bind (hunbind h).discard (fun _ => .bind (hdestroy h) fun _ =>
      always_updateChains (fun c => hset c _) hremove) c

end Always

theorem quietly_removeFramebuffers (framebuffers : List FramebufferId) :
    Quietly (removeFramebuffers framebuffers : RenderM W Unit) :=
  always_removeFramebuffers (fun _ => Quietly.call fun _ => trivial) framebuffers

theorem quietly_updateChains {change : SwapChains → List FramebufferId × SwapChains}
    (h : ∀ t, t.created ≤ (change t).2.created) :
    Quietly (updateChains change : RenderM W Unit) :=
  always_updateChains (fun c => ⟨by simp, h c.chains⟩) fun _ => Quietly.call fun _ => trivial

theorem quietly_teardown : Quietly (teardown : RenderM W Unit) := by
  intro c
  refine Yields.get_bind ?_
  cases c.handles with
  | none => exact .pure (.nil rfl)
  | some h =>
    refine Yields.bind (P := fun _ g c' => Hushed c g c') ⟨[], rfl, .nil rfl⟩ fun _ _ _ h₀ => ?_
    have hrest : Quietly (W := W) (do
        discard (gpu (.makeCurrent h.display h.context none))
        gpu (.destroyContext h.display h.context)
        gpu (.terminateDisplay h.display)
        gpu (.destroyDevice h.device)) :=
      Always.bind (.discard (Quietly.call fun _ => trivial)) fun _ =>
        .bind (Quietly.call fun _ => trivial) fun _ =>
          .bind (Quietly.call fun _ => trivial) fun _ => Quietly.call fun _ => trivial
    exact (hrest _).mono fun _ _ _ h' => h₀.trans h'

theorem quietly_makeCurrent (surface : SurfaceId) :
    Quietly ((makeCurrent surface).run : RenderM W _) :=
  Always.bindOk always_requireHandles fun _ => .orFail (Quietly.call fun _ => trivial)

theorem quietly_clear (width height : UInt32) (colour : Colour) :
    Quietly (clear width height colour : RenderM W Unit) := .call fun _ => trivial

theorem quietly_swapBuffers (surface : SurfaceId) :
    Quietly ((swapBuffers surface).run : RenderM W _) :=
  Always.bindOk always_requireHandles fun _ => .orFail (Quietly.call fun _ => trivial)

theorem quietly_lockFrontBuffer (surface : SurfaceId) :
    Quietly ((lockFrontBuffer surface).run : RenderM W _) :=
  Always.bindOk (.orFail (Quietly.call fun _ => trivial)) fun _ =>
    .bindOk (Quietly.modifyChains (f := (·.lock _)) fun _ => Nat.le_refl _) fun _ => .pure _

theorem quietly_releaseBuffer (buffer : BufferSlot) :
    Quietly (releaseBuffer buffer : RenderM W Unit) :=
  Always.bind (Quietly.call fun _ => trivial) fun _ => quietly_updateChains fun t => by simp

theorem quietly_scanoutId (buffer : BufferSlot) :
    Quietly ((scanoutId buffer).run : RenderM W _) := by
  intro c
  refine Yields.getOk_bind ?_
  cases c.chains.framebuffer? buffer with
  | some fb => exact .pureOk (.nil rfl)
  | none =>
    have hgeometry : Quietly (orFail id (gpu (.geometry buffer)) :
        ExceptT RenderError (RenderM W) BufferGeometry).run :=
      Always.orFail (Quietly.call fun _ => trivial)
    refine Always.bindOk (R := Hushed) hgeometry (fun geometry => ?_) c
    refine .bindOk (.orFail (Quietly.call fun _ => trivial)) fun fb => ?_
    have hremove := quietly_removeFramebuffers (W := W) [fb]
    refine .bindOk (.orRelease hremove (.orFail (Quietly.call fun _ => trivial))) fun _ => ?_
    exact .bindOk (Quietly.modifyChains (f := (·.attach _ _)) fun _ => Nat.le_refl _)
      fun _ => .pure _

/-- A surface gets a number that no surface before it had. -/
theorem yields_createSurface (width height : UInt32) (c : RenderContext W) :
    Yields (createSurface width height).run c fun r g c' => Hushed c g c' ∧
      ∀ s, r = .ok s → c.chains.created < s.number ∧ s.number ≤ c'.chains.created := by
  refine (always_requireHandles (R := Hushed) c).bindOk (fun h g c₁ h₁ => ?_) fun _ _ _ h₁ => ⟨h₁, by simp⟩
  refine Yields.getOk_bind ?_
  have hcall : Quietly (orFail id (gpu (.createSurface c₁.chains.nextSurface h.device h.display
      h.config width height)) : ExceptT RenderError (RenderM W) Unit).run :=
    Always.orFail (Quietly.call fun _ => trivial)
  refine (hcall c₁).bindOk (fun _ g' c₂ h₂ => ?_) fun _ _ _ h₂ => ⟨h₁.trans h₂, by simp⟩
  have hnew : Hushed c₂ [] { c₂ with chains := c₂.chains.create } := ⟨by simp, Nat.le_succ _⟩
  refine ⟨[], rfl, (h₁.trans h₂).trans hnew, ?_⟩
  rintro s ⟨⟩
  exact ⟨Nat.lt_succ_of_le h₁.created, Nat.succ_le_succ h₂.created⟩

/-- Destroying a surface tells the platform of that surface and otherwise is quiet. -/
theorem yields_destroySurface (surface : SurfaceId) (c : RenderContext W) :
    Yields (destroySurface surface) c fun _ g c' =>
      (∀ e ∈ g, e.IsQuiet ∨ ∃ d, e = .call (.gpu (.destroySurface d surface)) ()) ∧
        c.chains.created ≤ c'.chains.created := by
  refine Yields.get_bind ?_
  cases c.handles with
  | none =>
    exact (quietly_updateChains (fun t => by simp) c).mono fun _ _ _ h =>
      ⟨fun e he => .inl (h.quiet e he), h.created⟩
  | some h =>
    have hunbind : Quietly (W := W) (discard (gpu (.makeCurrent h.display h.context none))) :=
      Always.discard (Quietly.call fun _ => trivial)
    refine (hunbind c).bind fun _ g₁ c₁ h₁ => ?_
    refine Yields.bind (P := fun _ g c₂ => g = [.call (.gpu (.destroySurface h.display surface)) ()]
      ∧ c₂.chains = c₁.chains) ⟨_, rfl, rfl, rfl⟩ ?_
    rintro _ _ c₂ ⟨rfl, h₂⟩
    refine (quietly_updateChains (fun t => by simp) c₂).mono fun _ g₃ c₃ h₃ => ⟨?_, ?_⟩
    · intro e he
      simp only [List.mem_append, List.mem_singleton] at he
      rcases he with (he | rfl) | he
      · exact .inl (h₃.quiet e he)
      · exact .inr ⟨_, rfl⟩
      · exact .inl (h₁.quiet e he)
    · exact Nat.le_trans h₁.created (h₂ ▸ h₃.created)

end RenderContext
end Scanout
