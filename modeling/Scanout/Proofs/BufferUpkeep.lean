import Scanout.Proofs.BufferLedger

/-!
# Buffers that are registered, shown and given up

What rendering, showing a frame and giving a surface up do to the registered buffers of a backend.
A buffer is registered only while its surface is held, and it is committed only to the CRTC of the
holder. A surface is destroyed after its CRTC was given back.
-/

namespace Scanout
namespace RenderContext

variable {W : World} {held : OutputId → Option Holding}

private theorem yields_callChains (k : Call) (c : RenderContext W) :
    Yields (call k : RenderM W k.Answer) c fun a g c' => g = [.call k a] ∧ c'.chains = c.chains :=
  ⟨_, rfl, rfl, rfl⟩

private theorem yields_removeFramebuffers (framebuffers : List FramebufferId)
    (c : RenderContext W) :
    Yields (removeFramebuffers framebuffers) c fun _ g c' =>
      (∀ e ∈ g, e.Removes framebuffers) ∧ c'.chains = c.chains := by
  induction framebuffers generalizing c with
  | nil => exact .pure ⟨by simp, rfl⟩
  | cons fb others ih =>
    refine (Yields.discard (Q := fun _ g c' =>
      (∃ answer, g = [.call (.kernel (.removeFramebuffer fb)) answer]) ∧ c'.chains = c.chains)
      ((yields_callChains (.kernel (.removeFramebuffer fb)) c).mono
        fun answer _ _ h => ⟨⟨answer, h.1⟩, h.2⟩)).bind ?_
    rintro _ _ c₁ ⟨⟨answer, rfl⟩, h₁⟩
    refine (ih c₁).mono ?_
    intro _ g c₂ h₂
    refine ⟨fun e he => ?_, h₂.2.trans h₁⟩
    rcases List.mem_append.1 he with he | he
    · obtain ⟨fb', hfb', hremoves⟩ := h₂.1 e he
      exact ⟨fb', List.mem_cons_of_mem _ hfb', hremoves⟩
    · exact ⟨fb, List.mem_cons_self, answer, List.mem_singleton.1 he⟩

private theorem yields_updateChains (change : SwapChains → List FramebufferId × SwapChains)
    (c : RenderContext W) :
    Yields (updateChains change) c fun _ g c' =>
      (∀ e ∈ g, e.Removes (change c.chains).1) ∧ c'.chains = (change c.chains).2 := by
  refine Yields.get_bind (Yields.bind (P := fun _ g c' => g = [] ∧
    c' = { c with chains := (change c.chains).2 }) ⟨[], rfl, rfl, rfl⟩ ?_)
  rintro _ _ _ ⟨rfl, rfl⟩
  refine (yields_removeFramebuffers (change c.chains).1 _).mono ?_
  intro _ g c' h
  exact ⟨by simpa using h.1, h.2⟩

/-- A surface gets the next number, if there is to be one. -/
theorem yields_createSurface_chains (width height : UInt32) (c : RenderContext W) :
    Yields (createSurface width height).run c fun r g c' => (∀ e ∈ g, e.IsStill) ∧
      match r with
      | .ok s => s = c.chains.nextSurface ∧ c'.chains = c.chains.create
      | .error _ => c'.chains = c.chains := by
  refine (always_requireHandles (R := Idle) c).bindOk ?_ fun _ _ _ h => ⟨h.still, h.chains⟩
  intro handles g₁ c₁ h₁
  refine Yields.getOk_bind ?_
  have hcall : Always Idle (orFail id (gpu (.createSurface c₁.chains.nextSurface handles.device
      handles.display handles.config width height)) : ExceptT RenderError (RenderM W) Unit).run :=
    .orFail (idle_call fun _ => trivial)
  refine (hcall c₁).bindOk ?_ fun _ _ _ h₂ => ?_
  · intro _ g₂ c₂ h₂
    have h : Idle c (g₂ ++ g₁) c₂ := Composes.trans h₁ h₂
    refine ⟨[], rfl, by simpa using h.still, ?_⟩
    rw [h₁.chains]
    exact ⟨rfl, congrArg SwapChains.create h.chains⟩
  · have h := Composes.trans h₁ h₂
    exact ⟨h.still, h.chains⟩

theorem yields_lockFrontBuffer_chains (surface : SurfaceId) (c : RenderContext W) :
    Yields (lockFrontBuffer surface).run c fun r g c' => (∀ e ∈ g, e.IsStill) ∧
      match r with
      | .ok buffer => buffer.surface = surface ∧ c'.chains = c.chains.lock buffer
      | .error _ => c'.chains = c.chains := by
  have hcall : Always Idle (orFail id (gpu (.lockFrontBuffer surface)) :
      ExceptT RenderError (RenderM W) Nat).run := .orFail (idle_call fun _ => trivial)
  refine (hcall c).bindOk ?_ fun _ _ _ h => ⟨h.still, h.chains⟩
  intro index g c₁ h₁
  refine ⟨[], rfl, by simpa using h₁.still, rfl, ?_⟩
  exact congrArg (·.lock ⟨surface, index⟩) h₁.chains

theorem yields_releaseBuffer_chains (buffer : BufferSlot) (c : RenderContext W) :
    Yields (releaseBuffer buffer) c fun _ g c' =>
      (∀ e ∈ g, e.KeepsLedger ∨ e.Removes (c.chains.unlock buffer).1) ∧
        c'.chains = (c.chains.unlock buffer).2 := by
  have hcall : Always Idle (gpu (.releaseBuffer buffer) : RenderM W Unit) :=
    idle_call fun _ => trivial
  refine (hcall c).bind ?_
  intro _ g₁ c₁ h₁
  refine (yields_updateChains (·.unlock buffer) c₁).mono ?_
  intro _ g₂ c₂ h₂
  rw [h₁.chains] at h₂
  refine ⟨fun e he => ?_, h₂.2⟩
  rcases List.mem_append.1 he with he | he
  · exact .inr (h₂.1 e he)
  · exact .inl (h₁.still e he).keepsLedger

/-- The registrations that end with a surface and the swap chains without it. Once the context is
released the surface can only be let go. -/
def freed (c : RenderContext W) (surface : SurfaceId) : List FramebufferId × SwapChains :=
  match c.handles with
  | none => c.chains.abandon surface
  | some _ => c.chains.destroy surface

theorem yields_destroySurface_frees (surface : SurfaceId) (c : RenderContext W) :
    Yields (destroySurface surface) c fun _ g c' =>
      (∀ e ∈ g, e.KeepsLedger ∨ e.Removes (c.freed surface).1) ∧
        c'.chains = (c.freed surface).2 := by
  unfold freed
  refine Yields.get_bind ?_
  cases c.handles with
  | none =>
    refine (yields_updateChains (·.abandon surface) c).mono ?_
    intro _ g c' h
    exact ⟨fun e he => .inr (h.1 e he), h.2⟩
  | some h =>
    refine Yields.bind (idle_endSurface h surface c)
      (f := fun _ => updateChains (·.destroy surface)) ?_
    intro _ g₁ c₁ h₁
    refine (yields_updateChains (·.destroy surface) c₁).mono ?_
    intro _ g₂ c₂ h₂
    rw [h₁.chains] at h₂
    refine ⟨fun e he => ?_, h₂.2⟩
    rcases List.mem_append.1 he with he | he
    · exact .inr (h₂.1 e he)
    · exact .inl (h₁.still e he).keepsLedger

/-- While no buffer is taken out, a surface is gone with all its registrations, whether or not the
context is still there. -/
theorem yields_destroySurface_chains {surface : SurfaceId} {c : RenderContext W}
    (hlocked : c.chains.locked = []) :
    Yields (destroySurface surface) c fun _ g c' =>
      (∀ e ∈ g, e.KeepsLedger ∨ e.Removes (c.chains.destroy surface).1) ∧
        c'.chains = (c.chains.destroy surface).2 := by
  have hfreed : c.freed surface = c.chains.destroy surface := by
    unfold freed
    cases c.handles with
    | none => simp [SwapChains.abandon, SwapChains.destroy, SwapChains.free, hlocked]
    | some _ => rfl
  rw [← hfreed]
  exact yields_destroySurface_frees surface c

/-- The framebuffer is noted on its buffer, or it is removed again. -/
private theorem yields_attach (buffer : BufferSlot) (fb : FramebufferId) (c : RenderContext W) :
    Yields (orRelease (removeFramebuffers [fb]) (orFail id (gpu (.attach buffer fb))) :
      ExceptT RenderError (RenderM W) Unit).run c fun r g c' => c'.chains = c.chains ∧
      match r with
      | .ok _ => ∀ e ∈ g, e.KeepsLedger
      | .error _ => ∀ e ∈ g, e.KeepsLedger ∨ e.Removes [fb] := by
  have hcall : Always Idle (orFail id (gpu (.attach buffer fb)) :
      ExceptT RenderError (RenderM W) Unit).run := .orFail (idle_call fun _ => trivial)
  refine (hcall c).orRelease ?_ ?_
  · intro _ g c₁ h₁
    exact ⟨h₁.chains, fun e he => (h₁.still e he).keepsLedger⟩
  · intro _ g c₁ h₁
    refine (yields_removeFramebuffers [fb] c₁).mono ?_
    intro _ g' c₂ h₂
    refine ⟨h₂.2.trans h₁.chains, fun e he => ?_⟩
    rcases List.mem_append.1 he with he | he
    · exact .inr (h₂.1 e he)
    · exact .inl (h₁.still e he).keepsLedger

/-- A buffer of a surface that is held gets its framebuffer, which nothing shows yet. -/
theorem yields_scanoutId_keeps {buffer : BufferSlot}
    (hheld : ∃ id h, held id = some h ∧ h.surface = buffer.surface) (c : RenderContext W) :
    Yields (scanoutId buffer).run c fun r g c' =>
      (Stock.mk held c.chains).Keeps g ⟨held, c'.chains⟩ ∧
        ∀ fb, r = .ok fb → (buffer, fb) ∈ c'.chains.registered := by
  refine Yields.getOk_bind ?_
  cases hfb : c.chains.framebuffer? buffer with
  | some fb =>
    refine .pureOk ⟨.of_keepsLedger (by simp), ?_⟩
    rintro _ ⟨⟩
    obtain ⟨before, after, heq, -⟩ := List.lookup_eq_some_iff.1 hfb
    simp [heq]
  | none =>
    have hgeometry : Always Idle (orFail id (gpu (.geometry buffer)) :
        ExceptT RenderError (RenderM W) BufferGeometry).run := .orFail (idle_call fun _ => trivial)
    refine (hgeometry c).bindOk ?_ fun _ _ _ h => ⟨?_, nofun⟩
    · intro geometry g₁ c₁ h₁
      have hread : ∀ e ∈ g₁, e.KeepsLedger := fun e he => (h₁.still e he).keepsLedger
      rw [← h₁.chains]
      refine (yields_callChains
        (.kernel (.addFramebuffer geometry scanoutDepth scanoutBpp)) c₁).orFail_bindOk ?_ ?_
      · rintro fb _ c₂ ⟨rfl, h₂⟩
        refine (yields_attach buffer fb c₂).bindOk ?_ ?_
        · intro _ g₃ c₃ h₃
          have hchains : c₃.chains = c₁.chains := h₃.1.trans h₂
          refine ⟨[], rfl, ?_, ?_⟩
          · show (Stock.mk held c₁.chains).Keeps _ ⟨held, c₃.chains.attach buffer fb⟩
            rw [hchains]
            exact .trans (.of_keepsLedger hread) (.register hheld h₃.2)
          · rintro _ ⟨⟩
            exact SwapChains.mem_insert.2 (.inl rfl)
        · intro e g₃ c₃ h₃
          rw [h₃.1, h₂]
          exact ⟨.trans (.of_keepsLedger hread) (.retract h₃.2), nofun⟩
      · rintro cause _ c₂ ⟨rfl, h₂⟩
        rw [h₂]
        refine ⟨.trans (.of_keepsLedger hread) (.of_keepsLedger ?_), nofun⟩
        rintro _ he
        obtain rfl := List.mem_singleton.1 he
        exact fun _ => ⟨rfl, trivial⟩
    · rw [h.chains]
      exact .of_keepsLedger fun e he => (h.still e he).keepsLedger

end RenderContext
namespace Backend

variable {W : World} {α ε : Type} {held : OutputId → Option Holding} {b b' : Backend W}
  {g : List JournalEntry} {id : OutputId}

/-- What the records hold, and the swap chains. -/
def stock (b : Backend W) : Stock := ⟨b.holding?, b.chains⟩

/-- The buffers stay sound as long as the same is held, and the records stay as they are. -/
structure Minds (held : OutputId → Option Holding) (b : Backend W) (gained : List JournalEntry)
    (b' : Backend W) : Prop where
  keeps : (Stock.mk held b.chains).Keeps gained ⟨held, b'.chains⟩
  outputs : b'.outputs = b.outputs

instance : Composes (Minds (W := W) held) where
  refl _ := ⟨.of_keepsLedger (by simp), rfl⟩
  trans h h' := ⟨h.keeps.trans h'.keeps, h'.outputs.trans h.outputs⟩

theorem yields_context {act : RenderM W α} {Q : α → List JournalEntry → RenderContext W → Prop}
    (h : Yields act b.toRenderContext Q) :
    Yields (BackendM.inContext act) b fun a g b' =>
      Q a g b'.toRenderContext ∧ b'.outputs = b.outputs := by
  obtain ⟨g, hg, hQ⟩ := h
  exact ⟨g, hg, hQ, rfl⟩

/-- Neither the ledger nor the stock is concerned. -/
structure Unmoved (b : Backend W) (gained : List JournalEntry) (b' : Backend W) : Prop where
  keeps : ∀ e ∈ gained, e.KeepsLedger
  outputs : b'.outputs = b.outputs
  chains : b'.chains = b.chains

instance : Composes (Unmoved (W := W)) where
  refl _ := ⟨by simp, rfl, rfl⟩
  trans h h' := ⟨fun e he => (List.mem_append.1 he).elim (h'.keeps e) (h.keeps e),
    h'.outputs.trans h.outputs, h'.chains.trans h.chains⟩

theorem Unmoved.minds (h : Unmoved b g b') : Minds held b g b' :=
  ⟨h.chains ▸ .of_keepsLedger h.keeps, h.outputs⟩

theorem unmoved_call {c : Call} (h : ∀ a, (JournalEntry.call c a).KeepsLedger) :
    Always Unmoved (call c : BackendM W c.Answer) := fun b =>
  ⟨[.call c (W.answer c b.world).1], rfl, by simpa using h _, rfl, rfl⟩

theorem unmoved_inContext {act : RenderM W α} (h : Always RenderContext.Idle act) :
    Always Unmoved (BackendM.inContext act) := fun _ =>
  (yields_context (h _)).mono fun _ _ _ ⟨hidle, houtputs⟩ =>
    ⟨fun e he => (hidle.still e he).keepsLedger, houtputs, hidle.chains⟩

theorem unmoved_render {cause : RenderError → ε} {act : ExceptT RenderError (RenderM W) α}
    (h : Always RenderContext.Idle act.run) : Always Unmoved (render cause act).run :=
  .orFail (unmoved_inContext h)

theorem minds_of_unmoved {act : BackendM W α} (h : Always Unmoved act) : Always (Minds held) act :=
  h.imp fun _ _ _ => Unmoved.minds

/-- A framebuffer is there when it is asked for. -/
theorem yields_scanoutId_minds {cause : RenderError → ε} {buffer : BufferSlot}
    (hheld : ∃ id h, held id = some h ∧ h.surface = buffer.surface) (b : Backend W) :
    Yields (render cause (RenderContext.scanoutId buffer)).run b fun r g b' => Minds held b g b' ∧
      ∀ fb, r = .ok fb → (buffer, fb) ∈ b'.chains.registered := by
  refine (Yields.orFail (yields_context
    (RenderContext.yields_scanoutId_keeps hheld b.toRenderContext))).mono ?_
  rintro _ g b' ⟨r, rfl, ⟨hkeeps, hregistered⟩, houtputs⟩
  refine ⟨⟨hkeeps, houtputs⟩, fun fb hfb => hregistered fb ?_⟩
  cases r with
  | ok fb' => exact congrArg Except.ok (Except.ok.inj hfb)
  | error _ => contradiction

theorem minds_withFrontBuffer {cause : RenderError → ε} {surface : SurfaceId}
    {act : BufferSlot → ExceptT ε (BackendM W) α}
    (hheld : ∃ id h, held id = some h ∧ h.surface = surface)
    (hact : ∀ buffer : BufferSlot, buffer.surface = surface → Always (Minds held) (act buffer).run) :
    Always (Minds held) (withFrontBuffer cause surface act).run := by
  intro b
  refine (yields_context
    (RenderContext.yields_lockFrontBuffer_chains surface b.toRenderContext)).orFail_bindOk ?_ ?_
  · rintro buffer g₁ b₁ ⟨⟨hstill, hsurface, hlocked⟩, houtputs₁⟩
    refine Yields.bind (hact buffer hsurface b₁) ?_
    intro r g₂ b₂ h₂
    refine (yields_context
      (RenderContext.yields_releaseBuffer_chains buffer b₂.toRenderContext)).bind ?_
    rintro _ g₃ b₃ ⟨⟨hremoves, hunlocked⟩, houtputs₃⟩
    refine .pure ⟨?_, houtputs₃.trans (h₂.outputs.trans houtputs₁)⟩
    rw [show b₃.chains = (b₂.chains.unlock buffer).2 from hunlocked, List.nil_append,
      List.append_assoc]
    refine .whileLocked (hsurface ▸ hheld) (fun e he => (hstill e he).keepsLedger) ?_ hremoves
    exact hlocked ▸ h₂.keeps
  · rintro e g b₁ ⟨⟨hstill, hchains⟩, houtputs⟩
    refine ⟨?_, houtputs⟩
    rw [show b₁.chains = b.chains from hchains]
    exact .of_keepsLedger fun e he => (hstill e he).keepsLedger

theorem minds_presentFirstFrame {h : Holding} {surface : SurfaceId} {connector : ConnectorHandle}
    {crtc : CrtcHandle} {mode : DisplayMode} (hheld : held id = some h)
    (hsurface : h.surface = surface) (hcrtc : h.crtc = some crtc) :
    Always (Minds held)
      (presentFirstFrame surface connector crtc mode : ExceptT ModesetError (BackendM W) _).run := by
  refine .bindOk (minds_of_unmoved (unmoved_render (RenderContext.idle_makeCurrent surface))) fun _ => ?_
  refine .bindOk (.lift (minds_of_unmoved (unmoved_inContext (RenderContext.idle_clear _ _ _)))) fun _ => ?_
  refine .bindOk (minds_of_unmoved (unmoved_render (RenderContext.idle_swapBuffers surface))) fun _ => ?_
  refine minds_withFrontBuffer ⟨id, h, hheld, hsurface⟩ fun buffer hbuffer b => ?_
  have hholder : ∃ id h, held id = some h ∧ h.surface = buffer.surface :=
    ⟨id, h, hheld, hsurface.trans hbuffer.symm⟩
  refine (yields_scanoutId_minds hholder b).bindOk ?_ fun _ _ _ h => h.1
  rintro fb g₁ b₁ ⟨h₁, hregistered⟩
  have hcommit : Yields (kernel (.setCrtc ⟨crtc, some fb, (0, 0), [connector], some mode⟩))
      b₁ fun _ g b₂ => Minds held b₁ g b₂ :=
    ⟨_, rfl, .commit (hregistered fb rfl) hheld (hsurface.trans hbuffer.symm) hcrtc rfl rfl _, rfl⟩
  refine hcommit.orFail_bindOk ?_ fun _ _ _ h₂ => Composes.trans h₁ h₂
  intro _ g₂ b₂ h₂
  have hflip : Always (Minds held) (orFail ModesetError.kernel
      (kernel (.pageFlip crtc fb) : BackendM W _)).run :=
    .orFail (minds_of_unmoved (unmoved_call fun _ _ => ⟨rfl, trivial⟩))
  refine (hflip b₂).bindOk ?_ fun _ _ _ h₃ => ?_
  · intro _ g₃ b₃ h₃
    exact .pureOk (Composes.trans h₁ (Composes.trans h₂ h₃))
  · exact Composes.trans h₁ (Composes.trans h₂ h₃)

theorem stock_congr (hholding : ∀ id, b'.holding? id = b.holding? id)
    (hchains : b'.chains = b.chains) : b'.stock = b.stock := by
  rw [stock, stock, funext hholding, hchains]

theorem stock_modify {f : Output → Output} {o : Output} (ho : b.output? id = some o)
    (hb : b'.outputs = b.outputs.modify id.slot f) :
    b'.stock = b.stock.put id (f o).holding? b'.chains := by
  have hheld : b'.holding? = (b.stock.put id (f o).holding? b'.chains).held := by
    funext j
    show b'.holding? j = if j = id then (f o).holding? else b.holding? j
    rw [holding?, output?_modify hb, holding?]
    by_cases hj : id = j
    · rw [if_pos hj, if_pos hj.symm, ← hj, ho, Option.map_some, Option.bind_some]
    · rw [if_neg hj, if_neg (Ne.symm hj)]
  exact congrArg (Stock.mk · b'.chains) hheld

theorem Minds.keeps_stock (h : Minds b.holding? b g b') : b.stock.Keeps g b'.stock := by
  rw [show b'.stock = ⟨b.holding?, b'.chains⟩ from
    congrArg (Stock.mk · b'.chains) (funext (holding?_congr h.outputs))]
  exact h.keeps

theorem Calm.keeps_stock (h : Calm b g b') : b.stock.Keeps g b'.stock := by
  rw [stock_congr h.holding h.chains]
  exact .of_keepsLedger fun e he => (h.still e he).keepsLedger

/-- The swap chains are the same. -/
def SameChains (b : Backend W) (_ : List JournalEntry) (b' : Backend W) : Prop :=
  b'.chains = b.chains

instance : Composes (SameChains (W := W)) where
  refl _ := rfl
  trans h h' := Eq.trans h' h

theorem sameChains_call {c : Call} : Always SameChains (call c : BackendM W c.Answer) := fun b =>
  ⟨[.call c (W.answer c b.world).1], rfl, rfl⟩

/-- The CRTC is given back, and then the surface is destroyed. -/
theorem yields_giveUp {h : Holding} {connector : ConnectorHandle} (hheld : held id = some h)
    (hlocked : b.chains.locked = []) :
    Yields (do
      restoreCrtc connector h.crtc h.saved
      BackendM.inContext (RenderContext.destroySurface h.surface) : BackendM W Unit) b
      fun _ g b' => (Stock.mk held b.chains).Keeps g
        ((Stock.mk held b.chains).put id none b'.chains) ∧ b'.outputs = b.outputs := by
  refine ((yields_restoreCrtc connector h.crtc h.saved b).and
    (always_restoreCrtc (R := SameChains) (fun _ => sameChains_call) connector h.crtc h.saved b)).bind ?_
  rintro _ g₁ b₁ ⟨⟨hback, h₁⟩, hchains₁⟩
  have hlocked₁ : b₁.chains.locked = [] := (congrArg SwapChains.locked hchains₁).trans hlocked
  refine (yields_context (RenderContext.yields_destroySurface_chains hlocked₁)).mono ?_
  rintro _ g₂ b₂ ⟨⟨hremoves, hchains₂⟩, houtputs₂⟩
  refine ⟨?_, houtputs₂.trans h₁.outputs⟩
  rw [show b₁.chains = b.chains from hchains₁] at hremoves hchains₂
  rw [show b₂.chains = (b.chains.destroy h.surface).2 from hchains₂]
  exact .release hheld hback hremoves

end Backend
end Scanout
