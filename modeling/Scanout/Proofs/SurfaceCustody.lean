import Mathlib.Data.List.Count
import Scanout.Proofs.FramebufferCache
import Scanout.Proofs.SurfaceAccounts

/-!
# What is held while a surface is set up

Setting a surface up acquires one thing after another, and each step that follows may fail. What has
been acquired and not given up again is `outstanding`. While a surface is there, this is the surface
and the framebuffers of its buffers, whatever fails, so that destroying the surface gives all of it
up.
-/

namespace Scanout

/-- What is held after some entries, if `held` was before. A framebuffer that the kernel refuses to
remove counts as given up. -/
def outstanding (held : List Resource) : List JournalEntry → List Resource
  | [] => held
  | e :: earlier =>
    acquired [e] ++ (outstanding held earlier).diff (released [e] ++ refused [e])

section Outstanding

variable {held : List Resource} {g g' : List JournalEntry} {r : Resource}

theorem acquired_cons (e : JournalEntry) (g : List JournalEntry) :
    acquired (e :: g) = acquired [e] ++ acquired g := @acquired_append g [e]

theorem released_cons (e : JournalEntry) (g : List JournalEntry) :
    released (e :: g) = released [e] ++ released g := @released_append g [e]

theorem refused_cons (e : JournalEntry) (g : List JournalEntry) :
    refused (e :: g) = refused [e] ++ refused g := @refused_append g [e]

theorem outstanding_append :
    outstanding held (g' ++ g) = outstanding (outstanding held g) g' := by
  induction g' with
  | nil => rfl
  | cons e g' ih => rw [List.cons_append, outstanding, ih, outstanding]

theorem outstanding_of_neutral (h : ∀ e ∈ g, e.IsNeutral) : outstanding held g = held := by
  induction g with
  | nil => rfl
  | cons e g ih =>
    have he : ∀ e' ∈ [e], e'.IsNeutral := List.forall_mem_singleton.2 (h e List.mem_cons_self)
    rw [outstanding, acquired_of_neutral he, released_of_neutral he, refused_of_neutral he,
      List.append_nil, List.diff_nil, List.nil_append]
    exact ih fun e' he' => h e' (List.mem_cons_of_mem _ he')

/-- While nothing is acquired, what is given up is no longer held. -/
theorem count_outstanding (h : acquired g = []) (r : Resource) :
    (outstanding held g).count r =
      held.count r - ((released g).count r + (refused g).count r) := by
  induction g with
  | nil => rfl
  | cons e g ih =>
    rw [acquired_cons e g] at h
    obtain ⟨he, hg⟩ := List.append_eq_nil_iff.1 h
    rw [outstanding, he, List.nil_append, List.count_diff, ih hg, released_cons e g,
      refused_cons e g]
    simp only [List.count_append]
    omega

theorem outstanding_eq_nil (h : acquired g = [])
    (hall : ∀ r, held.count r ≤ (released g).count r + (refused g).count r) :
    outstanding held g = [] := by
  refine List.eq_nil_iff_forall_not_mem.2 fun r hr => ?_
  have hcount : (outstanding held g).count r = _ := count_outstanding h r
  have hpos := List.count_pos_iff.2 hr
  have hle := hall r
  omega

/-- What was acquired is still held, or it was given up. -/
theorem mem_outstanding_of_acquired (hr : r ∈ acquired g) :
    r ∈ outstanding held g ∨ r ∈ released g ∨ r ∈ refused g := by
  induction g with
  | nil => contradiction
  | cons e g ih =>
    rw [acquired_cons e g, List.mem_append] at hr
    rw [outstanding, released_cons e g, refused_cons e g]
    simp only [List.mem_append]
    rcases hr with hr | hr
    · exact .inl (.inl hr)
    · rcases ih hr with hheld | hgone | hgone
      · by_cases hnow : r ∈ released [e] ++ refused [e]
        · exact .inr ((List.mem_append.1 hnow).imp .inl .inl)
        · exact .inl (.inr (List.mem_diff_of_mem hheld hnow))
      · exact .inr (.inl (.inr hgone))
      · exact .inr (.inr (.inr hgone))

theorem Ends.count_given_up {framebuffers : List FramebufferId} (h : Ends framebuffers g)
    (r : Resource) :
    (released g).count r + (refused g).count r = (framebuffers.map .framebuffer).count r := by
  have hbalance := h.balance r
  rw [h.acquired, List.count_nil] at hbalance
  omega

theorem Ends.outstanding_perm (h : Ends [] g) : (outstanding held g).Perm held := by
  refine List.perm_iff_count.2 fun r => ?_
  have hnone := h.count_given_up r
  rw [List.map_nil, List.count_nil] at hnone
  rw [count_outstanding h.acquired, hnone, Nat.sub_zero]

end Outstanding

/-- The framebuffers of the buffers of a surface. -/
def SwapChains.framebuffersOf (t : SwapChains) (surface : SurfaceId) : List FramebufferId :=
  (t.registered.filter (·.1.surface = surface)).map Prod.snd

theorem SwapChains.mem_framebuffersOf {t : SwapChains} {surface : SurfaceId} {fb : FramebufferId} :
    fb ∈ t.framebuffersOf surface ↔ ∃ b : BufferSlot, b.surface = surface ∧ (b, fb) ∈ t.registered := by
  simp [framebuffersOf, and_comm]

theorem SwapChains.framebuffersOf_attach {t : SwapChains} {b : BufferSlot} (fb : FramebufferId) :
    ((t.attach b fb).framebuffersOf b.surface).Perm (fb :: t.framebuffersOf b.surface) := by
  refine (((perm_insert b fb t.registered).filter _).map Prod.snd).trans ?_
  rw [List.filter_cons_of_pos (by simp)]
  exact .refl _

/-- No buffer of a surface that is yet to be created is registered. -/
theorem SwapChains.InOrder.framebuffersOf_nextSurface {t : SwapChains} (h : t.InOrder) :
    t.framebuffersOf t.nextSurface = [] := by
  refine List.eq_nil_iff_forall_not_mem.2 fun fb hfb => ?_
  obtain ⟨buffer, hbuffer, hmem⟩ := mem_framebuffersOf.1 hfb
  have hold := h.numbered _ (h.anchored _ hmem)
  rw [hbuffer] at hold
  exact Nat.not_succ_le_self _ hold

/-- A buffer is handed back to a surface that is there without any further consequence. -/
theorem SwapChains.unlock_of_alive {t : SwapChains} {b : BufferSlot} (h : b.surface ∈ t.alive) :
    t.unlock b = ([], { t with locked := t.locked.erase b }) := by
  unfold unlock
  exact if_pos (.inl h)

namespace RenderContext

variable {W : World} {α ε : Type} {c c' : RenderContext W} {g : List JournalEntry}
  {surface : SurfaceId} {old : List FramebufferId} {held : List Resource}

/-- The surface is there, and what is held besides `old` is the surface and the framebuffers of its
buffers. -/
structure Custody (surface : SurfaceId) (old : List FramebufferId) (held : List Resource)
    (c : RenderContext W) : Prop where
  ready : c.handles.isSome
  alive : surface ∈ c.chains.alive
  held : (held ++ old.map Resource.framebuffer).Perm
    (.surface surface :: (c.chains.framebuffersOf surface).map .framebuffer)

/-- What is held of the surface is known afterwards as well, and none of its registrations ends. -/
structure Guards (surface : SurfaceId) (c : RenderContext W) (gained : List JournalEntry)
    (c' : RenderContext W) : Prop where
  alive : surface ∈ c.chains.alive → surface ∈ c'.chains.alive
  registered : surface ∈ c.chains.alive → c.chains.registered ⊆ c'.chains.registered
  custody : ∀ old held, c.Custody surface old held →
    c'.Custody surface old (outstanding held gained)

instance : Composes (Guards (W := W) surface) where
  refl _ := ⟨id, fun _ => List.Subset.refl _, fun _ _ h => h⟩
  trans h h' :=
    { alive := h'.alive ∘ h.alive
      registered := fun hs => List.Subset.trans (h.registered hs) (h'.registered (h.alive hs))
      custody := fun old held hc => outstanding_append ▸ h'.custody old _ (h.custody old held hc) }

theorem Guards.of_neutral (hg : ∀ e ∈ g, e.IsNeutral) (hhandles : c'.handles = c.handles)
    (halive : c'.chains.alive = c.chains.alive)
    (hregistered : c'.chains.registered = c.chains.registered) : Guards surface c g c' where
  alive hs := halive ▸ hs
  registered _ := hregistered ▸ List.Subset.refl _
  custody old held hc := by
    rw [outstanding_of_neutral hg]
    refine ⟨hhandles ▸ hc.ready, halive ▸ hc.alive, ?_⟩
    rw [SwapChains.framebuffersOf, hregistered]
    exact hc.held

theorem guards_call {k : Call} (h : ∀ a, (JournalEntry.call k a).IsNeutral) :
    Always (Guards surface) (call k : RenderM W k.Answer) := fun c =>
  ⟨[.call k (W.answer k c.world).1], rfl,
    .of_neutral (List.forall_mem_singleton.2 (h _)) rfl rfl rfl⟩

theorem guards_makeCurrent (target : SurfaceId) :
    Always (Guards surface) ((makeCurrent target).run : RenderM W _) :=
  .bindOk always_requireHandles fun _ => .orFail (guards_call fun _ => ⟨rfl, rfl, rfl⟩)

theorem guards_swapBuffers (target : SurfaceId) :
    Always (Guards surface) ((swapBuffers target).run : RenderM W _) :=
  .bindOk always_requireHandles fun _ => .orFail (guards_call fun _ => ⟨rfl, rfl, rfl⟩)

theorem guards_clear (width height : UInt32) (colour : Colour) :
    Always (Guards surface) (clear width height colour : RenderM W Unit) :=
  guards_call fun _ => ⟨rfl, rfl, rfl⟩

/-- The buffer that is taken out is one of the surface. -/
theorem yields_lockFrontBuffer_guards (c : RenderContext W) :
    Yields (lockFrontBuffer surface).run c fun r g c' => Guards surface c g c' ∧
      ∀ buffer, r = .ok buffer → buffer.surface = surface := by
  have hcall : Always (Guards surface) (orFail id (gpu (.lockFrontBuffer surface)) :
      ExceptT RenderError (RenderM W) Nat).run := .orFail (guards_call fun _ => ⟨rfl, rfl, rfl⟩)
  refine (hcall c).bindOk ?_ fun _ _ _ h => ⟨h, nofun⟩
  intro index g c₁ h₁
  refine ⟨[], rfl, Composes.trans h₁ (.of_neutral (by simp) rfl rfl rfl), ?_⟩
  rintro _ ⟨⟩
  rfl

theorem guards_releaseBuffer {buffer : BufferSlot} (hbuffer : buffer.surface = surface) :
    Always (Guards surface) (releaseBuffer buffer : RenderM W Unit) := by
  refine .bind (guards_call fun _ => ⟨rfl, rfl, rfl⟩) fun _ c =>
    (yields_updateEnded (·.unlock buffer) c).mono ?_
  rintro _ g c' ⟨hends, hhandles, hchains⟩
  have hunlock (hs : surface ∈ c.chains.alive) := SwapChains.unlock_of_alive (hbuffer ▸ hs)
  refine ⟨fun hs => ?_, fun hs => ?_, fun old held hc => ?_⟩
  · rwa [hchains, SwapChains.alive_unlock]
  · rw [hchains, hunlock hs]
    exact List.Subset.refl _
  · rw [hunlock hc.alive] at hends hchains
    refine ⟨hhandles ▸ hc.ready, by rw [hchains]; exact hc.alive, ?_⟩
    rw [hchains]
    exact (hends.outstanding_perm.append_right _).trans hc.held

/-- A framebuffer is held for a buffer of the surface, or it was removed again. -/
theorem guards_scanoutId {buffer : BufferSlot} (hbuffer : buffer.surface = surface) :
    Always (Guards surface) ((scanoutId buffer).run : RenderM W _) := fun c => by
  refine (yields_scanoutId buffer c).mono fun r g c' h => ?_
  cases h with
  | cached => exact Composes.refl c
  | unmeasured _ hhandles hchains =>
    exact .of_neutral (List.forall_mem_singleton.2 ⟨rfl, rfl, rfl⟩) hhandles (by rw [hchains])
      (by rw [hchains])
  | unregistered _ hhandles hchains =>
    exact .of_neutral (List.forall_mem_cons.2
      ⟨⟨rfl, rfl, rfl⟩, List.forall_mem_singleton.2 ⟨rfl, rfl, rfl⟩⟩) hhandles (by rw [hchains])
      (by rw [hchains])
  | @rejected geometry fb cause answer _ _ hhandles hchains =>
    refine ⟨fun hs => hchains ▸ hs, fun _ => hchains ▸ List.Subset.refl _, fun old held hc => ?_⟩
    have hheld : outstanding held [.call (.kernel (.removeFramebuffer fb)) answer,
        .call (.gpu (.attach buffer fb)) (.error cause),
        .call (.kernel (.addFramebuffer geometry scanoutDepth scanoutBpp)) (.ok fb),
        .call (.gpu (.geometry buffer)) (.ok geometry)] = held := by
      cases answer with
      | ok _ | error _ =>
        show (Resource.framebuffer fb :: held).diff [.framebuffer fb] = held
        rw [List.diff_cons, List.erase_cons_head, List.diff_nil]
    rw [hheld]
    exact ⟨hhandles ▸ hc.ready, hchains ▸ hc.alive, hchains ▸ hc.held⟩
  | @registered geometry fb _ _ hhandles hchains =>
    refine ⟨fun hs => by rw [hchains]; exact hs, fun _ e he => ?_, fun old held hc => ?_⟩
    · rw [hchains]
      exact SwapChains.mem_insert.2 (.inr he)
    · subst hbuffer
      have hheld : outstanding held [.call (.gpu (.attach buffer fb)) (.ok ()),
          .call (.kernel (.addFramebuffer geometry scanoutDepth scanoutBpp)) (.ok fb),
          .call (.gpu (.geometry buffer)) (.ok geometry)] = .framebuffer fb :: held := rfl
      refine ⟨hhandles ▸ hc.ready, by rw [hchains]; exact hc.alive, ?_⟩
      rw [hchains, hheld]
      refine ((hc.held.cons (.framebuffer fb)).trans (.swap _ _ _)).trans (.cons _ ?_)
      exact ((SwapChains.framebuffersOf_attach fb).map Resource.framebuffer).symm

/-- A surface that is created is all that is held of it. -/
theorem yields_createSurface_custody (width height : UInt32) (c : RenderContext W) :
    Yields (createSurface width height).run c fun r g c' =>
      match r with
      | .ok s => s = c.chains.nextSurface ∧
          c'.Custody s (c.chains.framebuffersOf s) (outstanding [] g)
      | .error _ => outstanding [] g = [] := by
  refine (yields_requireHandles c).bindOk ?_ ?_
  · rintro h _ c ⟨rfl, rfl, hh⟩
    refine Yields.getOk_bind (Yields.orFail_bindOk (P := fun a g c' => g = [.call (.gpu
      (.createSurface c.chains.nextSurface h.device h.display h.config width height)) a] ∧
      c'.handles = c.handles ∧ c'.chains = c.chains) ⟨_, rfl, rfl, rfl, rfl⟩ ?_ ?_)
    · rintro _ _ c₁ ⟨rfl, hhandles, hchains⟩
      refine ⟨[], rfl, rfl, ?_⟩
      refine ⟨?_, ?_, ?_⟩
      · show c₁.handles.isSome
        rw [hhandles, hh h rfl, Option.isSome_some]
      · show c.chains.nextSurface ∈ c₁.chains.alive ++ [c₁.chains.nextSurface]
        rw [hchains]
        exact List.mem_append_right _ List.mem_cons_self
      · show (_ :: _).Perm (_ :: (c₁.chains.framebuffersOf _).map _)
        rw [hchains]
        exact .refl _
    · rintro e _ c₁ ⟨rfl, -⟩
      rfl
  · rintro e _ _ ⟨rfl, rfl, -⟩
    rfl

/-- Destroying the surface gives up all that is held. -/
theorem yields_destroySurface_custody (hc : c.Custody surface old held) :
    Yields (destroySurface surface) c fun _ g _ => outstanding held g = [] := by
  obtain ⟨h, hh⟩ := Option.isSome_iff_exists.1 hc.ready
  refine Yields.get_bind ?_
  rw [hh]
  have hcalls : Yields (do
      discard (gpu (.makeCurrent h.display h.context none))
      gpu (.destroySurface h.display surface) : RenderM W Unit) c fun _ g c' =>
        acquired g = [] ∧ released g = [.surface surface] ∧ c'.chains = c.chains :=
    ⟨[_, _], rfl, rfl, rfl, rfl⟩
  refine Yields.bind hcalls (f := fun _ => updateChains (·.destroy surface)) ?_
  rintro _ g₁ c₁ ⟨hacquired, hreleased, hchains⟩
  refine (yields_updateEnded (·.destroy surface) c₁).mono ?_
  rintro _ g₂ c₂ ⟨hends, -, -⟩
  refine outstanding_eq_nil ?_ fun r => ?_
  · rw [acquired_append, hends.acquired, hacquired, List.append_nil]
  · have hheld := hc.held.count_eq r
    have hgone := hends.count_given_up r
    have hframebuffers : (c₁.chains.destroy surface).1 = c.chains.framebuffersOf surface := by
      rw [hchains]
      rfl
    rw [hframebuffers] at hgone
    rw [released_append, refused_append, hreleased]
    simp only [List.count_append, List.count_cons, List.count_nil] at hheld ⊢
    omega

end RenderContext

namespace Backend

variable {W : World} {α ε : Type} {b b' : Backend W} {g : List JournalEntry} {id : OutputId}
  {o : Output} {surface : SurfaceId}

/-- The context guards the surface, and the records stay as they are. -/
structure Guards (surface : SurfaceId) (b : Backend W) (gained : List JournalEntry)
    (b' : Backend W) : Prop where
  context : b.toRenderContext.Guards surface gained b'.toRenderContext
  outputs : b'.outputs = b.outputs

instance : Composes (Guards (W := W) surface) where
  refl b := ⟨Composes.refl b.toRenderContext, rfl⟩
  trans h h' := ⟨Composes.trans h.context h'.context, h'.outputs.trans h.outputs⟩

theorem guards_inContext {act : RenderM W α} (h : Always (RenderContext.Guards surface) act) :
    Always (Guards surface) (BackendM.inContext act) := fun b =>
  (yields_context (h b.toRenderContext)).mono fun _ _ _ h => ⟨h.1, h.2⟩

theorem guards_call {c : Call} (h : ∀ a, (JournalEntry.call c a).IsNeutral) :
    Always (Guards surface) (call c : BackendM W c.Answer) :=
  guards_inContext (RenderContext.guards_call h)

theorem guards_restoreCrtc (connector : ConnectorHandle) (claimed : Option CrtcHandle)
    (saved : Option CrtcInfo) :
    Always (Guards surface) (restoreCrtc connector claimed saved : BackendM W Unit) :=
  always_restoreCrtc (fun _ => guards_call fun _ => ⟨rfl, rfl, rfl⟩) connector claimed saved

/-- The surface is guarded, and a framebuffer that is answered is that of one of its buffers. -/
def Displays (surface : SurfaceId) (act : BackendM W (Except ε FramebufferId)) : Prop :=
  ∀ b, Yields act b fun r g b' => Guards surface b g b' ∧
    ∀ fb, r = .ok fb → surface ∈ b.chains.alive → fb ∈ b'.chains.framebuffersOf surface

theorem Guards.framebuffersOf_mono (h : Guards surface b g b') (hs : surface ∈ b.chains.alive)
    {fb : FramebufferId} (hfb : fb ∈ b.chains.framebuffersOf surface) :
    fb ∈ b'.chains.framebuffersOf surface := by
  obtain ⟨buffer, hbuffer, hmem⟩ := SwapChains.mem_framebuffersOf.1 hfb
  exact SwapChains.mem_framebuffersOf.2 ⟨buffer, hbuffer, h.context.registered hs hmem⟩

namespace Displays

theorem bindOk {x : ExceptT ε (BackendM W) α} {f : α → ExceptT ε (BackendM W) FramebufferId}
    (hx : Always (Guards surface) x.run) (hf : ∀ a, Displays surface (f a).run) :
    Displays surface (x >>= f).run := by
  intro b
  refine (hx b).bindOk ?_ fun _ _ _ h => ⟨h, nofun⟩
  intro a g₁ b₁ h₁
  refine (hf a b₁).mono ?_
  rintro r g₂ b₂ ⟨h₂, hfb⟩
  exact ⟨Composes.trans h₁ h₂, fun fb hr hs => hfb fb hr (h₁.context.alive hs)⟩

/-- What is done with the framebuffer of a buffer answers with it in the end. -/
theorem scanoutId {cause : RenderError → ε} {buffer : BufferSlot} (hbuffer : buffer.surface = surface)
    {act : FramebufferId → ExceptT ε (BackendM W) FramebufferId}
    (hact : ∀ fb b, Yields (act fb).run b fun r g b' =>
      Guards surface b g b' ∧ ∀ fb', r = .ok fb' → fb' = fb) :
    Displays surface (render cause (RenderContext.scanoutId buffer) >>= act).run := by
  intro b
  refine (yields_context ((RenderContext.guards_scanoutId hbuffer b.toRenderContext).and
    (RenderContext.yields_scanoutId buffer b.toRenderContext))).orFail_bindOk ?_ ?_
  · rintro fb g₁ b₁ ⟨⟨hcontext, hregistering⟩, houtputs⟩
    have h₁ : Guards surface b g₁ b₁ := ⟨hcontext, houtputs⟩
    refine (hact fb b₁).mono ?_
    rintro r g₂ b₂ ⟨h₂, hanswer⟩
    refine ⟨Composes.trans h₁ h₂, fun fb' hr hs => ?_⟩
    have hmem := SwapChains.mem_framebuffersOf.2 ⟨buffer, hbuffer, hregistering.mem_of_ok⟩
    exact hanswer fb' hr ▸ h₂.framebuffersOf_mono (hcontext.alive hs) hmem
  · rintro e g₁ b₁ ⟨⟨hcontext, -⟩, houtputs⟩
    exact ⟨⟨hcontext, houtputs⟩, nofun⟩

theorem withFrontBuffer {cause : RenderError → ε}
    {act : BufferSlot → ExceptT ε (BackendM W) FramebufferId}
    (hact : ∀ buffer : BufferSlot, buffer.surface = surface → Displays surface (act buffer).run) :
    Displays surface (withFrontBuffer cause surface act).run := by
  intro b
  refine (yields_context
    (RenderContext.yields_lockFrontBuffer_guards b.toRenderContext)).orFail_bindOk ?_ ?_
  · rintro buffer g₁ b₁ ⟨⟨hcontext, hbuffer⟩, houtputs⟩
    have h₁ : Guards surface b g₁ b₁ := ⟨hcontext, houtputs⟩
    refine Yields.bind (hact buffer (hbuffer _ rfl) b₁) ?_
    rintro r g₂ b₂ ⟨h₂, hfb⟩
    refine (guards_inContext (RenderContext.guards_releaseBuffer (hbuffer _ rfl)) b₂).bind ?_
    intro _ g₃ b₃ h₃
    have h₁₂ : Guards surface b (g₂ ++ g₁) b₂ := Composes.trans h₁ h₂
    refine .pure ⟨?_, fun fb hr hs => ?_⟩
    · rw [List.nil_append, List.append_assoc]
      exact Composes.trans h₁₂ h₃
    · exact h₃.framebuffersOf_mono (h₁₂.context.alive hs) (hfb fb hr (hcontext.alive hs))
  · rintro e g₁ b₁ ⟨⟨hcontext, -⟩, houtputs⟩
    exact ⟨⟨hcontext, houtputs⟩, nofun⟩

theorem presentFirstFrame (surface : SurfaceId) (connector : ConnectorHandle) (crtc : CrtcHandle)
    (mode : DisplayMode) :
    Displays surface (presentFirstFrame (W := W) surface connector crtc mode).run := by
  refine .bindOk (.orFail (guards_inContext (RenderContext.guards_makeCurrent surface))) fun _ => ?_
  refine .bindOk (.lift (guards_inContext (RenderContext.guards_clear _ _ _))) fun _ => ?_
  refine .bindOk (.orFail (guards_inContext (RenderContext.guards_swapBuffers surface))) fun _ => ?_
  refine withFrontBuffer fun buffer hbuffer => scanoutId hbuffer fun fb b => ?_
  have hcommit : Always (Guards surface) (orFail ModesetError.kernel (kernel (.setCrtc
      ⟨crtc, some fb, (0, 0), [connector], some mode⟩)) : ExceptT _ (BackendM W) _).run :=
    .orFail (guards_call fun _ => ⟨rfl, rfl, rfl⟩)
  have hflip : Always (Guards surface) (orFail ModesetError.kernel (kernel (.pageFlip crtc fb)) :
      ExceptT _ (BackendM W) _).run := .orFail (guards_call fun _ => ⟨rfl, rfl, rfl⟩)
  refine (hcommit b).bindOk ?_ fun _ _ _ h => ⟨h, nofun⟩
  intro _ g₁ b₁ h₁
  refine (hflip b₁).bindOk ?_ fun _ _ _ h₂ => ⟨Composes.trans h₁ h₂, nofun⟩
  intro _ g₂ b₂ h₂
  refine .pureOk ⟨Composes.trans h₁ h₂, ?_⟩
  rintro _ ⟨⟩
  rfl

end Displays

theorem yields_giveUp_custody {old : List FramebufferId} {held : List Resource}
    (hc : b.toRenderContext.Custody surface old held) (connector : ConnectorHandle)
    (crtc : CrtcHandle) (saved : Option CrtcInfo) :
    Yields (do
      restoreCrtc connector (some crtc) saved
      BackendM.inContext (RenderContext.destroySurface surface) : BackendM W Unit) b
      fun _ g _ => outstanding held g = [] := by
  have hrestore : Always (Guards surface) (restoreCrtc connector (some crtc) saved :
      BackendM W Unit) := guards_restoreCrtc connector (some crtc) saved
  refine (hrestore b).bind ?_
  intro _ g₁ b₁ h₁
  refine (yields_context (RenderContext.yields_destroySurface_custody
    (h₁.context.custody old held hc))).mono ?_
  rintro _ g₂ b₂ ⟨hnothing, -⟩
  rw [outstanding_append, hnothing]

/-- After a failure nothing is held of the surface that was to be set up. Otherwise the surface is
held, with the framebuffers of its buffers, and one of these is shown. -/
theorem yields_initSurface_custody (ho : b.output? id = some o) (connector : ConnectorHandle)
    (crtc : CrtcHandle) (saved : Option CrtcInfo) (mode : DisplayMode) :
    Yields (initSurface id connector crtc saved mode).run b fun r g b' =>
      match r with
      | .ok _ => ∃ s fb, b'.output? id = some (o.lit mode s fb) ∧ s = b.chains.nextSurface ∧
          fb ∈ b'.chains.framebuffersOf s ∧
          b'.toRenderContext.Custody s (b.chains.framebuffersOf s) (outstanding [] g)
      | .error _ => outstanding [] g = [] := by
  refine (yields_context (RenderContext.yields_createSurface_custody
    mode.size.1 mode.size.2 b.toRenderContext)).orFail_bindOk ?_ ?_
  · rintro s g₁ b₁ ⟨⟨hs, hcustody₁⟩, houtputs₁⟩
    refine (Yields.orRelease (Displays.presentFirstFrame s connector crtc mode b₁) (Q := fun r g b' =>
      (∀ fb, r = .ok fb → Guards s b₁ g b' ∧ fb ∈ b'.chains.framebuffersOf s) ∧
        ∀ e, r = .error e → outstanding [] (g ++ g₁) = []) ?_ ?_).bindOk ?_ ?_
    · rintro fb g₂ b₂ ⟨h₂, hfb⟩
      refine ⟨?_, nofun⟩
      rintro _ ⟨⟩
      exact ⟨h₂, hfb fb rfl hcustody₁.alive⟩
    · rintro e g₂ b₂ ⟨h₂, -⟩
      refine (yields_giveUp_custody (h₂.context.custody _ _ hcustody₁) connector crtc saved).mono ?_
      intro _ g₃ b₃ hnothing
      refine ⟨nofun, fun _ _ => ?_⟩
      rw [outstanding_append, outstanding_append, hnothing]
    · rintro fb g₂ b₂ ⟨hshown, -⟩
      obtain ⟨h₂, hfb⟩ := hshown fb rfl
      refine .lift ((yields_updateOutput id _ b₂).mono ?_)
      rintro _ _ _ ⟨rfl, rfl⟩
      have ho₂ : b₂.output? id = some o := by rw [output?, h₂.outputs, houtputs₁, ← output?, ho]
      refine ⟨s, fb, output?_modify_self (b := b₂) (f := (·.lit mode s fb)) rfl ho₂, hs, hfb, ?_⟩
      show b₂.toRenderContext.Custody s _ (outstanding [] (g₂ ++ g₁))
      rw [outstanding_append]
      exact h₂.context.custody _ _ hcustody₁
    · rintro e g₂ b₂ ⟨-, hnothing⟩
      exact hnothing e rfl
  · rintro e g₁ b₁ ⟨hnothing, -⟩
    exact hnothing

end Backend
end Scanout
