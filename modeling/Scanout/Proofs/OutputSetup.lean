import Scanout.OutputModeset
import Scanout.Proofs.FirstFit
import Scanout.Proofs.OutputRelease

/-!
# What setting a mode does

Setting a mode either ends before a CRTC was claimed, or claims one that nobody owns. From then
on it either fails without a surface, or gives a surface up again after the commits that undo
the first frame, or ends with an accepted page flip. The three stages of an attempt are
`FrameTried` within `SurfaceTried` within `ModesetTried`.
-/

namespace Scanout

/-- What an attempt to set a mode has settled on when it claims its CRTC. -/
structure ModesetChoice where
  modes : List DisplayMode
  saved : Option CrtcInfo
  mode : DisplayMode
  encoder : EncoderHandle
  crtc : CrtcHandle

/-- A record whose mode is chosen and that has no surface yet. -/
def Output.configured (o : Output) (k : ModesetChoice) : Output :=
  { o with
    modes := k.modes, savedCrtc := k.saved, mode := some k.mode, encoder := some k.encoder
    crtc := some k.crtc, state := .connected }

def Output.lit (o : Output) (mode : DisplayMode) (surface : SurfaceId) (fb : FramebufferId) :
    Output :=
  { o with
    surface := some ⟨surface, mode.size.1, mode.size.2, some fb⟩
    flipPending := true }

/-- The commit of the first frame and the flip to it, as far as they were come to, and the
framebuffer if both were accepted. -/
inductive FrameTried (connector : ConnectorHandle) (crtc : CrtcHandle) (mode : DisplayMode) :
    Option FramebufferId → List JournalEntry → Prop where
  | undrawn : FrameTried connector crtc mode none []
  | refused (fb : FramebufferId) (cause : SystemError) : FrameTried connector crtc mode none
      [.call (.kernel (.setCrtc ⟨crtc, some fb, (0, 0), [connector], some mode⟩)) (.error cause)]
  | unflipped (fb : FramebufferId) (cause : SystemError) : FrameTried connector crtc mode none
      [.call (.kernel (.pageFlip crtc fb)) (.error cause),
        .call (.kernel (.setCrtc ⟨crtc, some fb, (0, 0), [connector], some mode⟩)) (.ok ())]
  | shown (fb : FramebufferId) : FrameTried connector crtc mode (some fb)
      [.call (.kernel (.pageFlip crtc fb)) (.ok ()),
        .call (.kernel (.setCrtc ⟨crtc, some fb, (0, 0), [connector], some mode⟩)) (.ok ())]

namespace Backend

variable {W : World}

/-- The books once a CRTC is claimed for an output and its record is filled in. -/
def configured (b : Backend W) (id : OutputId) (k : ModesetChoice) : Backend W :=
  { b with
    outputs := b.outputs.modify id.slot (·.configured k)
    claims := (b.claims.claim k.crtc id).2 }

@[simp] theorem claims_configured (b : Backend W) (id : OutputId) (k : ModesetChoice) :
    (b.configured id k).claims = (b.claims.claim k.crtc id).2 := rfl

theorem output?_configured {b : Backend W} {id : OutputId} {o : Output} (k : ModesetChoice)
    (ho : b.output? id = some o) : (b.configured id k).output? id = some (o.configured k) := by
  rw [output?_modify (b := b) rfl, if_pos rfl, ho, Option.map_some]

/-- An attempt to create a surface for an output and to show its first frame. -/
inductive SurfaceTried (id : OutputId) (connector : ConnectorHandle) (crtc : CrtcHandle)
    (saved : Option CrtcInfo) (mode : DisplayMode) (b : Backend W) :
    Except ModesetError Unit → List JournalEntry → Backend W → Prop where
  | unmade {e g b'} (h : Quiet b g b') :
      SurfaceTried id connector crtc saved mode b (.error e) g b'
  | undone {e s core g₁ g₂ g₃ b'} (hnew : b.chains.created < s.number)
      (htried : FrameTried connector crtc mode none core) (hcore : Amid core g₁)
      (hback : PutBack connector (some crtc) saved g₂) (hdestroy : Destroys s g₃)
      (h : SameBooks b b') :
      SurfaceTried id connector crtc saved mode b (.error e) (g₃ ++ g₂ ++ g₁) b'
  | shown {s fb core g b'} (hnew : b.chains.created < s.number)
      (hold : s.number ≤ b'.chains.created)
      (htried : FrameTried connector crtc mode (some fb) core) (hcore : Amid core g)
      (h : SameBooks { b with outputs := b.outputs.modify id.slot (·.lit mode s fb) } b') :
      SurfaceTried id connector crtc saved mode b (.ok ()) g b'

/-- The CRTC of a choice is free, and its snapshot is one that the kernel gave. -/
structure Claimable (b : Backend W) (k : ModesetChoice) (gained : List JournalEntry) : Prop where
  free : b.claims.owner k.crtc = none
  quiet : ∀ e ∈ gained, e.IsQuiet
  snapshot : ∀ s, k.saved = some s → ∃ h, .call (.kernel (.crtc h)) (.ok s) ∈ gained

inductive ModesetTried (id : OutputId) (connector : ConnectorHandle) (b : Backend W) :
    Except ModesetError Unit → List JournalEntry → Backend W → Prop where
  | unclaimed {e g b'} (h : Quiet b g b') : ModesetTried id connector b (.error e) g b'
  | claimed {k r g₁ g₂ b'} (hk : Claimable b k g₁)
      (h : SurfaceTried id connector k.crtc k.saved k.mode (b.configured id k) r g₂ b') :
      ModesetTried id connector b r (g₂ ++ .claimed k.crtc id :: g₁) b'

theorem SurfaceTried.of_same {id : OutputId} {connector : ConnectorHandle} {crtc : CrtcHandle}
    {saved : Option CrtcInfo} {mode : DisplayMode} {b b₁ b' : Backend W}
    {r : Except ModesetError Unit} {g : List JournalEntry} (hb : SameBooks b b₁)
    (h : SurfaceTried id connector crtc saved mode b₁ r g b') :
    SurfaceTried id connector crtc saved mode b r g b' := by
  cases h with
  | unmade h => exact .unmade ⟨h.quiet, hb.trans h.same⟩
  | undone hnew htried hcore hback hdestroy h =>
    exact .undone (Nat.lt_of_le_of_lt hb.created hnew) htried hcore hback hdestroy (hb.trans h)
  | shown hnew hold htried hcore h =>
    exact .shown (Nat.lt_of_le_of_lt hb.created hnew) hold htried hcore
      ((hb.modify id.slot _).trans h)

theorem yields_firstFit (crtcs : List CrtcHandle) (claims : CrtcClaims)
    (encoders : List EncoderHandle) (b : Backend W) :
    Yields (firstFit crtcs claims encoders) b fun r g b' => Quiet b g b' ∧
      ∀ encoder crtc, r = some (encoder, crtc) → claims.owner crtc = none := by
  induction encoders generalizing b with
  | nil => exact .pure ⟨.refl b, by simp⟩
  | cons encoder others ih =>
    refine (yields_quietCall (c := .kernel (.encoder encoder)) b fun _ => trivial).bind ?_
    rintro answer g₁ b₁ ⟨-, h₁⟩
    have hrest := (ih b₁).mono fun r g b' h => (⟨h₁.trans h.1, h.2⟩ : _ ∧ _)
    cases answer with
    | error _ => exact hrest
    | ok info =>
      dsimp only
      cases hfree : info.firstFree crtcs claims with
      | none => exact hrest
      | some crtc =>
        refine .pure ⟨by simpa using h₁, ?_⟩
        rintro _ _ ⟨⟩
        obtain ⟨_, hfed, -⟩ := EncoderInfo.feedableFrom_of_firstFree hfree
        exact hfed.free

/-- The snapshot that is taken is one that the kernel gave. -/
theorem yields_activeCrtc {ε : Type} (connector : ConnectorInfo) (b : Backend W) :
    Yields (activeCrtc connector : ExceptT ε (BackendM W) (Option CrtcInfo)).run b fun r g b' =>
      Quiet b g b' ∧ ∃ saved, r = .ok saved ∧
        ∀ s, saved = some s → ∃ h, .call (.kernel (.crtc h)) (.ok s) ∈ g := by
  unfold activeCrtc
  cases connector.currentEncoder with
  | none => exact .pureOk ⟨.refl b, none, rfl, by simp⟩
  | some encoder =>
    refine (yields_quietCallOk (c := .kernel (.encoder encoder)) b
      fun _ => trivial).bindOk ?_ (by simp)
    rintro answer g₁ b₁ ⟨_, ⟨⟩, -, h₁⟩
    cases answer with
    | error _ => exact .pureOk ⟨by simpa using h₁, none, rfl, by simp⟩
    | ok info =>
      dsimp only
      cases info.crtc with
      | none => exact .pureOk ⟨by simpa using h₁, none, rfl, by simp⟩
      | some crtc =>
        refine (yields_quietCallOk (c := .kernel (.crtc crtc)) b₁
          fun _ => trivial).bindOk ?_ (by simp)
        rintro answer _ b₂ ⟨_, ⟨⟩, rfl, h₂⟩
        refine .pureOk ⟨by simpa using h₁.trans h₂, _, rfl, ?_⟩
        cases answer with
        | error _ => simp [Except.toOption]
        | ok s =>
          rintro _ ⟨⟩
          exact ⟨crtc, by simp⟩

theorem yields_claimCrtc (id : OutputId) (connector : ConnectorInfo) (crtcs : List CrtcHandle)
    (b : Backend W) :
    Yields (claimCrtc id connector crtcs).run b fun r g b' =>
      (∃ e, r = .error e ∧ Quiet b g b') ∨
        ∃ encoder crtc g₀, r = .ok (encoder, crtc) ∧ b.claims.owner crtc = none ∧
          (∀ e ∈ g₀, e.IsQuiet) ∧ g = .claimed crtc id :: g₀ ∧
          SameBooks { b with claims := (b.claims.claim crtc id).2 } b' := by
  refine (Yields.orFail (P := fun r g b' => (∃ e, r = .error e ∧ Quiet b g b') ∨
    ∃ encoder crtc g₀, r = .ok (encoder, crtc) ∧ b.claims.owner crtc = none ∧
      (∀ e ∈ g₀, e.IsQuiet) ∧ g = .claimed crtc id :: g₀ ∧
      SameBooks { b with claims := (b.claims.claim crtc id).2 } b') ?_).mono ?_
  · refine Yields.get_bind (Yields.bind ((yields_firstFit crtcs b.claims _ b).bind
      (Q := fun r g b' =>
        ((∃ e, r.1 = .error e) ∧ r.2 = b.claims ∧ Quiet b g b') ∨
          ∃ encoder crtc g₀, r.1 = .ok (encoder, crtc) ∧ r.2 = (b.claims.claim crtc id).2 ∧
            b.claims.owner crtc = none ∧ (∀ e ∈ g₀, e.IsQuiet) ∧ g = .claimed crtc id :: g₀ ∧
            SameBooks b b') ?_) ?_)
    · rintro found g₁ b₁ ⟨h₁, hfree⟩
      cases found with
      | none => exact .pure (.inl ⟨⟨_, rfl⟩, rfl, by simpa using h₁⟩)
      | some pair =>
        obtain ⟨encoder, crtc⟩ := pair
        have hsame := h₁.same
        refine ⟨[.claimed crtc id], rfl, .inr ⟨encoder, crtc, g₁, rfl, rfl, hfree _ _ rfl,
          h₁.quiet, rfl, ?_⟩⟩
        exact ⟨hsame.outputs, hsame.claims, hsame.timeout, hsame.created⟩
    · rintro ⟨r, claims⟩ g b₁ h
      rcases h with ⟨⟨e, rfl⟩, rfl, h₁⟩ | ⟨encoder, crtc, g₀, rfl, rfl, hfree, hquiet, rfl, h₁⟩
      · refine ⟨[], rfl, .inl ⟨e, rfl, h₁.quiet, ?_⟩⟩
        exact ⟨h₁.same.outputs, rfl, h₁.same.timeout, h₁.same.created⟩
      · refine ⟨[], rfl, .inr ⟨encoder, crtc, g₀, rfl, hfree, hquiet, rfl, ?_⟩⟩
        exact ⟨h₁.outputs, rfl, h₁.timeout, h₁.created⟩
  · rintro _ g b' ⟨r₀, rfl, h⟩
    rcases h with ⟨e, rfl, h⟩ | ⟨encoder, crtc, g₀, rfl, h⟩
    · exact .inl ⟨_, rfl, h⟩
    · exact .inr ⟨encoder, crtc, g₀, rfl, h⟩

private theorem yields_frameCommit (connector : ConnectorHandle) (crtc : CrtcHandle)
    (mode : DisplayMode) (buffer : BufferSlot) (b : Backend W) :
    Yields (ExceptT.run do
      let framebuffer ← render .render (RenderContext.scanoutId buffer)
      orFail .kernel
        (kernel (.setCrtc ⟨crtc, some framebuffer, (0, 0), [connector], some mode⟩))
      orFail .kernel (kernel (.pageFlip crtc framebuffer))
      return framebuffer : BackendM W (Except ModesetError FramebufferId)) b fun r g b' =>
      ∃ core, FrameTried connector crtc mode r.toOption core ∧ Amid core g ∧ SameBooks b b' := by
  refine (yields_render (RenderContext.quietly_scanoutId buffer) b).bindOk ?_ ?_
  · intro fb g₁ b₁ h₁
    refine (yields_call (.kernel (.setCrtc
      ⟨crtc, some fb, (0, 0), [connector], some mode⟩)) b₁).orFail_bindOk ?_ ?_
    · rintro ⟨⟩ _ b₂ ⟨rfl, h₂⟩
      refine (yields_call (.kernel (.pageFlip crtc fb)) b₂).orFail_bindOk ?_ ?_
      · rintro ⟨⟩ _ b₃ ⟨rfl, h₃⟩
        exact .pureOk ⟨_, .shown fb, (Amid.self _).after h₁.quiet, (h₁.same.trans h₂).trans h₃⟩
      · rintro cause _ b₃ ⟨rfl, h₃⟩
        exact ⟨_, .unflipped fb cause, (Amid.self _).after h₁.quiet, (h₁.same.trans h₂).trans h₃⟩
    · rintro cause _ b₂ ⟨rfl, h₂⟩
      exact ⟨_, .refused fb cause, (Amid.self _).after h₁.quiet, h₁.same.trans h₂⟩
  · intro e g₁ b₁ h₁
    exact ⟨[], .undrawn, .of_quiet h₁.quiet, h₁.same⟩

theorem yields_presentFirstFrame (surface : SurfaceId) (connector : ConnectorHandle)
    (crtc : CrtcHandle) (mode : DisplayMode) (b : Backend W) :
    Yields (presentFirstFrame surface connector crtc mode).run b fun r g b' =>
      ∃ core, FrameTried connector crtc mode r.toOption core ∧ Amid core g ∧ SameBooks b b' := by
  have hundrawn : ∀ {e : ModesetError} {g b'}, Quiet b g b' →
      ∃ core, FrameTried connector crtc mode (Except.error e).toOption core ∧ Amid core g ∧
        SameBooks b b' := fun h => ⟨[], .undrawn, .of_quiet h.quiet, h.same⟩
  refine (yields_render (RenderContext.quietly_makeCurrent surface) b).bindOk ?_
    fun _ _ _ h => hundrawn h
  intro _ g₁ b₁ h₁
  refine (yields_quietly (RenderContext.quietly_clear _ _ _) b₁).lift_bind ?_
  intro _ g₂ b₂ h₂
  refine (yields_render (RenderContext.quietly_swapBuffers surface) b₂).bindOk ?_ ?_
  · intro _ g₃ b₃ h₃
    have hbefore := (h₁.trans h₂).trans h₃
    refine (yields_withFrontBuffer .undrawn (yields_frameCommit connector crtc mode) b₃).mono ?_
    rintro r g b' ⟨core, htried, hcore, h⟩
    exact ⟨core, htried, by simpa using hcore.after hbefore.quiet, hbefore.same.trans h⟩
  · intro e g₃ b₃ h₃
    simpa using hundrawn ((h₁.trans h₂).trans h₃)

theorem yields_createSurface (width height : UInt32) (b : Backend W) :
    Yields (render .render (RenderContext.createSurface width height) :
      ExceptT ModesetError (BackendM W) SurfaceId).run b fun r g b' => Quiet b g b' ∧
      ∀ s, r = .ok s → b.chains.created < s.number ∧ s.number ≤ b'.chains.created := by
  refine (Yields.orFail (yields_inContext (RenderContext.yields_createSurface width height _)
    fun _ _ _ h => h.1.created)).mono ?_
  rintro _ g b' ⟨r₀, rfl, ⟨hhush, hnew⟩, h⟩
  refine ⟨⟨hhush.quiet, h⟩, ?_⟩
  cases r₀ with
  | error _ => rintro _ ⟨⟩
  | ok s =>
    rintro _ ⟨⟩
    exact hnew s rfl

theorem yields_initSurface (id : OutputId) (connector : ConnectorHandle) (crtc : CrtcHandle)
    (saved : Option CrtcInfo) (mode : DisplayMode) (b : Backend W) :
    Yields (initSurface id connector crtc saved mode).run b
      (SurfaceTried id connector crtc saved mode b) := by
  refine (yields_createSurface mode.size.1 mode.size.2 b).bindOk ?_ fun _ _ _ h => .unmade h.1
  rintro s g₁ b₁ ⟨h₁, hnew⟩
  obtain ⟨hnew, hold⟩ := hnew s rfl
  refine Yields.bindOk (P := fun r g b' =>
      (∃ fb core, r = .ok fb ∧ FrameTried connector crtc mode (some fb) core ∧ Amid core g ∧
        SameBooks b₁ b') ∨
      ∃ e core g₂ g₃ g₄, r = .error e ∧ FrameTried connector crtc mode none core ∧
        Amid core g₂ ∧ PutBack connector (some crtc) saved g₃ ∧ Destroys s g₄ ∧
        g = g₄ ++ g₃ ++ g₂ ∧ SameBooks b₁ b')
    (Yields.orRelease (yields_presentFirstFrame s connector crtc mode b₁) ?_ ?_) ?_ ?_
  · rintro fb g₂ b₂ ⟨core, htried, hcore, h₂⟩
    exact .inl ⟨fb, core, rfl, htried, hcore, h₂⟩
  · rintro e g₂ b₂ ⟨core, htried, hcore, h₂⟩
    refine (yields_restoreCrtc connector (some crtc) saved b₂).bind ?_
    rintro _ g₃ b₃ ⟨hback, h₃⟩
    refine (yields_destroySurface s b₃).mono ?_
    rintro _ g₄ b₄ ⟨hdestroy, h₄⟩
    exact .inr ⟨e, core, g₂, g₃, g₄, rfl, htried, hcore, hback, hdestroy, rfl,
      (h₂.trans h₃).trans h₄⟩
  · intro fb g₂ b₂ h
    rcases h with ⟨_, core, ⟨⟩, htried, hcore, h₂⟩ | ⟨_, _, _, _, _, ⟨⟩, -⟩
    refine .lift ((yields_updateOutput id _ b₂).mono ?_)
    rintro _ _ _ ⟨rfl, rfl⟩
    have hsame := h₁.same.trans h₂
    exact .shown hnew (Nat.le_trans hold h₂.created) htried (by simpa using hcore.after h₁.quiet)
      (hsame.modify id.slot (·.lit mode s fb))
  · intro e _ b₂ h
    rcases h with ⟨_, _, ⟨⟩, -⟩ | ⟨_, core, g₂, g₃, g₄, ⟨⟩, htried, hcore, hback, hdestroy, rfl, h₂⟩
    have hundone : SurfaceTried id connector crtc saved mode b (.error e)
        (g₄ ++ g₃ ++ (g₂ ++ g₁)) b₂ :=
      .undone hnew htried (hcore.after h₁.quiet) hback hdestroy (h₁.same.trans h₂)
    simpa using hundone

/-- The second half of setting a mode, which begins with the claim. Until then everything was
quiet. -/
private theorem yields_claimAndShow (id : OutputId) (connector : ConnectorHandle)
    (info : ConnectorInfo) {saved : Option CrtcInfo} (mode : DisplayMode)
    (crtcs : List CrtcHandle) {b b₁ : Backend W} {g₁ : List JournalEntry} (h₁ : Quiet b g₁ b₁)
    (hsaved : ∀ s, saved = some s → ∃ h, .call (.kernel (.crtc h)) (.ok s) ∈ g₁) :
    Yields (ExceptT.run do
      let (encoder, crtc) ← claimCrtc id info crtcs
      ExceptT.lift (updateOutput id (·.configured ⟨info.modes, saved, mode, encoder, crtc⟩))
      initSurface id connector crtc saved mode : BackendM W (Except ModesetError Unit)) b₁
      fun r g b' => ModesetTried id connector b r (g ++ g₁) b' := by
  refine (yields_claimCrtc id info crtcs b₁).bindOk ?_ ?_
  · intro pair g₂ b₂ h
    rcases h with ⟨_, ⟨⟩, -⟩ | ⟨encoder, crtc, g₀, ⟨⟩, hfree, hquiet, rfl, h₂⟩
    let k : ModesetChoice := ⟨info.modes, saved, mode, encoder, crtc⟩
    have hk : Claimable b k (g₀ ++ g₁) := by
      refine ⟨h₁.same.claims ▸ hfree, (h₁.trans ⟨hquiet, .refl _⟩).quiet, fun s hs => ?_⟩
      obtain ⟨h, hmem⟩ := hsaved s hs
      exact ⟨h, List.mem_append_right _ hmem⟩
    refine (yields_updateOutput id _ b₂).lift_bind ?_
    rintro _ _ _ ⟨rfl, rfl⟩
    refine (yields_initSurface id connector crtc saved mode _).mono ?_
    intro r g₃ b₃ h₃
    have hclaims := (h₁.same.mapClaims fun t => (t.claim crtc id).2).trans h₂
    simpa using ModesetTried.claimed hk (h₃.of_same (hclaims.modify id.slot (·.configured k)))
  · intro e g₂ b₂ h
    rcases h with ⟨_, -, h₂⟩ | ⟨_, _, _, ⟨⟩, -⟩
    exact .unclaimed (h₁.trans h₂)

theorem yields_tryModeset (id : OutputId) (connector : ConnectorHandle) (request : ModeRequest)
    (b : Backend W) :
    Yields (tryModeset id connector request).run b (ModesetTried id connector b) := by
  refine (yields_quietCall (c := .kernel (.connector connector)) b
    fun _ => trivial).orFail_bindOk ?_ ?_
  · rintro info _ b₁ ⟨rfl, h₁⟩
    cases hlink : info.isConnected with
    | false => exact .throw (.unclaimed (by simpa using h₁))
    | true =>
      cases hmodes : info.modes.isEmpty with
      | true => exact .throw (.unclaimed (by simpa using h₁))
      | false =>
        refine (yields_activeCrtc info b₁).bindOk ?_ (by simp)
        rintro saved g₂ b₂ ⟨h₂, _, ⟨⟩, hsaved⟩
        have hread := h₁.trans h₂
        refine Yields.orFail_bindOk (P := fun _ g b' => g = [] ∧ b' = b₂) (.pure ⟨rfl, rfl⟩) ?_ ?_
        · rintro mode _ _ ⟨rfl, rfl⟩
          refine (yields_quietCall (c := .kernel .resources) _ fun _ => trivial).orFail_bindOk ?_ ?_
          · rintro resources g₃ b₃ ⟨-, h₃⟩
            refine (yields_claimAndShow id connector info mode resources.crtcs (hread.trans h₃)
              fun s hs => ?_).mono ?_
            · obtain ⟨h, hmem⟩ := hsaved s hs
              exact ⟨h, by simp [hmem]⟩
            · intro r g₄ b₄ h₄
              simpa using h₄
          · rintro e g₃ b₃ ⟨-, h₃⟩
            exact .unclaimed (by simpa using hread.trans h₃)
        · rintro e _ _ ⟨rfl, rfl⟩
          exact .unclaimed (by simpa using hread)
  · rintro e _ b₁ ⟨rfl, h₁⟩
    exact .unclaimed h₁

namespace ModesetTried

variable {id : OutputId} {connector : ConnectorHandle} {b b' : Backend W}
  {g : List JournalEntry}

/-- Setting a mode is no concern of the other outputs. -/
theorem elsewhere {r : Except ModesetError Unit} (h : ModesetTried id connector b r g b') :
    SameElsewhere id b b' := by
  cases h with
  | unclaimed h => exact .of_same h.same
  | @claimed k _ _ _ _ hk h =>
    have hclaimed : SameElsewhere id b (b.configured id k) :=
      .of_modify rfl fun c _ hj => b.claims.owner_claim_of_ne hj hk.free c
    cases h with
    | unmade h => exact hclaimed.trans (.of_same h.same)
    | undone _ _ _ _ _ h => exact hclaimed.trans (.of_same h)
    | shown _ _ _ _ h =>
      exact hclaimed.trans (.of_modify h.outputs fun _ _ _ => by rw [h.claims])

theorem created {r : Except ModesetError Unit} (h : ModesetTried id connector b r g b') :
    b.chains.created ≤ b'.chains.created := by
  cases h with
  | unclaimed h => exact h.same.created
  | claimed _ h =>
    cases h with
    | unmade h => exact h.same.created
    | undone _ _ _ _ _ h => exact h.created
    | shown _ _ _ _ h => exact h.created

/-- An output whose mode was set has a CRTC that was free, a surface that is new, and a
snapshot that was read on the way. -/
theorem ok_books {o : Output} (h : ModesetTried id connector b (.ok ()) g b')
    (ho : b.output? id = some o) : ∃ k s fb, b.claims.owner k.crtc = none ∧
      b'.claims = (b.claims.claim k.crtc id).2 ∧
      b'.output? id = some ((o.configured k).lit k.mode s fb) ∧
      b.chains.created < s.number ∧ s.number ≤ b'.chains.created ∧
      ∀ i, k.saved = some i → ∃ c, .call (.kernel (.crtc c)) (.ok i) ∈ g := by
  cases h with
  | @claimed k _ _ _ _ hk h =>
    cases h with
    | @shown s fb _ _ _ hnew hold _ _ h =>
      refine ⟨k, s, fb, hk.free, h.claims, ?_, hnew, hold, fun i hi => ?_⟩
      · exact output?_modify_self h.outputs (output?_configured k ho)
      · obtain ⟨c, hc⟩ := hk.snapshot i hi
        exact ⟨c, by simp [hc]⟩

/-- A failed attempt may have filled the record in, but not with a surface. -/
theorem error_record {e : ModesetError} {o : Output}
    (h : ModesetTried id connector b (.error e) g b') (ho : b.output? id = some o) :
    ∃ o', b'.output? id = some o' ∧ (o' = o ∨ ∃ k, o' = o.configured k) := by
  cases h with
  | unclaimed h => exact ⟨o, (h.same.output? id).trans ho, .inl rfl⟩
  | @claimed k _ _ _ _ _ h =>
    have hconfigured := output?_configured k ho
    cases h with
    | unmade h => exact ⟨_, (h.same.output? id).trans hconfigured, .inr ⟨k, rfl⟩⟩
    | undone _ _ _ _ _ h => exact ⟨_, (h.output? id).trans hconfigured, .inr ⟨k, rfl⟩⟩

end ModesetTried

end Backend
end Scanout
