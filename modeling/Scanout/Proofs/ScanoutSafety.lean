import Scanout.Proofs.BufferUpkeep
import Scanout.Proofs.HeldSurfaces

/-!
# No framebuffer is removed while it is shown

Every action of a backend keeps its stock sound, and so does shutting it down. What an action does
between giving a CRTC back and destroying the surface cannot make the CRTC show the surface again,
so whatever a removal finds, no CRTC shows the framebuffer. The kernel may refuse anything but
switching a CRTC off, and the rendering may fail at any point.
-/

namespace Scanout
namespace Backend

variable {W : World} {α ε : Type} {held : OutputId → Option Holding} {b b' : Backend W}
  {g : List JournalEntry} {id : OutputId}

/-- The act keeps the stock of a backend that has no buffer taken out. -/
def Tidy (act : BackendM W α) : Prop :=
  ∀ b, b.chains.locked = [] → Yields act b fun _ g b' => b.stock.Keeps g b'.stock

theorem tidy_releaseOutput (id : OutputId) : Tidy (releaseOutput id : BackendM W Unit) := by
  intro b hlocked
  refine Yields.get_bind ?_
  cases ho : b.output? id with
  | none => exact .pure (.of_keepsLedger (by simp))
  | some o =>
    dsimp only
    cases hs : o.surface with
    | none => exact .pure (.of_keepsLedger (by simp))
    | some s =>
      have hheld : b.holding? id = some ⟨s.surface, o.crtc, o.savedCrtc⟩ :=
        holding?_eq_some_iff.2 ⟨o, s, ho, hs, rfl⟩
      refine (yields_updateOutput id _ b).bind ?_
      rintro _ _ b₁ ⟨rfl, hb₁⟩
      have hchains₁ : b₁.chains = b.chains := by rw [hb₁]
      refine .assoc ((yields_giveUp (b := b₁) hheld (hchains₁ ▸ hlocked)).bind ?_)
      rintro _ g b₂ ⟨hkeeps, houtputs⟩
      refine Yields.bind (P := fun _ g b₃ => g = [.released id] ∧ b₃.outputs = b₂.outputs ∧
        b₃.chains = b₂.chains) ⟨_, rfl, rfl, rfl, rfl⟩ ?_
      rintro _ _ b₃ ⟨rfl, houtputs₃, hchains₃⟩
      refine (yields_updateOutput id _ b₃).mono ?_
      rintro _ _ b₄ ⟨rfl, hb₄⟩
      have houtputs₄ : b₄.outputs = b.outputs.modify id.slot .withdrawn := by
        rw [hb₄]
        show b₃.outputs.modify id.slot _ = _
        rw [houtputs₃, houtputs, hb₁, List.modify_modify_eq]
        rfl
      have hchains₄ : b₄.chains = b₂.chains := by rw [hb₄, ← hchains₃]
      rw [stock_modify ho houtputs₄, hchains₄, List.append_nil]
      rw [hchains₁] at hkeeps
      exact hkeeps.trans (.of_keepsLedger (List.forall_mem_singleton.2 fun _ => ⟨rfl, trivial⟩))

/-- The stock is kept, given the entries in between. -/
def KeepsStock (b : Backend W) (g : List JournalEntry) (b' : Backend W) : Prop :=
  b.stock.Keeps g b'.stock

instance : Composes (KeepsStock (W := W)) where
  refl _ := .of_keepsLedger (by simp)
  trans := .trans

/-- A backend that has no buffer taken out has none taken out after its stock was kept. -/
theorem tidy_iff_leads {act : BackendM W α} :
    Tidy act ↔ Leads (·.chains.locked = []) KeepsStock (·.chains.locked = []) act :=
  ⟨fun h b hlocked => (h b hlocked).mono fun _ _ _ hkeeps => ⟨hkeeps, hkeeps.locked.trans hlocked⟩,
    fun h b hlocked => (h b hlocked).mono fun _ _ _ hkeeps => hkeeps.1⟩

namespace Tidy

variable {β : Type}

theorem of_calm {act : BackendM W α} (h : Always Calm act) : Tidy act := fun b _ =>
  (h b).mono fun _ _ _ => Calm.keeps_stock

protected theorem pure (a : α) : Tidy (pure a : BackendM W α) := tidy_iff_leads.2 (.pure a)

protected theorem bind {x : BackendM W α} {f : α → BackendM W β} (hx : Tidy x)
    (hf : ∀ a, Tidy (f a)) : Tidy (x >>= f) :=
  tidy_iff_leads.2 (.bind (tidy_iff_leads.1 hx) fun a => tidy_iff_leads.1 (hf a))

theorem bindOk {x : ExceptT ε (BackendM W) α} {f : α → ExceptT ε (BackendM W) β}
    (hx : Tidy x.run) (hf : ∀ a, Tidy (f a).run) : Tidy (x >>= f).run :=
  tidy_iff_leads.2 (.bindOk (tidy_iff_leads.1 hx) (fun a => tidy_iff_leads.1 (hf a)) fun _ h => h)

protected theorem lift {act : BackendM W α} (h : Tidy act) :
    Tidy (ExceptT.lift act : ExceptT ε (BackendM W) α).run :=
  tidy_iff_leads.2 (.lift (tidy_iff_leads.1 h))

/-- What is done with the record of an output is done only if there is one. -/
theorem requireOutput_bind {f : Output → ExceptT BackendError (BackendM W) α}
    (h : ∀ b o, b.chains.locked = [] → b.output? id = some o →
      Yields (f o).run b fun _ g b' => b.stock.Keeps g b'.stock) :
    Tidy (requireOutput id >>= f).run := by
  refine tidy_iff_leads.2 (leads_requireOutput_bind (fun _ h => h) fun b o hlocked ho => ?_)
  exact (h b o hlocked ho).mono fun _ _ _ hkeeps => ⟨hkeeps, hkeeps.locked.trans hlocked⟩

end Tidy

theorem tidy_teardownOutput (id : OutputId) :
    Tidy (teardownOutput id : ExceptT BackendError (BackendM W) Unit).run := by
  refine .bindOk (.of_calm (always_requireOutput id)) fun o => ?_
  cases o.surface.isNone with
  | true => exact .pure _
  | false =>
    have hcleaning : Always Calm (updateOutput id fun o => { o with cleaningUp := true } :
        BackendM W Unit) := always_updateOutput id fun _ => rfl
    have hnow : Always Calm (now : ExceptT BackendError (BackendM W) Duration).run :=
      always_readOk (c := .clock) trivial
    refine .bindOk (.lift (.of_calm hcleaning)) fun _ b hlocked => Yields.getOk_bind ?_
    refine Tidy.bindOk (.of_calm hnow) (fun start => ?_) b hlocked
    exact .bindOk (.of_calm (always_drainFlip id _ _)) fun _ => .lift (tidy_releaseOutput id)

theorem tidy_endFrame (id : OutputId) :
    Tidy (endFrame id : ExceptT BackendError (BackendM W) Unit).run := by
  refine .requireOutput_bind fun b o _ ho => ?_
  cases hc : o.crtc with
  | none => exact .throw (.of_keepsLedger (by simp))
  | some crtc =>
    cases hs : o.surface with
    | none => exact .throw (.of_keepsLedger (by simp))
    | some s =>
      have hheld : b.holding? id = some ⟨s.surface, o.crtc, o.savedCrtc⟩ :=
        holding?_eq_some_iff.2 ⟨o, s, ho, hs, rfl⟩
      have hswap : Always (Minds b.holding?) (render (W := W) BackendError.render
          (RenderContext.swapBuffers s.surface)).run :=
        minds_of_unmoved (unmoved_render (RenderContext.idle_swapBuffers s.surface))
      have hshow : Always (Minds b.holding?) (withFrontBuffer (W := W) BackendError.render
          s.surface fun buffer => do
            let framebuffer ← render .render (RenderContext.scanoutId buffer)
            orFail .kernel (kernel (.pageFlip crtc framebuffer))
            return framebuffer).run := by
        refine minds_withFrontBuffer ⟨id, _, hheld, rfl⟩ fun buffer hbuffer => ?_
        refine .bindOk (fun b' => (yields_scanoutId_minds ⟨id, _, hheld, hbuffer.symm⟩ b').mono
          fun _ _ _ h => h.1) fun fb => ?_
        exact .bindOk (.orFail (minds_of_unmoved (unmoved_call fun _ _ => ⟨rfl, trivial⟩)))
          fun _ => .pureOk fb
      refine (hswap b).bindOk ?_ fun _ _ _ h => h.keeps_stock
      intro _ g₁ b₁ h₁
      refine (hshow b₁).bindOk ?_ fun _ _ _ h => Minds.keeps_stock (Composes.trans h₁ h)
      intro fb g₂ b₂ h₂
      have h : Minds b.holding? b (g₂ ++ g₁) b₂ := Composes.trans h₁ h₂
      have hpresenting : Always Calm (updateOutput id (·.presenting fb) : BackendM W Unit) :=
        always_updateOutput id fun o => by
          simp [Output.presenting, Output.holding?, Function.comp_def]
      refine .lift ((hpresenting b₂).mono fun _ g₃ b₃ h₃ => ?_)
      rw [List.append_assoc]
      exact h.keeps_stock.trans h₃.keeps_stock

/-- A first frame that is not shown costs the output its surface. -/
theorem yields_showOrGiveUp {h : Holding} {crtc : CrtcHandle} (hheld : held id = some h)
    (hcrtc : h.crtc = some crtc) (hlocked : b.chains.locked = []) (connector : ConnectorHandle)
    (mode : DisplayMode) :
    Yields (orRelease (do
      restoreCrtc connector (some crtc) h.saved
      BackendM.inContext (RenderContext.destroySurface h.surface))
      (presentFirstFrame h.surface connector crtc mode)).run b fun r g b' =>
      b'.outputs = b.outputs ∧ (Stock.mk held b.chains).Keeps g
        (match r with
        | .ok _ => ⟨held, b'.chains⟩
        | .error _ => (Stock.mk held b.chains).put id none b'.chains) := by
  refine (minds_presentFirstFrame hheld rfl hcrtc b).orRelease ?_ ?_
  · intro _ g b₁ h₁
    exact ⟨h₁.outputs, h₁.keeps⟩
  · intro e g b₁ h₁
    rw [← hcrtc]
    refine (yields_giveUp hheld (h₁.keeps.locked.trans hlocked)).mono ?_
    rintro _ g' b₂ ⟨hkeeps, houtputs⟩
    exact ⟨houtputs.trans h₁.outputs, h₁.keeps.trans hkeeps⟩

/-- A surface is created and shown, or it is gone again. -/
theorem yields_initSurface_keeps {o : Output} {crtc : CrtcHandle} (ho : b.output? id = some o)
    (hs : o.surface = none) (hcrtc : o.crtc = some crtc) (hlocked : b.chains.locked = [])
    (connector : ConnectorHandle) (mode : DisplayMode) :
    Yields (initSurface id connector crtc o.savedCrtc mode).run b fun _ g b' =>
      b.stock.KeepsRecent o.savedCrtc g b'.stock := by
  have hid : b.stock.held id = none := by
    show b.holding? id = none
    rw [holding?_of_output? ho, Output.holding?, hs, Option.map_none]
  refine (yields_context (RenderContext.yields_createSurface_chains
    mode.size.1 mode.size.2 b.toRenderContext)).orFail_bindOk ?_ ?_
  · rintro s g₁ b₁ ⟨⟨hstill, hnext, hcreated⟩, houtputs₁⟩
    have hkept : ∀ e ∈ g₁, e.KeepsLedger := fun e he => (hstill e he).keepsLedger
    have hchains₁ : b₁.chains = b.chains.create := hcreated
    have hlocked₁ : b₁.chains.locked = [] := (congrArg SwapChains.locked hchains₁).trans hlocked
    let h : Holding := ⟨s, some crtc, o.savedCrtc⟩
    let x : Stock := b.stock.put id (some h) b.chains.create
    have hheld : x.held id = some h := if_pos rfl
    refine (yields_showOrGiveUp hheld rfl hlocked₁ connector mode).bindOk ?_ ?_
    · rintro fb g₂ b₂ ⟨houtputs₂, hkeeps⟩
      rw [hchains₁] at hkeeps
      refine .lift ((yields_updateOutput id _ b₂).mono ?_)
      rintro _ _ b₃ ⟨rfl, hb₃⟩
      have houtputs₃ : b₃.outputs = b.outputs.modify id.slot (·.lit mode s fb) := by
        rw [hb₃, ← houtputs₁, ← houtputs₂]
        rfl
      have hchains₃ : b₃.chains = b₂.chains := by rw [hb₃]
      have hlit : (o.lit mode s fb).holding? = some h := by
        rw [Output.holding?, Output.lit, Option.map_some, hcrtc]
      rw [stock_modify ho houtputs₃, hlit, hchains₃]
      exact .of_hold hid hnext rfl hkept hkeeps
    · rintro e g₂ b₂ ⟨houtputs₂, hkeeps⟩
      have hstock : b₂.stock = x.put id none b₂.chains := by
        rw [Stock.put_put_none hid]
        exact congrArg (Stock.mk · b₂.chains)
          (funext (holding?_congr (houtputs₂.trans houtputs₁)))
      rw [hchains₁] at hkeeps
      rw [hstock]
      exact .of_hold hid hnext rfl hkept hkeeps
  · rintro e g₁ b₁ ⟨⟨hstill, hsame⟩, houtputs₁⟩
    have hkeeps : b.stock.Keeps g₁ b₁.stock := by
      rw [stock_congr (holding?_congr houtputs₁) hsame]
      exact .of_keepsLedger fun e he => (hstill e he).keepsLedger
    exact ⟨hkeeps.locked, fun l _ => hkeeps.sound l⟩

theorem unmoved_read (c : Call) (h : c.Reads) : Always Unmoved (call c : BackendM W c.Answer) :=
  unmoved_call fun a => (h.isStill a).keepsLedger

theorem unmoved_claimCrtc (id : OutputId) (info : ConnectorInfo) (crtcs : List CrtcHandle) :
    Always Unmoved (claimCrtc id info crtcs : ExceptT ModesetError (BackendM W) _).run := by
  refine always_claimCrtc unmoved_read (fun crtc id b => ?_) (fun b claims => ?_) id info crtcs
  · exact ⟨[.claimed crtc id], rfl, List.forall_mem_singleton.2 fun _ => ⟨rfl, trivial⟩, rfl, rfl⟩
  · exact ⟨by simp, rfl, rfl⟩

/-- The second half of setting a mode, which begins with the claim. The snapshot was read before it,
and no CRTC was changed since. -/
private theorem yields_claimAndShow_keeps {o : Output} {b₁ : Backend W} {g₁ : List JournalEntry}
    {saved : Option CrtcInfo} (ho : b.output? id = some o) (hs : o.surface = none)
    (hlocked : b.chains.locked = []) (h₁ : Unmoved b g₁ b₁)
    (hsaved : ∀ s, saved = some s → ∃ c, .call (.kernel (.crtc c)) (.ok s) ∈ g₁)
    (connector : ConnectorHandle) (info : ConnectorInfo) (mode : DisplayMode)
    (crtcs : List CrtcHandle) :
    Yields (ExceptT.run do
      let (encoder, crtc) ← claimCrtc id info crtcs
      ExceptT.lift (updateOutput id (·.configured ⟨info.modes, saved, mode, encoder, crtc⟩))
      initSurface id connector crtc saved mode : BackendM W (Except ModesetError Unit)) b₁
      fun _ g b' => b.stock.Keeps (g ++ g₁) b'.stock := by
  refine (unmoved_claimCrtc id info crtcs b₁).bindOk ?_ ?_
  · rintro ⟨encoder, crtc⟩ g₂ b₂ h₂
    have h : Unmoved b (g₂ ++ g₁) b₂ := Composes.trans h₁ h₂
    let choice : ModesetChoice := ⟨info.modes, saved, mode, encoder, crtc⟩
    refine (yields_updateOutput id (·.configured choice) b₂).lift_bind ?_
    rintro _ _ b₃ ⟨rfl, hb₃⟩
    have houtputs₃ : b₃.outputs = b.outputs.modify id.slot (·.configured choice) := by
      rw [hb₃, ← h.outputs]
    have hchains₃ : b₃.chains = b.chains := by rw [hb₃, ← h.chains]
    have ho₃ : b₃.output? id = some (o.configured choice) := output?_modify_self houtputs₃ ho
    have hstock₃ : b₃.stock = b.stock := by
      refine stock_congr (holding?_modify houtputs₃ fun o' ho' => ?_) hchains₃
      obtain rfl := Option.some.inj (ho.symm.trans ho')
      simp [Output.holding?, Output.configured, hs]
    refine (yields_initSurface_keeps ho₃ hs rfl (hchains₃ ▸ hlocked) connector mode).mono ?_
    intro _ g₃ b₄ h₃
    rw [hstock₃] at h₃
    rw [List.append_nil, List.append_assoc]
    refine h₃.after_read h.keeps fun s hs => ?_
    obtain ⟨c, hc⟩ := hsaved s hs
    exact ⟨c, List.mem_append_right _ hc⟩
  · intro e g₂ b₂ h₂
    have h : Unmoved b (g₂ ++ g₁) b₂ := Composes.trans h₁ h₂
    rw [stock_congr (holding?_congr h.outputs) h.chains]
    exact .of_keepsLedger h.keeps

theorem yields_tryModeset_keeps {o : Output} (ho : b.output? id = some o) (hs : o.surface = none)
    (hlocked : b.chains.locked = []) (connector : ConnectorHandle) (request : ModeRequest) :
    Yields (tryModeset id connector request).run b fun _ g b' => b.stock.Keeps g b'.stock := by
  have hstop {g : List JournalEntry} {b₁ : Backend W} (h : Unmoved b g b₁) :
      b.stock.Keeps g b₁.stock := by
    rw [stock_congr (holding?_congr h.outputs) h.chains]
    exact .of_keepsLedger h.keeps
  have hconnector : Always Unmoved (orFail ModesetError.kernel (kernel (.connector connector)) :
      ExceptT ModesetError (BackendM W) _).run :=
    .orFail (unmoved_call fun _ _ => ⟨rfl, trivial⟩)
  refine (hconnector b).bindOk ?_ fun _ _ _ => hstop
  intro info g₁ b₁ h₁
  cases hlink : info.isConnected with
  | false => exact .throw (hstop h₁)
  | true =>
    cases hmodes : info.modes.isEmpty with
    | true => exact .throw (hstop h₁)
    | false =>
      refine ((always_activeCrtc unmoved_read info b₁).and (yields_activeCrtc info b₁)).bindOk ?_ (by simp)
      rintro saved g₂ b₂ ⟨h₂, -, _, ⟨⟩, hsaved⟩
      have hmode : Always Unmoved (orFail ModesetError.mode
          (pure (resolveMode info.modes (saved.bind (·.mode)) request)) :
          ExceptT ModesetError (BackendM W) _).run := .orFail (.pure _)
      have hresources : Always Unmoved (orFail ModesetError.kernel (kernel .resources) :
          ExceptT ModesetError (BackendM W) _).run :=
        .orFail (unmoved_call fun _ _ => ⟨rfl, trivial⟩)
      have hread : Unmoved b (g₂ ++ g₁) b₂ := Composes.trans h₁ h₂
      refine (hmode b₂).bindOk ?_ fun _ g₃ b₃ h₃ => ?_
      · intro mode g₃ b₃ h₃
        have hread : Unmoved b (g₃ ++ (g₂ ++ g₁)) b₃ := Composes.trans hread h₃
        refine (hresources b₃).bindOk ?_ fun _ g₄ b₄ h₄ => ?_
        · intro resources g₄ b₄ h₄
          refine (yields_claimAndShow_keeps ho hs hlocked (Composes.trans hread h₄)
            (fun s hs => ?_) connector info mode resources.crtcs).mono fun _ g b' h => ?_
          · obtain ⟨c, hc⟩ := hsaved s hs
            exact ⟨c, by simp [hc]⟩
          · simpa only [List.append_assoc] using h
        · simpa only [List.append_assoc] using hstop (Composes.trans hread h₄)
      · simpa only [List.append_assoc] using hstop (Composes.trans hread h₃)

theorem yields_failModeset_keeps {o : Output} (ho : b.output? id = some o) (hs : o.surface = none) :
    Yields (failModeset id) b fun _ g b' => b.stock.Keeps g b'.stock := by
  refine ⟨[.event (.removed id), .released id], rfl, ?_⟩
  have hstock : (failModeset id b).2.stock = b.stock := by
    refine stock_congr (holding?_modify rfl fun o' ho' => ?_) rfl
    obtain rfl := Option.some.inj (ho.symm.trans ho')
    simp [Output.holding?, Output.resetModeset, hs]
  show b.stock.Keeps _ (failModeset id b).2.stock
  rw [hstock]
  exact .of_keepsLedger (List.forall_mem_cons.2
    ⟨fun _ => ⟨rfl, trivial⟩, List.forall_mem_singleton.2 fun _ => ⟨rfl, trivial⟩⟩)

private theorem yields_setOrRevert_keeps {o : Output} (ho : b.output? id = some o)
    (hs : o.surface = none) (hlocked : b.chains.locked = []) (connector : ConnectorHandle)
    (request : ModeRequest) :
    Yields (orRelease (failModeset id)
      (orFail BackendError.modeset (tryModeset id connector request).run)).run b
      fun _ g b' => b.stock.Keeps g b'.stock := by
  refine Yields.orRelease (Yields.orFail ((yields_tryModeset_keeps ho hs hlocked connector request).and
    (yields_tryModeset id connector request b))) ?_ ?_
  · rintro _ g b' ⟨_, -, h, -⟩
    exact h
  · rintro e g b₁ ⟨_ | _, hr, h, htried⟩
    · obtain ⟨o₁, ho₁, hrecord⟩ := htried.error_record ho
      have hs₁ : o₁.surface = none := by
        rcases hrecord with rfl | ⟨k, rfl⟩
        · exact hs
        · exact hs
      exact (yields_failModeset_keeps ho₁ hs₁).mono fun _ _ _ h' => h.trans h'
    · cases hr

theorem tidy_commitMode (id : OutputId) (request : ModeRequest) :
    Tidy (commitMode id request : ExceptT BackendError (BackendM W) Unit).run := by
  intro b hlocked
  cases ho : b.output? id with
  | none => exact .of_idle (run_commitMode_of_unknown ho request) (.of_keepsLedger (by simp))
  | some o =>
    have hgiveUp : Always Calm (do
        updateOutput id fun o => { o with state := .disconnected }
        emit (.removed id) : BackendM W Unit) :=
      .bind (always_updateOutput id fun _ => rfl) fun _ => RecordKeeping.told _
    refine yields_commitMode_of_parts ho ((tidy_teardownOutput id b hlocked).and
      (yields_teardownOutput (a := .teardownOutput id) rfl b)) ?_ ?_
    · rintro e g b₁ ⟨h, -⟩
      exact (hgiveUp b₁).mono fun _ _ _ h' => h.trans h'.keeps_stock
    · rintro g b₁ ⟨h, htorn⟩
      obtain ⟨-, o', -, ho', -, hs'⟩ := htorn.surface_none
      exact (yields_setOrRevert_keeps ho' hs' (h.locked.trans hlocked) o.connector request).mono
        fun _ _ _ h' => h.trans h'

theorem tidy_perform {a : BackendAction} (ha : a.Readable) : Tidy (W := W) (perform a).run := by
  cases a with
  | scan => exact .of_calm always_scan
  | selectMode id request =>
    cases hparse : ModeRequest.parse request with
    | error e => simp [BackendAction.Readable, hparse, Except.isOk, Except.toBool] at ha
    | ok parsed =>
      intro b hlocked
      exact yields_selectReadable hparse (tidy_commitMode id parsed b hlocked)
  | commitMode id request => exact tidy_commitMode id request
  | beginFrame id => exact .of_calm (calm_beginFrame id)
  | endFrame id => exact tidy_endFrame id
  | teardownOutput id => exact tidy_teardownOutput id
  | dispatch => exact .of_calm always_dispatchCompletions
  | clear width height colour =>
    exact .lift (.of_calm (calm_inContext (RenderContext.idle_clear width height colour)))
  | setDrainTimeout timeout => exact fun b _ => ⟨[], rfl, .of_keepsLedger (by simp)⟩
  | teardownRenderer => exact .lift (.of_calm (calm_inContext RenderContext.idle_teardown))
  | pushEvent e => exact fun b _ => ⟨[], rfl, .of_keepsLedger (by simp)⟩

theorem tidy_releaseAllOutputs : Tidy (releaseAllOutputs : BackendM W Unit) := by
  have hforce (id : OutputId) : Tidy (forceTeardown id : BackendM W Unit) := by
    refine .bind (tidy_teardownOutput id) fun r => ?_
    cases r with
    | ok _ => exact .pure ()
    | error _ => exact tidy_releaseOutput id
  intro b hlocked
  refine Yields.get_bind ?_
  exact tidy_iff_leads.2 (.forM (fun slot => tidy_iff_leads.1 (hforce ⟨slot⟩)) _) b hlocked

/-- Whether a backend is shut down in the end or not, its stock is kept. -/
theorem keeps_run {actions : List BackendAction} (hread : ∀ a ∈ actions, a.Readable)
    (b : Backend W) (hlocked : b.chains.locked = []) :
    ∃ g, (b.run actions).journal = g ++ b.journal ∧ b.stock.Keeps g (b.run actions).stock := by
  obtain ⟨g, hg, hkeeps, -⟩ :=
    run_leads (fun a ha => tidy_iff_leads.1 (tidy_perform (hread a ha))) hlocked
  exact ⟨g, hg, hkeeps⟩

theorem keeps_shutDown (b : Backend W) (hlocked : b.chains.locked = []) :
    ∃ g, b.shutDown.journal = g ++ b.journal ∧ b.stock.Keeps g b.shutDown.stock := by
  have hall : Tidy (do
      releaseAllOutputs
      BackendM.inContext RenderContext.teardown : BackendM W Unit) :=
    .bind tidy_releaseAllOutputs fun _ => .of_calm (calm_inContext RenderContext.idle_teardown)
  exact hall b hlocked

/-- From the beginning to the end of a backend, no framebuffer is removed that a CRTC shows, whether
the backend is shut down or not. The kernel need only tell the truth about its CRTCs, give no id that
is or was in use to a new framebuffer, and let a CRTC be switched off. -/
theorem no_framebuffer_removed_while_shown (context : RenderContext W)
    (hchains : context.chains = .empty) (l : Ledger)
    (hl : ∀ c fb, (l.table.info c).framebuffer = some fb → fb ∈ l.ids)
    (actions : List BackendAction) (hread : ∀ a ∈ actions, a.Readable) (shut : Bool) :
    let b := (Backend.new context).run actions
    ∃ gained, (if shut then b.shutDown else b).journal = gained ++ context.journal ∧
      (l.AllHonest gained → l.AllSpared gained) := by
  intro b
  have hstock : (Backend.new context).stock = ⟨fun _ => none, .empty⟩ := by
    rw [stock, ← hchains]
    rfl
  have hsound : (Backend.new context).stock.Sound l := hstock ▸ .empty hl
  have hlocked : (Backend.new context).chains.locked = [] := congrArg SwapChains.locked hchains
  obtain ⟨g, hg, hkeeps⟩ := keeps_run hread (Backend.new context) hlocked
  have hrun : b.journal = g ++ context.journal := hg
  cases shut with
  | false => exact ⟨g, hrun, fun hhonest => (hkeeps.sound l hsound hhonest).1⟩
  | true =>
    obtain ⟨g', hg', hkeeps'⟩ := keeps_shutDown b (hkeeps.locked.trans hlocked)
    refine ⟨g' ++ g, ?_, fun hhonest => ((hkeeps.trans hkeeps').sound l hsound hhonest).1⟩
    rw [if_pos rfl, hg', hrun, List.append_assoc]

/-- A monitor is lit and the backend is shut down, which removes the one framebuffer there is. -/
theorem no_framebuffer_removed_on_shutDown :
    let b := (Backend.new oneMonitor).run [.scan, .commitMode ⟨0⟩ .preferred]
    ∃ gained, b.shutDown.journal = gained ++ oneMonitor.journal ∧
      (Ledger.mk .dark []).AllHonest gained ∧ (Ledger.mk .dark []).AllSpared gained ∧
      (gained.filterMap JournalEntry.removedId?).length = 1 := by
  have hhonest : decide ((Ledger.mk .dark []).AllHonest ((Backend.new oneMonitor).run
      [.scan, .commitMode ⟨0⟩ .preferred]).shutDown.journal) = true := by decide +kernel
  have hremoved : ((((Backend.new oneMonitor).run
      [.scan, .commitMode ⟨0⟩ .preferred]).shutDown.journal).filterMap
        JournalEntry.removedId?).length = 1 := by decide +kernel
  have h := no_framebuffer_removed_while_shown oneMonitor rfl ⟨.dark, []⟩ (fun _ _ => nofun)
    [.scan, .commitMode ⟨0⟩ .preferred] (by decide) true
  generalize (Backend.new oneMonitor).run [.scan, .commitMode ⟨0⟩ .preferred] = b at *
  obtain ⟨gained, hgained, hspared⟩ := h
  have hjournal : b.shutDown.journal = gained := hgained.trans (List.append_nil gained)
  rw [hjournal, decide_eq_true_iff] at hhonest
  rw [hjournal] at hremoved
  exact ⟨gained, hgained, hhonest, hspared hhonest, hremoved⟩

end Backend
end Scanout
