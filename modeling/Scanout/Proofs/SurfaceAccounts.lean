import Scanout.Proofs.ContextResources

/-!
# Surfaces that change hands

Between actions the surfaces that there are belong to the records, one each, and only their buffers
are registered with the kernel. Within an action a surface may be loose: one that was created and
is not shown yet, or one that is about to be destroyed. Whatever fails, an action leaves none loose,
and its entries account for what there is more or less of afterwards.
-/

namespace Scanout

/-- The surface that the record holds. -/
def Output.surfaceId? (o : Output) : Option SurfaceId := o.surface.map (·.surface)

theorem Output.surfaceId?_of_holding? {o o' : Output} (h : o'.holding? = o.holding?) :
    o'.surfaceId? = o.surfaceId? := by
  have hmap (o : Output) : o.holding?.map (·.surface) = o.surfaceId? := by
    simp [holding?, surfaceId?, Function.comp_def]
  rw [← hmap, h, hmap]

namespace Backend

variable {W : World} {α ε : Type} {b b₁ b' : Backend W} {g g' : List JournalEntry} {id : OutputId}
  {o : Output} {loose loose' : List SurfaceId} {surface : SurfaceId}

/-- The surfaces that the records hold. -/
def heldSurfaces (b : Backend W) : List SurfaceId := b.outputs.filterMap (·.surfaceId?)

/-- The output is there and has no surface. -/
def Vacant (id : OutputId) (b : Backend W) : Prop := ∃ o, b.output? id = some o ∧ o.surface = none

/-- The context is there, and its surfaces are the loose ones and those that the records hold. -/
structure Accounted (loose : List SurfaceId) (b : Backend W) : Prop where
  ready : b.handles.isSome
  inOrder : b.chains.InOrder
  held : (loose ++ b.heldSurfaces).Perm b.chains.alive

/-- Replacing a record replaces the surface that it holds. -/
theorem heldSurfaces_modify {f : Output → Output} (ho : b.output? id = some o)
    (hb : b'.outputs = b.outputs.modify id.slot f) :
    ∃ rest, b.heldSurfaces.Perm (o.surfaceId?.toList ++ rest) ∧
      b'.heldSurfaces.Perm ((f o).surfaceId?.toList ++ rest) := by
  obtain ⟨hslot, rfl⟩ := List.getElem?_eq_some_iff.1 ho
  have hsplit : b.outputs = b.outputs.take id.slot ++
      b.outputs[id.slot] :: b.outputs.drop (id.slot + 1) := by
    rw [← List.drop_eq_getElem_cons hslot, List.take_append_drop]
  have hperm (o : Output) (before after : List Output) :
      ((before ++ o :: after).filterMap (·.surfaceId?)).Perm
        (o.surfaceId?.toList ++ (before ++ after).filterMap (·.surfaceId?)) := by
    refine (List.perm_middle.filterMap _).trans ?_
    rw [List.filterMap_cons]
    cases o.surfaceId? <;> exact .refl _
  refine ⟨(b.outputs.take id.slot ++ b.outputs.drop (id.slot + 1)).filterMap (·.surfaceId?), ?_, ?_⟩
  · exact (List.Perm.of_eq (congrArg (List.filterMap (·.surfaceId?)) hsplit)).trans (hperm _ _ _)
  · rw [heldSurfaces, hb, List.modify_eq_take_cons_drop hslot]
    exact hperm _ _ _

/-- A surface that a record takes over is no longer loose, and one that it gives up is. -/
theorem Accounted.put {f : Output → Output} (h : b.Accounted loose) (ho : b.output? id = some o)
    (hloose : (loose ++ o.surfaceId?.toList).Perm (loose' ++ (f o).surfaceId?.toList)) :
    Accounted loose' { b with outputs := b.outputs.modify id.slot f } where
  ready := h.ready
  inOrder := h.inOrder
  held := by
    obtain ⟨rest, hrest, hrest'⟩ :=
      heldSurfaces_modify ho (show ({ b with outputs := b.outputs.modify id.slot f } :
        Backend W).outputs = b.outputs.modify id.slot f from rfl)
    refine ((hrest'.append_left loose').trans ?_).trans h.held
    refine .trans ?_ (hrest.append_left loose).symm
    rw [← List.append_assoc, ← List.append_assoc]
    exact hloose.symm.append_right rest

theorem mem_heldSurfaces {s : OutputSurface} (ho : b.output? id = some o)
    (hs : o.surface = some s) :
    s.surface ∈ b.heldSurfaces :=
  List.mem_filterMap.2 ⟨o, List.mem_of_getElem? ho, by rw [Output.surfaceId?, hs, Option.map_some]⟩

/-- The entries account for what there is, and no surface comes, goes or changes hands. -/
structure Tends (b : Backend W) (gained : List JournalEntry) (b' : Backend W) : Prop where
  upkeep : b.toRenderContext.Upkeep gained b'.toRenderContext
  held : b'.heldSurfaces.Perm b.heldSurfaces
  vacant : ∀ id, b.Vacant id → b'.Vacant id

/-- The entries account for what there is. -/
def Settled (b : Backend W) (gained : List JournalEntry) (b' : Backend W) : Prop :=
  b.toRenderContext.Settles gained b'.toRenderContext

instance : Composes (Tends (W := W)) where
  refl b := ⟨Composes.refl b.toRenderContext, .refl _, fun _ h => h⟩
  trans h h' := ⟨Composes.trans h.upkeep h'.upkeep, h'.held.trans h.held,
    fun id hid => h'.vacant id (h.vacant id hid)⟩

instance : Composes (Settled (W := W)) where
  refl b := (Composes.refl (R := RenderContext.Upkeep) b.toRenderContext).toSettles
  trans h h' := RenderContext.Settles.trans h h'

namespace Tends

theorem settled (h : Tends b g b') : Settled b g b' := h.upkeep.toSettles

theorem accounted (h : Tends b g b') (hb : b.Accounted loose) : b'.Accounted loose where
  ready := h.upkeep.handles ▸ hb.ready
  inOrder := h.upkeep.inOrder hb.inOrder
  held := by
    rw [h.upkeep.alive]
    exact (h.held.append_left loose).trans hb.held

theorem mem_alive (h : Tends b g b') (hs : surface ∈ b.chains.alive) : surface ∈ b'.chains.alive :=
  h.upkeep.alive ▸ hs

theorem of_modify {f : Output → Output}
    (hf : ∀ o, b.output? id = some o → (f o).surfaceId? = o.surfaceId?) :
    Tends b [] { b with outputs := b.outputs.modify id.slot f } where
  upkeep := Composes.refl b.toRenderContext
  held := by
    cases ho : b.output? id with
    | none =>
      rw [heldSurfaces, List.modify_eq_self (List.getElem?_eq_none_iff.1 ho)]
      exact .refl _
    | some o =>
      obtain ⟨rest, hrest, hrest'⟩ :=
        heldSurfaces_modify ho (show ({ b with outputs := b.outputs.modify id.slot f } :
          Backend W).outputs = b.outputs.modify id.slot f from rfl)
      rw [hf o ho] at hrest'
      exact hrest'.trans hrest.symm
  vacant j := by
    rintro ⟨o, ho, hs⟩
    rw [Vacant, output?_modify (b := b) rfl]
    by_cases hj : id = j
    · subst hj
      refine ⟨f o, by rw [if_pos rfl, ho, Option.map_some], ?_⟩
      have hnone := hf o ho
      rwa [Output.surfaceId?, Output.surfaceId?, hs, Option.map_none, Option.map_eq_none_iff]
        at hnone
    · exact ⟨o, by rw [if_neg hj, ho], hs⟩

end Tends

theorem Tends.of_upkeep (h : b.toRenderContext.Upkeep g b'.toRenderContext)
    (houtputs : b'.outputs = b.outputs) : Tends b g b' where
  upkeep := h
  held := by rw [heldSurfaces, houtputs, ← heldSurfaces]
  vacant id := by
    rintro ⟨o, ho, hs⟩
    exact ⟨o, by rwa [output?, houtputs], hs⟩

theorem Tends.of_neutral (h : ∀ e ∈ g, e.IsNeutral) (hhandles : b'.handles = b.handles)
    (hchains : b'.chains = b.chains) (houtputs : b'.outputs = b.outputs) : Tends b g b' :=
  .of_upkeep ⟨.of_neutral h hhandles hchains, congrArg SwapChains.alive hchains⟩ houtputs

theorem tends_inContext {act : RenderM W α} (h : Always RenderContext.Upkeep act) :
    Always Tends (BackendM.inContext act) := fun _ =>
  (yields_context (h _)).mono fun _ _ _ ⟨hupkeep, houtputs⟩ => .of_upkeep hupkeep houtputs

theorem tends_call {c : Call} (h : ∀ a, (JournalEntry.call c a).IsNeutral) :
    Always Tends (call c : BackendM W c.Answer) := tends_inContext (RenderContext.upkeep_call h)

theorem tends_render {cause : RenderError → ε} {act : ExceptT RenderError (RenderM W) α}
    (h : Always RenderContext.Upkeep act.run) : Always Tends (render cause act).run :=
  .orFail (tends_inContext h)

instance : RecordKeeping (Tends (W := W)) where
  read _ h := tends_call h.isNeutral
  told e _ := ⟨[.event e], rfl,
    Tends.of_neutral (List.forall_mem_singleton.2 ⟨rfl, rfl, rfl⟩) rfl rfl rfl⟩
  kept _ _ _ hf := .of_modify fun o ho => Output.surfaceId?_of_holding? (hf o ho)
  slotted b connector :=
    { upkeep := Composes.refl b.toRenderContext
      held := by
        rw [heldSurfaces, List.filterMap_append]
        simp [heldSurfaces, Output.new, Output.surfaceId?]
      vacant := fun id ⟨o, ho, hs⟩ => ⟨o, output?_append_of_some rfl ho, hs⟩ }

theorem tends_updateOutput (id : OutputId) {f : Output → Output}
    (hf : ∀ o, (f o).surfaceId? = o.surfaceId?) :
    Always Tends (updateOutput id f : BackendM W Unit) := fun _ =>
  ⟨[], rfl, .of_modify fun o _ => hf o⟩

theorem tends_releaseClaims (id : OutputId) : Always Tends (releaseClaims id : BackendM W Unit) :=
  fun _ => ⟨[.released id], rfl,
    .of_neutral (List.forall_mem_singleton.2 ⟨rfl, rfl, rfl⟩) rfl rfl rfl⟩

theorem tends_failModeset (id : OutputId) : Always Tends (failModeset id : BackendM W Unit) :=
  .bind (tends_releaseClaims id) fun _ => .bind (tends_updateOutput id fun _ => rfl) fun _ =>
    RecordKeeping.told _

theorem tends_restoreCrtc (connector : ConnectorHandle) (claimed : Option CrtcHandle)
    (saved : Option CrtcInfo) :
    Always Tends (restoreCrtc connector claimed saved : BackendM W Unit) :=
  always_restoreCrtc (fun _ => tends_call fun _ => ⟨rfl, rfl, rfl⟩) connector claimed saved

theorem tends_claimCrtc (id : OutputId) (info : ConnectorInfo) (crtcs : List CrtcHandle) :
    Always Tends (claimCrtc id info crtcs : ExceptT ModesetError (BackendM W) _).run := by
  refine always_claimCrtc RecordKeeping.read (fun crtc id b => ?_) (fun b claims => ?_) id info crtcs
  · exact ⟨[.claimed crtc id], rfl,
      .of_neutral (List.forall_mem_singleton.2 ⟨rfl, rfl, rfl⟩) rfl rfl rfl⟩
  · exact .of_neutral (by simp) rfl rfl rfl

theorem tends_beginFrame (id : OutputId) :
    Always Tends (beginFrame id : ExceptT BackendError (BackendM W) Unit).run := by
  refine .bindOk (always_requireOutput id) fun o => ?_
  cases o.surface with
  | none => exact .throw _
  | some s => exact tends_render (RenderContext.upkeep_makeCurrent s.surface)

/-- While the surface is there, the act accounts for what there is and leaves the surfaces alone. -/
def Serves (surface : SurfaceId) (act : BackendM W α) : Prop :=
  Leads (fun b => surface ∈ b.chains.alive) Tends (fun b => surface ∈ b.chains.alive) act

namespace Serves

theorem of_tends {act : BackendM W α} (h : Always Tends act) : Serves surface act :=
  .of_always h fun hs h => ⟨h, h.mem_alive hs⟩

theorem scanoutId {cause : RenderError → ε} {buffer : BufferSlot}
    (hbuffer : buffer.surface = surface) :
    Serves surface (render (W := W) cause (RenderContext.scanoutId buffer)).run := by
  refine .orFail fun b hs => (yields_context
    (RenderContext.yields_scanoutId_upkeep (hbuffer ▸ hs))).mono ?_
  rintro _ g b' ⟨hupkeep, houtputs⟩
  have h : Tends b g b' := .of_upkeep hupkeep houtputs
  exact ⟨h, h.mem_alive hs⟩

theorem withFrontBuffer {cause : RenderError → ε} {act : BufferSlot → ExceptT ε (BackendM W) α}
    (hact : ∀ buffer : BufferSlot, buffer.surface = surface → Serves surface (act buffer).run) :
    Serves surface (withFrontBuffer cause surface act).run := by
  intro b hs
  refine (yields_context ((RenderContext.upkeep_lockFrontBuffer surface _).and
    (RenderContext.yields_lockFrontBuffer_chains surface b.toRenderContext))).orFail_bindOk ?_ ?_
  · rintro buffer g₁ b₁ ⟨⟨hupkeep, -, hsurface, -⟩, houtputs⟩
    have h₁ : Tends b g₁ b₁ := .of_upkeep hupkeep houtputs
    refine Yields.bind (hact buffer hsurface b₁ (h₁.mem_alive hs)) ?_
    rintro r g₂ b₂ ⟨h₂, hs₂⟩
    refine (tends_inContext (RenderContext.upkeep_releaseBuffer buffer) b₂).bind ?_
    intro _ g₃ b₃ h₃
    refine .pure ⟨?_, h₃.mem_alive hs₂⟩
    rw [List.nil_append]
    exact Composes.trans h₁ (Composes.trans h₂ h₃)
  · rintro e g b₁ ⟨⟨hupkeep, -⟩, houtputs⟩
    have h : Tends b g b₁ := .of_upkeep hupkeep houtputs
    exact ⟨h, h.mem_alive hs⟩

theorem presentFirstFrame (surface : SurfaceId) (connector : ConnectorHandle) (crtc : CrtcHandle)
    (mode : DisplayMode) :
    Serves surface (presentFirstFrame (W := W) surface connector crtc mode).run := by
  refine .bindOk (of_tends (tends_render (RenderContext.upkeep_makeCurrent surface)))
    (fun _ => ?_) fun _ h => h
  refine .bindOk (.lift (of_tends (tends_inContext (RenderContext.upkeep_clear _ _ _))))
    (fun _ => ?_) fun _ h => h
  refine .bindOk (of_tends (tends_render (RenderContext.upkeep_swapBuffers surface)))
    (fun _ => ?_) fun _ h => h
  refine withFrontBuffer fun buffer hbuffer => ?_
  refine .bindOk (scanoutId hbuffer) (fun fb => ?_) fun _ h => h
  refine .bindOk (.orFail (of_tends (tends_call fun _ => ⟨rfl, rfl, rfl⟩))) (fun _ => ?_)
    fun _ h => h
  exact .bindOk (.orFail (of_tends (tends_call fun _ => ⟨rfl, rfl, rfl⟩))) (fun _ => .pureOk fb)
    fun _ h => h

end Serves

/-- The act accounts for what there is, and leaves no surface loose. -/
def Accounting (act : BackendM W α) : Prop := Leads (Accounted []) Settled (Accounted []) act

theorem leads_of_tends {act : BackendM W α} (h : Always Tends act) :
    Leads (Accounted loose) Settled (Accounted loose) act :=
  .of_always h fun hb h => ⟨h.settled, h.accounted hb⟩

theorem leads_destroySurface (surface : SurfaceId) :
    Leads (Accounted [surface]) Settled (Accounted [])
      (BackendM.inContext (RenderContext.destroySurface surface) : BackendM W Unit) := by
  intro b hb
  obtain ⟨h, hh⟩ := Option.isSome_iff_exists.1 hb.ready
  have hsurface : surface ∈ b.chains.alive := hb.held.mem_iff.1 (by simp)
  refine (yields_context
    (RenderContext.yields_destroySurface_settles hh hb.inOrder hsurface)).mono ?_
  rintro _ g b' ⟨⟨hsettles, hchains⟩, houtputs⟩
  refine ⟨hsettles, hsettles.handles ▸ hb.ready, hsettles.inOrder hb.inOrder, ?_⟩
  have hperm := hb.held.trans (SwapChains.perm_alive_destroy hb.inOrder hsurface).symm
  rw [show b'.chains = (b.chains.destroy surface).2 from hchains, heldSurfaces, houtputs]
  exact hperm.cons_inv

/-- Giving the CRTC back and destroying the surface leaves nothing loose. -/
theorem leads_giveUp (surface : SurfaceId) (connector : ConnectorHandle)
    (claimed : Option CrtcHandle) (saved : Option CrtcInfo) :
    Leads (Accounted [surface]) Settled (Accounted []) (do
      restoreCrtc connector claimed saved
      BackendM.inContext (RenderContext.destroySurface surface) : BackendM W Unit) :=
  .bind (leads_of_tends (tends_restoreCrtc connector claimed saved)) fun _ =>
    leads_destroySurface surface

/-- The record lets go of the surface before it is destroyed, so that it is loose in between. -/
theorem accounting_releaseOutput (id : OutputId) :
    Accounting (releaseOutput id : BackendM W Unit) := by
  intro b hb
  refine Yields.get_bind ?_
  cases ho : b.output? id with
  | none => exact Leads.pure () b hb
  | some o =>
    dsimp only
    cases hs : o.surface with
    | none => exact Leads.pure () b hb
    | some s =>
      have hloose : Accounted [s.surface]
          { b with outputs := b.outputs.modify id.slot fun o => { o with surface := none } } := by
        refine hb.put ho ?_
        simp [Output.surfaceId?, hs]
      refine (yields_updateOutput id _ b).bind ?_
      rintro _ _ _ ⟨rfl, rfl⟩
      refine Yields.assoc ((leads_giveUp s.surface o.connector o.crtc o.savedCrtc _ hloose).bind ?_)
      rintro _ g b₂ ⟨h₂, hb₂⟩
      have hrest : Always Tends (do
          releaseClaims id
          updateOutput id fun o => { o.resetModeset with
            state := if o.state = .connected then .disconnected else o.state } : BackendM W Unit) :=
        .bind (tends_releaseClaims id) fun _ => tends_updateOutput id fun _ => rfl
      refine (hrest b₂).mono fun _ _ b₃ h₃ => ⟨?_, h₃.accounted hb₂⟩
      rw [List.append_nil]
      exact Composes.trans h₂ h₃.settled

theorem accounting_teardownOutput (id : OutputId) :
    Accounting (teardownOutput id : ExceptT BackendError (BackendM W) Unit).run := by
  refine .bindOk (leads_of_tends (always_requireOutput id)) (fun o => ?_) fun _ h => h
  cases o.surface.isNone with
  | true => exact .pureOk _
  | false =>
    refine .bindOk (.lift (leads_of_tends (tends_updateOutput id fun _ => rfl))) (fun _ => ?_)
      fun _ h => h
    refine fun b hb => Yields.getOk_bind ?_
    refine Leads.bindOk (leads_of_tends (always_readOk (c := .clock) trivial)) (fun start => ?_)
      (fun _ h => h) b hb
    exact .bindOk (leads_of_tends (always_drainFlip id _ _))
      (fun _ => .lift (accounting_releaseOutput id)) fun _ h => h

theorem accounting_releaseAllOutputs : Accounting (releaseAllOutputs : BackendM W Unit) := by
  have hforce (id : OutputId) : Accounting (forceTeardown id : BackendM W Unit) := by
    refine .bind (accounting_teardownOutput id) fun r => ?_
    cases r with
    | ok _ => exact .pure ()
    | error _ => exact accounting_releaseOutput id
  intro b hb
  refine Yields.get_bind ?_
  exact Leads.forM (fun slot => hforce ⟨slot⟩) _ b hb

/-- A first frame that is not shown costs the surface that was created for it. -/
private theorem yields_showOrDestroy (hb : b.Accounted [surface]) (connector : ConnectorHandle)
    (crtc : CrtcHandle) (saved : Option CrtcInfo) (mode : DisplayMode) :
    Yields (orRelease (do
      restoreCrtc connector (some crtc) saved
      BackendM.inContext (RenderContext.destroySurface surface))
      (presentFirstFrame surface connector crtc mode)).run b fun r g b' =>
      match r with
      | .ok _ => Tends b g b'
      | .error _ => Settled b g b' ∧ b'.Accounted [] := by
  have hsurface : surface ∈ b.chains.alive := hb.held.mem_iff.1 (by simp)
  refine (Serves.presentFirstFrame surface connector crtc mode b hsurface).orRelease ?_ ?_
  · rintro _ g b₁ ⟨h₁, -⟩
    exact h₁
  · rintro e g b₁ ⟨h₁, -⟩
    refine (leads_giveUp surface connector (some crtc) saved b₁ (h₁.accounted hb)).mono ?_
    rintro _ g' b₂ ⟨h₂, hb₂⟩
    exact ⟨Composes.trans h₁.settled h₂, hb₂⟩

/-- The surface that is created for an output is handed to its record, or destroyed again. -/
theorem leads_initSurface (id : OutputId) (connector : ConnectorHandle) (crtc : CrtcHandle)
    (saved : Option CrtcInfo) (mode : DisplayMode) :
    Leads (fun b => b.Vacant id ∧ b.Accounted []) Settled (Accounted [])
      (initSurface (W := W) id connector crtc saved mode).run := by
  rintro b ⟨⟨o, ho, hs⟩, hb⟩
  refine (yields_context (RenderContext.yields_createSurface_settles
    mode.size.1 mode.size.2 b.toRenderContext)).orFail_bindOk ?_ ?_
  · rintro s g₁ b₁ ⟨⟨h₁, hnext, hcreate⟩, houtputs₁⟩
    have hb₁ : b₁.Accounted [s] :=
      { ready := h₁.handles ▸ hb.ready
        inOrder := h₁.inOrder hb.inOrder
        held := by
          rw [show b₁.chains = b.chains.create from hcreate, heldSurfaces, houtputs₁, hnext]
          exact (hb.held.cons _).trans (List.perm_append_singleton _ _).symm }
    refine (yields_showOrDestroy hb₁ connector crtc saved mode).bindOk ?_ ?_
    · intro fb g₂ b₂ h₂
      have ho₂ : b₁.output? id = some o := by rwa [output?, houtputs₁]
      obtain ⟨o₂, ho₂, hs₂⟩ := h₂.vacant id ⟨o, ho₂, hs⟩
      refine .lift ((yields_updateOutput id _ b₂).mono ?_)
      rintro _ _ _ ⟨rfl, rfl⟩
      refine ⟨Composes.trans h₁ h₂.settled, (h₂.accounted hb₁).put ho₂ ?_⟩
      simp [Output.surfaceId?, hs₂]
    · rintro e g₂ b₂ ⟨h₂, hb₂⟩
      exact ⟨Composes.trans h₁ h₂, hb₂⟩
  · rintro e g b₁ ⟨⟨h₁, hchains⟩, houtputs⟩
    have h : Tends b g b₁ := .of_upkeep ⟨h₁, congrArg SwapChains.alive hchains⟩ houtputs
    exact ⟨h₁, h.accounted hb⟩

theorem leads_tryModeset (id : OutputId) (connector : ConnectorHandle) (request : ModeRequest) :
    Leads (fun b => b.Vacant id ∧ b.Accounted []) Settled (Accounted [])
      (tryModeset (W := W) id connector request).run := by
  have hlead {β : Type} {act : BackendM W β} (h : Always Tends act) :
      Leads (fun b => b.Vacant id ∧ b.Accounted []) Settled
        (fun b => b.Vacant id ∧ b.Accounted []) act :=
    .of_always h fun hb h => ⟨h.settled, h.vacant id hb.1, h.accounted hb.2⟩
  have hstop (b : Backend W) (hb : b.Vacant id ∧ b.Accounted []) : b.Accounted [] := hb.2
  refine .bindOk (hlead (.orFail (RecordKeeping.read _ trivial))) (fun info => ?_) hstop
  cases hlink : info.isConnected with
  | false => exact .throw _ hstop
  | true =>
    cases hmodes : info.modes.isEmpty with
    | true => exact .throw _ hstop
    | false =>
      refine .bindOk (hlead (always_activeCrtc RecordKeeping.read info)) (fun saved => ?_) hstop
      refine .bindOk (hlead (.orFail (.pure _))) (fun mode => ?_) hstop
      refine .bindOk (hlead (.orFail (RecordKeeping.read _ trivial))) (fun resources => ?_) hstop
      refine .bindOk (hlead (tends_claimCrtc id info _)) (fun ⟨encoder, crtc⟩ => ?_) hstop
      refine .bindOk (.lift (hlead (tends_updateOutput id fun _ => rfl))) (fun _ => ?_) hstop
      exact leads_initSurface id connector crtc saved mode

theorem accounting_commitMode (id : OutputId) (request : ModeRequest) :
    Accounting (commitMode id request : ExceptT BackendError (BackendM W) Unit).run := by
  have hset (connector : ConnectorHandle) :
      Leads (fun b => b.Vacant id ∧ b.Accounted []) Settled (Accounted [])
        (orRelease (failModeset id)
          (orFail BackendError.modeset (tryModeset (W := W) id connector request).run)).run :=
    .orRelease (leads_of_tends (tends_failModeset id))
      (.orFail (leads_tryModeset id connector request))
  intro b hb
  cases ho : b.output? id with
  | none => exact .of_idle (run_commitMode_of_unknown ho request) ⟨Composes.refl b, hb⟩
  | some o =>
    have hgiveUp : Always Tends (do
        updateOutput id fun o => { o with state := .disconnected }
        emit (.removed id) : BackendM W Unit) :=
      .bind (tends_updateOutput id fun _ => rfl) fun _ => RecordKeeping.told _
    refine yields_commitMode_of_parts ho ((accounting_teardownOutput id b hb).and
      (yields_teardownOutput (a := .teardownOutput id) rfl b)) ?_ ?_
    · rintro e g b₁ ⟨⟨h₁, hb₁⟩, -⟩
      exact (hgiveUp b₁).mono fun _ _ _ h₂ => ⟨Composes.trans h₁ h₂.settled, h₂.accounted hb₁⟩
    · rintro g b₁ ⟨⟨h₁, hb₁⟩, htorn⟩
      obtain ⟨-, o', -, ho', -, hs'⟩ := htorn.surface_none
      refine (hset o.connector b₁ ⟨⟨o', ho', hs'⟩, hb₁⟩).mono ?_
      rintro _ g' b₂ ⟨h₂, hb₂⟩
      exact ⟨Composes.trans h₁ h₂, hb₂⟩

theorem accounting_endFrame (id : OutputId) :
    Accounting (endFrame id : ExceptT BackendError (BackendM W) Unit).run := by
  refine leads_requireOutput_bind (fun _ h => h) fun b o hb ho => ?_
  cases o.crtc with
  | none => exact .throw ⟨Composes.refl b, hb⟩
  | some crtc =>
    cases hs : o.surface with
    | none => exact .throw ⟨Composes.refl b, hb⟩
    | some s =>
      have hsurface : s.surface ∈ b.chains.alive := hb.held.mem_iff.1 (mem_heldSurfaces ho hs)
      have hpresent : Serves s.surface (ExceptT.run do
          render (W := W) BackendError.render (RenderContext.swapBuffers s.surface)
          let framebuffer ← withFrontBuffer .render s.surface fun buffer => do
            let framebuffer ← render .render (RenderContext.scanoutId buffer)
            orFail .kernel (kernel (.pageFlip crtc framebuffer))
            return framebuffer
          ExceptT.lift (updateOutput id (·.presenting framebuffer))) := by
        refine Leads.bindOk (Serves.of_tends (tends_render
          (RenderContext.upkeep_swapBuffers s.surface))) (fun _ => ?_) fun _ h => h
        refine Leads.bindOk (Serves.withFrontBuffer fun buffer hbuffer => ?_) (fun fb => ?_)
          fun _ h => h
        · refine Leads.bindOk (Serves.scanoutId hbuffer) (fun fb => ?_) fun _ h => h
          exact Leads.bindOk (.orFail (Serves.of_tends (tends_call fun _ => ⟨rfl, rfl, rfl⟩)))
            (fun _ => .pureOk fb)
            fun _ h => h
        · refine Leads.lift (Serves.of_tends (tends_updateOutput id fun o => ?_))
          simp [Output.presenting, Output.surfaceId?, Function.comp_def]
      refine (hpresent b hsurface).mono ?_
      rintro _ g b₁ ⟨h₁, -⟩
      exact ⟨h₁.settled, h₁.accounted hb⟩

/-- Every action accounts for what there is, unless it releases the context. -/
theorem accounting_perform {a : BackendAction} (ha : a ≠ .teardownRenderer) :
    Accounting (W := W) (perform a).run := by
  cases a with
  | scan => exact leads_of_tends always_scan
  | selectMode id request =>
    cases hparse : ModeRequest.parse request with
    | ok parsed =>
      exact fun b hb => yields_selectReadable hparse (accounting_commitMode id parsed b hb)
    | error cause =>
      show Accounting (selectAndCommitMode id request).run
      unfold selectAndCommitMode
      rw [hparse]
      exact leads_of_tends (.bindOk (.discardOk (always_requireOutput id)) fun _ =>
        .bindOk (.lift (tends_failModeset id)) fun _ => .throw _)
  | commitMode id request => exact accounting_commitMode id request
  | beginFrame id => exact leads_of_tends (tends_beginFrame id)
  | endFrame id => exact accounting_endFrame id
  | teardownOutput id => exact accounting_teardownOutput id
  | dispatch => exact leads_of_tends always_dispatchCompletions
  | clear width height colour =>
    exact leads_of_tends (.lift (tends_inContext (RenderContext.upkeep_clear width height colour)))
  | setDrainTimeout timeout =>
    exact leads_of_tends fun b => ⟨[], rfl, .of_neutral (by simp) rfl rfl rfl⟩
  | teardownRenderer => exact absurd rfl ha
  | pushEvent e => exact leads_of_tends fun b => ⟨[], rfl, .of_neutral (by simp) rfl rfl rfl⟩

end Backend
end Scanout
