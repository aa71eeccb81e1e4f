import Scanout.Proofs.BufferUpkeep
import Scanout.Proofs.ResourceBalance

/-!
# The resources of a rendering context

Whatever is done with a rendering context, short of releasing it, the entries account for the
surfaces and framebuffers that there are more or less of than before. `Settles` says so, and `Upkeep`
says moreover that the surfaces are the same. Releasing a context gives its handles back.
-/

namespace Scanout
namespace RenderContext

variable {W : World} {α ε : Type} {c c' c'' : RenderContext W} {g g' : List JournalEntry}

/-- The entries account for what the swap chains have more or less of than before. Surfaces are
created under numbers that no surface had, and a buffer is registered when it was told so. -/
structure Settles (c : RenderContext W) (gained : List JournalEntry) (c' : RenderContext W) :
    Prop where
  handles : c'.handles = c.handles
  inOrder : c.chains.InOrder → c'.chains.InOrder
  balance : Balances gained c.chains.resources c'.chains.resources
  outputs : ∀ r ∈ released gained, r.OfOutputs
  created : c.chains.created ≤ c'.chains.created
  fresh : ∀ s, (acquired gained).count (.surface s) =
    if c.chains.created < s.number ∧ s.number ≤ c'.chains.created then 1 else 0
  attached : ∀ e ∈ c'.chains.registered, e ∈ c.chains.registered ∨
    .call (.gpu (.attach e.1 e.2)) (.ok ()) ∈ gained

/-- Moreover, the surfaces are the same. -/
structure Upkeep (c : RenderContext W) (gained : List JournalEntry) (c' : RenderContext W) : Prop
    extends Settles c gained c' where
  alive : c'.chains.alive = c.chains.alive

theorem Settles.trans (h : Settles c g c') (h' : Settles c' g' c'') : Settles c (g' ++ g) c'' where
  handles := h'.handles.trans h.handles
  inOrder := h'.inOrder ∘ h.inOrder
  balance := h.balance.trans h'.balance
  outputs r hr := by
    rw [released_append] at hr
    exact (List.mem_append.1 hr).elim (h'.outputs r) (h.outputs r)
  created := Nat.le_trans h.created h'.created
  fresh s := by
    have hs := h.fresh s
    have hs' := h'.fresh s
    have hcreated := h.created
    have hcreated' := h'.created
    rw [acquired_append, List.count_append, hs, hs']
    split <;> split <;> split <;> omega
  attached e he := by
    rcases h'.attached e he with he | he
    · exact (h.attached e he).imp_right (List.mem_append_right _)
    · exact .inr (List.mem_append_left _ he)

theorem Settles.of_neutral (hg : ∀ e ∈ g, e.IsNeutral) (hhandles : c'.handles = c.handles)
    (hchains : c'.chains = c.chains) : Settles c g c' where
  handles := hhandles
  inOrder h := hchains ▸ h
  balance := hchains ▸ .of_neutral hg
  outputs := by simp [released_of_neutral hg]
  created := Nat.le_of_eq (congrArg SwapChains.created hchains.symm)
  fresh s := by
    rw [acquired_of_neutral hg, hchains, if_neg (by omega)]
    rfl
  attached e he := .inl (hchains ▸ he)

instance : Composes (Upkeep (W := W)) where
  refl _ := ⟨.of_neutral (by simp) rfl rfl, rfl⟩
  trans h h' := ⟨h.toSettles.trans h'.toSettles, h'.alive.trans h.alive⟩

theorem upkeep_call {k : Call} (h : ∀ a, (JournalEntry.call k a).IsNeutral) :
    Always Upkeep (call k : RenderM W k.Answer) := fun c =>
  ⟨[.call k (W.answer k c.world).1], rfl,
    .of_neutral (List.forall_mem_singleton.2 (h _)) rfl rfl, rfl⟩

theorem upkeep_makeCurrent (surface : SurfaceId) :
    Always Upkeep ((makeCurrent surface).run : RenderM W _) :=
  .bindOk always_requireHandles fun _ => .orFail (upkeep_call fun _ => ⟨rfl, rfl, rfl⟩)

theorem upkeep_swapBuffers (surface : SurfaceId) :
    Always Upkeep ((swapBuffers surface).run : RenderM W _) :=
  .bindOk always_requireHandles fun _ => .orFail (upkeep_call fun _ => ⟨rfl, rfl, rfl⟩)

theorem upkeep_clear (width height : UInt32) (colour : Colour) :
    Always Upkeep (clear width height colour : RenderM W Unit) :=
  upkeep_call fun _ => ⟨rfl, rfl, rfl⟩

theorem upkeep_lockFrontBuffer (surface : SurfaceId) :
    Always Upkeep ((lockFrontBuffer surface).run : RenderM W _) := by
  refine .bindOk (.orFail (upkeep_call fun _ => ⟨rfl, rfl, rfl⟩)) fun index =>
    .bindOk (fun c => ?_) fun _ => .pureOk _
  have hsettles : Settles c [] { c with chains := c.chains.lock ⟨surface, index⟩ } :=
    { handles := rfl
      inOrder := fun h => ⟨h.nodup, h.numbered, h.anchored⟩
      balance := .of_neutral (by simp)
      outputs := by simp [released]
      created := Nat.le_refl _
      fresh := fun s => (if_neg (by simp [SwapChains.lock])).symm
      attached := fun e he => .inl he }
  exact ⟨[], rfl, hsettles, rfl⟩

private theorem yields_removeEnded (framebuffers : List FramebufferId) (c : RenderContext W) :
    Yields (removeFramebuffers framebuffers) c fun _ g c' =>
      Ends framebuffers g ∧ c'.handles = c.handles ∧ c'.chains = c.chains := by
  induction framebuffers generalizing c with
  | nil => exact .pure ⟨.of_neutral (by simp), rfl, rfl⟩
  | cons fb others ih =>
    refine Yields.bind (P := fun _ g c' => Ends [fb] g ∧ c'.handles = c.handles ∧
      c'.chains = c.chains) ⟨_, rfl, .removal fb _, rfl, rfl⟩ ?_
    rintro _ g c₁ ⟨h₁, hhandles₁, hchains₁⟩
    refine (ih c₁).mono ?_
    rintro _ g' c₂ ⟨h₂, hhandles₂, hchains₂⟩
    exact ⟨h₁.append h₂, hhandles₂.trans hhandles₁, hchains₂.trans hchains₁⟩

/-- The registrations that end are removed, and nothing else happens. -/
theorem yields_updateEnded (change : SwapChains → List FramebufferId × SwapChains)
    (c : RenderContext W) :
    Yields (updateChains change) c fun _ g c' => Ends (change c.chains).1 g ∧
      c'.handles = c.handles ∧ c'.chains = (change c.chains).2 := by
  refine Yields.get_bind (Yields.bind (P := fun _ g c' => g = [] ∧
    c' = { c with chains := (change c.chains).2 }) ⟨[], rfl, rfl, rfl⟩ ?_)
  rintro _ _ _ ⟨rfl, rfl⟩
  refine (yields_removeEnded (change c.chains).1 _).mono ?_
  intro _ g c' h
  rwa [List.append_nil]

theorem upkeep_releaseBuffer (buffer : BufferSlot) :
    Always Upkeep (releaseBuffer buffer : RenderM W Unit) := by
  refine .bind (upkeep_call fun _ => ⟨rfl, rfl, rfl⟩) fun _ c =>
    (yields_updateEnded (·.unlock buffer) c).mono ?_
  rintro _ g c' ⟨h, hhandles, hchains⟩
  have hperm : ((c.chains.unlock buffer).1.map Resource.framebuffer ++
      (c.chains.unlock buffer).2.resources).Perm c.chains.resources := by
    refine List.perm_iff_count.2 fun r => ?_
    have hfree := ((c.chains.perm_unlock buffer).map Resource.framebuffer).count_eq r
    simp only [SwapChains.resources, SwapChains.alive_unlock, List.map_append,
      List.count_append] at hfree ⊢
    omega
  refine ⟨?_, by rw [hchains, SwapChains.alive_unlock]⟩
  exact
    { handles := hhandles
      inOrder := fun h => hchains ▸ h.unlock buffer
      balance := hchains ▸ (h.balance.frame _).congr hperm (.refl _)
      outputs := h.outputs
      created := Nat.le_of_eq (by rw [hchains, SwapChains.created_unlock])
      fresh := fun s => by
        rw [h.acquired, hchains, SwapChains.created_unlock, if_neg (by omega)]
        rfl
      attached := fun e he => .inl (c.chains.registered_unlock_subset buffer (hchains ▸ he)) }

theorem yields_requireHandles (c : RenderContext W) :
    Yields requireHandles.run c fun r g c' => g = [] ∧ c' = c ∧
      ∀ h, r = .ok h → c.handles = some h := by
  refine Yields.getOk_bind ?_
  cases hh : c.handles with
  | none => exact .throw ⟨rfl, rfl, nofun⟩
  | some h => exact .pureOk ⟨rfl, rfl, fun _ hr => congrArg some (Except.ok.inj hr)⟩

private theorem Settles.of_create {device : GpuDevice} {display : GpuDisplay} {config : GpuConfig}
    {width height : UInt32} (hhandles : c'.handles = c.handles)
    (hchains : c'.chains = c.chains.create) :
    Settles c [.call (.gpu (.createSurface c.chains.nextSurface device display config width height))
      (.ok ())] c' where
  handles := hhandles
  inOrder h := hchains ▸ h.create
  balance r := by
    rw [hchains, c.chains.perm_create.count_eq, List.count_cons]
    show [Resource.surface c.chains.nextSurface].count r + _ = 0 + 0 + _
    rw [List.count_singleton]
    omega
  outputs := nofun
  created := by
    rw [hchains]
    exact Nat.le_succ _
  fresh s := by
    rw [hchains]
    show [Resource.surface c.chains.nextSurface].count (.surface s) =
      if c.chains.created < s.number ∧ s.number ≤ c.chains.created + 1 then 1 else 0
    by_cases hs : c.chains.nextSurface = s
    · subst hs
      simp [SwapChains.nextSurface]
    · rw [List.count_eq_zero.2 (by simpa using Ne.symm hs), if_neg]
      rintro ⟨hlow, hhigh⟩
      exact hs (by cases s; simp_all [SwapChains.nextSurface]; omega)
  attached e he := by
    rw [hchains] at he
    exact .inl he

/-- A surface is acquired under the next number, if there is to be one. -/
theorem yields_createSurface_settles (width height : UInt32) (c : RenderContext W) :
    Yields (createSurface width height).run c fun r g c' => Settles c g c' ∧
      match r with
      | .ok s => s = c.chains.nextSurface ∧ c'.chains = c.chains.create
      | .error _ => c'.chains = c.chains := by
  refine (yields_requireHandles c).bindOk ?_ ?_
  · rintro h _ c ⟨rfl, rfl, -⟩
    refine Yields.getOk_bind (Yields.orFail_bindOk (P := fun a g c' => g = [.call (.gpu
      (.createSurface c.chains.nextSurface h.device h.display h.config width height)) a] ∧
      c'.handles = c.handles ∧ c'.chains = c.chains) ⟨_, rfl, rfl, rfl, rfl⟩ ?_ ?_)
    · rintro _ _ c₁ ⟨rfl, hhandles, hchains⟩
      have hcreate : c₁.chains.create = c.chains.create := by rw [hchains]
      exact ⟨[], rfl, .of_create hhandles hcreate, rfl, hcreate⟩
    · rintro e _ c₁ ⟨rfl, hhandles, hchains⟩
      exact ⟨.of_neutral (List.forall_mem_singleton.2 ⟨rfl, rfl, rfl⟩) hhandles hchains, hchains⟩
  · rintro e _ _ ⟨rfl, rfl, -⟩
    exact ⟨.of_neutral (by simp) rfl rfl, rfl⟩

/-- While the context is there, a surface is released with the framebuffers of its buffers. -/
theorem yields_destroySurface_settles {h : ContextHandles} {surface : SurfaceId}
    (hh : c.handles = some h) (horder : c.chains.InOrder) (hsurface : surface ∈ c.chains.alive) :
    Yields (destroySurface surface) c fun _ g c' =>
      Settles c g c' ∧ c'.chains = (c.chains.destroy surface).2 := by
  refine Yields.get_bind ?_
  rw [hh]
  refine Yields.bind (P := fun _ g c₁ => (∀ e ∈ g, e.IsNeutral) ∧ c₁.handles = c.handles ∧
    c₁.chains = c.chains) ⟨_, rfl, List.forall_mem_singleton.2 ⟨rfl, rfl, rfl⟩, rfl, rfl⟩ ?_
  rintro _ g₁ c₁ ⟨hneutral, hhandles₁, hchains₁⟩
  refine Yields.bind (P := fun _ g c₂ => g = [.call (.gpu (.destroySurface h.display surface)) ()] ∧
    c₂.handles = c₁.handles ∧ c₂.chains = c₁.chains) ⟨_, rfl, rfl, rfl, rfl⟩ ?_
  rintro _ _ c₂ ⟨rfl, hhandles₂, hchains₂⟩
  refine (yields_updateEnded (·.destroy surface) c₂).mono ?_
  rintro _ g₃ c₃ ⟨hends, hhandles₃, hchains₃⟩
  rw [hchains₂, hchains₁] at hends hchains₃
  have hdestroy (rest : List Resource) :
      Balances [.call (.gpu (.destroySurface h.display surface)) ()] (.surface surface :: rest)
        rest := fun r => by
    show 0 + _ = [Resource.surface surface].count r + 0 + _
    rw [List.count_cons, List.count_singleton]
    omega
  have hbalance : Balances (g₃ ++ ([.call (.gpu (.destroySurface h.display surface)) ()] ++ g₁))
      c.chains.resources (c.chains.destroy surface).2.resources :=
    (((Balances.of_neutral hneutral).trans (hdestroy _)).trans (hends.balance.frame _)).congr
      (SwapChains.perm_destroy horder hsurface) (.refl _)
  refine ⟨?_, hchains₃⟩
  rw [List.append_assoc]
  exact
    { handles := hhandles₃.trans (hhandles₂.trans hhandles₁)
      inOrder := fun h => hchains₃ ▸ h.destroy surface
      balance := hchains₃ ▸ hbalance
      outputs := fun r hr => by
        rw [released_append, released_append, released_of_neutral hneutral, List.append_nil] at hr
        rcases List.mem_append.1 hr with hr | hr
        · exact hends.outputs r hr
        · rw [List.mem_singleton.1 hr]
          trivial
      created := hchains₃ ▸ Nat.le_refl _
      fresh := fun s => by
        rw [acquired_append, acquired_append, hends.acquired, acquired_of_neutral hneutral, hchains₃,
          SwapChains.created_destroy, if_neg (by omega)]
        rfl
      attached := fun e he => by
        rw [hchains₃] at he
        exact .inl (List.mem_filter.1 he).1 }

/-- What comes of asking for the framebuffer of a buffer: it is there, or the buffer is measured,
registered and told so, each of which may fail. A framebuffer that cannot be noted on its buffer is
removed again. -/
inductive Registering (c : RenderContext W) (buffer : BufferSlot) :
    Except RenderError FramebufferId → List JournalEntry → RenderContext W → Prop where
  | cached {fb} (h : c.chains.framebuffer? buffer = some fb) : Registering c buffer (.ok fb) [] c
  | unmeasured {cause c'} (hnone : c.chains.framebuffer? buffer = none)
      (hhandles : c'.handles = c.handles) (hchains : c'.chains = c.chains) :
      Registering c buffer (.error cause) [.call (.gpu (.geometry buffer)) (.error cause)] c'
  | unregistered {geometry cause c'} (hnone : c.chains.framebuffer? buffer = none)
      (hhandles : c'.handles = c.handles) (hchains : c'.chains = c.chains) :
      Registering c buffer (.error (.framebuffer cause))
        [.call (.kernel (.addFramebuffer geometry scanoutDepth scanoutBpp)) (.error cause),
          .call (.gpu (.geometry buffer)) (.ok geometry)] c'
  | rejected {geometry fb cause answer c'} (hnone : c.chains.framebuffer? buffer = none)
      (hhandles : c'.handles = c.handles) (hchains : c'.chains = c.chains) :
      Registering c buffer (.error cause)
        [.call (.kernel (.removeFramebuffer fb)) answer,
          .call (.gpu (.attach buffer fb)) (.error cause),
          .call (.kernel (.addFramebuffer geometry scanoutDepth scanoutBpp)) (.ok fb),
          .call (.gpu (.geometry buffer)) (.ok geometry)] c'
  | registered {geometry fb c'} (hnone : c.chains.framebuffer? buffer = none)
      (hhandles : c'.handles = c.handles) (hchains : c'.chains = c.chains.attach buffer fb) :
      Registering c buffer (.ok fb)
        [.call (.gpu (.attach buffer fb)) (.ok ()),
          .call (.kernel (.addFramebuffer geometry scanoutDepth scanoutBpp)) (.ok fb),
          .call (.gpu (.geometry buffer)) (.ok geometry)] c'

private theorem yields_callApart (k : Call) (c : RenderContext W) :
    Yields (call k : RenderM W k.Answer) c fun a g c' =>
      g = [.call k a] ∧ c'.handles = c.handles ∧ c'.chains = c.chains := ⟨_, rfl, rfl, rfl, rfl⟩

private theorem yields_attachOrRemove (buffer : BufferSlot) (fb : FramebufferId)
    (c : RenderContext W) :
    Yields (orRelease (removeFramebuffers [fb]) (orFail id (gpu (.attach buffer fb))) :
      ExceptT RenderError (RenderM W) Unit).run c fun r g c' =>
        c'.handles = c.handles ∧ c'.chains = c.chains ∧
          match r with
          | .ok _ => g = [.call (.gpu (.attach buffer fb)) (.ok ())]
          | .error cause => ∃ answer, g = [.call (.kernel (.removeFramebuffer fb)) answer,
              .call (.gpu (.attach buffer fb)) (.error cause)] := by
  refine Yields.orRelease (.orFail (yields_callApart (.gpu (.attach buffer fb)) c)) ?_ ?_
  · rintro _ _ c₁ ⟨_ | _, ⟨⟩, rfl, hhandles, hchains⟩
    exact ⟨hhandles, hchains, rfl⟩
  · rintro _ _ c₁ ⟨cause | _, ⟨⟩, rfl, hhandles, hchains⟩
    exact ⟨[_], rfl, hhandles, hchains, _, rfl⟩

theorem yields_scanoutId (buffer : BufferSlot) (c : RenderContext W) :
    Yields (scanoutId buffer).run c (Registering c buffer) := by
  refine Yields.getOk_bind ?_
  cases hfb : c.chains.framebuffer? buffer with
  | some fb => exact .pureOk (.cached hfb)
  | none =>
    refine (yields_callApart (.gpu (.geometry buffer)) c).orFail_bindOk ?_ ?_
    · rintro geometry _ c₁ ⟨rfl, hhandles₁, hchains₁⟩
      refine (yields_callApart (.kernel (.addFramebuffer geometry scanoutDepth
        scanoutBpp)) c₁).orFail_bindOk ?_ ?_
      · rintro fb _ c₂ ⟨rfl, hhandles₂, hchains₂⟩
        have hhandles := hhandles₂.trans hhandles₁
        have hchains := hchains₂.trans hchains₁
        refine (yields_attachOrRemove buffer fb c₂).bindOk ?_ ?_
        · rintro _ _ c₃ ⟨hhandles₃, hchains₃, rfl⟩
          exact ⟨[], rfl, .registered hfb (hhandles₃.trans hhandles)
            (congrArg (·.attach buffer fb) (hchains₃.trans hchains))⟩
        · rintro _ _ c₃ ⟨hhandles₃, hchains₃, answer, rfl⟩
          exact .rejected hfb (hhandles₃.trans hhandles) (hchains₃.trans hchains)
      · rintro _ _ c₂ ⟨rfl, hhandles₂, hchains₂⟩
        exact .unregistered hfb (hhandles₂.trans hhandles₁) (hchains₂.trans hchains₁)
    · rintro _ _ c₁ ⟨rfl, hhandles, hchains⟩
      exact .unmeasured hfb hhandles hchains

section Framebuffer

variable {buffer : BufferSlot} {geometry : BufferGeometry} {depth bpp : UInt32} {fb : FramebufferId}

private theorem Upkeep.of_attach (hbuffer : buffer.surface ∈ c.chains.alive)
    (hhandles : c'.handles = c.handles) (hchains : c'.chains = c.chains.attach buffer fb) :
    Upkeep c [.call (.gpu (.attach buffer fb)) (.ok ()),
      .call (.kernel (.addFramebuffer geometry depth bpp)) (.ok fb),
      .call (.gpu (.geometry buffer)) (.ok geometry)] c' := by
  refine ⟨?_, by rw [hchains]; rfl⟩
  exact
    { handles := hhandles
      inOrder := fun h => hchains ▸ h.attach hbuffer fb
      balance := fun r => by
        rw [hchains, (c.chains.perm_attach buffer fb).count_eq, List.count_cons]
        show [Resource.framebuffer fb].count r + _ = 0 + 0 + _
        rw [List.count_singleton]
        omega
      outputs := nofun
      created := hchains ▸ Nat.le_refl _
      fresh := fun s => by
        rw [hchains]
        exact (if_neg (by simp [SwapChains.attach])).symm
      attached := fun e he => by
        rw [hchains] at he
        rcases SwapChains.mem_insert.1 he with rfl | he
        · exact .inr List.mem_cons_self
        · exact .inl he }

private theorem Upkeep.of_retract {cause : RenderError} {answer : Except SystemError Unit}
    (hhandles : c'.handles = c.handles) (hchains : c'.chains = c.chains) :
    Upkeep c [.call (.kernel (.removeFramebuffer fb)) answer,
      .call (.gpu (.attach buffer fb)) (.error cause),
      .call (.kernel (.addFramebuffer geometry depth bpp)) (.ok fb),
      .call (.gpu (.geometry buffer)) (.ok geometry)] c' := by
  have hadded : Balances [.call (.kernel (.addFramebuffer geometry depth bpp)) (.ok fb),
      .call (.gpu (.geometry buffer)) (.ok geometry)]
      c.chains.resources ([.framebuffer fb] ++ c.chains.resources) := fun r => by
    show [Resource.framebuffer fb].count r + _ = 0 + 0 + _
    rw [List.count_append]
    omega
  have hends : Ends [fb] [.call (.kernel (.removeFramebuffer fb)) answer,
      .call (.gpu (.attach buffer fb)) (.error cause)] :=
    (Ends.of_neutral (List.forall_mem_singleton.2 ⟨rfl, rfl, rfl⟩)).append (.removal fb answer)
  refine ⟨?_, congrArg SwapChains.alive hchains⟩
  exact
    { handles := hhandles
      inOrder := fun h => hchains ▸ h
      balance := hchains ▸ hadded.trans (hends.balance.frame _)
      outputs := fun r hr => hends.outputs r hr
      created := hchains ▸ Nat.le_refl _
      fresh := fun s => by
        rw [hchains, if_neg (by omega)]
        rfl
      attached := fun e he => .inl (hchains ▸ he) }

end Framebuffer

/-- The buffer of a surface that is there gets its framebuffer, if it has none yet. -/
theorem yields_scanoutId_upkeep {buffer : BufferSlot} (hbuffer : buffer.surface ∈ c.chains.alive) :
    Yields (scanoutId buffer).run c fun _ g c' => Upkeep c g c' := by
  refine (yields_scanoutId buffer c).mono fun r g c' h => ?_
  cases h with
  | cached => exact Composes.refl c
  | unmeasured _ hhandles hchains =>
    refine ⟨.of_neutral ?_ hhandles hchains, congrArg SwapChains.alive hchains⟩
    exact List.forall_mem_singleton.2 ⟨rfl, rfl, rfl⟩
  | unregistered _ hhandles hchains =>
    refine ⟨.of_neutral ?_ hhandles hchains, congrArg SwapChains.alive hchains⟩
    exact List.forall_mem_cons.2 ⟨⟨rfl, rfl, rfl⟩, List.forall_mem_singleton.2 ⟨rfl, rfl, rfl⟩⟩
  | rejected _ hhandles hchains => exact .of_retract hhandles hchains
  | registered _ hhandles hchains => exact .of_attach hbuffer hhandles hchains

/-- Context, display and device are released in this order. -/
theorem yields_teardown_handles {h : ContextHandles} (hh : c.handles = some h) :
    Yields teardown c fun _ g c' => c'.handles = none ∧ c'.chains = c.chains ∧
      ∃ unbound, g = [.call (.gpu (.destroyDevice h.device)) (),
        .call (.gpu (.terminateDisplay h.display)) (),
        .call (.gpu (.destroyContext h.display h.context)) (),
        .call (.gpu (.makeCurrent h.display h.context none)) unbound] := by
  refine Yields.get_bind ?_
  rw [hh]
  exact ⟨_, rfl, rfl, rfl, _, rfl⟩

end RenderContext
end Scanout
