import Scanout.Proofs.ResourceConservation
import Scanout.Proofs.SurfaceCustody

/-!
# Presenting a frame is all or nothing

A frame is presented by several calls, each of which may fail, and a buffer is taken out of its
swap chain in between. Whatever fails, the buffer goes back, and no record is touched before
everything has succeeded. The framebuffer that a flip was asked for is registered for a buffer of the
surface, and it stays registered when the buffer is handed back, because the surface is still there.
-/

namespace Scanout

/-- Every buffer that is taken out of its swap chain is handed back later. -/
def HandsBack (g : List JournalEntry) : Prop :=
  ∀ later earlier surface index,
    g = later ++ .call (.gpu (.lockFrontBuffer surface)) (.ok index) :: earlier →
      .call (.gpu (.releaseBuffer ⟨surface, index⟩)) () ∈ later

namespace HandsBack

variable {g g' : List JournalEntry}

/-- Where no buffer is taken out, none needs to be handed back. -/
theorem of_untaken (h : ∀ surface index,
    .call (.gpu (.lockFrontBuffer surface)) (.ok index) ∉ g) : HandsBack g := by
  rintro later earlier surface index rfl
  exact absurd (by simp) (h surface index)

/-- What is taken out by the first entries may be handed back by the others. -/
theorem followed (h : ∀ later earlier surface index,
      g = later ++ .call (.gpu (.lockFrontBuffer surface)) (.ok index) :: earlier →
        .call (.gpu (.releaseBuffer ⟨surface, index⟩)) () ∈ g' ++ later)
    (h' : HandsBack g') : HandsBack (g' ++ g) := by
  intro later earlier surface index heq
  rcases List.append_eq_append_iff.1 heq with ⟨front, rfl, hg⟩ | ⟨back, rfl, hg⟩
  · exact h front earlier surface index hg
  · cases back with
    | nil => simpa using h [] earlier surface index hg.symm
    | cons e back =>
      obtain ⟨rfl, -⟩ := List.cons.inj hg
      exact h' later back surface index rfl

theorem append (h : HandsBack g) (h' : HandsBack g') : HandsBack (g' ++ g) :=
  followed (fun later earlier surface index heq =>
    List.mem_append_right _ (h later earlier surface index heq)) h'

theorem of_release {surface : SurfaceId} {index : Nat} (h : HandsBack g)
    (hback : .call (.gpu (.releaseBuffer ⟨surface, index⟩)) () ∈ g) :
    HandsBack (g ++ [.call (.gpu (.lockFrontBuffer surface)) (.ok index)]) := by
  refine followed (fun later earlier surface' index' heq => ?_) h
  obtain ⟨rfl, hlast⟩ := List.append_eq_singleton_iff.1 heq.symm |>.resolve_right (by simp)
  obtain ⟨⟨rfl, rfl⟩, -⟩ : (surface' = surface ∧ index' = index) ∧ earlier = [] := by
    simpa using hlast
  exact List.mem_append_left _ hback

end HandsBack

/-- What acts that hand back every buffer have in common, given the entries in between. -/
def Returns {σ : Type} (_ : σ) (g : List JournalEntry) (_ : σ) : Prop := HandsBack g

instance {σ : Type} [Journaled σ] : Composes (@Returns σ) where
  refl _ := .of_untaken (by simp)
  trans := HandsBack.append

/-- A call that takes no buffer out. -/
def Call.Spares : Call → Prop
  | .gpu (.lockFrontBuffer _) => False
  | _ => True

theorem HandsBack.of_spares {c : Call} (h : c.Spares) (answer : c.Answer) :
    HandsBack [.call c answer] := by
  apply of_untaken
  intro surface index hmem
  cases List.mem_singleton.1 hmem
  exact h

namespace RenderContext

variable {W : World} {α ε : Type}

theorem returns_call {c : Call} (h : c.Spares) :
    Always Returns (call c : RenderM W c.Answer) := fun _ => ⟨_, rfl, .of_spares h _⟩

theorem returns_swapBuffers (surface : SurfaceId) :
    Always Returns ((swapBuffers surface).run : RenderM W _) :=
  .bindOk always_requireHandles fun _ => .orFail (returns_call trivial)

/-- A frame can be swapped only while the context is there. -/
theorem yields_swapBuffers_ready (surface : SurfaceId) (c : RenderContext W) :
    Yields (swapBuffers surface).run c fun r _ _ => r = .ok () → c.handles.isSome := by
  refine (yields_requireHandles c).bindOk ?_ ?_
  · rintro h _ c ⟨rfl, rfl, hh⟩
    have hcall := returns_call (W := W) (c := .gpu (.swapBuffers h.display surface)) trivial
    refine (Yields.orFail (hcall c)).mono ?_
    intro _ _ _ _ _
    rw [hh h rfl]
    rfl
  · rintro e _ c ⟨rfl, rfl, -⟩
    nofun

namespace Registering

variable {c c' : RenderContext W} {buffer : BufferSlot} {r : Except RenderError FramebufferId}
  {g : List JournalEntry}

theorem handsBack (h : Registering c buffer r g c') : HandsBack g := by
  apply HandsBack.of_untaken
  cases h <;> simp

/-- Registering a buffer neither takes one out nor concerns the surfaces. -/
theorem chains_kept (h : Registering c buffer r g c') :
    c'.chains.locked = c.chains.locked ∧ c'.chains.alive = c.chains.alive := by
  cases h with
  | cached => exact ⟨rfl, rfl⟩
  | unmeasured _ _ hchains | unregistered _ _ hchains | rejected _ _ hchains =>
    exact ⟨congrArg SwapChains.locked hchains, congrArg SwapChains.alive hchains⟩
  | registered _ _ hchains =>
    rw [hchains]
    exact ⟨rfl, rfl⟩

end Registering

theorem yields_releaseBuffer_returns (buffer : BufferSlot) (c : RenderContext W) :
    Yields (releaseBuffer buffer) c fun _ g _ =>
      .call (.gpu (.releaseBuffer buffer)) () ∈ g ∧ HandsBack g := by
  have hupdate : Always Returns (updateChains (·.unlock buffer) : RenderM W Unit) :=
    always_updateChains (fun _ => .of_untaken (by simp)) fun _ => returns_call trivial
  refine Yields.bind (P := fun _ g _ => g = [.call (.gpu (.releaseBuffer buffer)) ()])
    ⟨_, rfl, rfl⟩ ?_
  rintro _ _ c₁ rfl
  refine (hupdate c₁).mono fun _ g _ h => ⟨by simp, ?_⟩
  exact .append (HandsBack.of_spares (c := .gpu (.releaseBuffer buffer)) trivial ()) h

theorem yields_lockFrontBuffer_returns (surface : SurfaceId) (c : RenderContext W) :
    Yields (lockFrontBuffer surface).run c fun r g c' =>
      match r with
      | .ok buffer => g = [.call (.gpu (.lockFrontBuffer surface)) (.ok buffer.index)] ∧
          buffer.surface = surface ∧ c'.chains = c.chains.lock buffer
      | .error _ => HandsBack g ∧ c'.chains = c.chains := by
  refine Yields.orFail_bindOk (P := fun answer g c' =>
    g = [.call (.gpu (.lockFrontBuffer surface)) answer] ∧ c'.chains = c.chains)
    ⟨_, rfl, rfl, rfl⟩ ?_ ?_
  · rintro index _ c₁ ⟨rfl, hchains⟩
    exact ⟨[], rfl, rfl, rfl, congrArg (·.lock ⟨surface, index⟩) hchains⟩
  · rintro cause _ c₁ ⟨rfl, hchains⟩
    exact ⟨.of_untaken (by simp), hchains⟩

end RenderContext

namespace Backend

variable {W : World} {α ε : Type} {b b' : Backend W} {g : List JournalEntry} {id : OutputId}

/-- A buffer of a surface was shown and handed back. The framebuffer that was shown, if any, is
registered for a buffer of the surface. -/
structure Shows (surface : SurfaceId) (b : Backend W) (shown : Option FramebufferId)
    (g : List JournalEntry) (b' : Backend W) : Prop where
  returns : HandsBack g
  outputs : b'.outputs = b.outputs
  locked : b'.chains.locked = b.chains.locked
  registered : surface ∈ b.chains.alive → ∀ fb, shown = some fb →
    ∃ buffer : BufferSlot, buffer.surface = surface ∧ (buffer, fb) ∈ b'.chains.registered

/-- The framebuffer of a buffer is there, and a flip to it was asked for. -/
private theorem yields_flipTo (crtc : CrtcHandle) (buffer : BufferSlot) (b : Backend W) :
    Yields (ExceptT.run do
      let framebuffer ← render .render (RenderContext.scanoutId buffer)
      orFail .kernel (kernel (.pageFlip crtc framebuffer))
      return framebuffer : BackendM W (Except BackendError FramebufferId)) b fun r g b' =>
      HandsBack g ∧ b'.outputs = b.outputs ∧ b'.chains.locked = b.chains.locked ∧
        b'.chains.alive = b.chains.alive ∧
        ∀ fb, r.toOption = some fb → (buffer, fb) ∈ b'.chains.registered := by
  refine (yields_context
    (RenderContext.yields_scanoutId buffer b.toRenderContext)).orFail_bindOk ?_ ?_
  · rintro fb g₁ b₁ ⟨h₁, houtputs₁⟩
    obtain ⟨hlocked, halive⟩ := h₁.chains_kept
    refine Yields.orFail_bindOk (P := fun answer g b₂ =>
      g = [.call (.kernel (.pageFlip crtc fb)) answer] ∧ b₂.outputs = b₁.outputs ∧
        b₂.chains = b₁.chains) ⟨_, rfl, rfl, rfl, rfl⟩ ?_ ?_
    · rintro ⟨⟩ _ b₂ ⟨rfl, houtputs₂, hchains₂⟩
      refine .pureOk ⟨.append h₁.handsBack (.of_untaken (by simp)), houtputs₂.trans houtputs₁,
        ?_, ?_, ?_⟩
      · rw [hchains₂, hlocked]
      · rw [hchains₂, halive]
      · rintro _ ⟨⟩
        rw [hchains₂]
        exact h₁.mem_of_ok
    · rintro cause _ b₂ ⟨rfl, houtputs₂, hchains₂⟩
      refine ⟨.append h₁.handsBack (.of_untaken (by simp)), houtputs₂.trans houtputs₁,
        ?_, ?_, nofun⟩
      · rw [hchains₂, hlocked]
      · rw [hchains₂, halive]
  · rintro cause g₁ b₁ ⟨h₁, houtputs₁⟩
    exact ⟨h₁.handsBack, houtputs₁, h₁.chains_kept.1, h₁.chains_kept.2, nofun⟩

theorem yields_showFrame (surface : SurfaceId) (crtc : CrtcHandle) (b : Backend W) :
    Yields (withFrontBuffer BackendError.render surface fun buffer => do
      let framebuffer ← render .render (RenderContext.scanoutId buffer)
      orFail .kernel (kernel (.pageFlip crtc framebuffer))
      return framebuffer).run b fun r g b' =>
      Shows surface b r.toOption g b' := by
  refine (yields_context
    (RenderContext.yields_lockFrontBuffer_returns surface b.toRenderContext)).orFail_bindOk ?_ ?_
  · rintro buffer _ b₁ ⟨⟨rfl, rfl, hchains₁⟩, houtputs₁⟩
    refine Yields.bind (yields_flipTo crtc buffer b₁) ?_
    rintro r g₂ b₂ ⟨hreturns₂, houtputs₂, hlocked₂, halive₂, hregistered₂⟩
    have hrelease := (RenderContext.yields_releaseBuffer_returns buffer b₂.toRenderContext).and
      (RenderContext.yields_releaseBuffer_chains buffer b₂.toRenderContext)
    refine (yields_context hrelease).bind ?_
    rintro _ g₃ b₃ ⟨⟨⟨hback, hreturns₃⟩, -, hchains₃⟩, houtputs₃⟩
    refine .pure ⟨?_, houtputs₃.trans (houtputs₂.trans houtputs₁), ?_, ?_⟩
    · rw [List.nil_append]
      exact .of_release (.append hreturns₂ hreturns₃) (List.mem_append_left _ hback)
    · rw [hchains₃, SwapChains.locked_unlock, hlocked₂, hchains₁]
      exact List.erase_cons_head _ _
    · intro halive fb hfb
      have hthere : buffer.surface ∈ b₂.chains.alive := by
        rw [halive₂, hchains₁]
        exact halive
      rw [hchains₃, SwapChains.unlock_of_alive hthere]
      exact ⟨buffer, rfl, hregistered₂ fb hfb⟩
  · rintro cause g₁ b₁ ⟨⟨hreturns, hchains⟩, houtputs⟩
    exact ⟨hreturns, houtputs, congrArg SwapChains.locked hchains, nofun⟩

/-- Whatever comes of presenting a frame, its buffer is handed back, and what was presented is a
framebuffer of the output's surface. -/
theorem yields_endFrame_shows (id : OutputId) (b : Backend W) :
    Yields (endFrame id).run b fun r g b' => HandsBack g ∧ b'.chains.locked = b.chains.locked ∧
      (r = .ok () → b.handles.isSome ∧ ∃ o s fb, b.output? id = some o ∧ o.surface = some s ∧
        b'.outputs = b.outputs.modify id.slot (·.presenting fb) ∧
        (s.surface ∈ b.chains.alive → ∃ buffer : BufferSlot, buffer.surface = s.surface ∧
          (buffer, fb) ∈ b'.chains.registered)) := by
  have hidle : HandsBack [] := .of_untaken (by simp)
  refine (yields_requireOutput id b).bindOk ?_ ?_
  · rintro o _ b ⟨rfl, rfl, ho⟩
    cases o.crtc with
    | none => exact .throw ⟨hidle, rfl, nofun⟩
    | some crtc =>
      cases hs : o.surface with
      | none => exact .throw ⟨hidle, rfl, nofun⟩
      | some s =>
        have hswap := ((RenderContext.returns_swapBuffers s.surface b.toRenderContext).and
          (RenderContext.idle_swapBuffers s.surface b.toRenderContext)).and
          (RenderContext.yields_swapBuffers_ready s.surface b.toRenderContext)
        refine (yields_context hswap).orFail_bindOk ?_ ?_
        · rintro _ g₁ b₁ ⟨⟨⟨hreturns₁, hidle₁⟩, hready⟩, houtputs₁⟩
          have hchains₁ : b₁.chains = b.chains := hidle₁.chains
          refine (yields_showFrame s.surface crtc b₁).bindOk ?_ ?_
          · rintro fb g₂ b₂ h₂
            refine .lift ((yields_updateOutput id _ b₂).mono ?_)
            rintro _ _ _ ⟨rfl, rfl⟩
            refine ⟨by simpa using HandsBack.append hreturns₁ h₂.returns, ?_, fun _ => ?_⟩
            · rw [← hchains₁]
              exact h₂.locked
            · refine ⟨hready rfl, o, s, fb, ho, hs, ?_, fun halive => ?_⟩
              · rw [← houtputs₁, ← h₂.outputs]
                rfl
              · exact h₂.registered (hchains₁ ▸ halive) fb rfl
          · intro e g₂ b₂ h₂
            refine ⟨by simpa using HandsBack.append hreturns₁ h₂.returns, ?_, nofun⟩
            rw [h₂.locked, hchains₁]
        · rintro cause g₁ b₁ ⟨⟨⟨hreturns₁, hidle₁⟩, -⟩, -⟩
          rw [List.append_nil]
          exact ⟨hreturns₁, congrArg SwapChains.locked hidle₁.chains, nofun⟩
  · rintro e _ b ⟨rfl, rfl, -⟩
    exact ⟨hidle, rfl, nofun⟩

/-- An accepted flip amid quiet entries is the only one. -/
theorem flip_of_amid {crtc : CrtcHandle} {fb : FramebufferId} {core : List JournalEntry}
    (hcore : FlipAttempt crtc (some fb) core) (h : Amid core g) :
    ∃ later earlier, g = later ++ .call (.kernel (.pageFlip crtc fb)) (.ok ()) :: earlier ∧
      ∀ crtc' fb' answer, .call (.kernel (.pageFlip crtc' fb')) answer ∉ later ++ earlier := by
  obtain ⟨before, after, hbefore, hafter, rfl⟩ := h
  cases hcore
  refine ⟨after, before, by simp, fun crtc' fb' answer hmem => ?_⟩
  rcases List.mem_append.1 hmem with hmem | hmem
  · exact hafter _ hmem
  · exact hbefore _ hmem

/-- Presenting a frame tells of nothing. It fails with the books as they were, or one flip was asked
for and accepted. -/
theorem yields_endFrame_flips (id : OutputId) (b : Backend W) :
    Yields (endFrame id).run b fun r g b' => (∀ e, .event e ∉ g) ∧
      ((∃ e, r = .error e ∧ SameBooks b b') ∨
        ∃ o crtc fb, r = .ok () ∧ b.output? id = some o ∧ o.crtc = some crtc ∧
          SameBooks { b with outputs := b.outputs.modify id.slot (·.presenting fb) } b' ∧
          ∃ later earlier, g = later ++ .call (.kernel (.pageFlip crtc fb)) (.ok ()) :: earlier ∧
            ∀ crtc' fb' answer,
              .call (.kernel (.pageFlip crtc' fb')) answer ∉ later ++ earlier) := by
  refine (yields_endFrame id b).mono ?_
  rintro r g b' (⟨e, hr, hquiet⟩ | ⟨o, s, crtc, core, ho, -, hc, hamid, hflip⟩)
  · exact ⟨fun e he => hquiet.quiet _ he, .inl ⟨e, hr, hquiet.same⟩⟩
  · have hmute (hcore : ∀ e ∈ core, ∀ event, e ≠ .event event) : ∀ e, .event e ∉ g := by
      intro e he
      refine hamid.forall_mem (P := fun e => ∀ event, e ≠ .event event) hcore ?_ _ he e rfl
      rintro _ hquiet event rfl
      exact hquiet
    rcases hflip with ⟨e, hr, hattempt, hsame⟩ | ⟨fb, hr, hattempt, hsame⟩
    · exact ⟨hmute (by cases hattempt <;> simp), .inl ⟨e, hr, hsame⟩⟩
    · have hone := flip_of_amid hattempt hamid
      exact ⟨hmute (by cases hattempt; simp), .inr ⟨o, crtc, fb, hr, ho, hc, hsame, hone⟩⟩

/-- A framebuffer that a buffer is registered with was acquired more often than it was given up. -/
theorem Booked.count_lt {h : ContextHandles} {buffer : BufferSlot} {fb : FramebufferId}
    (hb : b.Booked h) (hmem : (buffer, fb) ∈ b.chains.registered) :
    (released b.journal).count (.framebuffer fb) + (refused b.journal).count (.framebuffer fb) <
      (acquired b.journal).count (.framebuffer fb) := by
  have hbalance := hb.balance (.framebuffer fb)
  have hheld : .framebuffer fb ∈ h.resources ++ b.chains.resources := by
    simp only [SwapChains.resources, SwapChains.framebuffers, List.mem_append, List.mem_map]
    exact .inr (.inr ⟨fb, ⟨(buffer, fb), hmem, rfl⟩, rfl⟩)
  have hpos := List.count_pos_iff.2 hheld
  rw [List.count_nil] at hbalance
  omega

/-- Beginning a frame takes no buffer and changes no record, claim or event. Presenting it hands the
buffer back that it took, tells of nothing and claims nothing. If it fails, it changes no record
either; if it succeeds, the one change is that the output awaits the completion of the flip to the
framebuffer that it showed last. This framebuffer is registered for a buffer of the output's surface
and with the kernel, and the one flip that was asked for was on the CRTC that the output claimed. -/
theorem presenting_is_all_or_nothing {w : W.State} {b₀ : Backend W}
    (hstart : setUp (.start w) = .ok b₀) (actions : List BackendAction) (id : OutputId) :
    let b := b₀.run actions
    let begun := b.after (.beginFrame id)
    let ended := b.after (.endFrame id)
    (∃ gained, begun.journal = gained ++ b.journal ∧ told gained = [] ∧
      begun.outputs = b.outputs ∧ begun.claims = b.claims ∧ begun.queue = b.queue) ∧
    ∃ gained, ended.journal = gained ++ b.journal ∧ told gained = [] ∧ HandsBack gained ∧
      ended.chains.locked = b.chains.locked ∧ ended.claims = b.claims ∧ ended.queue = b.queue ∧
      (∀ e, ((perform (.endFrame id)).run b).1 = .error e → ended.outputs = b.outputs) ∧
      (((perform (.endFrame id)).run b).1 = .ok () → ∃ o s crtc fb,
        b.output? id = some o ∧ o.surface = some s ∧ o.crtc = some crtc ∧
        ended.outputs = b.outputs.modify id.slot (·.presenting fb) ∧
        (∃ buffer : BufferSlot, buffer.surface = s.surface ∧
          (buffer, fb) ∈ ended.chains.registered ∧
          .call (.gpu (.attach buffer fb)) (.ok ()) ∈ ended.journal) ∧
        (released ended.journal).count (.framebuffer fb) +
          (refused ended.journal).count (.framebuffer fb) <
            (acquired ended.journal).count (.framebuffer fb) ∧
        b.claims.owner crtc = some id ∧
        ∃ later earlier, gained = later ++ .call (.kernel (.pageFlip crtc fb)) (.ok ()) :: earlier ∧
          ∀ crtc' fb' answer, .call (.kernel (.pageFlip crtc' fb')) answer ∉ later ++ earlier) := by
  intro b begun ended
  constructor
  · obtain ⟨gained, hgained, hquiet, hrelays⟩ :=
      (yields_beginFrame id b).and (relays_beginFrame id b)
    have htold : told gained = [] := told_of_quiet hquiet.quiet
    exact ⟨gained, hgained, htold, hquiet.same.outputs, hquiet.same.claims,
      hrelays.queue_eq htold⟩
  · obtain ⟨gained, hgained, ⟨⟨hmute, houtcome⟩, hreturns, hlocked, hshown⟩, hrelays⟩ :=
      ((yields_endFrame_flips id b).and (yields_endFrame_shows id b)).and (relays_endFrame id b)
    have htold : told gained = [] := told_eq_nil hmute
    have hqueue := hrelays.queue_eq htold
    refine ⟨gained, hgained, htold, hreturns, hlocked, ?_⟩
    rcases houtcome with ⟨e, hr, hsame⟩ | ⟨o, crtc, fb, hr, ho, hc, hsame, hflip⟩
    · refine ⟨hsame.claims, hqueue, fun _ _ => hsame.outputs, fun hok => ?_⟩
      rw [show ((perform (.endFrame id)).run b).1 = .error e from hr] at hok
      contradiction
    · refine ⟨hsame.claims, hqueue, fun e herr => ?_, fun _ => ?_⟩
      · rw [show ((perform (.endFrame id)).run b).1 = .ok () from hr] at herr
        contradiction
      · obtain ⟨hready, o', s, fb', ho', hs, houtputs, hregistered⟩ := hshown hr
        obtain rfl : o = o' := Option.some.inj (ho.symm.trans ho')
        obtain rfl : fb' = fb := by
          have hrecord := (output?_modify_self houtputs ho).symm.trans
            (output?_modify_self hsame.outputs ho)
          simpa [Output.presenting, Output.lastFramebuffer, hs] using
            congrArg Output.lastFramebuffer (Option.some.inj hrecord)
        obtain ⟨-, hagrees⟩ := booked_setUp hstart
        obtain ⟨h, hbooked⟩ := booked_of_ready hstart hready
        have hbooked' : (b.run [.endFrame id]).Booked h := hbooked.run (by simp)
        have halive : s.surface ∈ b.chains.alive :=
          hbooked.accounted.held.mem_iff.1 (mem_heldSurfaces ho hs)
        obtain ⟨buffer, hbuffer, hmem⟩ := hregistered halive
        have howner : b.claims.owner crtc = some id :=
          ((hagrees.run actions).owner crtc id).2 ⟨o, ho, hc⟩
        exact ⟨o, s, crtc, fb', ho, hs, hc, houtputs,
          ⟨buffer, hbuffer, hmem, hbooked'.attached _ hmem⟩, hbooked'.count_lt hmem, howner, hflip⟩

/-- A monitor is lit, its first flip completes, and another frame is presented on its CRTC. -/
theorem second_frame_presented :
    ∃ b₀ : Backend SimulatedDevice.world, setUp (.start oneMonitor.world) = .ok b₀ ∧
      let b := b₀.run [.scan, .commitMode ⟨0⟩ .preferred, .dispatch, .beginFrame ⟨0⟩]
      let ended := b.after (.endFrame ⟨0⟩)
      (b.output? ⟨0⟩).any (!·.flipPending) = true ∧
        ∃ crtc fb, ended.outputs = b.outputs.modify 0 (·.presenting fb) ∧
          b.claims.owner crtc = some ⟨0⟩ ∧
          .call (.kernel (.pageFlip crtc fb)) (.ok ()) ∈ ended.journal := by
  have hrun : (setUp (.start oneMonitor.world)).toOption.any (fun b₀ =>
      let b := b₀.run [.scan, .commitMode ⟨0⟩ .preferred, .dispatch, .beginFrame ⟨0⟩]
      (b.output? ⟨0⟩).any (!·.flipPending) &&
        ((perform (.endFrame ⟨0⟩)).run b).1.isOk) = true := by decide +kernel
  cases hstart : setUp (.start oneMonitor.world) with
  | error cause =>
    rw [hstart] at hrun
    contradiction
  | ok b₀ =>
    rw [hstart] at hrun
    simp only [Except.toOption, Option.any_some, Bool.and_eq_true] at hrun
    obtain ⟨hidle, hok⟩ := hrun
    obtain ⟨-, gained, hgained, -, -, -, -, -, -, hpresented⟩ := presenting_is_all_or_nothing hstart
      [.scan, .commitMode ⟨0⟩ .preferred, .dispatch, .beginFrame ⟨0⟩] ⟨0⟩
    refine ⟨b₀, rfl, hidle, ?_⟩
    generalize b₀.run [.scan, .commitMode ⟨0⟩ .preferred, .dispatch, .beginFrame ⟨0⟩] = b at *
    obtain ⟨o, s, crtc, fb, -, -, -, houtputs, -, -, howner, later, earlier, rfl, -⟩ :=
      hpresented (eq_ok_of_isOk hok)
    exact ⟨crtc, fb, houtputs, howner, by simp [hgained]⟩

end Backend
end Scanout
