import Mathlib.Data.List.Count
import Mathlib.Data.List.Nodup
import Scanout.Proofs.ContextAcquisition
import Scanout.Proofs.ContextHistory

/-!
# One framebuffer per living buffer

A buffer is registered with the kernel when its framebuffer is asked for the first time, and from then
on the framebuffer is that of the buffer, until the swap chain of the buffer is destroyed. As long as
the kernel hands out fresh ids and removes what it is told to, the framebuffers that there are belong
one to one to the buffers that are registered.
-/

namespace Scanout

/-- The entries neither acquire nor release a framebuffer. -/
def SparesFramebuffers (g : List JournalEntry) : Prop :=
  ∀ fb, .framebuffer fb ∉ acquired g ∧ .framebuffer fb ∉ released g

/-- The framebuffer was acquired and not released. -/
def IsLive (g : List JournalEntry) (fb : FramebufferId) : Prop :=
  .framebuffer fb ∈ acquired g ∧ .framebuffer fb ∉ released g

/-- The kernel hands no id out twice, and removes the framebuffers that it is told to. -/
structure ServesFramebuffers (g : List JournalEntry) : Prop where
  fresh : ∀ fb, (acquired g).count (.framebuffer fb) ≤ 1
  removes : refused g = []

section Entries

variable {g g' : List JournalEntry} {fb : FramebufferId}

theorem JournalEntry.IsStill.spares {e : JournalEntry} (h : e.IsStill) (fb : FramebufferId) :
    e.acquired? ≠ some (.framebuffer fb) ∧ e.released? ≠ some (.framebuffer fb) := by
  constructor
  · unfold acquired?
    split <;> first | exact h.elim | simp
  · unfold released?
    split <;> first | exact h.elim | simp

theorem SparesFramebuffers.of_still (h : ∀ e ∈ g, e.IsStill) : SparesFramebuffers g := by
  refine fun fb => ⟨fun hmem => ?_, fun hmem => ?_⟩
  · obtain ⟨e, he, hfb⟩ := List.mem_filterMap.1 hmem
    exact ((h e he).spares fb).1 hfb
  · obtain ⟨e, he, hfb⟩ := List.mem_filterMap.1 hmem
    exact ((h e he).spares fb).2 hfb

theorem Ends.mem_of_released {framebuffers : List FramebufferId} (h : Ends framebuffers g)
    (hfb : .framebuffer fb ∈ released g) : fb ∈ framebuffers := by
  have hbalance := h.balance (.framebuffer fb)
  have hcount := List.count_pos_iff.2 hfb
  rw [h.acquired] at hbalance
  simp only [List.count_nil] at hbalance
  have hmem : Resource.framebuffer fb ∈ framebuffers.map .framebuffer :=
    List.count_pos_iff.1 (by omega)
  simpa using hmem

theorem SparesFramebuffers.of_ends (h : Ends [] g) : SparesFramebuffers g := fun fb =>
  ⟨by rw [h.acquired]; exact List.not_mem_nil, fun hfb => List.not_mem_nil (h.mem_of_released hfb)⟩

theorem SparesFramebuffers.append (h : SparesFramebuffers g) (h' : SparesFramebuffers g') :
    SparesFramebuffers (g' ++ g) := by
  simp [SparesFramebuffers, (h _).1, (h _).2, (h' _).1, (h' _).2]

theorem ServesFramebuffers.earlier (h : ServesFramebuffers (g' ++ g)) : ServesFramebuffers g where
  fresh fb := by
    have hfresh := h.fresh fb
    rw [acquired_append, List.count_append] at hfresh
    omega
  removes := (List.append_eq_nil_iff.1 (refused_append ▸ h.removes)).2

end Entries

/-- While only buffers of surfaces that are there are registered, unlocking ends no registration. -/
theorem SwapChains.InOrder.unlock_keeps {t : SwapChains} (h : t.InOrder) (b : BufferSlot) :
    (t.unlock b).1 = [] ∧ (t.unlock b).2.registered = t.registered := by
  unfold SwapChains.unlock
  dsimp only
  split
  next => exact ⟨rfl, rfl⟩
  next hgone =>
    have hne : ∀ e ∈ t.registered, e.1 ≠ b := by
      rintro e he rfl
      exact hgone (.inl (h.anchored e he))
    refine ⟨List.map_eq_nil_iff.2 (List.filter_eq_nil_iff.2 ?_), List.filter_eq_self.2 ?_⟩
    · exact fun e he => by simpa using hne e he
    · exact fun e he => by simpa using hne e he

theorem SwapChains.mem_of_framebuffer? {t : SwapChains} {b : BufferSlot} {fb : FramebufferId}
    (h : t.framebuffer? b = some fb) : (b, fb) ∈ t.registered := by
  obtain ⟨before, after, heq, -⟩ := List.lookup_eq_some_iff.1 h
  simp [heq]

/-- A buffer that is not registered yet may be. -/
theorem SwapChains.nodup_attach {t : SwapChains} {b : BufferSlot} {fb : FramebufferId}
    (hnone : t.framebuffer? b = none) (h : (t.registered.map Prod.fst).Nodup) :
    ((t.attach b fb).registered.map Prod.fst).Nodup := by
  rw [attach, ((perm_insert b fb t.registered).map Prod.fst).nodup_iff]
  refine List.nodup_cons.2 ⟨fun hmem => ?_, h⟩
  obtain ⟨e, he, hfst⟩ := List.mem_map.1 hmem
  simpa [hfst] using List.lookup_eq_none_iff.1 hnone e he

namespace RenderStep

variable {W : World}

/-- The step concerns only what is there: no surface is destroyed twice, nothing is asked about a
buffer whose surface is gone, and the context is not released. -/
def Concerns (c : RenderContext W) : RenderStep → Prop
  | ask (.destroySurface surface) => surface ∈ c.chains.alive
  | ask .teardown => False
  | scanoutId buffer => buffer.surface ∈ c.chains.alive
  | ask _ | releaseBuffer _ => True

instance (c : RenderContext W) : DecidablePred (Concerns c)
  | ask (.destroySurface surface) => inferInstanceAs (Decidable (surface ∈ c.chains.alive))
  | scanoutId buffer => inferInstanceAs (Decidable (buffer.surface ∈ c.chains.alive))
  | ask .teardown => .isFalse id
  | ask (.createSurface _ _) | ask (.makeCurrent _) | ask (.clear _ _ _) | ask (.swapBuffers _)
  | ask (.lockFrontBuffer _) | releaseBuffer _ => .isTrue trivial

/-- The step keeps every registration as it is, whatever happens. -/
def KeepsRegistered : RenderStep → Prop
  | ask (.destroySurface _) | ask .teardown | scanoutId _ => False
  | ask _ | releaseBuffer _ => True

end RenderStep

namespace RenderContext

variable {W : World}

/-- Each step concerns what is there when it is its turn. -/
def Proper (c : RenderContext W) : List RenderStep → Prop
  | [] => True
  | s :: steps => s.Concerns c ∧ (c.after s).Proper steps

instance : (c : RenderContext W) → DecidablePred c.Proper
  | _, [] => .isTrue trivial
  | c, s :: steps =>
    have := instDecidablePredListRenderStepProper (c.after s) steps
    inferInstanceAs (Decidable (s.Concerns c ∧ (c.after s).Proper steps))

/-- What a step does to the registrations. -/
inductive Registers (c : RenderContext W) :
    RenderStep → List JournalEntry → RenderContext W → Prop where
  | kept {s g c'} (hs : s.KeepsRegistered) (hspares : SparesFramebuffers g)
      (hregistered : c'.chains.registered = c.chains.registered) : Registers c s g c'
  | asked {b r g c'} (h : Registering c b r g c') : Registers c (.scanoutId b) g c'
  | ended {surface g c'} (hacquired : ∀ fb, .framebuffer fb ∉ acquired g)
      (hreleased : ∀ fb, .framebuffer fb ∈ released g →
        ∃ b, b.surface = surface ∧ (b, fb) ∈ c.chains.registered)
      (hchains : c'.chains = (c.chains.destroy surface).2) :
      Registers c (.ask (.destroySurface surface)) g c'

/-- The handles are there, no buffer is registered twice, and the journal accounts for what there is. -/
structure Cached (h : ContextHandles) (c : RenderContext W) : Prop where
  handles : c.handles = some h
  inOrder : c.chains.InOrder
  slots : (c.chains.registered.map Prod.fst).Nodup
  balance : Balances c.journal [] (h.resources ++ c.chains.resources)

variable {c c' : RenderContext W} {g : List JournalEntry} {h : ContextHandles} {s : RenderStep}
  {steps : List RenderStep} {b b' : BufferSlot} {fb fb' : FramebufferId}

theorem Registers.of_idle (hs : s.KeepsRegistered) (hidle : Idle c g c') : Registers c s g c' :=
  .kept hs (.of_still hidle.still) (congrArg SwapChains.registered hidle.chains)

/-- Handing a buffer back ends no registration. -/
theorem registers_releaseBuffer (horder : c.chains.InOrder) (buffer : BufferSlot) :
    Yields (releaseBuffer buffer) c fun _ g c' => Registers c (.releaseBuffer buffer) g c' := by
  have hcall : Always Idle (gpu (.releaseBuffer buffer) : RenderM W Unit) :=
    idle_call fun _ => trivial
  refine (hcall c).bind fun _ g₁ c₁ h₁ => (yields_updateEnded (·.unlock buffer) c₁).mono ?_
  rintro _ g₂ c₂ ⟨hends, -, hchains⟩
  obtain ⟨hnone, hsame⟩ := horder.unlock_keeps buffer
  rw [h₁.chains] at hends hchains
  rw [hnone] at hends
  refine .kept trivial (.append (.of_still h₁.still) (.of_ends hends)) ?_
  rw [hchains, hsame]

theorem registers_destroySurface (hh : c.handles = some h) (surface : SurfaceId) :
    Yields (destroySurface surface) c fun _ g c' =>
      Registers c (.ask (.destroySurface surface)) g c' := by
  refine Yields.get_bind ?_
  rw [hh]
  refine Yields.bind (idle_endSurface h surface c) (f := fun _ => updateChains (·.destroy surface)) ?_
  intro _ g₁ c₁ h₁
  refine (yields_updateEnded (·.destroy surface) c₁).mono ?_
  rintro _ g₂ c₂ ⟨hends, -, hchains⟩
  have hspares := SparesFramebuffers.of_still h₁.still
  rw [h₁.chains] at hends hchains
  refine .ended (fun fb hfb => ?_) (fun fb hfb => ?_) hchains
  · rw [acquired_append, hends.acquired, List.nil_append] at hfb
    exact (hspares fb).1 hfb
  · rw [released_append] at hfb
    have hended := hends.mem_of_released ((List.mem_append.1 hfb).resolve_right (hspares fb).2)
    obtain ⟨e, he, rfl⟩ := List.mem_map.1 hended
    obtain ⟨he, hsurface⟩ := List.mem_filter.1 he
    exact ⟨e.1, of_decide_eq_true hsurface, he⟩

/-- A step keeps the books, and changes the registrations as it should. -/
theorem Cached.perform (hc : Cached h c) (hs : s.Concerns c) :
    Yields (perform s).run c fun _ g c' => Settles c g c' ∧ Registers c s g c' := by
  cases s with
  | ask a =>
    cases a with
    | createSurface width height =>
      refine ((yields_createSurface_settles width height c).and
        (yields_createSurface_chains width height c)).mono ?_
      rintro r g c' ⟨⟨hsettles, -⟩, hstill, hchains⟩
      refine ⟨hsettles, .kept trivial (.of_still hstill) ?_⟩
      cases r with
      | ok s => exact (congrArg SwapChains.registered hchains.2).trans rfl
      | error _ => exact congrArg SwapChains.registered hchains
    | makeCurrent surface =>
      exact ((upkeep_makeCurrent surface c).and (idle_makeCurrent surface c)).mono fun _ _ _ h' =>
        ⟨h'.1.toSettles, .of_idle trivial h'.2⟩
    | clear width height colour =>
      exact .lift (((upkeep_clear width height colour c).and (idle_clear width height colour c)).mono
        fun _ _ _ h' => ⟨h'.1.toSettles, .of_idle trivial h'.2⟩)
    | swapBuffers surface =>
      exact ((upkeep_swapBuffers surface c).and (idle_swapBuffers surface c)).mono fun _ _ _ h' =>
        ⟨h'.1.toSettles, .of_idle trivial h'.2⟩
    | lockFrontBuffer surface =>
      refine ((upkeep_lockFrontBuffer surface c).and (yields_lockFrontBuffer_chains surface c)).mono ?_
      rintro r g c' ⟨hupkeep, hstill, hchains⟩
      refine ⟨hupkeep.toSettles, .kept trivial (.of_still hstill) ?_⟩
      cases r with
      | ok buffer => exact (congrArg SwapChains.registered hchains.2).trans rfl
      | error _ => exact congrArg SwapChains.registered hchains
    | destroySurface surface =>
      exact .lift (((yields_destroySurface_settles hc.handles hc.inOrder hs).and
        (registers_destroySurface hc.handles surface)).mono fun _ _ _ h' => ⟨h'.1.1, h'.2⟩)
    | teardown => exact hs.elim
  | scanoutId buffer =>
    exact ((yields_scanoutId_upkeep hs).and (yields_scanoutId buffer c)).mono fun _ _ _ h' =>
      ⟨h'.1.toSettles, .asked h'.2⟩
  | releaseBuffer buffer =>
    exact .lift (((upkeep_releaseBuffer buffer c).and
      (registers_releaseBuffer hc.inOrder buffer)).mono fun _ _ _ h' => ⟨h'.1.toSettles, h'.2⟩)

theorem Registers.slots (hregisters : Registers c s g c')
    (hslots : (c.chains.registered.map Prod.fst).Nodup) :
    (c'.chains.registered.map Prod.fst).Nodup := by
  cases hregisters with
  | kept _ _ hregistered => rwa [hregistered]
  | asked h =>
    cases h with
    | cached => exact hslots
    | unmeasured _ _ hchains | unregistered _ _ hchains | rejected _ _ hchains => rwa [hchains]
    | registered hnone _ hchains => exact hchains ▸ SwapChains.nodup_attach hnone hslots
  | ended _ _ hchains =>
    rw [hchains]
    exact hslots.sublist (List.filter_sublist.map _)

/-- After a step everything is accounted for again. -/
theorem Cached.after (hc : Cached h c) (hs : s.Concerns c) :
    Cached h (c.after s) ∧ ∃ g, (c.after s).journal = g ++ c.journal ∧ Settles c g (c.after s) ∧
      Registers c s g (c.after s) := by
  obtain ⟨g, hg, hsettles, hregisters⟩ := hc.perform hs
  refine ⟨?_, g, hg, hsettles, hregisters⟩
  exact
    { handles := hsettles.handles.trans hc.handles
      inOrder := hsettles.inOrder hc.inOrder
      slots := hregisters.slots hc.slots
      balance := by
        show Balances ((c.after s).journal) _ _
        rw [show (c.after s).journal = g ++ c.journal from hg]
        refine hc.balance.trans ?_
        exact (hsettles.balance.frame h.resources).congr List.perm_append_comm List.perm_append_comm }

theorem cached_setUp {w : W.State} (hstart : setUp (.start w) = .ok c) : ∃ h, Cached h c := by
  obtain ⟨g, hg, hacquiring⟩ := yields_acquire (Session.start w)
  unfold setUp at hstart
  generalize acquire.run (Session.start w) = acquiring at hstart hg hacquiring
  obtain ⟨_ | h, s⟩ := acquiring
  · cases hstart
  · obtain rfl : ofHandles s h = c := Except.ok.inj hstart
    obtain rfl : s.journal = g := hg.trans (List.append_nil g)
    obtain ⟨-, ⟨hacquired, hreleased, hrefused⟩, -⟩ := hacquiring
    refine ⟨h, rfl, SwapChains.inOrder_empty, List.nodup_nil, fun r => ?_⟩
    show (acquired s.journal).count r + 0 =
      (released s.journal).count r + (refused s.journal).count r + (h.resources ++ []).count r
    rw [hacquired, hreleased, hrefused]
    simp

theorem proper_append {c : RenderContext W} {first second : List RenderStep} :
    c.Proper (first ++ second) ↔ c.Proper first ∧ (c.run first).Proper second := by
  induction first generalizing c with
  | nil => simp [Proper]
  | cons s first ih => simp [Proper, ih, and_assoc]

theorem Cached.run (hc : Cached h c) (hsteps : c.Proper steps) :
    Cached h (c.run steps) ∧ ∃ g, (c.run steps).journal = g ++ c.journal := by
  induction steps generalizing c with
  | nil => exact ⟨hc, [], rfl⟩
  | cons s steps ih =>
    obtain ⟨hc₁, g, hg, -⟩ := hc.after hsteps.1
    obtain ⟨hc', g', hg'⟩ := ih hc₁ hsteps.2
    exact ⟨hc', g' ++ g, by rw [run_cons, hg', hg, List.append_assoc]⟩

theorem Cached.serves_of_run (hc : Cached h c) (hsteps : c.Proper steps)
    (hserves : ServesFramebuffers (c.run steps).journal) : ServesFramebuffers c.journal := by
  obtain ⟨g, hg⟩ := (hc.run hsteps).2
  exact .earlier (hg ▸ hserves)

/-- What each step keeps as long as the kernel serves, a history keeps. -/
theorem Cached.run_keeps {P : RenderContext W → Prop}
    (hstep : ∀ c s, Cached h c → s.Concerns c → ServesFramebuffers (c.after s).journal → P c →
      P (c.after s))
    (hc : Cached h c) (hsteps : c.Proper steps) (hserves : ServesFramebuffers (c.run steps).journal)
    (hP : P c) : P (c.run steps) := by
  induction steps generalizing c with
  | nil => exact hP
  | cons s steps ih =>
    have hc₁ := (hc.after hsteps.1).1
    exact ih hc₁ hsteps.2 hserves (hstep c s hc hsteps.1 (hc₁.serves_of_run hsteps.2 hserves) hP)

section Books

variable (hc : Cached h c) (hserves : ServesFramebuffers c.journal)
include hc hserves

/-- The journal accounts for the framebuffers that are registered. -/
theorem Cached.count (fb : FramebufferId) :
    (acquired c.journal).count (.framebuffer fb) =
      (released c.journal).count (.framebuffer fb) + c.chains.framebuffers.count fb := by
  have hbalance := hc.balance (.framebuffer fb)
  have hhandles : h.resources.count (.framebuffer fb) = 0 := by simp [ContextHandles.resources]
  have hsurfaces : (c.chains.alive.map Resource.surface).count (.framebuffer fb) = 0 := by
    simp [List.count_eq_zero]
  have hframebuffers : (c.chains.framebuffers.map Resource.framebuffer).count (.framebuffer fb) =
      c.chains.framebuffers.count fb :=
    List.count_map_of_injective _ _ (fun _ _ => Resource.framebuffer.inj) _
  rw [hserves.removes, SwapChains.resources] at hbalance
  simp only [List.count_append, List.count_nil] at hbalance
  omega

theorem Cached.released_once (fb : FramebufferId) :
    (released c.journal).count (.framebuffer fb) ≤ 1 := by
  have hcount := hc.count hserves fb
  have hfresh := hserves.fresh fb
  omega

theorem Cached.isLive_iff (fb : FramebufferId) :
    IsLive c.journal fb ↔ fb ∈ c.chains.framebuffers := by
  have hcount := hc.count hserves fb
  have hfresh := hserves.fresh fb
  rw [IsLive, ← List.count_pos_iff, ← List.count_eq_zero, ← List.count_pos_iff]
  omega

/-- No two buffers are registered as the same framebuffer. -/
theorem Cached.injective (hb : (b, fb) ∈ c.chains.registered) (hb' : (b', fb) ∈ c.chains.registered) :
    b = b' := by
  have hnodup : c.chains.framebuffers.Nodup := List.nodup_iff_count_le_one.2 fun fb => by
    have hcount := hc.count hserves fb
    have hfresh := hserves.fresh fb
    omega
  exact congrArg Prod.fst (List.inj_on_of_nodup_map hnodup hb hb' rfl)

end Books

theorem Cached.framebuffer?_eq_some_iff (hc : Cached h c) :
    c.chains.framebuffer? b = some fb ↔ (b, fb) ∈ c.chains.registered := by
  refine ⟨SwapChains.mem_of_framebuffer?, fun hb => ?_⟩
  obtain ⟨before, after, heq⟩ := List.append_of_mem hb
  have hslots := hc.slots
  rw [heq, List.map_append, List.nodup_append] at hslots
  refine List.lookup_eq_some_iff.2 ⟨before, after, heq, fun e he => ?_⟩
  simpa using (hslots.2.2 e.1 (List.mem_map_of_mem he) b (by simp)).symm

/-- The framebuffer is that of the buffer and of no other, and the buffer keeps it until its surface
is gone. -/
structure Owns (b : BufferSlot) (fb : FramebufferId) (c : RenderContext W) : Prop where
  acquired : .framebuffer fb ∈ acquired c.journal
  numbered : b.surface.number ≤ c.chains.created
  sole : ∀ b', (b', fb) ∈ c.chains.registered → b' = b
  there : b.surface ∈ c.chains.alive → (b, fb) ∈ c.chains.registered

theorem Cached.owns (hc : Cached h c) (hserves : ServesFramebuffers c.journal)
    (hb : (b, fb) ∈ c.chains.registered) : Owns b fb c where
  acquired := ((hc.isLive_iff hserves fb).2 (List.mem_map_of_mem hb)).1
  numbered := hc.inOrder.numbered _ (hc.inOrder.anchored _ hb)
  sole _ hb' := hc.injective hserves hb' hb
  there _ := hb

/-- A surface that was created earlier does not come back. -/
theorem Settles.alive_of_alive {σ : SurfaceId} (hsettles : Settles c g c')
    (hσ : σ.number ≤ c.chains.created) (halive : σ ∈ c'.chains.alive) : σ ∈ c.chains.alive := by
  have hbalance := hsettles.balance (.surface σ)
  have hfresh := hsettles.fresh σ
  have hthere : .surface σ ∈ c'.chains.resources := List.mem_append_left _ (List.mem_map_of_mem halive)
  have hcount := List.count_pos_iff.2 hthere
  rw [if_neg (by omega)] at hfresh
  have hbefore : .surface σ ∈ c.chains.resources := List.count_pos_iff.1 (by omega)
  simpa [SwapChains.resources] using hbefore

theorem Registers.mem_registered (hregisters : Registers c s g c')
    (hb : (b, fb) ∈ c'.chains.registered) :
    (b, fb) ∈ c.chains.registered ∨ .framebuffer fb ∈ acquired g := by
  cases hregisters with
  | kept _ _ hregistered => exact .inl (hregistered ▸ hb)
  | asked h =>
    cases h with
    | cached => exact .inl hb
    | unmeasured _ _ hchains | unregistered _ _ hchains | rejected _ _ hchains =>
      exact .inl (hchains ▸ hb)
    | registered _ _ hchains =>
      rw [hchains] at hb
      rcases SwapChains.mem_insert.1 hb with heq | hb
      · cases heq
        exact .inr (by simp [acquired, JournalEntry.acquired?, Except.toOption])
      · exact .inl hb
  | ended _ _ hchains =>
    rw [hchains] at hb
    exact .inl (List.mem_filter.1 hb).1

/-- A buffer stays registered as long as its surface is there. -/
theorem Registers.registered_mem (hregisters : Registers c s g c')
    (hb : (b, fb) ∈ c.chains.registered) (halive : b.surface ∈ c'.chains.alive) :
    (b, fb) ∈ c'.chains.registered := by
  cases hregisters with
  | kept _ _ hregistered => exact hregistered ▸ hb
  | asked h =>
    cases h with
    | cached => exact hb
    | unmeasured _ _ hchains | unregistered _ _ hchains | rejected _ _ hchains => exact hchains ▸ hb
    | registered _ _ hchains =>
      rw [hchains]
      exact SwapChains.mem_insert.2 (.inr hb)
  | @ended surface _ _ _ _ hchains =>
    rw [hchains] at halive ⊢
    have hne : b.surface ≠ surface := by simpa using (List.mem_filter.1 halive).2
    exact List.mem_filter.2 ⟨hb, by simpa using hne⟩

theorem Owns.after (ho : Owns b fb c) (hc : Cached h c) (hs : s.Concerns c)
    (hserves : ServesFramebuffers (c.after s).journal) : Owns b fb (c.after s) := by
  obtain ⟨-, g, hg, hsettles, hregisters⟩ := hc.after hs
  have hfresh := hserves.fresh fb
  have hcount := List.count_pos_iff.2 ho.acquired
  refine ⟨?_, Nat.le_trans ho.numbered hsettles.created, fun b' hb' => ?_, fun halive => ?_⟩
  · rw [hg, acquired_append]
    exact List.mem_append_right _ ho.acquired
  · rcases hregisters.mem_registered hb' with hb' | hagain
    · exact ho.sole b' hb'
    · have hcount' := List.count_pos_iff.2 hagain
      rw [hg, acquired_append, List.count_append] at hfresh
      omega
  · exact hregisters.registered_mem
      (ho.there (hsettles.alive_of_alive ho.numbered halive)) halive

/-- What a step may do to the framebuffers, and what it leaves as it is. -/
structure Conducts (c : RenderContext W) (s : RenderStep) : Prop where
  /-- A registration lasts as long as the swap chain of the buffer. -/
  kept : ∀ b fb, c.chains.framebuffer? b = some fb → b.surface ∈ (c.after s).chains.alive →
    (c.after s).chains.framebuffer? b = some fb
  /-- A swap chain that is destroyed leaves no registration. -/
  ended : ∀ surface, s = .ask (.destroySurface surface) → ∀ b fb,
    (c.after s).chains.framebuffer? b = some fb → b.surface ≠ surface
  /-- A framebuffer goes with the swap chain of its buffer, or because it could not be attached. -/
  released : ∀ g, (c.after s).journal = g ++ c.journal → ∀ fb, .framebuffer fb ∈ released g →
    (∃ b, s = .ask (.destroySurface b.surface) ∧ c.chains.framebuffer? b = some fb) ∨
      ∃ b cause, s = .scanoutId b ∧ .call (.gpu (.attach b fb)) (.error cause) ∈ g
  /-- Handing a buffer back ends nothing. -/
  handedBack : ∀ b, s = .releaseBuffer b →
    (c.after s).chains.registered = c.chains.registered ∧
      ∀ fb, IsLive (c.after s).journal fb ↔ IsLive c.journal fb
  /-- A buffer that is registered is not asked about again. -/
  cached : ∀ b fb, c.chains.framebuffer? b = some fb → (scanoutId b).run c = (.ok fb, c)
  /-- What fails has changed nothing. -/
  failed : ∀ b cause, s = .scanoutId b → ((scanoutId b).run c).1 = .error cause →
    (c.after s).chains = c.chains ∧ ∀ fb, IsLive (c.after s).journal fb ↔ IsLive c.journal fb

theorem scanoutId_of_cached (hb : c.chains.framebuffer? b = some fb) :
    (scanoutId b).run c = (.ok fb, c) := by
  obtain ⟨g, -, h⟩ := yields_scanoutId b c
  generalize (scanoutId b).run c = answer at h ⊢
  obtain ⟨r, c'⟩ := answer
  cases h with
  | cached hfb => rw [Option.some.inj (hb.symm.trans hfb)]
  | unmeasured hnone | unregistered hnone | rejected hnone | registered hnone =>
    rw [hb] at hnone
    contradiction

/-- A buffer that was asked about with success is registered. -/
theorem Registering.mem_of_ok (h : Registering c b (.ok fb) g c') :
    (b, fb) ∈ c'.chains.registered := by
  cases h with
  | cached hb => exact SwapChains.mem_of_framebuffer? hb
  | registered _ _ hchains =>
    rw [hchains]
    exact SwapChains.mem_insert.2 (.inl rfl)

theorem Registering.chains_of_error {cause : RenderError} (h : Registering c b (.error cause) g c') :
    c'.chains = c.chains := by
  cases h <;> assumption

theorem Cached.isLive_congr (hc : Cached h c) (hc' : Cached h c')
    (hserves : ServesFramebuffers c.journal) (hserves' : ServesFramebuffers c'.journal)
    (hregistered : c'.chains.registered = c.chains.registered) (fb : FramebufferId) :
    IsLive c'.journal fb ↔ IsLive c.journal fb := by
  rw [hc'.isLive_iff hserves', hc.isLive_iff hserves, SwapChains.framebuffers, hregistered]
  rfl

/-- A framebuffer that is released is not needed any more. -/
theorem Registers.reason_of_released (hregisters : Registers c s g c')
    (hfb : .framebuffer fb ∈ released g) :
    (∃ b, s = .ask (.destroySurface b.surface) ∧ (b, fb) ∈ c.chains.registered) ∨
      ∃ b cause, s = .scanoutId b ∧ .call (.gpu (.attach b fb)) (.error cause) ∈ g := by
  cases hregisters with
  | kept _ hspares => exact absurd hfb (hspares fb).2
  | asked h =>
    cases h with
    | cached | unmeasured | unregistered | registered => contradiction
    | @rejected geometry fb₁ cause answer =>
      have hremoved : fb = fb₁ := by
        cases answer <;> simp [released, JournalEntry.released?, Except.toOption] at hfb
        exact hfb
      exact .inr ⟨_, cause, rfl, by simp [hremoved]⟩
  | ended _ hreleased =>
    obtain ⟨b, rfl, hb⟩ := hreleased fb hfb
    exact .inl ⟨b, rfl, hb⟩

theorem Cached.conducts (hc : Cached h c) (hs : s.Concerns c)
    (hserves : ServesFramebuffers (c.after s).journal) : Conducts c s := by
  obtain ⟨hc', g, hg, hsettles, hregisters⟩ := hc.after hs
  have hearlier : ServesFramebuffers c.journal := .earlier (hg ▸ hserves)
  exact
    { kept := fun b fb hb halive => hc'.framebuffer?_eq_some_iff.2
        (hregisters.registered_mem (hc.framebuffer?_eq_some_iff.1 hb) halive)
      ended := by
        rintro surface rfl b fb hb rfl
        cases hregisters with
        | kept hs => exact hs.elim
        | ended _ _ hchains =>
          have hmem := SwapChains.mem_of_framebuffer? hb
          rw [hchains] at hmem
          simpa using (List.mem_filter.1 hmem).2
      released := fun g' hg' fb hfb => by
        obtain rfl : g' = g := List.append_cancel_right (hg'.symm.trans hg)
        simp only [hc.framebuffer?_eq_some_iff]
        exact hregisters.reason_of_released hfb
      handedBack := by
        rintro b rfl
        cases hregisters with
        | kept _ _ hregistered =>
          exact ⟨hregistered, hc.isLive_congr hc' hearlier hserves hregistered⟩
      cached := fun b fb => scanoutId_of_cached
      failed := by
        rintro b cause rfl hfailed
        obtain ⟨g', -, hregistering⟩ := yields_scanoutId b c
        rw [hfailed] at hregistering
        have hchains := hregistering.chains_of_error
        exact ⟨hchains, hc.isLive_congr hc' hearlier hserves (congrArg _ hchains)⟩ }

theorem registered_after_ok (hfb : ((scanoutId b).run c).1 = .ok fb) :
    (b, fb) ∈ (c.after (.scanoutId b)).chains.registered := by
  obtain ⟨g, -, hregistering⟩ := yields_scanoutId b c
  rw [hfb] at hregistering
  exact hregistering.mem_of_ok

/-- Asking again about the owner of a framebuffer takes no call, and another buffer has another one. -/
theorem Owns.answer_iff (ho : Owns b fb c) (hc : Cached h c)
    (hb' : (RenderStep.scanoutId b').Concerns c)
    (hserves : ServesFramebuffers (c.after (.scanoutId b')).journal)
    (hfb' : ((scanoutId b').run c).1 = .ok fb') :
    (b = b' ↔ fb = fb') ∧ (b = b' → c.after (.scanoutId b') = c) := by
  have hcached (heq : b = b') : (scanoutId b').run c = (.ok fb, c) :=
    scanoutId_of_cached (hc.framebuffer?_eq_some_iff.2 (heq ▸ ho.there (heq ▸ hb')))
  refine ⟨⟨fun heq => ?_, fun heq => ?_⟩, fun heq => congrArg Prod.snd (hcached heq)⟩
  · rw [hcached heq] at hfb'
    exact Except.ok.inj hfb'
  · subst heq
    exact ((ho.after hc hb' hserves).sole b' (registered_after_ok hfb')).symm

/-- As long as the kernel hands out fresh ids and removes what it is told to, whatever else fails and
in whatever order surfaces and buffers are used, the framebuffers that there are are those of the
registered buffers, one for each. None is removed twice, and each goes only with the swap chain of its
buffer or when it could not be attached; otherwise handing buffers back and failures change nothing.
Two successful questions about one buffer have the same answer, the second one without a call, and
questions about two buffers have different ones. -/
theorem one_framebuffer_per_buffer {w : W.State} {c₀ : RenderContext W}
    (hstart : setUp (.start w) = .ok c₀) {steps : List RenderStep} (hsteps : c₀.Proper steps)
    (hserves : ServesFramebuffers (c₀.run steps).journal) :
    (∀ fb, IsLive (c₀.run steps).journal fb ↔
      ∃ b, (c₀.run steps).chains.framebuffer? b = some fb) ∧
    (∀ b b' fb, (c₀.run steps).chains.framebuffer? b = some fb →
      (c₀.run steps).chains.framebuffer? b' = some fb → b = b') ∧
    (∀ fb, (released (c₀.run steps).journal).count (.framebuffer fb) ≤ 1) ∧
    (∀ first s rest, steps = first ++ s :: rest → (c₀.run first).Conducts s) ∧
    ∀ first b second b' rest fb fb',
      steps = first ++ .scanoutId b :: (second ++ .scanoutId b' :: rest) →
      ((scanoutId b).run (c₀.run first)).1 = .ok fb →
      ((scanoutId b').run (c₀.run (first ++ .scanoutId b :: second))).1 = .ok fb' →
      (b = b' ↔ fb = fb') ∧
        (b = b' → (c₀.run (first ++ .scanoutId b :: second)).after (.scanoutId b') =
          c₀.run (first ++ .scanoutId b :: second)) := by
  obtain ⟨h, hc₀⟩ := cached_setUp hstart
  have hc := (hc₀.run hsteps).1
  refine ⟨fun fb => ?_, fun b b' fb hb hb' => ?_, hc.released_once hserves, ?_, ?_⟩
  · simp [hc.isLive_iff hserves, hc.framebuffer?_eq_some_iff, SwapChains.framebuffers]
  · exact hc.injective hserves (hc.framebuffer?_eq_some_iff.1 hb) (hc.framebuffer?_eq_some_iff.1 hb')
  · rintro first s rest rfl
    obtain ⟨hfirst, hs, hrest⟩ := proper_append.1 hsteps
    have hc₁ := (hc₀.run hfirst).1
    refine hc₁.conducts hs ((hc₁.after hs).1.serves_of_run hrest ?_)
    rwa [run_append] at hserves
  · rintro first b second b' rest fb fb' rfl hfb hfb'
    obtain ⟨hfirst, hb, hrest⟩ := proper_append.1 hsteps
    obtain ⟨hsecond, hanswer⟩ := proper_append.1 hrest
    have hc₁ := (hc₀.run hfirst).1
    have hc₂ := (hc₁.after hb).1
    have hc₃ := (hc₂.run hsecond).1
    rw [run_append, run_cons] at hserves hfb' ⊢
    have hserves₂ := hc₂.serves_of_run hrest hserves
    rw [run_append] at hserves
    have hserves₃ := hc₃.serves_of_run hanswer hserves
    have hserves₄ := (hc₃.after hanswer.1).1.serves_of_run hanswer.2 hserves
    have howns : Owns b fb _ := hc₂.run_keeps (fun c s hc hs hserves ho => ho.after hc hs hserves)
      hsecond hserves₃ (hc₂.owns hserves₂ (registered_after_ok hfb))
    exact howns.answer_iff hc₃ hanswer.1 hserves₄ hfb'

private theorem ok_of_toOption {ε α : Type} {r : Except ε α} {a : α} (h : r.toOption = some a) :
    r = .ok a := by
  cases r with
  | ok _ => exact congrArg Except.ok (Option.some.inj h)
  | error _ => contradiction

/-- Two surfaces are used in turn, and then the first one is destroyed: the framebuffer of the other one
is left, and the first buffer was asked about twice and registered once. -/
theorem one_framebuffer_per_buffer_of_two :
    let first : List RenderStep := [.ask (.createSurface 640 480), .ask (.createSurface 800 600),
      .ask (.lockFrontBuffer ⟨1⟩)]
    let second : List RenderStep := [.releaseBuffer ⟨⟨1⟩, 0⟩, .ask (.lockFrontBuffer ⟨2⟩),
      .scanoutId ⟨⟨2⟩, 0⟩, .releaseBuffer ⟨⟨2⟩, 0⟩]
    let steps := first ++ .scanoutId ⟨⟨1⟩, 0⟩ ::
      (second ++ .scanoutId ⟨⟨1⟩, 0⟩ :: [.ask (.destroySurface ⟨1⟩)])
    ∃ c₀ : RenderContext SimulatedDevice.world, setUp (.start plainDevice) = .ok c₀ ∧
      c₀.Proper steps ∧ ServesFramebuffers (c₀.run steps).journal ∧
        IsLive (c₀.run steps).journal ⟨101⟩ ∧ ¬IsLive (c₀.run steps).journal ⟨100⟩ ∧
        (c₀.run (first ++ .scanoutId ⟨⟨1⟩, 0⟩ :: second)).after (.scanoutId ⟨⟨1⟩, 0⟩) =
          c₀.run (first ++ .scanoutId ⟨⟨1⟩, 0⟩ :: second) := by
  intro first second steps
  have hrun : (setUp (.start plainDevice : Session SimulatedDevice.world)).toOption.any
      (fun c₀ => decide (c₀.Proper steps ∧
      (acquired (c₀.run steps).journal).Nodup ∧ refused (c₀.run steps).journal = [] ∧
      (c₀.run steps).chains.registered = [(⟨⟨2⟩, 0⟩, ⟨101⟩)] ∧
      ((scanoutId ⟨⟨1⟩, 0⟩).run (c₀.run first)).1.toOption = some ⟨100⟩ ∧
      ((scanoutId ⟨⟨1⟩, 0⟩).run (c₀.run (first ++ .scanoutId ⟨⟨1⟩, 0⟩ :: second))).1.toOption =
        some ⟨100⟩)) = true := by
    decide +kernel
  cases hstart : setUp (.start plainDevice : Session SimulatedDevice.world) with
  | error cause =>
    rw [hstart] at hrun
    contradiction
  | ok c₀ =>
    rw [hstart] at hrun
    obtain ⟨hsteps, hfresh, hremoves, hregistered, hfb, hfb'⟩ := of_decide_eq_true hrun
    have hserves : ServesFramebuffers (c₀.run steps).journal :=
      ⟨fun fb => List.nodup_iff_count_le_one.1 hfresh _, hremoves⟩
    obtain ⟨hlive, -, -, -, hanswers⟩ := one_framebuffer_per_buffer hstart hsteps hserves
    refine ⟨c₀, rfl, hsteps, hserves, ?_, ?_, ?_⟩
    · exact (hlive ⟨101⟩).2 ⟨⟨⟨2⟩, 0⟩, by rw [SwapChains.framebuffer?, hregistered]; rfl⟩
    · rw [hlive]
      rintro ⟨b, hb⟩
      have hmem := SwapChains.mem_of_framebuffer? hb
      rw [hregistered] at hmem
      simp at hmem
    · exact (hanswers first _ second _ _ ⟨100⟩ ⟨100⟩ rfl (ok_of_toOption hfb) (ok_of_toOption hfb')).2 rfl

end RenderContext
end Scanout
