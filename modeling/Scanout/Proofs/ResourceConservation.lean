import Scanout.Proofs.ContextAcquisition
import Scanout.Proofs.DeviceShutdown
import Scanout.Proofs.SurfaceAccounts

/-!
# Nothing is leaked and nothing released twice

What is acquired in a session is accounted for from the beginning to the end: it is there, or it was
released, or the kernel refused to remove it. When the device goes, every surface goes before the
context that it was created in.
-/

namespace Scanout
namespace Backend

variable {W : World} {b b' : Backend W} {g : List JournalEntry} {h : ContextHandles}

/-- The journal accounts for what there is, from the beginning of the session on. Only outputs have
given something up so far. -/
structure Booked (h : ContextHandles) (b : Backend W) : Prop where
  handles : b.handles = some h
  accounted : b.Accounted []
  balance : Balances b.journal [] (h.resources ++ b.chains.resources)
  fresh : ∀ s, (acquired b.journal).count (.surface s) =
    if 0 < s.number ∧ s.number ≤ b.chains.created then 1 else 0
  outputs : ∀ r ∈ released b.journal, r.OfOutputs
  attached : ∀ e ∈ b.chains.registered, .call (.gpu (.attach e.1 e.2)) (.ok ()) ∈ b.journal

theorem booked_setUp {w : W.State} (hstart : setUp (.start w) = .ok b) :
    (∃ h, b.Booked h) ∧ b.Agrees := by
  obtain ⟨g, hg, hacquiring⟩ := RenderContext.yields_acquire (Session.start w)
  unfold setUp RenderContext.setUp at hstart
  generalize RenderContext.acquire.run (Session.start w) = acquiring at hstart hg hacquiring
  obtain ⟨h | handles, s⟩ := acquiring
  · cases hstart
  · obtain rfl : new (.ofHandles s handles) = b := Except.ok.inj hstart
    have hjournal : s.journal = g := hg.trans (List.append_nil g)
    obtain ⟨-, ⟨hacquired, hreleased, hrefused⟩, -⟩ := hacquiring
    refine ⟨⟨handles, ?_⟩, .new _⟩
    exact
      { handles := rfl
        accounted := ⟨rfl, SwapChains.inOrder_empty, .refl _⟩
        balance := fun r => by
          show (acquired s.journal).count r + 0 = (released s.journal).count r +
            (refused s.journal).count r + (handles.resources ++ []).count r
          rw [hjournal, hacquired, hreleased, hrefused]
          simp
        fresh := fun surface => by
          show (acquired s.journal).count _ =
            if 0 < surface.number ∧ surface.number ≤ 0 then 1 else 0
          rw [hjournal, hacquired, if_neg (by omega)]
          simp [ContextHandles.resources]
        outputs := fun r hr => by
          rw [show (new (.ofHandles s handles)).journal = g from hjournal, hreleased] at hr
          contradiction
        attached := fun _ => nofun }

theorem Booked.settled (hb : b.Booked h) (hjournal : b'.journal = g ++ b.journal)
    (hsettled : Settled b g b') (hb' : b'.Accounted []) : b'.Booked h where
  handles := hsettled.handles.trans hb.handles
  accounted := hb'
  balance r := by
    have hbefore := hb.balance r
    have hsince := hsettled.balance r
    simp only [hjournal, acquired_append, released_append, refused_append,
      List.count_append] at hbefore ⊢
    omega
  fresh s := by
    have hbefore := hb.fresh s
    have hsince := hsettled.fresh s
    have hcreated := hsettled.created
    rw [hjournal, acquired_append, List.count_append, hbefore, hsince]
    split <;> split <;> split <;> omega
  outputs r hr := by
    rw [hjournal, released_append] at hr
    exact (List.mem_append.1 hr).elim (hsettled.outputs r) (hb.outputs r)
  attached e he := by
    rw [hjournal]
    rcases hsettled.attached e he with he | he
    · exact List.mem_append_right _ (hb.attached e he)
    · exact List.mem_append_left _ he

theorem Booked.run (hb : b.Booked h) {actions : List BackendAction}
    (hkept : ∀ a ∈ actions, a ≠ .teardownRenderer) : (b.run actions).Booked h := by
  obtain ⟨g, hg, hsettled, hb'⟩ :=
    run_leads (fun a ha => accounting_perform (hkept a ha)) hb.accounted
  exact hb.settled hg hsettled hb'

/-- A surface that is booked was acquired once. -/
theorem Booked.count_le_one (hb : b.Booked h) (s : SurfaceId) :
    (acquired b.journal).count (.surface s) ≤ 1 := by
  rw [hb.fresh]
  split <;> omega

/-- Where no surface is left, each that was created was released once. -/
theorem Booked.released_once (hb : b.Booked h) (hnothing : b.chains.resources = []) {s : SurfaceId}
    (hs : .surface s ∈ acquired b.journal) :
    (acquired b.journal).count (.surface s) = 1 ∧ (released b.journal).count (.surface s) = 1 := by
  have hbalance := hb.balance (.surface s)
  have honce := hb.count_le_one s
  have hsome := List.count_pos_iff.2 hs
  have hrefused : (refused b.journal).count (.surface s) = 0 := by
    refine List.count_eq_zero.2 fun hmem => ?_
    obtain ⟨fb, hfb⟩ := exists_of_mem_refused hmem
    contradiction
  have hhandles : h.resources.count (.surface s) = 0 := by simp [ContextHandles.resources]
  rw [hnothing, List.append_nil, hrefused, hhandles, List.count_nil] at hbalance
  omega

/-- Where nobody holds a surface, none is left, and no buffer is registered. -/
theorem Accounted.chains_of_bare (hb : b.Accounted []) (hbare : ∀ id, b.Bare id) :
    b.heldSurfaces = [] ∧ b.chains.resources = [] := by
  have hheld : b.heldSurfaces = [] := by
    refine List.filterMap_eq_nil_iff.2 fun o ho => ?_
    obtain ⟨slot, hslot⟩ := List.mem_iff_getElem?.1 ho
    rw [Output.surfaceId?, hbare ⟨slot⟩ o hslot, Option.map_none]
  have halive : b.chains.alive = [] := List.Perm.nil_eq (hheld ▸ hb.held) |>.symm
  have hregistered : b.chains.registered = [] := by
    refine List.eq_nil_iff_forall_not_mem.2 fun e he => ?_
    have hmem := hb.inOrder.anchored e he
    rw [halive] at hmem
    contradiction
  refine ⟨hheld, ?_⟩
  rw [SwapChains.resources, SwapChains.framebuffers, halive, hregistered]
  rfl

/-- Shutting a backend down is a sweep over its outputs, and then the context is released. -/
theorem Booked.shutDown (hb : b.Booked h) (hagrees : b.Agrees) :
    ∃ swept unbound, ∃ b₁ : Backend W, b₁.journal = swept ++ b.journal ∧ b₁.Booked h ∧
      (∀ id, b₁.Bare id) ∧
      b₁.claims.entries = [] ∧
      b.shutDown.journal =
        [.call (.gpu (.destroyDevice h.device)) (), .call (.gpu (.terminateDisplay h.display)) (),
          .call (.gpu (.destroyContext h.display h.context)) (),
          .call (.gpu (.makeCurrent h.display h.context none)) unbound] ++ b₁.journal ∧
      b.shutDown.handles = none ∧ b.shutDown.chains = b₁.chains ∧
        b.shutDown.outputs = b₁.outputs ∧ b.shutDown.claims = b₁.claims := by
  obtain ⟨swept, hswept, ⟨hsettled, hb₁⟩, -, hbare, hclaims⟩ :=
    (accounting_releaseAllOutputs b hb.accounted).and (yields_releaseAllOutputs hagrees)
  have hbooked : (releaseAllOutputs b).2.Booked h := hb.settled hswept hsettled hb₁
  obtain ⟨_, hreleased, ⟨hhandles, hchains, unbound, rfl⟩, houtputs⟩ :=
    yields_context (RenderContext.yields_teardown_handles hbooked.handles)
  exact ⟨swept, unbound, _, hswept, hbooked, hbare, hclaims, hreleased, hhandles, hchains,
    houtputs, rfl⟩

/-- Where the handles are there after a run, what there is is booked. -/
theorem booked_of_ready {w : W.State} {b₀ : Backend W} (hstart : setUp (.start w) = .ok b₀)
    {actions : List BackendAction} (hready : (b₀.run actions).handles.isSome) :
    ∃ h, (b₀.run actions).Booked h := by
  obtain ⟨⟨h, hbooked⟩, -⟩ := booked_setUp hstart
  exact ⟨h, hbooked.run (ne_teardownRenderer_of_ready hready)⟩

/-- Whatever fails and in whatever order things are asked for, nothing is leaked and nothing released
twice, as long as the context is not released from outside. Between actions, what was acquired and
is not released is the handles, one surface for each record that holds one, and the framebuffers of
their buffers; only what the kernel refused to remove is left besides. Shutting down, be it ever so
hard to drain a flip, releases every surface exactly once, and then context, display and device, each
once and in this order. No claim and no registration is left, and a second sweep finds nothing. -/
theorem resources_conserved {w : W.State} {b₀ : Backend W} (hstart : setUp (.start w) = .ok b₀)
    {actions : List BackendAction} (hkept : ∀ a ∈ actions, a ≠ .teardownRenderer) :
    let b := b₀.run actions
    ∃ h : ContextHandles,
      (Balances b.journal [] (h.resources ++
          (b.heldSurfaces.map .surface ++ b.chains.framebuffers.map .framebuffer)) ∧
        (∀ s, (acquired b.journal).count (.surface s) ≤ 1) ∧
        ∀ e ∈ b.chains.registered, e.1.surface ∈ b.heldSurfaces ∧
          .call (.gpu (.attach e.1 e.2)) (.ok ()) ∈ b.journal) ∧
      (∃ swept unbound, b.shutDown.journal =
          [.call (.gpu (.destroyDevice h.device)) (),
            .call (.gpu (.terminateDisplay h.display)) (),
            .call (.gpu (.destroyContext h.display h.context)) (),
            .call (.gpu (.makeCurrent h.display h.context none)) unbound] ++ (swept ++ b.journal) ∧
        Balances (swept ++ b.journal) [] h.resources ∧
        (∀ s, .surface s ∈ acquired (swept ++ b.journal) →
          (acquired (swept ++ b.journal)).count (.surface s) = 1 ∧
            (released (swept ++ b.journal)).count (.surface s) = 1) ∧
        ∀ r ∈ released (swept ++ b.journal), r.OfOutputs) ∧
      b.shutDown.claims.entries = [] ∧ b.shutDown.chains.framebuffers = [] ∧
        b.shutDown.shutDown = b.shutDown := by
  intro b
  obtain ⟨⟨h, hbooked⟩, hagrees⟩ := booked_setUp hstart
  have hb : b.Booked h := hbooked.run hkept
  obtain ⟨swept, unbound, b₁, hjournal, hb₁, hbare, hclaims, hshut, hhandles, hchains, houtputs,
    hsame⟩ := hb.shutDown (hagrees.run actions)
  obtain ⟨-, hnothing⟩ := hb₁.accounted.chains_of_bare hbare
  have hbalance := hb₁.balance
  have honce := fun s => hb₁.released_once hnothing (s := s)
  rw [hnothing, List.append_nil, hjournal] at hbalance
  rw [hjournal] at honce
  refine ⟨h, ⟨?_, hb.count_le_one, fun e he => ⟨?_, hb.attached e he⟩⟩,
    ⟨swept, unbound, hjournal ▸ hshut, hbalance, honce, hjournal ▸ hb₁.outputs⟩,
    by rw [hsame, hclaims], ?_, ?_⟩
  · exact hb.balance.congr (.refl _)
      (((hb.accounted.held.symm.map _).append_right _).append_left _)
  · exact hb.accounted.held.mem_iff.2 (hb.accounted.inOrder.anchored e he)
  · rw [hchains]
    exact List.map_eq_nil_iff.1 (List.append_eq_nil_iff.1 hnothing).2
  · exact shutDown_of_bare (fun id o ho => hbare id o (by rwa [output?, ← houtputs])) hhandles

/-- A monitor is lit and the backend shut down without waiting for the first flip, which leaves the
one surface to be released by force: it is released once all the same. -/
theorem resources_conserved_undrained :
    ∃ b₀ : Backend SimulatedDevice.world, setUp (.start oneMonitor.world) = .ok b₀ ∧
      let b := b₀.run [.scan, .commitMode ⟨0⟩ .preferred, .setDrainTimeout (.ofMilliseconds 0)]
      b.heldSurfaces = [⟨1⟩] ∧ (b.output? ⟨0⟩).any (·.flipPending) = true ∧
        ∃ (h : ContextHandles) (swept : List JournalEntry) (unbound : Except RenderError Unit),
          b.shutDown.journal =
            [.call (.gpu (.destroyDevice h.device)) (), .call (.gpu (.terminateDisplay h.display)) (),
              .call (.gpu (.destroyContext h.display h.context)) (),
              .call (.gpu (.makeCurrent h.display h.context none)) unbound] ++ (swept ++ b.journal) ∧
          (released (swept ++ b.journal)).count (.surface ⟨1⟩) = 1 := by
  have hlit : (setUp (.start oneMonitor.world)).toOption.any (fun b₀ =>
      let b := b₀.run [.scan, .commitMode ⟨0⟩ .preferred, .setDrainTimeout (.ofMilliseconds 0)]
      b.heldSurfaces == [⟨1⟩] && (b.output? ⟨0⟩).any (·.flipPending)) = true := by decide +kernel
  cases hstart : setUp (.start oneMonitor.world) with
  | error cause =>
    rw [hstart] at hlit
    contradiction
  | ok b₀ =>
    rw [hstart] at hlit
    obtain ⟨hheld, hpending⟩ := Bool.and_eq_true _ _ ▸ hlit
    have hheld := eq_of_beq hheld
    obtain ⟨h, ⟨hbalance, -⟩, ⟨swept, unbound, hjournal, hswept, honce, -⟩, -⟩ := resources_conserved
      hstart (show ∀ a ∈ [BackendAction.scan, .commitMode ⟨0⟩ .preferred,
        .setDrainTimeout (.ofMilliseconds 0)], a ≠ .teardownRenderer by simp)
    refine ⟨b₀, rfl, hheld, hpending, h, swept, unbound, hjournal, (honce ⟨1⟩ ?_).2⟩
    rw [acquired_append]
    refine List.mem_append_right _ (List.count_pos_iff.1 ?_)
    have hcount := hbalance (.surface ⟨1⟩)
    rw [hheld, List.count_append, List.map_singleton, List.singleton_append, List.count_cons_self,
      List.count_nil] at hcount
    omega

end Backend
end Scanout
