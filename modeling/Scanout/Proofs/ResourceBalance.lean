import Scanout.Proofs.CalmActs

/-!
# What is acquired and what is released

Device, display and context, surfaces and framebuffers are acquired by calls, and it takes other
calls to release them. From a journal one can tell how often each of them was acquired and released,
and how often the kernel refused to remove it: the entries balance if they account for what there
is more or less of than before.
-/

namespace Scanout

inductive Resource
  | device (device : GpuDevice)
  | display (display : GpuDisplay)
  | context (context : GpuContext)
  | surface (surface : SurfaceId)
  | framebuffer (framebuffer : FramebufferId)
  deriving DecidableEq

/-- The resource serves single outputs and not the device as a whole. -/
def Resource.OfOutputs : Resource → Prop
  | .surface _ | .framebuffer _ => True
  | .device _ | .display _ | .context _ => False

namespace JournalEntry

/-- What was acquired by the call, if it was granted. -/
def acquired? : JournalEntry → Option Resource
  | .call (.gpu .createDevice) answer => answer.toOption.map .device
  | .call (.gpu (.openDisplay _)) answer => answer.map .display
  | .call (.gpu (.createContext _ _)) answer => answer.map .context
  | .call (.gpu (.createSurface surface _ _ _ _ _)) answer =>
    answer.toOption.map fun _ => .surface surface
  | .call (.kernel (.addFramebuffer _ _ _)) answer => answer.toOption.map .framebuffer
  | _ => none

/-- What was released by the call. Only the kernel can refuse to release something. -/
def released? : JournalEntry → Option Resource
  | .call (.gpu (.destroyDevice device)) _ => some (.device device)
  | .call (.gpu (.terminateDisplay display)) _ => some (.display display)
  | .call (.gpu (.destroyContext _ context)) _ => some (.context context)
  | .call (.gpu (.destroySurface _ surface)) _ => some (.surface surface)
  | .call (.kernel (.removeFramebuffer framebuffer)) answer =>
    answer.toOption.map fun _ => .framebuffer framebuffer
  | _ => none

/-- The framebuffer whose removal was refused. -/
def refused? : JournalEntry → Option Resource
  | .call (.kernel (.removeFramebuffer framebuffer)) answer =>
    if answer.isOk then none else some (.framebuffer framebuffer)
  | _ => none

/-- Nothing is acquired, and nothing that was is to be released. -/
structure IsNeutral (e : JournalEntry) : Prop where
  acquired : e.acquired? = none
  released : e.released? = none
  refused : e.refused? = none

end JournalEntry

theorem Call.Reads.isNeutral {c : Call} (h : c.Reads) (a : c.Answer) :
    (JournalEntry.call c a).IsNeutral := by
  cases c with
  | kernel request =>
    cases request with
    | resources | connector _ | encoder _ | crtc _ | wait _ | receive => exact ⟨rfl, rfl, rfl⟩
    | addFramebuffer _ _ _ | removeFramebuffer _ | setCrtc _ | pageFlip _ _ => exact h.elim
  | gpu _ => exact h.elim
  | clock => exact ⟨rfl, rfl, rfl⟩

section Accounts

variable {g g' : List JournalEntry}

def acquired (g : List JournalEntry) : List Resource := g.filterMap (·.acquired?)

def released (g : List JournalEntry) : List Resource := g.filterMap (·.released?)

def refused (g : List JournalEntry) : List Resource := g.filterMap (·.refused?)

@[simp] theorem acquired_append : acquired (g' ++ g) = acquired g' ++ acquired g :=
  List.filterMap_append

@[simp] theorem released_append : released (g' ++ g) = released g' ++ released g :=
  List.filterMap_append

@[simp] theorem refused_append : refused (g' ++ g) = refused g' ++ refused g :=
  List.filterMap_append

theorem acquired_of_neutral (h : ∀ e ∈ g, e.IsNeutral) : acquired g = [] :=
  List.filterMap_eq_nil_iff.2 fun e he => (h e he).acquired

theorem released_of_neutral (h : ∀ e ∈ g, e.IsNeutral) : released g = [] :=
  List.filterMap_eq_nil_iff.2 fun e he => (h e he).released

theorem refused_of_neutral (h : ∀ e ∈ g, e.IsNeutral) : refused g = [] :=
  List.filterMap_eq_nil_iff.2 fun e he => (h e he).refused

/-- Only framebuffers can be refused to be released. -/
theorem exists_of_mem_refused {r : Resource} (h : r ∈ refused g) : ∃ fb, r = .framebuffer fb := by
  obtain ⟨e, -, he⟩ := List.mem_filterMap.1 h
  unfold JournalEntry.refused? at he
  split at he
  · split at he
    · contradiction
    · exact ⟨_, (Option.some.inj he).symm⟩
  · contradiction

/-- What there was before and what was acquired has been released, or is there afterwards, or could
not be removed. -/
def Balances (g : List JournalEntry) (before after : List Resource) : Prop :=
  ∀ r, (acquired g).count r + before.count r =
    (released g).count r + (refused g).count r + after.count r

namespace Balances

variable {before middle after : List Resource}

theorem of_neutral (h : ∀ e ∈ g, e.IsNeutral) : Balances g before before := fun r => by
  rw [acquired_of_neutral h, released_of_neutral h, refused_of_neutral h]
  simp

theorem trans (h : Balances g before middle) (h' : Balances g' middle after) :
    Balances (g' ++ g) before after := fun r => by
  have hr := h r
  have hr' := h' r
  simp only [acquired_append, released_append, refused_append, List.count_append]
  omega

/-- What is there before and after does not matter. -/
theorem frame (h : Balances g before after) (rest : List Resource) :
    Balances g (before ++ rest) (after ++ rest) := fun r => by
  have hr := h r
  simp only [List.count_append]
  omega

theorem congr {before' after' : List Resource} (h : Balances g before after)
    (hbefore : before.Perm before') (hafter : after.Perm after') :
    Balances g before' after' := fun r => by
  rw [← hbefore.count_eq, ← hafter.count_eq]
  exact h r

end Balances
end Accounts

namespace SwapChains

/-- The framebuffers that buffers are registered as. -/
def framebuffers (t : SwapChains) : List FramebufferId := t.registered.map Prod.snd

def resources (t : SwapChains) : List Resource :=
  t.alive.map .surface ++ t.framebuffers.map .framebuffer

/-- No surface is there twice, numbers are used in order, and only buffers of surfaces that are
there are registered. -/
structure InOrder (t : SwapChains) : Prop where
  nodup : t.alive.Nodup
  numbered : ∀ s ∈ t.alive, s.number ≤ t.created
  anchored : ∀ e ∈ t.registered, e.1.surface ∈ t.alive

theorem inOrder_empty : empty.InOrder :=
  ⟨List.nodup_nil, fun _ => nofun, fun _ => nofun⟩

theorem InOrder.create {t : SwapChains} (h : t.InOrder) : t.create.InOrder where
  nodup := by
    have hnew : t.nextSurface ∉ t.alive := fun hmem => Nat.not_succ_le_self _ (h.numbered _ hmem)
    exact List.nodup_append.2 ⟨h.nodup, by simp, fun s hs s' hs' =>
      fun heq => hnew (List.mem_singleton.1 hs' ▸ heq ▸ hs)⟩
  numbered s hs := by
    rcases List.mem_append.1 hs with hs | hs
    · exact Nat.le_succ_of_le (h.numbered s hs)
    · rw [List.mem_singleton.1 hs]
      exact Nat.le_refl _
  anchored e he := List.mem_append_left _ (h.anchored e he)

theorem InOrder.destroy {t : SwapChains} (h : t.InOrder) (s : SurfaceId) :
    (t.destroy s).2.InOrder where
  nodup := List.Pairwise.filter _ h.nodup
  numbered s' hs' := h.numbered s' (List.mem_filter.1 hs').1
  anchored e he := by
    obtain ⟨he, hne⟩ := List.mem_filter.1 he
    exact List.mem_filter.2 ⟨h.anchored e he, by simpa using hne⟩

theorem InOrder.attach {t : SwapChains} (h : t.InOrder) {buffer : BufferSlot}
    (hbuffer : buffer.surface ∈ t.alive) (fb : FramebufferId) : (t.attach buffer fb).InOrder where
  nodup := h.nodup
  numbered := h.numbered
  anchored e he := by
    rcases mem_insert.1 he with rfl | he
    · exact hbuffer
    · exact h.anchored e he

theorem InOrder.free {t : SwapChains} (h : t.InOrder) (gone : BufferSlot → Bool) :
    (t.free gone).2.InOrder where
  nodup := h.nodup
  numbered := h.numbered
  anchored e he := h.anchored e (List.mem_filter.1 he).1

theorem perm_insert (b : BufferSlot) (fb : FramebufferId) (l : List (BufferSlot × FramebufferId)) :
    (insert b fb l).Perm ((b, fb) :: l) := by
  induction l with
  | nil => exact .refl _
  | cons c rest ih =>
    obtain ⟨c, fc⟩ := c
    unfold insert
    split
    · exact .refl _
    · exact (ih.cons _).trans (.swap _ _ _)

theorem perm_create (t : SwapChains) :
    t.create.resources.Perm (.surface t.nextSurface :: t.resources) := by
  rw [resources, create, List.map_append, List.append_assoc]
  exact List.perm_middle

theorem perm_attach (t : SwapChains) (buffer : BufferSlot) (fb : FramebufferId) :
    (t.attach buffer fb).resources.Perm (.framebuffer fb :: t.resources) :=
  (((perm_insert buffer fb t.registered).map Prod.snd |>.map _).append_left _).trans
    List.perm_middle

/-- The registrations that end and those that stay are all that there were. -/
theorem perm_free (t : SwapChains) (gone : BufferSlot → Bool) :
    ((t.free gone).1 ++ (t.free gone).2.framebuffers).Perm t.framebuffers := by
  have h := (List.filter_append_perm (fun e => gone e.1) t.registered).map Prod.snd
  rwa [List.map_append] at h

theorem perm_alive_destroy {t : SwapChains} (h : t.InOrder) {s : SurfaceId} (hs : s ∈ t.alive) :
    (s :: (t.destroy s).2.alive).Perm t.alive := by
  have herase : t.alive.erase s = (t.destroy s).2.alive := by
    rw [h.nodup.erase_eq_filter]
    exact List.filter_congr fun x _ => by by_cases hx : x = s <;> simp [hx]
  rw [← herase]
  exact (List.perm_cons_erase hs).symm

/-- A surface that is there is gone afterwards, with the registrations of its buffers. -/
theorem perm_destroy {t : SwapChains} (h : t.InOrder) {s : SurfaceId} (hs : s ∈ t.alive) :
    (Resource.surface s :: (t.destroy s).1.map Resource.framebuffer ++
      (t.destroy s).2.resources).Perm t.resources := by
  have hfree : ((t.destroy s).1 ++ (t.destroy s).2.framebuffers).Perm t.framebuffers :=
    perm_free { t with alive := t.alive.filter (· ≠ s) } (·.surface = s)
  -- the surface is taken from the middle of one list and framebuffers from another: count them
  refine List.perm_iff_count.2 fun r => ?_
  have hsurfaces := ((perm_alive_destroy h hs).map Resource.surface).count_eq r
  have hframebuffers := (hfree.map Resource.framebuffer).count_eq r
  simp only [resources, List.map_cons, List.map_append, List.cons_append, List.count_append,
    List.count_cons] at hsurfaces hframebuffers ⊢
  omega

theorem InOrder.unlock {t : SwapChains} (h : t.InOrder) (b : BufferSlot) :
    (t.unlock b).2.InOrder := by
  have hunlocked : InOrder { t with locked := t.locked.erase b } := ⟨h.nodup, h.numbered, h.anchored⟩
  unfold SwapChains.unlock
  dsimp only
  split
  · exact hunlocked
  · exact hunlocked.free _

@[simp] theorem alive_unlock (t : SwapChains) (b : BufferSlot) :
    (t.unlock b).2.alive = t.alive := by
  unfold unlock
  dsimp only
  split <;> rfl

theorem perm_unlock (t : SwapChains) (b : BufferSlot) :
    ((t.unlock b).1 ++ (t.unlock b).2.framebuffers).Perm t.framebuffers := by
  unfold unlock
  dsimp only
  split
  · exact .refl _
  · exact perm_free { t with locked := t.locked.erase b } (· = b)

theorem registered_unlock_subset (t : SwapChains) (b : BufferSlot) :
    (t.unlock b).2.registered ⊆ t.registered := by
  unfold unlock
  dsimp only
  split
  · exact List.Subset.refl _
  · exact List.filter_sublist.subset

end SwapChains

/-- The entries are what it takes to remove the framebuffers. -/
structure Ends (framebuffers : List FramebufferId) (g : List JournalEntry) : Prop where
  acquired : acquired g = []
  outputs : ∀ r ∈ released g, r.OfOutputs
  balance : Balances g (framebuffers.map .framebuffer) []

namespace Ends

variable {framebuffers others : List FramebufferId} {g g' : List JournalEntry}

theorem of_neutral (h : ∀ e ∈ g, e.IsNeutral) : Ends [] g :=
  ⟨acquired_of_neutral h, by simp [released_of_neutral h], .of_neutral h⟩

theorem removal (fb : FramebufferId) (answer : Except SystemError Unit) :
    Ends [fb] [.call (.kernel (.removeFramebuffer fb)) answer] := by
  cases answer with
  | ok _ => exact ⟨rfl, List.forall_mem_singleton.2 trivial, fun _ => Nat.zero_add _⟩
  | error _ => exact ⟨rfl, nofun, fun _ => rfl⟩

theorem append (h : Ends framebuffers g) (h' : Ends others g') :
    Ends (framebuffers ++ others) (g' ++ g) where
  acquired := by rw [acquired_append, h.acquired, h'.acquired, List.append_nil]
  outputs r hr := by
    rw [released_append] at hr
    exact (List.mem_append.1 hr).elim (h'.outputs r) (h.outputs r)
  balance := by
    rw [List.map_append]
    exact (h.balance.frame _).trans h'.balance

end Ends

def ContextHandles.resources (h : ContextHandles) : List Resource :=
  [.context h.context, .display h.display, .device h.device]

/-- The entries acquire the resources and give nothing up. -/
structure Takes (resources : List Resource) (g : List JournalEntry) : Prop where
  acquired : acquired g = resources
  released : released g = []
  refused : refused g = []

namespace Takes

variable {taken taken' : List Resource} {g g' : List JournalEntry}

theorem append (h : Takes taken g) (h' : Takes taken' g') : Takes (taken' ++ taken) (g' ++ g) where
  acquired := by rw [acquired_append, h.acquired, h'.acquired]
  released := by rw [released_append, h.released, h'.released, List.append_nil]
  refused := by rw [refused_append, h.refused, h'.refused, List.append_nil]

end Takes

end Scanout
