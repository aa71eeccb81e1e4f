import Scanout.Proofs.OtherOutputs

/-!
# Ending the use of a device

When a device goes, every output is torn down, and one whose flip does not complete is released all
the same. Afterwards no output has a surface and nothing is claimed.
-/

namespace Scanout
namespace Backend

variable {W : World} {b b₁ b' : Backend W} {g g' : List JournalEntry} {id j : OutputId}

/-- The output has no surface, if there is the output. -/
def Bare (id : OutputId) (b : Backend W) : Prop := ∀ o, b.output? id = some o → o.surface = none

/-- An output gave everything up, or had nothing to give up. -/
inductive Released (id : OutputId) (b : Backend W) : List JournalEntry → Backend W → Prop where
  | nothing (h : b.Bare id) : Released id b [] b
  | gone {o s g₁ g₂ b'} (ho : b.output? id = some o) (hs : o.surface = some s)
      (hback : PutBack o.connector o.crtc o.savedCrtc g₁) (hdestroy : Destroys s.surface g₂)
      (h : SameBooks (b.withdrawn id) b') : Released id b (.released id :: g₂ ++ g₁) b'

theorem yields_released (id : OutputId) (b : Backend W) :
    Yields (releaseOutput id) b fun _ g b' => Released id b g b' := by
  cases ho : b.output? id with
  | none =>
    refine Yields.get_bind ?_
    simp only [ho]
    exact .pure (.nothing fun o ho' => by simp [ho] at ho')
  | some o =>
    cases hs : o.surface with
    | none =>
      refine Yields.get_bind ?_
      simp only [ho, hs]
      exact .pure (.nothing fun o' ho' => Option.some.inj (ho.symm.trans ho') ▸ hs)
    | some s =>
      refine (yields_releaseOutput ho hs).mono ?_
      rintro _ _ b' ⟨g₁, g₂, rfl, hback, hdestroy, h⟩
      exact .gone ho hs hback hdestroy h

namespace Released

theorem agrees (h : Released id b g b') (hb : b.Agrees) : b'.Agrees := by
  cases h with
  | nothing _ => exact hb
  | gone ho _ _ _ h => exact hb.of_release (.of_same (.refl b)) ho h (.withdrawn _) rfl

theorem bare (h : Released id b g b') : b'.Bare id := by
  cases h with
  | nothing h => exact h
  | gone ho _ _ _ h =>
    intro o' ho'
    obtain rfl := Option.some.inj ((output?_modify_self h.outputs ho).symm.trans ho')
    rfl

theorem isMuteTo (h : Released id b g b') (j : OutputId) : ∀ e ∈ g, e.IsMuteTo j := by
  cases h with
  | nothing _ => simp
  | gone _ _ hback hdestroy _ =>
    simp only [List.forall_mem_append, List.forall_mem_cons]
    exact ⟨⟨trivial, hdestroy.isMuteTo j⟩, hback.isMuteTo j⟩

theorem seesOnly (h : Released id b g b') (hj : j ≠ id) : SeesOnly j b g b' := by
  have hmute := h.isMuteTo j
  cases h with
  | nothing _ => exact .of_same hmute (.refl b)
  | gone _ _ _ _ h => exact .of_elsewhere hmute (.of_release h) hj

end Released

theorem SeesOnly.bare (h : SeesOnly j b g b') (hb : b.Bare j) : b'.Bare j := by
  intro o' ho'
  cases ho : b.output? j with
  | none =>
    rw [(h.absent ho).1] at ho'
    contradiction
  | some o =>
    obtain rfl := Option.some.inj ((h.present o ho).1.symm.trans ho')
    exact hb o ho

/-- Tearing an output down by force is a teardown, with a release behind it if that failed. -/
theorem yields_forceTeardown (id : OutputId) (b : Backend W) :
    Yields (forceTeardown id) b fun _ g b' => ∃ g₁ g₂ b₁, g = g₂ ++ g₁ ∧
      Stages (.teardownOutput id) b g₁ b₁ ∧ Released id b₁ g₂ b' := by
  refine Yields.bind (yields_teardownOutput (a := .teardownOutput id) rfl b) ?_
  intro r g b₁ h
  cases r with
  | ok _ =>
    obtain ⟨-, o, -, ho, -, hs⟩ := h.surface_none
    refine .pure ⟨g, [], b₁, rfl, h.stages rfl, .nothing fun o' ho' => ?_⟩
    exact Option.some.inj (ho.symm.trans ho') ▸ hs
  | error e =>
    refine (yields_released id b₁).mono ?_
    intro _ g' b' h'
    exact ⟨g, g', b₁, rfl, h.stages rfl, h'⟩

/-- A forced teardown leaves the output bare, and those that were. -/
private theorem yields_forceTeardown_bare (id : OutputId) {b : Backend W} (hb : b.Agrees) :
    Yields (forceTeardown id) b fun _ _ b' => b'.Agrees ∧
      ∀ j, j = id ∨ b.Bare j → b'.Bare j := by
  refine (yields_forceTeardown id b).mono ?_
  rintro _ _ b' ⟨g₁, g₂, b₁, -, hstages, hreleased⟩
  refine ⟨hreleased.agrees (hb.stages hstages), fun j hj => ?_⟩
  by_cases hid : j = id
  · exact hid ▸ hreleased.bare
  · have hbare := hj.resolve_left hid
    exact (hreleased.seesOnly hid).bare ((SeesOnly.of_stages hb rfl hid hstages).bare hbare)

private theorem yields_forceAll (slots : List Nat) {b : Backend W} (hb : b.Agrees) :
    Yields (slots.forM fun slot => forceTeardown ⟨slot⟩) b fun _ _ b' => b'.Agrees ∧
      ∀ j : OutputId, j.slot ∈ slots ∨ b.Bare j → b'.Bare j := by
  induction slots generalizing b with
  | nil => exact .pure ⟨hb, fun j hj => hj.resolve_left (by simp)⟩
  | cons slot slots ih =>
    refine (yields_forceTeardown_bare ⟨slot⟩ hb).bind ?_
    rintro _ g b₁ ⟨hb₁, hbare₁⟩
    refine (ih hb₁).mono ?_
    rintro _ g' b' ⟨hb', hbare'⟩
    refine ⟨hb', fun j hj => hbare' j ?_⟩
    rcases hj with hmem | hbare
    · rcases List.mem_cons.1 hmem with hslot | hmem
      · exact .inr (hbare₁ j (.inl (by cases j; simp_all)))
      · exact .inl hmem
    · exact .inr (hbare₁ j (.inr hbare))

/-- No output is left with a surface or a claim. -/
theorem yields_releaseAllOutputs (hb : b.Agrees) :
    Yields releaseAllOutputs b fun _ _ b' => b'.Agrees ∧ (∀ id, b'.Bare id) ∧
      b'.claims.entries = [] := by
  refine Yields.get_bind ((yields_forceAll _ hb).mono ?_)
  rintro _ _ b' ⟨hb', hbare⟩
  have hall (id : OutputId) : b'.Bare id := by
    refine hbare id ?_
    by_cases hid : id.slot < b.outputs.length
    · exact .inl (List.mem_range.2 hid)
    · refine .inr fun o ho => ?_
      rw [output?, List.getElem?_eq_none (by omega)] at ho
      contradiction
  refine ⟨hb', hall, List.eq_nil_iff_forall_not_mem.2 fun e he => ?_⟩
  obtain ⟨c, id⟩ := e
  obtain ⟨o, ho, hc⟩ := (hb'.owner c id).1 (CrtcClaims.owner_of_mem he)
  simp [hb'.crtc_none ho (hall id o ho)] at hc

/-- Where no output has a surface and the context is released, there is nothing left to shut down. -/
theorem shutDown_of_bare (hbare : ∀ id, b.Bare id) (hh : b.handles = none) : b.shutDown = b := by
  have hforce (id : OutputId) : Yields (forceTeardown id) b fun _ _ b' => b' = b := by
    refine Yields.bind (yields_teardownOutput (a := .teardownOutput id) rfl b) ?_
    intro r g b₁ h
    obtain rfl := h.eq_of_bare (hbare id)
    cases r with
    | ok _ => exact .pure rfl
    | error _ =>
      refine (yields_released id b₁).mono fun _ _ b₂ h₂ => ?_
      cases h₂ with
      | nothing _ => rfl
      | gone ho hs _ _ _ => simp [hbare id _ ho] at hs
  obtain ⟨-, -, hrelease⟩ : Yields releaseAllOutputs b fun _ _ b' => b' = b := by
    refine Yields.get_bind (.forM (P := fun _ b' => b' = b) (p := [])
      (fun slot b' _ hb' => ?_) _ rfl)
    obtain rfl := hb'
    exact hforce ⟨slot⟩
  obtain ⟨-, -, hteardown⟩ : Yields RenderContext.teardown b.toRenderContext
      fun _ _ c => c = b.toRenderContext := by
    refine Yields.get_bind ?_
    rw [hh]
    exact .pure rfl
  show (BackendM.inContext RenderContext.teardown (releaseAllOutputs b).2).2 = b
  rw [hrelease]
  exact congrArg (fun c => { b with toRenderContext := c }) hteardown

end Backend
end Scanout
