import Mathlib.Algebra.BigOperators.Finprod
import Scanout.Proofs.OutputBooks

/-!
# The history of a table of claims

A table of claims begins empty and is changed by claims and releases alone. A CRTC belongs to whoever
was granted it and has released nothing since, and a claim is granted if nobody owns the CRTC. The
lists of CRTCs by their owners are another view of the same table: each claimed CRTC is in one of them.
-/

namespace Scanout

/-- What is asked of a table of claims. -/
inductive ClaimStep
  | claim (crtc : CrtcHandle) (id : OutputId)
  | release (id : OutputId)
  deriving DecidableEq

namespace CrtcClaims

def step (t : CrtcClaims) : ClaimStep → CrtcClaims
  | .claim crtc id => (t.claim crtc id).2
  | .release id => t.release id

/-- The table that some steps make of an empty one. -/
def after (steps : List ClaimStep) : CrtcClaims := steps.foldl step empty

/-- Among some steps a CRTC is granted to an output that releases nothing later on. -/
def HeldSince (steps : List ClaimStep) (crtc : CrtcHandle) (id : OutputId) : Prop :=
  ∃ earlier later, steps = earlier ++ .claim crtc id :: later ∧
    ((after earlier).claim crtc id).1 = true ∧ .release id ∉ later

/-! ## Claims and releases -/

section Steps

variable {t : CrtcClaims} {steps : List ClaimStep} {s : ClaimStep} {crtc c : CrtcHandle}
  {id holder j : OutputId}

theorem claim_of_owned (h : t.owner crtc = some holder) : t.claim crtc id = (false, t) := by
  unfold claim
  split
  · rfl
  · simp_all

/-- A claim is granted if and only if nobody owns the CRTC. -/
theorem granted_iff : (t.claim crtc id).1 = true ↔ t.owner crtc = none := by
  unfold claim
  split <;> simp_all

theorem owner_step_claim : (t.step (.claim crtc id)).owner c = some j ↔
    t.owner c = some j ∨ c = crtc ∧ j = id ∧ (t.claim crtc id).1 = true := by
  rw [granted_iff]
  change (t.claim crtc id).2.owner c = some j ↔ _
  cases h : t.owner crtc with
  | some holder => simp [claim_of_owned h]
  | none =>
    rw [owner_claim t id h]
    by_cases hc : c = crtc
    · simp [hc, h, eq_comm]
    · simp [hc]

theorem owner_step_release :
    (t.step (.release id)).owner c = some j ↔ t.owner c = some j ∧ j ≠ id := by
  change (t.release id).owner c = some j ↔ _
  by_cases hj : j = id
  · subst hj
    simp [owner_release_self]
  · simp [owner_release_of_ne t hj, hj]

theorem after_append_singleton : after (steps ++ [s]) = (after steps).step s := by
  rw [after, List.foldl_append]
  rfl

/-- The last step either is the claim that was granted, or was made with the CRTC held and is no
release. -/
theorem heldSince_append_singleton : HeldSince (steps ++ [s]) crtc id ↔
    HeldSince steps crtc id ∧ s ≠ .release id ∨
      s = .claim crtc id ∧ ((after steps).claim crtc id).1 = true := by
  constructor
  · rintro ⟨earlier, later, heq, hgranted, hkept⟩
    rcases List.eq_nil_or_concat later with rfl | ⟨later, last, rfl⟩
    · obtain ⟨rfl, hlast⟩ := List.append_inj' heq rfl
      exact .inr ⟨List.singleton_inj.1 hlast, hgranted⟩
    · rw [List.concat_eq_append] at heq hkept
      have hsplit : steps ++ [s] = (earlier ++ .claim crtc id :: later) ++ [last] := by simpa using heq
      obtain ⟨rfl, hlast⟩ := List.append_inj' hsplit rfl
      obtain rfl := List.singleton_inj.1 hlast
      rw [List.mem_append, List.mem_singleton, not_or] at hkept
      exact .inl ⟨⟨earlier, later, rfl, hgranted, hkept.1⟩, Ne.symm hkept.2⟩
  · rintro (⟨⟨earlier, later, rfl, hgranted, hkept⟩, hs⟩ | ⟨rfl, hgranted⟩)
    · exact ⟨earlier, later ++ [s], by simp, hgranted, by simp [hkept, Ne.symm hs]⟩
    · exact ⟨steps, [], rfl, hgranted, List.not_mem_nil⟩

/-- A CRTC belongs to whoever was granted it and has released nothing since. -/
theorem owner_after_iff : (after steps).owner c = some id ↔ HeldSince steps c id := by
  induction steps using List.reverseRecOn with
  | nil => simp [after, HeldSince]
  | append_singleton steps s ih =>
    rw [after_append_singleton, heldSince_append_singleton, ← ih]
    cases s with
    | claim crtc j =>
      rw [owner_step_claim, ClaimStep.claim.injEq]
      constructor
      · rintro (h | ⟨rfl, rfl, h⟩)
        · exact .inl ⟨h, nofun⟩
        · exact .inr ⟨⟨rfl, rfl⟩, h⟩
      · rintro (⟨h, -⟩ | ⟨⟨rfl, rfl⟩, h⟩)
        · exact .inl h
        · exact .inr ⟨rfl, rfl, h⟩
    | release j =>
      rw [owner_step_release, Ne, Ne, ClaimStep.release.injEq, eq_comm (a := id)]
      simp

theorem release_comm (t : CrtcClaims) (id j : OutputId) :
    (t.release id).release j = (t.release j).release id := by
  simp [release, Bool.and_comm]

end Steps

/-! ## The CRTCs by their owners -/

section Views

variable (t : CrtcClaims) {c : CrtcHandle} {id : OutputId}

theorem owner_eq_some_iff : t.owner c = some id ↔ (c, id) ∈ t.entries := by
  refine ⟨fun h => ?_, owner_of_mem⟩
  obtain ⟨_, _, hentries, _⟩ := List.lookup_eq_some_iff.1 h
  simp [hentries]

theorem claimedBy_perm (id : OutputId) :
    (t.claimedBy id).Perm ((t.entries.filter (·.2 = id)).map Prod.fst) :=
  List.mergeSort_perm _ _

theorem mem_claimedBy : c ∈ t.claimedBy id ↔ t.owner c = some id := by
  rw [(t.claimedBy_perm id).mem_iff, owner_eq_some_iff]
  simp

theorem claimedBy_nodup (id : OutputId) : (t.claimedBy id).Nodup :=
  (t.claimedBy_perm id).nodup_iff.2 <| t.nodup.sublist (List.Sublist.map _ List.filter_sublist)

/-- The CRTCs of an output ascend, none of them twice. -/
theorem claimedBy_ascending (id : OutputId) : (t.claimedBy id).Pairwise (·.id < ·.id) := by
  have hsorted : (t.claimedBy id).Pairwise fun c c' => decide (c.id ≤ c'.id) = true :=
    List.pairwise_mergeSort (by simpa using fun _ _ _ => UInt32.le_trans)
      (by simpa using fun _ _ => UInt32.le_total _ _) _
  refine (hsorted.and (t.claimedBy_nodup id)).imp fun {c c'} ⟨hle, hne⟩ => ?_
  refine UInt32.lt_of_le_of_ne (of_decide_eq_true hle) fun heq => hne ?_
  cases c
  exact congrArg CrtcHandle.mk heq

/-- Each claimed CRTC is in the list of one owner. -/
theorem isClaimed_iff : t.isClaimed c = true ↔ ∃! id, c ∈ t.claimedBy id := by
  simp only [mem_claimedBy, isClaimed, Option.isSome_iff_exists]
  refine exists_congr fun id => ⟨fun h => ⟨h, fun j hj => ?_⟩, And.left⟩
  exact Option.some.inj (hj.symm.trans h)

theorem length_claimedBy (id : OutputId) :
    (t.claimedBy id).length = (t.entries.map Prod.snd).count id := by
  rw [(t.claimedBy_perm id).length_eq, List.length_map, List.count, List.countP_map,
    List.countP_eq_length_filter]
  rfl

/-- The lists of all owners together are as long as the table. -/
theorem finsum_length_claimedBy : ∑ᶠ id, (t.claimedBy id).length = t.size := by
  have hsupport : (fun id => (t.claimedBy id).length).support ⊆
      (t.entries.map Prod.snd).toFinset := by
    intro id hid
    rw [Function.mem_support, length_claimedBy, Ne, List.count_eq_zero, not_not] at hid
    exact List.mem_toFinset.2 hid
  rw [finsum_eq_sum_of_support_subset _ hsupport]
  simp only [length_claimedBy]
  rw [List.sum_toFinset_count_eq_length, List.length_map]
  rfl

theorem isEmpty_iff : t.isEmpty = true ↔ ∀ id, t.claimedBy id = [] := by
  rw [isEmpty, List.isEmpty_iff]
  constructor
  · intro h id
    exact List.eq_nil_iff_length_eq_zero.2 (by simp [length_claimedBy, h])
  · intro h
    refine List.eq_nil_iff_forall_not_mem.2 fun ⟨c, id⟩ hmem => ?_
    have hc : c ∈ t.claimedBy id := t.mem_claimedBy.2 (owner_of_mem hmem)
    rw [h] at hc
    contradiction

end Views

/-- After any claims and releases a CRTC belongs to the output that was granted it and has released
nothing since. A claim is granted if and only if nobody owns the CRTC, and one that is not granted
changes nothing, even if it is the owner's own. The list of an output's CRTCs ascends and holds those
it owns; the lists part the claimed CRTCs among their owners, are together as long as the table and
are all empty if and only if the table is. In which order two outputs release what they have does not
matter. -/
theorem first_claim_wins (steps : List ClaimStep) :
    (∀ c id, (after steps).owner c = some id ↔ HeldSince steps c id) ∧
      (∀ c id, (((after steps).claim c id).1 = true ↔ (after steps).owner c = none) ∧
        (((after steps).claim c id).1 = false → ((after steps).claim c id).2 = after steps) ∧
        ((after steps).owner c = some id → (after steps).claim c id = (false, after steps))) ∧
      (∀ id, ((after steps).claimedBy id).Pairwise (·.id < ·.id) ∧
        ∀ c, c ∈ (after steps).claimedBy id ↔ (after steps).owner c = some id) ∧
      (∀ c, (after steps).isClaimed c = true ↔ ∃! id, c ∈ (after steps).claimedBy id) ∧
      ∑ᶠ id, ((after steps).claimedBy id).length = (after steps).size ∧
      ((after steps).isEmpty = true ↔ ∀ id, (after steps).claimedBy id = []) ∧
      ∀ id j, ((after steps).release id).release j = ((after steps).release j).release id := by
  refine ⟨fun c id => owner_after_iff,
    fun c id => ⟨granted_iff, fun hrefused => ?_, claim_of_owned⟩,
    fun id => ⟨claimedBy_ascending _ id, fun c => mem_claimedBy _⟩, fun c => isClaimed_iff _,
    finsum_length_claimedBy _, isEmpty_iff _, fun id j => release_comm _ id j⟩
  cases howner : (after steps).owner c with
  | none =>
    rw [granted_iff.2 howner] at hrefused
    contradiction
  | some holder => rw [claim_of_owned howner]

/-- The second output comes too late for one CRTC and keeps the other. -/
example :
    let steps := [.claim ⟨52⟩ ⟨0⟩, .claim ⟨41⟩ ⟨0⟩, .claim ⟨41⟩ ⟨1⟩, .claim ⟨60⟩ ⟨1⟩]
    (after steps).claimedBy ⟨0⟩ = [⟨41⟩, ⟨52⟩] ∧
      (after (steps ++ [.release ⟨0⟩])).entries = [(⟨60⟩, ⟨1⟩)] := by cbv

end CrtcClaims
end Scanout
