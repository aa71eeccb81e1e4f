import Scanout.CrtcAllocation
import Scanout.Proofs.QuietRendering

/-!
# The books of a backend

A backend's books are its records, its claims and its timeout; what it is told by the device
and what it draws is not in them. Most of what a backend does leaves the books as they are.
-/

namespace Scanout
namespace CrtcClaims

theorem claim_of_free (t : CrtcClaims) {crtc : CrtcHandle} (id : OutputId)
    (h : t.owner crtc = none) : (t.claim crtc id).2 = t.add crtc id h := by
  unfold claim
  split
  · simp_all
  · rfl

theorem owner_claim (t : CrtcClaims) {crtc : CrtcHandle} (id : OutputId)
    (h : t.owner crtc = none) (c : CrtcHandle) :
    (t.claim crtc id).2.owner c = if c = crtc then some id else t.owner c := by
  rw [t.claim_of_free id h, owner_add]

private theorem lookup_cons_if (c crtc : CrtcHandle) (id : OutputId)
    (es : List (CrtcHandle × OutputId)) :
    List.lookup c ((crtc, id) :: es) = if c = crtc then some id else List.lookup c es := by
  by_cases h : c = crtc
  · simp [h]
  · simp [List.lookup_cons, h, beq_eq_false_iff_ne.2 h]

theorem owner_of_mem {t : CrtcClaims} {crtc : CrtcHandle} {id : OutputId}
    (h : (crtc, id) ∈ t.entries) : t.owner crtc = some id := by
  obtain ⟨es, hnodup⟩ := t
  show List.lookup crtc es = some id
  induction es with
  | nil => contradiction
  | cons e es ih =>
    obtain ⟨c, owner⟩ := e
    rw [List.map_cons, List.nodup_cons] at hnodup
    rw [lookup_cons_if]
    rcases List.mem_cons.1 h with heq | hmem
    · obtain ⟨rfl, rfl⟩ := Prod.mk.inj heq
      exact if_pos rfl
    · have hne : crtc ≠ c := fun hc => hnodup.1 (List.mem_map.2 ⟨(crtc, id), hmem, hc⟩)
      rw [if_neg hne]
      exact ih hnodup.2 hmem

/-- What was claimed for an output is released with all the rest of it. -/
theorem release_of_claim (t : CrtcClaims) {crtc : CrtcHandle} (id : OutputId)
    (h : t.owner crtc = none) : (t.claim crtc id).2.release id = t.release id := by
  rw [t.claim_of_free id h]
  simp [release, add]

@[simp] theorem release_release (t : CrtcClaims) (id : OutputId) :
    (t.release id).release id = t.release id := by
  simp [release]

/-- An output that owns nothing has nothing to release. -/
theorem release_of_unowned (t : CrtcClaims) {id : OutputId} (hid : ∀ c, t.owner c ≠ some id) :
    t.release id = t := by
  have hentries : (t.entries.filter fun e => decide (e.2 ≠ id)) = t.entries := by
    refine List.filter_eq_self.2 fun e he => decide_eq_true fun howner => ?_
    exact hid e.1 (owner_of_mem (howner ▸ he))
  obtain ⟨es, hnodup⟩ := t
  simpa [release] using hentries

/-- An output that owns nothing may claim a CRTC and release it again. -/
theorem release_claim (t : CrtcClaims) {crtc : CrtcHandle} {id : OutputId}
    (h : t.owner crtc = none) (hid : ∀ c, t.owner c ≠ some id) :
    (t.claim crtc id).2.release id = t := by
  rw [t.release_of_claim id h, t.release_of_unowned hid]

theorem owner_release (t : CrtcClaims) (id : OutputId) (c : CrtcHandle) :
    (t.release id).owner c = if t.owner c = some id then none else t.owner c := by
  obtain ⟨es, hnodup⟩ := t
  show List.lookup c (es.filter _) = if List.lookup c es = some id then none else List.lookup c es
  induction es with
  | nil => simp
  | cons e es ih =>
    obtain ⟨crtc, owner⟩ := e
    rw [List.map_cons, List.nodup_cons] at hnodup
    have hrest := ih hnodup.2
    rw [lookup_cons_if]
    by_cases hc : c = crtc
    · have hnone : List.lookup c es = none := lookup_eq_none_iff.2 (hc ▸ hnodup.1)
      by_cases ho : owner = id
      · rw [List.filter_cons_of_neg (by simp [ho]), hrest, hnone]
        simp [hc, ho]
      · simp [ho, hc]
    · by_cases ho : owner = id
      · simpa [List.filter_cons, ho, hc] using hrest
      · rw [List.filter_cons_of_pos (by simp [ho]), lookup_cons_if, if_neg hc, if_neg hc, hrest]

theorem owner_release_self (t : CrtcClaims) (id : OutputId) (c : CrtcHandle) :
    (t.release id).owner c ≠ some id := by
  rw [owner_release]
  split <;> simp_all

theorem owner_release_of_ne (t : CrtcClaims) {id j : OutputId} (hj : j ≠ id) (c : CrtcHandle) :
    (t.release id).owner c = some j ↔ t.owner c = some j := by
  rw [owner_release]
  by_cases hc : t.owner c = some id
  · simp [hc, Ne.symm hj]
  · simp [hc]

theorem owner_claim_of_ne (t : CrtcClaims) {crtc : CrtcHandle} {id j : OutputId} (hj : j ≠ id)
    (h : t.owner crtc = none) (c : CrtcHandle) :
    (t.claim crtc id).2.owner c = some j ↔ t.owner c = some j := by
  rw [owner_claim t id h]
  by_cases hc : c = crtc
  · simp [hc, h, Ne.symm hj]
  · simp [hc]

end CrtcClaims

namespace Backend

variable {W : World} {α : Type}

/-- The books are the same, and no surface number is used again. -/
structure SameBooks (b b' : Backend W) : Prop where
  outputs : b'.outputs = b.outputs
  claims : b'.claims = b.claims
  timeout : b'.flipDrainTimeout = b.flipDrainTimeout
  created : b.chains.created ≤ b'.chains.created

namespace SameBooks

variable {b b' b'' : Backend W}

theorem refl (b : Backend W) : SameBooks b b := ⟨rfl, rfl, rfl, Nat.le_refl _⟩

theorem trans (h : SameBooks b b') (h' : SameBooks b' b'') : SameBooks b b'' :=
  ⟨h'.outputs.trans h.outputs, h'.claims.trans h.claims, h'.timeout.trans h.timeout,
    Nat.le_trans h.created h'.created⟩

theorem output? (h : SameBooks b b') (id : OutputId) : b'.output? id = b.output? id := by
  rw [Backend.output?, h.outputs, Backend.output?]

theorem modify (h : SameBooks b b') (i : Nat) (f : Output → Output) :
    SameBooks { b with outputs := b.outputs.modify i f }
      { b' with outputs := b'.outputs.modify i f } :=
  ⟨by rw [h.outputs], h.claims, h.timeout, h.created⟩

theorem mapClaims (h : SameBooks b b') (f : CrtcClaims → CrtcClaims) :
    SameBooks { b with claims := f b.claims } { b' with claims := f b'.claims } :=
  ⟨h.outputs, by rw [h.claims], h.timeout, h.created⟩

end SameBooks

theorem output?_modify {b b' : Backend W} {id : OutputId} {f : Output → Output}
    (h : b'.outputs = b.outputs.modify id.slot f) (j : OutputId) :
    b'.output? j = if id = j then (b.output? j).map f else b.output? j := by
  have hslot : id.slot = j.slot ↔ id = j := by
    cases id; cases j; simp
  rw [output?, h, List.getElem?_modify, output?]
  simp only [hslot]
  split <;> simp

theorem output?_modify_self {b b' : Backend W} {id : OutputId} {f : Output → Output} {o : Output}
    (h : b'.outputs = b.outputs.modify id.slot f) (ho : b.output? id = some o) :
    b'.output? id = some (f o) := by
  rw [output?_modify h, if_pos rfl, ho, Option.map_some]

theorem output?_append {b b' : Backend W} {o : Output} (h : b'.outputs = b.outputs ++ [o])
    (j : OutputId) :
    b'.output? j = if j = ⟨b.outputs.length⟩ then some o else b.output? j := by
  rw [output?, h, output?]
  by_cases hj : j = ⟨b.outputs.length⟩
  · rw [if_pos hj, hj]
    exact List.getElem?_concat_length
  · have hslot : j.slot ≠ b.outputs.length := fun hslot => hj (by cases j; simp_all)
    rw [if_neg hj, List.getElem?_append]
    split
    · rfl
    · rw [List.getElem?_eq_none (by simp; omega), List.getElem?_eq_none (by omega)]

theorem output?_append_of_some {b b' : Backend W} {o o' : Output} {j : OutputId}
    (h : b'.outputs = b.outputs ++ [o]) (ho' : b.output? j = some o') :
    b'.output? j = some o' := by
  rw [output?_append h]
  split
  · next hj =>
    rw [hj, output?, List.getElem?_eq_none (Nat.le_refl _)] at ho'
    contradiction
  · exact ho'

/-- The books agree about every output but one. -/
structure SameElsewhere (id : OutputId) (b b' : Backend W) : Prop where
  outputs : ∀ j ≠ id, b'.output? j = b.output? j
  owners : ∀ c, ∀ j ≠ id, b'.claims.owner c = some j ↔ b.claims.owner c = some j

namespace SameElsewhere

variable {id : OutputId} {b b' b'' : Backend W}

theorem of_same (h : SameBooks b b') : SameElsewhere id b b' where
  outputs j _ := h.output? j
  owners c j _ := by rw [h.claims]

theorem trans (h : SameElsewhere id b b') (h' : SameElsewhere id b' b'') :
    SameElsewhere id b b'' where
  outputs j hj := (h'.outputs j hj).trans (h.outputs j hj)
  owners c j hj := (h'.owners c j hj).trans (h.owners c j hj)

theorem of_modify {f : Output → Output} (ho : b'.outputs = b.outputs.modify id.slot f)
    (hc : ∀ c, ∀ j ≠ id, b'.claims.owner c = some j ↔ b.claims.owner c = some j) :
    SameElsewhere id b b' where
  outputs j hj := by rw [output?_modify ho, if_neg (Ne.symm hj)]
  owners := hc

theorem of_release {f : Output → Output} (h : SameBooks
    { b with outputs := b.outputs.modify id.slot f, claims := b.claims.release id } b') :
    SameElsewhere id b b' := .of_modify h.outputs fun c j hj => by
  rw [h.claims]
  exact b.claims.owner_release_of_ne hj c

end SameElsewhere

/-- Records are known by their slots. -/
theorem outputs_ext {b b' : Backend W} (h : ∀ id, b'.output? id = b.output? id) :
    b'.outputs = b.outputs := List.ext_getElem? fun slot => h ⟨slot⟩

/-- What acts on the rendering context alone is not in the books. -/
theorem yields_inContext {act : RenderM W α} {b : Backend W}
    {Q : α → List JournalEntry → RenderContext W → Prop} (h : Yields act b.toRenderContext Q)
    (hQ : ∀ a g c, Q a g c → b.chains.created ≤ c.chains.created) :
    Yields (BackendM.inContext act) b fun a g b' =>
      Q a g b'.toRenderContext ∧ SameBooks b b' := by
  obtain ⟨g, hg, hq⟩ := h
  exact ⟨g, hg, hq, rfl, rfl, rfl, hQ _ _ _ hq⟩

/-- Quiet entries were added and the books are the same. -/
structure Quiet (b : Backend W) (gained : List JournalEntry) (b' : Backend W) : Prop where
  quiet : ∀ e ∈ gained, e.IsQuiet
  same : SameBooks b b'

theorem Quiet.refl (b : Backend W) : Quiet b [] b := ⟨by simp, .refl b⟩

theorem Quiet.trans {b b' b'' : Backend W} {g g' : List JournalEntry} (h : Quiet b g b')
    (h' : Quiet b' g' b'') : Quiet b (g' ++ g) b'' :=
  ⟨fun e he => (List.mem_append.1 he).elim (h'.quiet e) (h.quiet e), h.same.trans h'.same⟩

theorem yields_quietly {act : RenderM W α} (h : RenderContext.Quietly act) (b : Backend W) :
    Yields (BackendM.inContext act) b fun _ g b' => Quiet b g b' :=
  (yields_inContext (h _) fun _ _ _ h' => h'.created).mono fun _ _ _ h' => ⟨h'.1.quiet, h'.2⟩

theorem yields_render {ε : Type} {cause : RenderError → ε}
    {act : ExceptT RenderError (RenderM W) α} (h : RenderContext.Quietly act.run)
    (b : Backend W) : Yields (render cause act).run b fun _ g b' => Quiet b g b' :=
  (Yields.orFail (yields_quietly h b)).mono fun _ _ _ ⟨_, _, h'⟩ => h'

theorem yields_call (c : Call) (b : Backend W) :
    Yields (call c : BackendM W c.Answer) b fun a g b' => g = [.call c a] ∧ SameBooks b b' :=
  ⟨_, rfl, rfl, rfl, rfl, rfl, Nat.le_refl _⟩

theorem yields_quietCall {c : Call} (b : Backend W)
    (h : ∀ a, (JournalEntry.call c a).IsQuiet) :
    Yields (call c : BackendM W c.Answer) b fun a g b' => g = [.call c a] ∧ Quiet b g b' := by
  refine (yields_call c b).mono ?_
  rintro a _ b' ⟨rfl, hb⟩
  exact ⟨rfl, by simpa using h a, hb⟩

theorem yields_quietCallOk {ε : Type} {c : Call} (b : Backend W)
    (h : ∀ a, (JournalEntry.call c a).IsQuiet) :
    Yields (call c : ExceptT ε (BackendM W) c.Answer).run b fun r g b' =>
      ∃ a, r = .ok a ∧ g = [.call c a] ∧ Quiet b g b' :=
  .lift ((yields_quietCall b h).mono fun a _ _ h' => ⟨a, rfl, h'⟩)

theorem yields_updateOutput (id : OutputId) (f : Output → Output) (b : Backend W) :
    Yields (updateOutput id f) b fun _ g b' =>
      g = [] ∧ b' = { b with outputs := b.outputs.modify id.slot f } := ⟨[], rfl, rfl, rfl⟩

theorem yields_emit (e : OutputEvent) (b : Backend W) :
    Yields (emit e) b fun _ g b' => g = [.event e] ∧ SameBooks b b' :=
  ⟨[.event e], rfl, rfl, rfl, rfl, rfl, Nat.le_refl _⟩

theorem yields_releaseClaims (id : OutputId) (b : Backend W) :
    Yields (releaseClaims id) b fun _ g b' =>
      g = [.released id] ∧ SameBooks { b with claims := b.claims.release id } b' :=
  ⟨[.released id], rfl, rfl, rfl, rfl, rfl, Nat.le_refl _⟩

theorem yields_requireOutput (id : OutputId) (b : Backend W) :
    Yields (requireOutput id).run b fun r g b' => g = [] ∧ b' = b ∧
      match r with
      | .ok o => b.output? id = some o
      | .error e => e = .unknownOutput id ∧ b.output? id = none := by
  refine Yields.getOk_bind ?_
  cases h : b.output? id with
  | some o => exact .pureOk ⟨rfl, rfl, rfl⟩
  | none => exact .throw ⟨rfl, rfl, rfl, rfl⟩

end Backend
end Scanout
