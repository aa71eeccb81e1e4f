import Scanout.Proofs.ActionStages

/-!
# Claims and records agree

Whatever is asked of a backend and whatever the device answers, a CRTC belongs to an output
exactly if the output's record names it, and the fields of a record are coherent. Setting a mode
fills the record before there is a surface, so this need not hold within a stage; it holds
between stages.
-/

namespace Scanout

/-- The fields of a record fit together. -/
structure Output.Coherent (o : Output) : Prop where
  encoder : o.encoder.isSome = o.crtc.isSome
  mode : o.mode.isSome = o.crtc.isSome
  surface : o.crtc.isSome → ∃ s m, o.surface = some s ∧ o.mode = some m ∧
    s.width = m.size.1 ∧ s.height = m.size.2
  connected : o.state = .connected → o.crtc.isSome
  saved : o.savedCrtc.isSome → o.crtc.isSome
  pending : o.flipPending = true → o.crtc.isSome
  cleaning : o.cleaningUp = true → o.surface.isSome

/-- Reading a connector changes name, state and modes of a record, and connects none. -/
theorem Output.reconcile_eq (o : Output) (info : ConnectorInfo) (id : OutputId) :
    ∃ name state modes, (o.reconcile info id).1 = { o with name, state, modes } ∧
      (state = .connected → o.state = .connected) := by
  unfold Output.reconcile
  by_cases hinvalid : o.state = .invalid
  · rw [if_pos hinvalid]
    cases info.isConnected with
    | true => exact ⟨_, _, _, rfl, nofun⟩
    | false => exact ⟨_, _, _, rfl, nofun⟩
  · rw [if_neg hinvalid]
    dsimp only
    split
    · exact ⟨_, _, _, rfl, nofun⟩
    · exact ⟨_, _, _, rfl, nofun⟩
    · exact ⟨_, _, _, rfl, fun h => h⟩

namespace Output.Coherent

variable {o : Output}

theorem new (connector : ConnectorHandle) : (Output.new connector).Coherent := by
  constructor <;> simp [Output.new]

/-- A record that has nothing of a mode-set is coherent whether it has a surface or not. -/
theorem of_bare (hencoder : o.encoder = none) (hcrtc : o.crtc = none) (hmode : o.mode = none)
    (hsaved : o.savedCrtc = none) (hpending : o.flipPending = false)
    (hcleaning : o.cleaningUp = false) (hstate : o.state ≠ .connected) : o.Coherent := by
  constructor <;> simp [*]

theorem withdrawn (o : Output) : o.withdrawn.Coherent := by
  refine of_bare rfl rfl rfl rfl rfl rfl ?_
  unfold Output.withdrawn
  dsimp only
  split
  · simp
  · assumption

theorem lit (o : Output) (k : ModesetChoice) (s : SurfaceId) (fb : FramebufferId) :
    ((o.configured k).lit k.mode s fb).Coherent := by
  constructor <;> simp [configured, Output.lit]

theorem presenting (h : o.Coherent) (hc : o.crtc.isSome) (fb : FramebufferId) :
    (o.presenting fb).Coherent where
  encoder := h.encoder
  mode := h.mode
  surface _ := by
    obtain ⟨s, m, hs, hm, hsize⟩ := h.surface hc
    exact ⟨{ s with lastFramebuffer := some fb }, m, by simp [Output.presenting, hs], hm, hsize⟩
  connected := h.connected
  saved := h.saved
  pending _ := hc
  cleaning hclean := by simpa [Output.presenting] using h.cleaning hclean

theorem completed (h : o.Coherent) (p : Bool) :
    ({ o with flipPending := o.flipPending && p } : Output).Coherent :=
  { h with pending := fun hp => h.pending (Bool.and_eq_true_iff.1 hp).1 }

theorem cleaningUp (h : o.Coherent) (hs : o.surface.isSome) :
    ({ o with cleaningUp := true } : Output).Coherent :=
  { h with cleaning := fun _ => hs }

theorem disconnected (h : o.Coherent) : ({ o with state := .disconnected } : Output).Coherent :=
  { h with connected := nofun }

theorem reconcile (h : o.Coherent) (info : ConnectorInfo) (id : OutputId) :
    (o.reconcile info id).1.Coherent := by
  obtain ⟨name, state, modes, heq, hstate⟩ := o.reconcile_eq info id
  rw [heq]
  exact { h with connected := fun hconn => h.connected (hstate hconn) }

end Output.Coherent

namespace Backend

variable {W : World}

/-- The claims are those that the records name, and every record is coherent. -/
structure Agrees (b : Backend W) : Prop where
  owner : ∀ c id, b.claims.owner c = some id ↔ ∃ o, b.output? id = some o ∧ o.crtc = some c
  coherent : ∀ id o, b.output? id = some o → o.Coherent

namespace Agrees

variable {b b' : Backend W} {id : OutputId} {o : Output} {g : List JournalEntry}

theorem new (context : RenderContext W) : (Backend.new context).Agrees where
  owner c id := by simp [Backend.new, output?]
  coherent id o ho := by simp [Backend.new, output?] at ho

theorem of_same (h : b.Agrees) (hb : SameBooks b b') : b'.Agrees where
  owner c id := by rw [hb.claims, hb.output?, h.owner]
  coherent id o ho := h.coherent id o (hb.output? id ▸ ho)

theorem crtc_none (h : b.Agrees) (ho : b.output? id = some o) (hs : o.surface = none) :
    o.crtc = none := by
  refine Option.not_isSome_iff_eq_none.1 fun hc => ?_
  obtain ⟨s, m, hsome, -⟩ := (h.coherent id o ho).surface hc
  simp [hs] at hsome

/-- What changes one output is checked at that output. -/
theorem of_elsewhere (h : b.Agrees) (hb : SameElsewhere id b b') (ho : b'.output? id = some o)
    (hcoherent : o.Coherent) (howner : ∀ c, b'.claims.owner c = some id ↔ o.crtc = some c) :
    b'.Agrees where
  owner c j := by
    by_cases hj : j = id
    · subst hj
      simp [howner, ho]
    · rw [hb.owners c j hj, hb.outputs j hj, h.owner]
  coherent j o' ho' := by
    by_cases hj : j = id
    · subst hj
      rw [ho, Option.some_inj] at ho'
      exact ho' ▸ hcoherent
    · exact h.coherent j o' (hb.outputs j hj ▸ ho')

/-- A record may change as it likes if it stays coherent and keeps its CRTC. -/
theorem of_modify {f : Output → Output} (h : b.Agrees) (ho : b.output? id = some o)
    (hb : SameBooks { b with outputs := b.outputs.modify id.slot f } b')
    (hcoherent : (f o).Coherent) (hcrtc : (f o).crtc = o.crtc) : b'.Agrees := by
  refine h.of_elsewhere (.of_modify hb.outputs fun c j _ => by rw [hb.claims])
    (output?_modify_self hb.outputs ho) hcoherent fun c => ?_
  rw [hb.claims, h.owner, hcrtc]
  simp [ho]

/-- An output may lose everything that was claimed for it. -/
theorem of_release {f : Output → Output} {b₁ : Backend W} (h : b.Agrees)
    (hb : SameElsewhere id b b₁) (ho : b₁.output? id = some o)
    (hb' : SameBooks
      { b₁ with outputs := b₁.outputs.modify id.slot f, claims := b₁.claims.release id } b')
    (hcoherent : (f o).Coherent) (hcrtc : (f o).crtc = none) : b'.Agrees := by
  refine h.of_elsewhere (hb.trans (.of_release hb')) (output?_modify_self hb'.outputs ho)
    hcoherent fun c => ?_
  rw [hb'.claims, hcrtc]
  simp [b₁.claims.owner_release_self id c]

/-- Without a surface the output had no CRTC, so that the new claim is its only one. -/
theorem set (h : b.Agrees) (ho : b.output? id = some o) (hs : o.surface = none)
    (htried : ModesetTried id o.connector b (.ok ()) g b') : b'.Agrees := by
  obtain ⟨k, s, fb, hfree, hclaims, ho', -⟩ := htried.ok_books ho
  refine h.of_elsewhere htried.elsewhere ho' (.lit o k s fb) fun c => ?_
  have hnone : ¬b.claims.owner c = some id := by
    rw [h.owner]
    rintro ⟨o₁, ho₁, hc⟩
    obtain rfl := Option.some.inj (ho.symm.trans ho₁)
    simp [h.crtc_none ho hs] at hc
  rw [hclaims, b.claims.owner_claim id hfree]
  show _ ↔ some k.crtc = some c
  by_cases hc : c = k.crtc
  · simp [hc]
  · simp [hc, hnone, Ne.symm hc]

theorem completed (h : b.Agrees) (completions : List FlipCompletion) :
    (b.completed completions).Agrees where
  owner c id := by
    rw [claims_completed, h.owner, output?_completed]
    cases b.output? id <;> simp
  coherent id o ho := by
    rw [output?_completed] at ho
    obtain ⟨o₀, ho₀, rfl⟩ := Option.map_eq_some_iff.1 ho
    exact (h.coherent id o₀ ho₀).completed _

theorem slotted (h : b.Agrees) {connector : ConnectorHandle}
    (hb : b'.outputs = b.outputs ++ [Output.new connector]) (hclaims : b'.claims = b.claims) :
    b'.Agrees where
  owner c id := by
    rw [hclaims, h.owner, output?_append hb]
    split
    · next hid =>
      have hfresh : b.output? id = none := by
        rw [hid]
        exact List.getElem?_eq_none (Nat.le_refl _)
      simp [hfresh, Output.new]
    · rfl
  coherent id o ho := by
    rw [output?_append hb] at ho
    split at ho
    · exact Option.some.inj ho ▸ .new connector
    · exact h.coherent id o ho

theorem step {a : BackendAction} (hstage : Stage a b g b') (h : b.Agrees) : b'.Agrees := by
  cases hstage with
  | quiet hb => exact h.of_same hb.same
  | retimed timeout _ => exact ⟨h.owner, h.coherent⟩
  | slotted connector _ _ => exact h.slotted rfl rfl
  | read _ ho hb =>
    refine h.of_modify ho hb ((h.coherent _ _ ho).reconcile _ _) ?_
    obtain ⟨name, state, modes, heq, -⟩ := Output.reconcile_eq _ _ _
    rw [heq]
  | completed hb => exact (h.completed _).of_same hb
  | cleaning _ ho hs =>
    exact h.of_modify ho (.refl _) ((h.coherent _ _ ho).cleaningUp (by simp [hs])) rfl
  | undrained _ ho _ hb => exact h.of_modify ho hb (h.coherent _ _ ho).disconnected rfl
  | released _ ho _ _ _ _ hb => exact h.of_release (.of_same (.refl b)) ho hb (.withdrawn _) rfl
  | set _ ho hs htried => exact h.set ho hs htried
  | reverted _ ho _ htried hb =>
    obtain ⟨o₁, ho₁, -⟩ := htried.error_record ho
    exact h.of_release htried.elsewhere ho₁ hb (.of_bare rfl rfl rfl rfl rfl rfl nofun) rfl
  | refused _ _ ho hb =>
    exact h.of_release (.of_same (.refl b)) ho hb (.of_bare rfl rfl rfl rfl rfl rfl nofun) rfl
  | flipped _ ho _ hc _ _ hb =>
    exact h.of_modify ho hb ((h.coherent _ _ ho).presenting (by simp [hc]) _) rfl
  | unflipped _ _ _ _ _ _ hb => exact h.of_same hb

theorem stages {a : BackendAction} (hstages : Stages a b g b') (h : b.Agrees) : b'.Agrees := by
  induction hstages with
  | nil => exact h
  | cons hstage _ ih => exact ih (h.step hstage)

theorem run (h : b.Agrees) (actions : List BackendAction) : (b.run actions).Agrees := by
  obtain ⟨-, -, h'⟩ := run_keeps (P := fun _ b => b.Agrees)
    (fun _ _ _ _ _ _ hstage hb => hb.step hstage) h
  exact h'

theorem crtc_injective (h : b.Agrees) {id' : OutputId} {o' : Output} {c : CrtcHandle}
    (ho : b.output? id = some o) (ho' : b.output? id' = some o') (hc : o.crtc = some c)
    (hc' : o'.crtc = some c) : id = id' := by
  have hown := (h.owner c id).2 ⟨o, ho, hc⟩
  have hown' := (h.owner c id').2 ⟨o', ho', hc'⟩
  exact Option.some.inj (hown.symm.trans hown')

theorem owned_unique (h : b.Agrees) {c c' : CrtcHandle} (hc : b.claims.owner c = some id)
    (hc' : b.claims.owner c' = some id) : c = c' := by
  obtain ⟨o, ho, hco⟩ := (h.owner c id).1 hc
  obtain ⟨o', ho', hco'⟩ := (h.owner c' id).1 hc'
  obtain rfl := Option.some.inj (ho.symm.trans ho')
  exact Option.some.inj (hco.symm.trans hco')

end Agrees

/-- After every run the claims are those that the records name, each output has at most one and
each CRTC is named at most once, and the fields of every record fit together. -/
theorem claims_and_records_agree (context : RenderContext W) (actions : List BackendAction) :
    let b := (Backend.new context).run actions
    (∀ c id, b.claims.owner c = some id ↔ ∃ o, b.output? id = some o ∧ o.crtc = some c) ∧
      (∀ id c c', b.claims.owner c = some id → b.claims.owner c' = some id → c = c') ∧
      (∀ id id' o o' c, b.output? id = some o → b.output? id' = some o' →
        o.crtc = some c → o'.crtc = some c → id = id') ∧
      ∀ id o, b.output? id = some o →
        ((o.crtc.isSome ∧ o.encoder.isSome ∧ o.mode.isSome) ∨
          (o.crtc = none ∧ o.encoder = none ∧ o.mode = none)) ∧
        (o.crtc.isSome → ∃ s m, o.surface = some s ∧ o.mode = some m ∧
          s.width = m.size.1 ∧ s.height = m.size.2) ∧
        (o.state = .connected → o.crtc.isSome) ∧
        (o.savedCrtc.isSome ∨ o.flipPending = true → o.crtc.isSome) ∧
        (o.cleaningUp = true → o.surface.isSome) := by
  intro b
  have h : b.Agrees := (Agrees.new context).run actions
  refine ⟨h.owner, fun _ _ _ => h.owned_unique, fun _ _ _ _ _ => h.crtc_injective, ?_⟩
  intro id o ho
  obtain ⟨hencoder, hmode, hsurface, hconnected, hsaved, hpending, hcleaning⟩ := h.coherent id o ho
  refine ⟨?_, hsurface, hconnected, fun hor => hor.elim hsaved hpending, hcleaning⟩
  cases hc : o.crtc.isSome with
  | true => exact .inl ⟨rfl, hencoder.trans hc, hmode.trans hc⟩
  | false =>
    rw [hc] at hencoder hmode
    simp_all

end Backend
end Scanout
