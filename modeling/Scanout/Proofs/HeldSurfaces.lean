import Scanout.Proofs.RecordAgreement
import Scanout.SimulatedDevice

/-!
# Surfaces that are held

An output that has a surface owns a CRTC and has all that setting its mode acquired, except
after a mode request for it that could not be read: that request takes CRTC, snapshot and claim
away and leaves the surface. No other action takes anything from a surface that stays.
-/

namespace Scanout

/-- Two records are alike in what setting a mode acquires. -/
structure Output.SameModeset (o o' : Output) : Prop where
  surface : o'.surface.map (·.surface) = o.surface.map (·.surface)
  encoder : o'.encoder = o.encoder
  crtc : o'.crtc = o.crtc
  mode : o'.mode = o.mode
  saved : o'.savedCrtc = o.savedCrtc

namespace Output.SameModeset

variable {o o' o'' : Output}

theorem refl (o : Output) : o.SameModeset o := ⟨rfl, rfl, rfl, rfl, rfl⟩

theorem trans (h : o.SameModeset o') (h' : o'.SameModeset o'') : o.SameModeset o'' :=
  ⟨h'.surface.trans h.surface, h'.encoder.trans h.encoder, h'.crtc.trans h.crtc,
    h'.mode.trans h.mode, h'.saved.trans h.saved⟩

theorem surface_of {s' : OutputSurface} (h : o.SameModeset o') (hs' : o'.surface = some s') :
    ∃ s, o.surface = some s ∧ s.surface = s'.surface := by
  have hmap := h.surface
  rw [hs'] at hmap
  exact Option.map_eq_some_iff.1 hmap.symm

theorem reconcile (o : Output) (info : ConnectorInfo) (id : OutputId) :
    o.SameModeset (o.reconcile info id).1 := by
  obtain ⟨name, state, modes, heq, -⟩ := o.reconcile_eq info id
  rw [heq]
  exact ⟨rfl, rfl, rfl, rfl, rfl⟩

theorem presenting (o : Output) (fb : FramebufferId) : o.SameModeset (o.presenting fb) := by
  refine ⟨?_, rfl, rfl, rfl, rfl⟩
  rw [Output.presenting, Option.map_map]
  rfl

end Output.SameModeset

namespace Backend

variable {W : World}

/-- Every output that has a surface has encoder, mode and a CRTC, and owns that CRTC. -/
def Holds (b : Backend W) : Prop :=
  ∀ id o, b.output? id = some o → o.surface.isSome →
    ∃ c, o.crtc = some c ∧ o.encoder.isSome ∧ o.mode.isSome ∧ b.claims.owner c = some id

/-- The action gives a mode request that cannot be read to an output that has a surface. -/
def Strips (b : Backend W) (a : BackendAction) : Prop :=
  ¬a.Readable ∧ ∃ id o, a.subject = some id ∧ b.output? id = some o ∧ o.surface.isSome

/-- Every surface that there is afterwards was made in between for an output with a CRTC, or
was there before and lost nothing of its mode-set. -/
structure Kept (b b' : Backend W) : Prop where
  created : b.chains.created ≤ b'.chains.created
  record : ∀ id o' s', b'.output? id = some o' → o'.surface = some s' →
    (b.chains.created < s'.surface.number ∧ s'.surface.number ≤ b'.chains.created ∧
        o'.crtc.isSome) ∨
      ∃ o, b.output? id = some o ∧ o.SameModeset o'

namespace Kept

variable {b b₁ b' : Backend W} {id : OutputId} {o : Output} {g : List JournalEntry}

theorem of_same (h : SameBooks b b') : Kept b b' where
  created := h.created
  record id o' _ ho' _ := .inr ⟨o', h.output? id ▸ ho', .refl o'⟩

theorem trans (h : Kept b b₁) (h' : Kept b₁ b') : Kept b b' where
  created := Nat.le_trans h.created h'.created
  record id o' s' ho' hs' := by
    -- numbers are not used again, so a surface made in the first part is new in the whole
    rcases h'.record id o' s' ho' hs' with ⟨hnew, hold, hc⟩ | ⟨o₁, ho₁, hsame⟩
    · exact .inl ⟨Nat.lt_of_le_of_lt h.created hnew, hold, hc⟩
    · obtain ⟨s₁, hs₁, hsurface⟩ := hsame.surface_of hs'
      rcases h.record id o₁ s₁ ho₁ hs₁ with ⟨hnew, hold, hc⟩ | ⟨o, ho, hsame₀⟩
      · rw [hsurface] at hnew hold
        exact .inl ⟨hnew, Nat.le_trans hold h'.created, hsame.crtc ▸ hc⟩
      · exact .inr ⟨o, ho, hsame₀.trans hsame⟩

theorem of_elsewhere (hcreated : b.chains.created ≤ b'.chains.created)
    (hb : SameElsewhere id b b') (ho' : b'.output? id = some o)
    (hrecord : ∀ s', o.surface = some s' →
      (b.chains.created < s'.surface.number ∧ s'.surface.number ≤ b'.chains.created ∧
        o.crtc.isSome) ∨ ∃ o₀, b.output? id = some o₀ ∧ o₀.SameModeset o) : Kept b b' where
  created := hcreated
  record j o' s' hj hs' := by
    by_cases hjd : j = id
    · subst hjd
      obtain rfl := Option.some.inj (ho'.symm.trans hj)
      exact hrecord s' hs'
    · exact .inr ⟨o', hb.outputs j hjd ▸ hj, .refl o'⟩

theorem of_modify {f : Output → Output} (ho : b.output? id = some o)
    (hb : SameBooks { b with outputs := b.outputs.modify id.slot f } b')
    (hf : o.SameModeset (f o)) : Kept b b' :=
  of_elsewhere hb.created (.of_modify hb.outputs fun c j _ => by rw [hb.claims])
    (output?_modify_self hb.outputs ho) fun _ _ => .inr ⟨o, ho, hf⟩

/-- An output may lose everything if its surface goes too. -/
theorem of_release {f : Output → Output} (hcreated : b.chains.created ≤ b₁.chains.created)
    (hb : SameElsewhere id b b₁) (ho : b₁.output? id = some o)
    (hb' : SameBooks
      { b₁ with outputs := b₁.outputs.modify id.slot f, claims := b₁.claims.release id } b')
    (hs : (f o).surface = none) : Kept b b' :=
  of_elsewhere (Nat.le_trans hcreated hb'.created) (hb.trans (.of_release hb'))
    (output?_modify_self hb'.outputs ho) fun s' hs' => by simp [hs] at hs'

theorem completed (b : Backend W) (completions : List FlipCompletion) :
    Kept b (b.completed completions) where
  created := Nat.le_refl _
  record id o' _ ho' _ := by
    rw [output?_completed] at ho'
    obtain ⟨o, ho, rfl⟩ := Option.map_eq_some_iff.1 ho'
    exact .inr ⟨o, ho, rfl, rfl, rfl, rfl, rfl⟩

theorem slotted (b : Backend W) (connector : ConnectorHandle) :
    Kept b { b with outputs := b.outputs ++ [Output.new connector] } where
  created := Nat.le_refl _
  record id o' s' ho' hs' := by
    rw [output?_append (b := b) rfl] at ho'
    split at ho'
    · obtain rfl := Option.some.inj ho'
      simp [Output.new] at hs'
    · exact .inr ⟨o', ho', .refl o'⟩

/-- Every stage keeps surfaces what they have, if there is no mode request that cannot be read. -/
theorem of_stage {a : BackendAction} (ha : a.Readable) (h : Stage a b g b') : Kept b b' := by
  cases h with
  | quiet hb => exact .of_same hb.same
  | retimed timeout _ => exact ⟨Nat.le_refl _, fun id o' _ ho' _ => .inr ⟨o', ho', .refl o'⟩⟩
  | slotted connector _ _ => exact .slotted b connector
  | read _ ho hb => exact .of_modify ho hb (.reconcile _ _ _)
  | completed hb => exact (Kept.completed b _).trans (.of_same hb)
  | cleaning _ ho _ => exact .of_modify ho (.refl _) ⟨rfl, rfl, rfl, rfl, rfl⟩
  | undrained _ ho _ hb => exact .of_modify ho hb ⟨rfl, rfl, rfl, rfl, rfl⟩
  | released _ ho _ _ _ _ hb => exact .of_release (Nat.le_refl _) (.of_same (.refl b)) ho hb rfl
  | set _ ho _ htried =>
    obtain ⟨k, s, fb, -, -, ho', hnew, hold, -⟩ := htried.ok_books ho
    refine .of_elsewhere htried.created htried.elsewhere ho' ?_
    rintro s' ⟨⟩
    exact .inl ⟨hnew, hold, rfl⟩
  | reverted _ ho hs htried hb =>
    obtain ⟨o₁, ho₁, hrecord⟩ := htried.error_record ho
    refine .of_release htried.created htried.elsewhere ho₁ hb ?_
    rcases hrecord with rfl | ⟨k, rfl⟩ <;> exact hs
  | refused hselect hparse _ _ =>
    subst hselect
    simp [BackendAction.Readable, hparse, Except.isOk, Except.toBool] at ha
  | flipped _ ho _ _ _ _ hb => exact .of_modify ho hb (.presenting _ _)
  | unflipped _ _ _ _ _ _ hb => exact .of_same hb

theorem of_stages {a : BackendAction} (ha : a.Readable) (h : Stages a b g b') : Kept b b' := by
  induction h with
  | nil => exact .of_same (.refl _)
  | cons h₀ _ ih => exact (Kept.of_stage ha h₀).trans ih

end Kept

variable {b b' : Backend W} {a : BackendAction}

private theorem subject_of_unreadable (ha : ¬a.Readable) : ∃ id, a.subject = some id := by
  cases a with
  | selectMode id _ => exact ⟨id, rfl⟩
  | _ => exact absurd trivial ha

theorem kept_after (h : ¬b.Strips a) : Kept b (b.after a) := by
  by_cases ha : a.Readable
  · obtain ⟨g, -, hstages⟩ := stages_after b a
    exact .of_stages ha hstages
  · obtain ⟨id, hid⟩ := subject_of_unreadable ha
    rcases after_unreadable ha hid b with ⟨-, hsame⟩ | ⟨o, ho, hb⟩
    · rw [hsame]
      exact .of_same (.refl b)
    · have hnone : o.surface = none := by
        refine Option.not_isSome_iff_eq_none.1 fun hs => ?_
        exact h ⟨ha, id, o, hid, ho, hs⟩
      exact .of_release (Nat.le_refl _) (.of_same (.refl b)) ho hb hnone

def Numbered (b : Backend W) : Prop :=
  ∀ id o s, b.output? id = some o → o.surface = some s → s.surface.number ≤ b.chains.created

theorem Kept.numbered (h : Kept b b') (hb : b.Numbered) : b'.Numbered := by
  intro id o' s' ho' hs'
  rcases h.record id o' s' ho' hs' with ⟨-, hold, -⟩ | ⟨o, ho, hsame⟩
  · exact hold
  · obtain ⟨s, hs, hsurface⟩ := hsame.surface_of hs'
    rw [← hsurface]
    exact Nat.le_trans (hb id o s ho hs) h.created

/-- A stripped output keeps its surface and has nothing else of its mode-set. -/
theorem stripped_after (h : b.Strips a) : ∃ id o o', a.subject = some id ∧
    b.output? id = some o ∧ (b.after a).output? id = some o' ∧ o'.surface = o.surface ∧
      o.surface.isSome ∧ o'.crtc = none ∧ o'.savedCrtc = none ∧
      ∀ c, (b.after a).claims.owner c ≠ some id := by
  obtain ⟨ha, id, o, hid, ho, hs⟩ := h
  rcases after_unreadable ha hid b with ⟨hnone, -⟩ | ⟨o₀, ho₀, hb⟩
  · rw [hnone] at ho
    contradiction
  · refine ⟨id, o, _, hid, ho, output?_modify_self hb.outputs ho, rfl, hs, rfl, rfl, fun c => ?_⟩
    rw [hb.claims]
    exact b.claims.owner_release_self id c

theorem numbered_after (hb : b.Numbered) (a : BackendAction) : (b.after a).Numbered := by
  by_cases h : b.Strips a
  · obtain ⟨ha, id, o, hid, ho, hs⟩ := h
    rcases after_unreadable ha hid b with ⟨hnone, -⟩ | ⟨-, -, hb'⟩
    · rw [hnone] at ho
      contradiction
    · intro j o' s' ho' hs'
      rw [output?_modify hb'.outputs] at ho'
      split at ho'
      · obtain ⟨o₁, ho₁, rfl⟩ := Option.map_eq_some_iff.1 ho'
        exact Nat.le_trans (hb j o₁ s' ho₁ hs') hb'.created
      · exact Nat.le_trans (hb j o' s' ho' hs') hb'.created
  · exact (kept_after h).numbered hb

theorem numbered_run (context : RenderContext W) (actions : List BackendAction) :
    ((Backend.new context).run actions).Numbered := by
  have hrun {b : Backend W} (hb : b.Numbered) : (b.run actions).Numbered := by
    induction actions generalizing b with
    | nil => exact hb
    | cons a actions ih => exact ih (numbered_after hb a)
  exact hrun fun id o s ho => by simp [Backend.new, output?] at ho

theorem Agrees.holds_iff (h : b.Agrees) :
    b.Holds ↔ ∀ id o, b.output? id = some o → o.surface.isSome → o.crtc.isSome := by
  constructor
  · intro hb id o ho hs
    obtain ⟨c, hc, -⟩ := hb id o ho hs
    rw [hc, Option.isSome_some]
  · intro hb id o ho hs
    obtain ⟨c, hc⟩ := Option.isSome_iff_exists.1 (hb id o ho hs)
    have hco := h.coherent id o ho
    exact ⟨c, hc, by rw [hco.encoder, hc]; rfl, by rw [hco.mode, hc]; rfl,
      (h.owner c id).2 ⟨o, ho, hc⟩⟩

theorem Kept.holds (h : Kept b b') (hb : b.Agrees) (hb' : b'.Agrees) (hholds : b.Holds) :
    b'.Holds := by
  rw [hb'.holds_iff]
  intro id o' ho' hs
  obtain ⟨s', hs'⟩ := Option.isSome_iff_exists.1 hs
  rcases h.record id o' s' ho' hs' with ⟨-, -, hc⟩ | ⟨o, ho, hsame⟩
  · exact hc
  · obtain ⟨s, hs, -⟩ := hsame.surface_of hs'
    rw [hsame.crtc]
    exact hb.holds_iff.1 hholds id o ho (by simp [hs])

/-- Beginning and ending a frame agree on which outputs are connected exactly as long as every
surface is held. -/
theorem Agrees.holds_iff_frames (h : b.Agrees) : b.Holds ↔ ∀ id,
    (((beginFrame id).run b).1 = .error (.notConnected id) ↔
      ((endFrame id).run b).1 = .error (.notConnected id)) := by
  rw [h.holds_iff]
  simp only [beginFrame_notConnected_iff, endFrame_notConnected_iff]
  constructor
  · intro hb id
    constructor
    · rintro ⟨o, ho, hs⟩
      exact ⟨o, ho, .inr hs⟩
    · rintro ⟨o, ho, hc | hs⟩
      · refine ⟨o, ho, Option.not_isSome_iff_eq_none.1 fun hs => ?_⟩
        simpa [hc] using hb id o ho hs
      · exact ⟨o, ho, hs⟩
  · intro hb id o ho hs
    refine Option.isSome_iff_ne_none.2 fun hc => ?_
    obtain ⟨o₁, ho₁, hs₁⟩ := (hb id).2 ⟨o, ho, .inl hc⟩
    obtain rfl := Option.some.inj (ho.symm.trans ho₁)
    simp [hs₁] at hs

/-- Surfaces are held throughout a run that strips no output. -/
private theorem holds_run {b : Backend W} (hagrees : b.Agrees) (hb : b.Holds)
    {actions : List BackendAction}
    (h : ∀ before a, before ++ [a] <+: actions → ¬(b.run before).Strips a) :
    (b.run actions).Holds := by
  induction actions generalizing b with
  | nil => exact hb
  | cons a actions ih =>
    have hagrees' : (b.after a).Agrees := hagrees.run [a]
    have hkept : Kept b (b.after a) := kept_after (h [] a (by simp))
    refine ih hagrees' (hkept.holds hagrees hagrees' hb) fun before a' hbefore => ?_
    exact h (a :: before) a' (List.cons_prefix_cons.2 ⟨rfl, hbefore⟩)

/-- Every surface is held at every boundary of a run exactly if no action of it strips an output.
An action that strips none takes nothing from a surface that stays; one that does leaves the
surface alone. Beginning and ending a frame agree exactly as long as surfaces are held. -/
theorem surfaces_held_unless_stripped (context : RenderContext W) (actions : List BackendAction) :
    ((∀ before, before <+: actions → ((Backend.new context).run before).Holds) ↔
        ∀ before a, before ++ [a] <+: actions →
          ¬((Backend.new context).run before).Strips a) ∧
      let b := (Backend.new context).run actions
      (∀ a, ¬b.Strips a → ∀ id o o' s s', b.output? id = some o → o.surface = some s →
          (b.after a).output? id = some o' → o'.surface = some s' → s'.surface = s.surface →
          o'.crtc = o.crtc ∧ o'.savedCrtc = o.savedCrtc ∧
            ∀ c, b.claims.owner c = some id → (b.after a).claims.owner c = some id) ∧
        (∀ a, b.Strips a → ∃ id o o', a.subject = some id ∧ b.output? id = some o ∧
          (b.after a).output? id = some o' ∧ o'.surface = o.surface ∧ o.surface.isSome ∧
            o'.crtc = none ∧ o'.savedCrtc = none ∧
              ∀ c, (b.after a).claims.owner c ≠ some id) ∧
        (b.Holds ↔ ∀ id, (((beginFrame id).run b).1 = .error (.notConnected id) ↔
          ((endFrame id).run b).1 = .error (.notConnected id))) := by
  have hagrees (before : List BackendAction) : ((Backend.new context).run before).Agrees :=
    (Agrees.new context).run before
  refine ⟨⟨fun h before a hbefore hstrips => ?_, fun h before hbefore => ?_⟩, ?_, ?_, ?_⟩
  · obtain ⟨id, o, o', -, -, ho', hsurface, hs, hc, -⟩ := stripped_after hstrips
    have hholds := h (before ++ [a]) hbefore
    rw [run_append] at hholds
    obtain ⟨c, hc', -⟩ := hholds id o' ho' (hsurface ▸ hs)
    simp [hc] at hc'
  · refine holds_run (.new context) (fun id o ho => by simp [Backend.new, output?] at ho) ?_
    exact fun earlier a hearlier => h earlier a (hearlier.trans hbefore)
  · intro a ha id o o' s s' ho hs ho' hs' hsame
    have hnumber := numbered_run context actions id o s ho hs
    rcases (kept_after ha).record id o' s' ho' hs' with ⟨hnew, -⟩ | ⟨o₀, ho₀, hmodeset⟩
    · rw [hsame] at hnew
      omega
    · obtain rfl := Option.some.inj (ho.symm.trans ho₀)
      refine ⟨hmodeset.crtc, hmodeset.saved, fun c hc => ?_⟩
      obtain ⟨o₁, ho₁, hc₁⟩ := ((hagrees actions).owner c id).1 hc
      obtain rfl := Option.some.inj (ho.symm.trans ho₁)
      exact ((hagrees actions).run [a]).owner c id |>.2 ⟨o', ho', hmodeset.crtc.trans hc₁⟩
  · exact fun a ha => stripped_after ha
  · exact (hagrees actions).holds_iff_frames

/-- A rendering context on a device with one monitor and one CRTC. -/
def oneMonitor : RenderContext SimulatedDevice.world where
  world :=
    { faults := []
      kernel := .new
        [⟨⟨10⟩, .hdmiA, 1, .connected, [⟨0, 1920, 0, 0, 0, 0, 1080, 0, 0, 0, 0, 60, 0, 0, "m"⟩],
          [⟨20⟩], none⟩]
        [⟨⟨20⟩, none, 1⟩] [⟨⟨30⟩, none, (0, 0), none⟩]
      gpu := .new SimulatedGpu.defaultVisuals 2 }
  journal := []
  handles := some ⟨⟨1⟩, ⟨1⟩, ⟨1⟩, ⟨1⟩⟩
  chains := .empty

/-- A surface that is not held: the output was lit and then asked for a mode named `best`. -/
theorem not_holds_after_unreadable :
    ¬((Backend.new oneMonitor).run [.scan, .commitMode ⟨0⟩ .preferred, .dispatch,
      .selectMode ⟨0⟩ "best"]).Holds := by
  intro h
  have hbare : ((Backend.new oneMonitor).run [.scan, .commitMode ⟨0⟩ .preferred, .dispatch,
      .selectMode ⟨0⟩ "best"]).output? ⟨0⟩ |>.any fun o => o.surface.isSome && o.crtc.isNone := by
    decide +kernel
  obtain ⟨o, ho, hbare⟩ := Option.any_eq_true _ _ |>.1 hbare
  rw [Bool.and_eq_true, Option.isNone_iff_eq_none] at hbare
  obtain ⟨c, hc, -⟩ := h ⟨0⟩ o ho hbare.1
  simp [hbare.2] at hc

end Backend
end Scanout
