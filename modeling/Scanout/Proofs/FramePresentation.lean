import Scanout.OutputFrames
import Scanout.Proofs.OutputBooks

/-!
# What presenting frames does

A frame that is presented leaves one request for a page flip in the journal, amid quiet
entries. Completions that are passed on clear the pending flips of the outputs that own their
CRTCs, and tell those of them that are not being torn down.
-/

namespace Scanout

/-- The entries of `core` with quiet ones before and after. -/
def Amid (core gained : List JournalEntry) : Prop :=
  ∃ before after, (∀ e ∈ before, e.IsQuiet) ∧ (∀ e ∈ after, e.IsQuiet) ∧
    gained = after ++ core ++ before

namespace Amid

variable {core g g' : List JournalEntry}

theorem of_quiet (h : ∀ e ∈ g, e.IsQuiet) : Amid [] g := ⟨g, [], h, by simp, by simp⟩

theorem self (core : List JournalEntry) : Amid core core := ⟨[], [], by simp, by simp, by simp⟩

theorem after (h : Amid core g) (h' : ∀ e ∈ g', e.IsQuiet) : Amid core (g ++ g') := by
  obtain ⟨b, a, hb, ha, rfl⟩ := h
  exact ⟨b ++ g', a, fun e he => (List.mem_append.1 he).elim (hb e) (h' e), ha, by simp⟩

theorem before (h : Amid core g) (h' : ∀ e ∈ g', e.IsQuiet) : Amid core (g' ++ g) := by
  obtain ⟨b, a, hb, ha, rfl⟩ := h
  exact ⟨b, g' ++ a, hb, fun e he => (List.mem_append.1 he).elim (h' e) (ha e), by simp⟩

theorem forall_mem {P : JournalEntry → Prop} (h : Amid core g) (hcore : ∀ e ∈ core, P e)
    (hquiet : ∀ e : JournalEntry, e.IsQuiet → P e) : ∀ e ∈ g, P e := by
  obtain ⟨b, a, hb, ha, rfl⟩ := h
  intro e he
  rw [List.mem_append, List.mem_append] at he
  rcases he with (he | he) | he
  · exact hquiet e (ha e he)
  · exact hcore e he
  · exact hquiet e (hb e he)

end Amid

/-- The request to flip a CRTC, if it came to that, and the framebuffer if it was accepted. -/
inductive FlipAttempt (crtc : CrtcHandle) : Option FramebufferId → List JournalEntry → Prop where
  | unmade : FlipAttempt crtc none []
  | refused (fb : FramebufferId) (cause : SystemError) :
      FlipAttempt crtc none [.call (.kernel (.pageFlip crtc fb)) (.error cause)]
  | accepted (fb : FramebufferId) :
      FlipAttempt crtc (some fb) [.call (.kernel (.pageFlip crtc fb)) (.ok ())]

def Output.presenting (o : Output) (fb : FramebufferId) : Output :=
  { o with
    surface := o.surface.map fun s => { s with lastFramebuffer := some fb }
    flipPending := true }

namespace Backend

variable {W : World} {α ε : Type}

/-- One of the completions is that of a flip on a CRTC of the output. -/
def completes (b : Backend W) (completions : List FlipCompletion) (id : OutputId) : Bool :=
  completions.any fun k => b.claims.owner k.crtc == some id

def completed (b : Backend W) (completions : List FlipCompletion) : Backend W :=
  { b with
    outputs := b.outputs.mapIdx fun slot o =>
      { o with flipPending := o.flipPending && !b.completes completions ⟨slot⟩ } }

/-- The outputs that are told of completions, in the order of these. -/
def ready (b : Backend W) (completions : List FlipCompletion) : List OutputId :=
  (completions.filterMap fun k => b.claims.owner k.crtc).filter fun id =>
    (b.output? id).any (!·.cleaningUp)

def readyEntries (ids : List OutputId) : List JournalEntry :=
  (ids.map fun id => .event (.renderReady id)).reverse

theorem readyEntries_eq (ids : List OutputId) :
    readyEntries ids = (ids.reverse.map .renderReady).map .event := by
  rw [readyEntries, ← List.map_reverse, List.map_map]
  rfl

theorem output?_completed (b : Backend W) (completions : List FlipCompletion) (id : OutputId) :
    (b.completed completions).output? id = (b.output? id).map fun o =>
      { o with flipPending := o.flipPending && !b.completes completions id } := by
  simp [output?, completed, List.getElem?_mapIdx]

theorem output?_completed_owned {b : Backend W} {k : FlipCompletion} {id : OutputId}
    (howner : b.claims.owner k.crtc = some id) (j : OutputId) :
    (b.completed [k]).output? j =
      if id = j then (b.output? j).map fun o => { o with flipPending := false }
      else b.output? j := by
  have hcompletes : b.completes [k] j = (id == j) := by simp [completes, howner]
  rw [output?_completed, hcompletes]
  by_cases hj : id = j
  · simp [hj]
  · simp [hj, beq_eq_false_iff_ne.2 hj]

@[simp] theorem claims_completed (b : Backend W) (completions : List FlipCompletion) :
    (b.completed completions).claims = b.claims := rfl

@[simp] theorem completed_nil (b : Backend W) : b.completed [] = b := by
  have houtputs : (b.completed []).outputs = b.outputs :=
    outputs_ext fun id => by simp [output?_completed, completes]
  cases b
  simpa [completed] using houtputs

theorem completed_append (b : Backend W) (first others : List FlipCompletion) :
    b.completed (first ++ others) = (b.completed first).completed others := by
  have houtputs : (b.completed (first ++ others)).outputs =
      ((b.completed first).completed others).outputs :=
    outputs_ext fun id => by simp [output?_completed, completes, Function.comp_def, Bool.and_assoc]
  cases b
  simpa [completed] using houtputs

/-- Whether a flip is pending does not matter to who is told of completions. -/
@[simp] theorem ready_completed (b : Backend W) (first others : List FlipCompletion) :
    (b.completed first).ready others = b.ready others := by
  simp only [ready, output?_completed, Option.any_map]
  rfl

theorem ready_append (b : Backend W) (first others : List FlipCompletion) :
    b.ready (first ++ others) = b.ready first ++ b.ready others := by
  rw [ready, List.filterMap_append, List.filter_append]
  rfl

theorem SameBooks.completed {b b' : Backend W} (h : SameBooks b b')
    (completions : List FlipCompletion) :
    SameBooks (b.completed completions) (b'.completed completions) :=
  ⟨by simp only [Backend.completed, completes, h.outputs, h.claims], h.claims, h.timeout, h.created⟩

theorem SameBooks.ready {b b' : Backend W} (h : SameBooks b b')
    (completions : List FlipCompletion) : b'.ready completions = b.ready completions := by
  simp only [Backend.ready, h.claims, h.output?]

theorem yields_complete (k : FlipCompletion) (b : Backend W) :
    Yields (complete k) b fun _ g b' =>
      g = readyEntries (b.ready [k]) ∧ SameBooks (b.completed [k]) b' := by
  refine Yields.get_bind ?_
  cases howner : b.claims.owner k.crtc with
  | none =>
    refine .pure ⟨by simp [Backend.ready, readyEntries, howner], ?_, rfl, rfl, Nat.le_refl _⟩
    exact outputs_ext fun id => by simp [output?_completed, completes, howner]
  | some id =>
    have hlookup := output?_completed_owned howner
    cases ho : b.output? id with
    | none =>
      simp only [ho]
      refine .pure ⟨by simp [Backend.ready, readyEntries, howner, ho], ?_, rfl, rfl, Nat.le_refl _⟩
      refine outputs_ext fun j => ?_
      by_cases hj : id = j
      · simp [hlookup, ← hj, ho]
      · simp [hlookup, hj]
    | some o =>
      simp only [ho]
      refine (yields_updateOutput id _ b).bind ?_
      rintro _ _ b₁ ⟨rfl, hb₁⟩
      have hsame : SameBooks (b.completed [k]) b₁ := by
        subst hb₁
        refine ⟨outputs_ext fun j => ?_, rfl, rfl, Nat.le_refl _⟩
        rw [output?_modify (b := b) rfl, hlookup]
      cases hclean : o.cleaningUp with
      | true =>
        refine Yields.bind (P := fun _ g b' => g = [] ∧ b' = b₁) (.pure ⟨rfl, rfl⟩) ?_
        rintro _ _ _ ⟨rfl, rfl⟩
        exact .pure ⟨by simp [Backend.ready, readyEntries, howner, ho, hclean], hsame⟩
      | false =>
        refine (yields_emit (.renderReady id) b₁).bind ?_
        rintro _ _ b₂ ⟨rfl, hb₂⟩
        exact .pure ⟨by simp [Backend.ready, readyEntries, howner, ho, hclean],
          hsame.trans hb₂⟩

theorem yields_completeAll (completions : List FlipCompletion) (b : Backend W) :
    Yields (completeAll completions) b fun _ g b' =>
      g = readyEntries (b.ready completions) ∧ SameBooks (b.completed completions) b' := by
  induction completions generalizing b with
  | nil => exact .pure ⟨rfl, by simpa using SameBooks.refl b⟩
  | cons k others ih =>
    refine (yields_complete k b).bind ?_
    rintro _ _ b₁ ⟨rfl, h₁⟩
    refine (ih b₁).bind ?_
    rintro _ _ b₂ ⟨rfl, h₂⟩
    have hready := b.ready_append [k] others
    have hcompleted := b.completed_append [k] others
    rw [List.singleton_append] at hready hcompleted
    rw [hready, hcompleted, h₁.ready, ready_completed]
    exact .pure ⟨by simp [readyEntries], (h₁.completed others).trans h₂⟩

theorem yields_dispatchCompletions (b : Backend W) :
    Yields dispatchCompletions.run b fun r g b' =>
      (∃ cause, r = .error (.kernel cause) ∧ g = [.call (.kernel .receive) (.error cause)] ∧
          SameBooks b b') ∨
        ∃ count completions, r = .ok count ∧
          g = readyEntries (b.ready completions) ++ [.call (.kernel .receive) (.ok completions)] ∧
          SameBooks (b.completed completions) b' := by
  refine (yields_call (.kernel .receive) b).orFail_bindOk ?_ ?_
  · rintro completions _ b₁ ⟨rfl, h₁⟩
    refine .lift ((yields_completeAll _ b₁).mono ?_)
    rintro count _ b₂ ⟨rfl, h₂⟩
    exact .inr ⟨count, _, rfl, by rw [h₁.ready], (h₁.completed _).trans h₂⟩
  · rintro cause _ b₁ ⟨rfl, h₁⟩
    exact .inl ⟨cause, rfl, rfl, h₁⟩

theorem yields_withFrontBuffer {cause : RenderError → ε} {surface : SurfaceId}
    {act : BufferSlot → ExceptT ε (BackendM W) α} {P : Option α → List JournalEntry → Prop}
    (hnone : P none [])
    (hact : ∀ buffer b, Yields (act buffer).run b fun r g b' =>
      ∃ core, P r.toOption core ∧ Amid core g ∧ SameBooks b b') (b : Backend W) :
    Yields (withFrontBuffer cause surface act).run b fun r g b' =>
      ∃ core, P r.toOption core ∧ Amid core g ∧ SameBooks b b' := by
  refine (yields_render (RenderContext.quietly_lockFrontBuffer surface) b).bindOk ?_ ?_
  · intro buffer g₁ b₁ h₁
    refine Yields.bind (hact buffer b₁) ?_
    rintro r g₂ b₂ ⟨core, hP, hcore, h₂⟩
    refine (yields_quietly (RenderContext.quietly_releaseBuffer buffer) b₂).bind ?_
    intro _ g₃ b₃ h₃
    exact .pure ⟨core, hP, by simpa using (hcore.before h₃.quiet).after h₁.quiet,
      (h₁.same.trans h₂).trans h₃.same⟩
  · intro e g₁ b₁ h₁
    exact ⟨[], hnone, .of_quiet h₁.quiet, h₁.same⟩

theorem yields_beginFrame (id : OutputId) (b : Backend W) :
    Yields (beginFrame id).run b fun _ g b' => Quiet b g b' := by
  refine (yields_requireOutput id b).bindOk ?_ ?_
  · rintro o _ _ ⟨rfl, rfl, -⟩
    cases o.surface with
    | none => exact .throw (.refl _)
    | some s =>
      refine (yields_render (RenderContext.quietly_makeCurrent s.surface) _).mono ?_
      intro _ g b' h
      simpa using h
  · rintro _ _ _ ⟨rfl, rfl, -⟩
    exact .refl _

private theorem yields_flip (crtc : CrtcHandle) (buffer : BufferSlot) (b : Backend W) :
    Yields (ExceptT.run do
      let framebuffer ← render .render (RenderContext.scanoutId buffer)
      orFail .kernel (kernel (.pageFlip crtc framebuffer))
      return framebuffer : BackendM W (Except BackendError FramebufferId)) b fun r g b' =>
      ∃ core, FlipAttempt crtc r.toOption core ∧ Amid core g ∧ SameBooks b b' := by
  refine (yields_render (RenderContext.quietly_scanoutId buffer) b).bindOk ?_ ?_
  · intro fb g₁ b₁ h₁
    refine (yields_call (.kernel (.pageFlip crtc fb)) b₁).orFail_bindOk ?_ ?_
    · rintro ⟨⟩ _ b₂ ⟨rfl, h₂⟩
      exact .pureOk ⟨_, .accepted fb, (Amid.self _).after h₁.quiet, h₁.same.trans h₂⟩
    · rintro cause _ b₂ ⟨rfl, h₂⟩
      exact ⟨_, .refused fb cause, (Amid.self _).after h₁.quiet, h₁.same.trans h₂⟩
  · intro e g₁ b₁ h₁
    exact ⟨[], .unmade, .of_quiet h₁.quiet, h₁.same⟩

/-- A frame is presented by an accepted flip on the CRTC of the output, or nothing changes. -/
theorem yields_endFrame (id : OutputId) (b : Backend W) :
    Yields (endFrame id).run b fun r g b' =>
      (∃ e, r = .error e ∧ Quiet b g b') ∨
        ∃ o s crtc core, b.output? id = some o ∧ o.surface = some s ∧ o.crtc = some crtc ∧
          Amid core g ∧
          ((∃ e, r = .error e ∧ FlipAttempt crtc none core ∧ SameBooks b b') ∨
            ∃ fb, r = .ok () ∧ FlipAttempt crtc (some fb) core ∧
              SameBooks { b with outputs := b.outputs.modify id.slot (·.presenting fb) } b') := by
  refine (yields_requireOutput id b).bindOk ?_ ?_
  · rintro o _ b ⟨rfl, rfl, ho⟩
    cases hc : o.crtc with
    | none => exact .throw (.inl ⟨_, rfl, .refl _⟩)
    | some crtc =>
      cases hs : o.surface with
      | none => exact .throw (.inl ⟨_, rfl, .refl _⟩)
      | some s =>
        refine (yields_render (RenderContext.quietly_swapBuffers s.surface) b).bindOk ?_ ?_
        · intro _ g₁ b₁ h₁
          refine (yields_withFrontBuffer .unmade (yields_flip crtc) b₁).bindOk ?_ ?_
          · rintro fb g₂ b₂ ⟨core, hflip, hcore, h₂⟩
            refine .lift ((yields_updateOutput id _ b₂).mono ?_)
            rintro _ _ _ ⟨rfl, rfl⟩
            refine .inr ⟨o, s, crtc, core, ho, hs, hc, by simpa using hcore.after h₁.quiet, .inr ?_⟩
            exact ⟨fb, rfl, hflip, (h₁.same.trans h₂).modify id.slot (·.presenting fb)⟩
          · rintro e g₂ b₂ ⟨core, hflip, hcore, h₂⟩
            refine .inr ⟨o, s, crtc, core, ho, hs, hc, by simpa using hcore.after h₁.quiet, .inl ?_⟩
            exact ⟨e, rfl, hflip, h₁.same.trans h₂⟩
        · intro e g₁ b₁ h₁
          exact .inl ⟨e, rfl, by simpa using h₁⟩
  · rintro e _ b ⟨rfl, rfl, -⟩
    exact .inl ⟨e, rfl, .refl _⟩

/-- The act fails with errors of one kind only. -/
def FailsOnly {σ : Type} (P : ε → Prop) (act : ExceptT ε (StateM σ) α) : Prop :=
  ∀ s e, (act.run s).1 = .error e → P e

namespace FailsOnly

variable {β δ σ : Type} {P : ε → Prop}

protected theorem bind {x : ExceptT ε (StateM σ) α} {f : α → ExceptT ε (StateM σ) β}
    (hx : FailsOnly P x) (hf : ∀ a, FailsOnly P (f a)) : FailsOnly P (x >>= f) := by
  intro s e h
  change (ExceptT.bindCont f (x.run s).1 (x.run s).2).1 = .error e at h
  cases hr : (x.run s).1 with
  | ok a =>
    rw [hr] at h
    exact hf a _ e h
  | error e' =>
    rw [hr] at h
    obtain rfl : e' = e := Except.error.inj h
    exact hx s e' hr

theorem ne {act : ExceptT ε (StateM σ) α} {e : ε} (h : FailsOnly (· ≠ e) act) (s : σ) :
    (act.run s).1 ≠ .error e := fun he => h s e he rfl

protected theorem pure (a : α) : FailsOnly P (pure a : ExceptT ε (StateM σ) α) := nofun

protected theorem throw {e : ε} (h : P e) : FailsOnly P (throw e : ExceptT ε (StateM σ) α) := by
  rintro _ _ ⟨⟩
  exact h

protected theorem lift (act : StateM σ α) : FailsOnly P (ExceptT.lift act) := nofun

theorem get_bind {f : σ → ExceptT ε (StateM σ) α} (h : ∀ s, FailsOnly P (f s)) :
    FailsOnly P (get >>= f) := fun s => h s s

protected theorem discard {act : ExceptT ε (StateM σ) α} (h : FailsOnly P act) :
    FailsOnly P (discard act) := h.bind fun _ => .pure ()

theorem yields [Journaled σ] {act : ExceptT ε (StateM σ) α} (h : FailsOnly P act) {s : σ}
    {Q : Except ε α → List JournalEntry → σ → Prop} (hQ : Yields act.run s Q) :
    Yields act.run s fun r g s' => Q r g s' ∧ ∀ e, r = .error e → P e := by
  obtain ⟨g, hg, hQ⟩ := hQ
  exact ⟨g, hg, hQ, fun e he => h s e he⟩

protected theorem orFail {cause : δ → ε} (act : StateM σ (Except δ α)) (h : ∀ d, P (cause d)) :
    FailsOnly P (orFail cause act) := by
  intro s e he
  cases hr : act s with
  | mk r s' =>
    cases r with
    | ok a =>
      simp only [orFail, ExceptT.run_mk, bind, StateT.bind, hr] at he
      cases he
    | error d =>
      simp only [orFail, ExceptT.run_mk, bind, StateT.bind, hr] at he
      exact Except.error.inj he ▸ h d

end FailsOnly

theorem failsOnly_render {P : ε → Prop} {cause : RenderError → ε}
    (act : ExceptT RenderError (RenderM W) α) (h : ∀ e, P (cause e)) :
    FailsOnly P (render cause act) := .orFail _ h

theorem failsOnly_withFrontBuffer {P : ε → Prop} {cause : RenderError → ε}
    {surface : SurfaceId} {act : BufferSlot → ExceptT ε (BackendM W) α} (h : ∀ e, P (cause e))
    (hact : ∀ buffer, FailsOnly P (act buffer)) :
    FailsOnly P (withFrontBuffer cause surface act) := by
  refine .bind (failsOnly_render _ h) fun buffer => ?_
  intro b e he
  exact hact buffer b e he

theorem run_requireOutput_bind (id : OutputId) (b : Backend W)
    (f : Output → ExceptT BackendError (BackendM W) α) :
    (requireOutput id >>= f).run b = match b.output? id with
      | some o => (f o).run b
      | none => (.error (.unknownOutput id), b) := by
  have hrun : (requireOutput id).run b = match b.output? id with
      | some o => (.ok o, b)
      | none => (.error (.unknownOutput id), b) := by
    change (match b.output? id with
      | some o => pure o
      | none => throw (.unknownOutput id) : ExceptT BackendError (BackendM W) Output).run b = _
    cases b.output? id <;> rfl
  change ExceptT.bindCont f ((requireOutput id).run b).1 ((requireOutput id).run b).2 = _
  rw [hrun]
  cases b.output? id <;> rfl

/-- A frame cannot be begun for want of a connection exactly if there is no surface. -/
theorem beginFrame_notConnected_iff (id : OutputId) (b : Backend W) :
    ((beginFrame id).run b).1 = .error (.notConnected id) ↔
      ∃ o, b.output? id = some o ∧ o.surface = none := by
  unfold beginFrame
  rw [run_requireOutput_bind]
  cases ho : b.output? id with
  | none => simp
  | some o =>
    dsimp only
    cases hs : o.surface with
    | none => exact iff_of_true rfl ⟨o, rfl, hs⟩
    | some s =>
      refine iff_of_false (FailsOnly.ne ?_ b) (by simp [hs])
      exact failsOnly_render _ (by simp)

/-- A frame cannot be presented for want of a connection exactly if CRTC or surface are
missing. -/
theorem endFrame_notConnected_iff (id : OutputId) (b : Backend W) :
    ((endFrame id).run b).1 = .error (.notConnected id) ↔
      ∃ o, b.output? id = some o ∧ (o.crtc = none ∨ o.surface = none) := by
  unfold endFrame
  rw [run_requireOutput_bind]
  cases ho : b.output? id with
  | none => simp
  | some o =>
    dsimp only
    cases hc : o.crtc with
    | none => exact iff_of_true rfl ⟨o, rfl, .inl hc⟩
    | some crtc =>
      cases hs : o.surface with
      | none => exact iff_of_true rfl ⟨o, rfl, .inr hs⟩
      | some s =>
        refine iff_of_false (FailsOnly.ne ?_ b) (by simp [hc, hs])
        refine .bind (failsOnly_render _ (by simp)) fun _ => ?_
        refine .bind (failsOnly_withFrontBuffer (by simp) fun buffer => ?_) fun _ => .lift _
        refine .bind (failsOnly_render _ (by simp)) fun _ => ?_
        exact .bind (.orFail _ (by simp)) fun _ => .pure _

end Backend
end Scanout
