import Scanout.Proofs.DeviceShutdown

/-!
# No frame is asked for once teardown has begun

Teardown begins by marking the record. As long as the mark stands, completions of the output's flip
are not passed on, whoever reads them; and the mark is taken away together with the CRTC only. So
the output stays silent until its mode is set again.
-/

namespace Scanout

/-- A completion does not lead to a request for a frame. -/
def Output.Silent (o : Output) : Prop := o.crtc = none ∨ o.cleaningUp = true

theorem Output.Silent.reconcile {o : Output} (h : o.Silent) (info : ConnectorInfo) (id : OutputId) :
    (o.reconcile info id).1.Silent := by
  obtain ⟨name, state, modes, heq, -⟩ := o.reconcile_eq info id
  rw [heq]
  exact h

theorem Output.renderReady_notMem_reconcile (o : Output) (info : ConnectorInfo) (id j : OutputId) :
    .renderReady j ∉ (o.reconcile info id).2.toList := by
  unfold reconcile
  dsimp only
  split <;> simp

/-- No entry asks the output for a frame. -/
def Unasked (id : OutputId) (g : List JournalEntry) : Prop := .event (.renderReady id) ∉ g

namespace Unasked

variable {id : OutputId} {g g' : List JournalEntry}

theorem append (h' : Unasked id g') (h : Unasked id g) : Unasked id (g' ++ g) := fun hmem =>
  (List.mem_append.1 hmem).elim h' h

theorem of_mute (h : ∀ e ∈ g, e.IsMuteTo id) : Unasked id g := fun hmem => h _ hmem rfl

theorem of_quiet (h : ∀ e ∈ g, e.IsQuiet) : Unasked id g :=
  .of_mute fun e he => (h e he).isMuteTo id

theorem of_eventsOn (h : eventsOn id g = []) : Unasked id g := fun hmem => by
  have hasked : .renderReady id ∈ eventsOn id g := mem_eventsOn.2 ⟨rfl, hmem⟩
  simp [h] at hasked

end Unasked

namespace Backend

variable {W : World} {a : BackendAction} {b b₁ b' : Backend W} {g g' : List JournalEntry}
  {id : OutputId} {o : Output} {s : OutputSurface}

def Silent (id : OutputId) (b : Backend W) : Prop := ∀ o, b.output? id = some o → o.Silent

namespace Silent

theorem of_same (h : b.Silent id) (hb : SameBooks b b') : b'.Silent id := fun o ho =>
  h o (hb.output? id ▸ ho)

/-- A change of the record that leaves it silent. -/
theorem of_modify {f : Output → Output} (hb : b'.outputs = b.outputs.modify id.slot f)
    (hf : ∀ o, b.output? id = some o → (f o).Silent) : b'.Silent id := by
  intro o' ho'
  rw [output?_modify hb, if_pos rfl] at ho'
  obtain ⟨o, ho, rfl⟩ := Option.map_eq_some_iff.1 ho'
  exact hf o ho

theorem reverted (b : Backend W) (id : OutputId) : (b.reverted id).Silent id :=
  .of_modify rfl fun _ _ => .inl rfl

theorem withdrawn (b : Backend W) (id : OutputId) : (b.withdrawn id).Silent id :=
  .of_modify rfl fun _ _ => .inl rfl

end Silent

/-- A silent output stays silent and is not asked for a frame. -/
def Hushes (id : OutputId) (b : Backend W) (g : List JournalEntry) (b' : Backend W) : Prop :=
  b.Silent id → b'.Silent id ∧ Unasked id g

instance : Composes (Hushes (W := W) id) where
  refl _ h := ⟨h, by simp [Unasked]⟩
  trans h h' hb := ⟨(h' (h hb).1).1, (h' (h hb).1).2.append (h hb).2⟩

namespace Hushes

theorem of_quiet (h : Quiet b g b') : Hushes id b g b' := fun hb =>
  ⟨hb.of_same h.same, .of_quiet h.quiet⟩

theorem of_seesOnly (h : SeesOnly id b g b') : Hushes id b g b' := by
  intro hb
  cases ho : b.output? id with
  | none =>
    obtain ⟨hnone, hevents⟩ := h.absent ho
    refine ⟨fun o' ho' => ?_, .of_eventsOn hevents⟩
    rw [hnone] at ho'
    contradiction
  | some o =>
    obtain ⟨ho', hevents⟩ := h.present o ho
    refine ⟨fun o' ho'' => ?_, .of_eventsOn ?_⟩
    · obtain rfl := Option.some.inj (ho'.symm.trans ho'')
      exact hb o ho
    · rw [hevents]
      rcases hb o ho with hc | hclean
      · simp [Output.reported, hc]
      · rw [if_pos hclean]

/-- Nothing that is not done for the output itself ends its silence. -/
theorem of_stage (hb : b.Agrees) (ha : a.subject ≠ some id) (h : Stage a b g b') :
    Hushes id b g b' := by
  cases hsubject : a.subject with
  | some j =>
    refine .of_seesOnly (.of_stage hb hsubject ?_ h)
    rintro rfl
    exact ha hsubject
  | none =>
    cases h with
    | quiet h => exact .of_quiet h
    | retimed _ _ => exact fun hb => ⟨hb, by simp [Unasked]⟩
    | slotted connector _ _ =>
      refine fun hsilent => ⟨fun o ho => ?_, by simp [Unasked]⟩
      rw [output?_append (b := b) rfl] at ho
      split at ho
      · exact Option.some.inj ho ▸ .inl rfl
      · exact hsilent o ho
    | @read i o info _ _ ho h =>
      refine fun hsilent => ⟨fun o' ho' => ?_, fun hmem => ?_⟩
      · rw [output?_modify h.outputs] at ho'
        split at ho'
        · next hi =>
          subst hi
          rw [ho] at ho'
          exact Option.some.inj ho' ▸ (hsilent o ho).reconcile info i
        · exact hsilent o' ho'
      · rcases List.mem_append.1 hmem with hevent | hcall
        · obtain ⟨event, hevent, heq⟩ := List.mem_map.1 hevent
          exact o.renderReady_notMem_reconcile info i id (JournalEntry.event.inj heq ▸ hevent)
        · simp at hcall
    | completed h => exact .of_seesOnly (.completed hb h id)
    | cleaning hi _ _ | undrained hi _ _ _ | released hi _ _ _ _ _ _ | set hi _ _ _
    | reverted hi _ _ _ _ | flipped hi _ _ _ _ _ _ | unflipped hi _ _ _ _ _ _ =>
      rw [hsubject] at hi
      contradiction
    | refused hi _ _ _ =>
      rw [hi] at hsubject
      contradiction

theorem of_stages (hb : b.Agrees) (ha : a.subject ≠ some id) (h : Stages a b g b') :
    Hushes id b g b' := by
  induction h with
  | nil => exact Composes.refl _
  | cons h₀ _ ih => exact Composes.trans (Hushes.of_stage hb ha h₀) (ih (hb.step h₀))

end Hushes

/-- Tearing an output with a surface down silences it at once, however the teardown ends. -/
theorem yields_teardownOutput_silent (hb : b.Agrees) (ho : b.output? id = some o)
    (hs : o.surface = some s) : Yields (teardownOutput id).run b fun _ g b' =>
      b'.Silent id ∧ Unasked id g := by
  have hsilent : (b.marked id).Silent id := .of_modify (b := b) rfl fun _ _ => .inr rfl
  have hagrees : (b.marked id).Agrees := hb.step (.cleaning (a := .teardownOutput id) rfl ho hs)
  have hwait {g b'} (h : Stages .dispatch (b.marked id) g b') : b'.Silent id ∧ Unasked id g :=
    Hushes.of_stages hagrees (by simp [BackendAction.subject]) h hsilent
  refine (yields_teardownOutput_lit ho hs).mono ?_
  intro r g b' h
  cases h with
  | stalled h _ => exact hwait h
  | @released g g₁ g₂ b₁ _ h _ hback hdestroy h' =>
    refine ⟨(Silent.withdrawn b₁ id).of_same h', ?_⟩
    have hgone : Unasked id (.released id :: g₂ ++ g₁) := by
      refine .of_mute ?_
      simp only [List.forall_mem_append, List.forall_mem_cons]
      exact ⟨⟨trivial, hdestroy.isMuteTo id⟩, hback.isMuteTo id⟩
    exact hgone.append (hwait h).2

/-- Whether or not there is a surface, an output is silent after its teardown. -/
theorem yields_teardownOutput_hushed (hb : b.Agrees) (id : OutputId) :
    Yields (teardownOutput id).run b fun _ g b' => Unasked id g ∧ b'.Silent id := by
  cases ho : b.output? id with
  | none =>
    refine .of_idle (run_teardownOutput_of_unknown ho) ⟨by simp [Unasked], ?_⟩
    exact fun o ho' => by simp [ho] at ho'
  | some o =>
    cases hs : o.surface with
    | none =>
      refine .of_idle (run_teardownOutput_of_bare ho hs) ⟨by simp [Unasked], ?_⟩
      refine fun o' ho' => .inl (hb.crtc_none ho' ?_)
      obtain rfl := Option.some.inj (ho.symm.trans ho')
      exact hs
    | some s => exact (yields_teardownOutput_silent hb ho hs).mono fun _ _ _ h => h.symm

/-- Setting a mode ends the silence of an output by success only. -/
theorem yields_setOrRevert_silent (connector : ConnectorHandle) (request : ModeRequest)
    (b : Backend W) : Yields (orRelease (failModeset id)
      (orFail BackendError.modeset (tryModeset id connector request).run)).run b fun r g b' =>
      Unasked id g ∧ (b'.Silent id ∨ r = .ok ()) := by
  refine (yields_setOrRevert (yields_tryModeset id connector request b)).mono ?_
  rintro r g b' (⟨rfl, h⟩ | ⟨_, g₀, b₁, -, rfl, h, h'⟩)
  · exact ⟨.of_mute (h.isMuteTo id), .inr rfl⟩
  · have hg₀ : Unasked id g₀ := .of_mute (h.isMuteTo id)
    refine ⟨fun hmem => ?_, .inl ((Silent.reverted b₁ id).of_same h')⟩
    simp only [List.mem_cons, JournalEntry.event.injEq, reduceCtorEq, false_or] at hmem
    exact hg₀ hmem

theorem yields_commitMode_silent (hb : b.Agrees) (id : OutputId) (request : ModeRequest) :
    Yields (commitMode id request).run b fun r g b' =>
      Unasked id g ∧ (b'.Silent id ∨ r = .ok ()) := by
  cases ho : b.output? id with
  | none =>
    refine .of_idle (run_commitMode_of_unknown ho request) ⟨by simp [Unasked], .inl ?_⟩
    exact fun o ho' => by simp [ho] at ho'
  | some o =>
    refine yields_commitMode_of_torn ho (yields_teardownOutput_hushed hb id) ?_ ?_
    · rintro e g b₁ b' ⟨hunasked, hsilent⟩ h
      refine ⟨by simpa [Unasked] using hunasked, .inl ?_⟩
      exact .of_modify h.outputs hsilent
    · rintro g b₁ ⟨hunasked, -⟩
      refine (yields_setOrRevert_silent o.connector request b₁).mono ?_
      rintro r g' b' ⟨hunasked', hend⟩
      exact ⟨hunasked'.append hunasked, hend⟩

/-- The action tears an output with a surface down, by itself or to set its mode anew. -/
def BeginsTeardown (b : Backend W) (id : OutputId) (a : BackendAction) : Prop :=
  a.Readable ∧ (a = .teardownOutput id ∨ a.modesetOf? = some id) ∧
    ∃ o s, b.output? id = some o ∧ o.surface = some s

/-- The action sets the mode of the output and succeeds. -/
def SetsMode (b : Backend W) (id : OutputId) (a : BackendAction) : Prop :=
  a.modesetOf? = some id ∧ ((perform a).run b).1.isOk

theorem yields_endFrame_hushed (id : OutputId) (b : Backend W) :
    Yields (endFrame id).run b fun _ g b' => Hushes id b g b' := by
  refine (yields_endFrame id b).mono ?_
  rintro _ g b' (⟨-, -, h⟩ | ⟨o, s, crtc, core, -, -, -, hcore, hflip⟩)
  · exact .of_quiet h
  · rcases hflip with ⟨-, -, hflip, h⟩ | ⟨fb, -, hflip, h⟩
    · exact fun hb => ⟨hb.of_same h, .of_mute (hcore.isMuteTo (hflip.isMuteTo id))⟩
    · exact fun hb => ⟨.of_modify h.outputs hb, .of_mute (hcore.isMuteTo (hflip.isMuteTo id))⟩

/-- A request that cannot be read takes the CRTC of the output away, if there is the output. -/
theorem yields_selectUnreadable_silent {request : String} {e : MalformedModeRequest}
    (hparse : ModeRequest.parse request = .error e) (b : Backend W) :
    Yields (selectAndCommitMode id request).run b fun _ g b' => Unasked id g ∧ b'.Silent id := by
  refine (yields_selectUnreadable id hparse b).mono ?_
  rintro _ _ b' (⟨hnone, -, rfl, rfl⟩ | ⟨o, -, -, rfl, h⟩)
  · exact ⟨by simp [Unasked], fun o ho => by simp [hnone] at ho⟩
  · exact ⟨by simp [Unasked], (Silent.reverted b id).of_same h⟩

/-- Whatever is done with an output that is silent or whose teardown begins, it is not asked for a
frame, and it is silent afterwards unless its mode was set. -/
theorem yields_perform_silent (hb : b.Agrees) (h : b.Silent id ∨ b.BeginsTeardown id a) :
    Yields (perform a).run b fun r g b' =>
      Unasked id g ∧ (b'.Silent id ∨ (a.modesetOf? = some id ∧ r.isOk)) := by
  have hhushed (hidle : ¬b.BeginsTeardown id a) (hact : Yields (perform a).run b fun _ g b' =>
      Hushes id b g b') : Yields (perform a).run b fun r g b' =>
        Unasked id g ∧ (b'.Silent id ∨ (a.modesetOf? = some id ∧ r.isOk)) :=
    hact.mono fun _ _ _ hushes =>
      have hend := hushes (h.resolve_right hidle)
      ⟨hend.2, .inl hend.1⟩
  by_cases ha : a.subject = some id
  · have hcommit (request : ModeRequest) : Yields (commitMode id request).run b fun r g b' =>
        Unasked id g ∧ (b'.Silent id ∨ (some id = some id ∧ r.isOk)) :=
      (yields_commitMode_silent hb id request).mono fun r g b' h =>
        ⟨h.1, h.2.imp_right fun hok => ⟨rfl, by rw [hok]; rfl⟩⟩
    cases a with
    | teardownOutput i =>
      obtain rfl := Option.some.inj ha
      exact (yields_teardownOutput_hushed hb i).mono fun _ _ _ h => ⟨h.1, .inl h.2⟩
    | commitMode i request =>
      obtain rfl := Option.some.inj ha
      exact hcommit request
    | selectMode i request =>
      obtain rfl := Option.some.inj ha
      cases hparse : ModeRequest.parse request with
      | ok parsed => exact yields_selectReadable hparse (hcommit parsed)
      | error e =>
        exact (yields_selectUnreadable_silent hparse b).mono fun _ _ _ h => ⟨h.1, .inl h.2⟩
    | beginFrame i =>
      refine hhushed ?_ ((yields_beginFrame i b).mono fun _ _ _ h => .of_quiet h)
      simp [BeginsTeardown, BackendAction.modesetOf?]
    | endFrame i =>
      obtain rfl := Option.some.inj ha
      refine hhushed ?_ (yields_endFrame_hushed i b)
      simp [BeginsTeardown, BackendAction.modesetOf?]
    | scan | dispatch | clear _ _ _ | setDrainTimeout _ | teardownRenderer | pushEvent _ =>
      contradiction
  · refine hhushed ?_ ((yields_perform a b).mono fun _ _ _ h => .of_stages hb ha h)
    rintro ⟨-, rfl | hmode, -⟩
    · exact ha rfl
    · exact ha (BackendAction.subject_of_modesetOf? hmode)

/-- A run is silent until it sets the mode of the output, and it may do that in the end. -/
private theorem unasked_run (hb : b.Agrees) {actions : List BackendAction}
    (h : b.Silent id ∨ ∃ a later, actions = a :: later ∧ b.BeginsTeardown id a)
    (hlast : ∀ mid a, mid ++ [a] <+: actions → (b.run mid).SetsMode id a → mid ++ [a] = actions) :
    ∃ g, (b.run actions).journal = g ++ b.journal ∧ Unasked id g ∧
      ((b.run actions).Silent id ∨ ∃ mid a, mid ++ [a] = actions ∧ (b.run mid).SetsMode id a) := by
  induction actions generalizing b with
  | nil =>
    refine ⟨[], rfl, by simp [Unasked], .inl (h.resolve_right ?_)⟩
    rintro ⟨a, later, hnil, -⟩
    contradiction
  | cons a later ih =>
    have hfirst : b.Silent id ∨ b.BeginsTeardown id a := by
      rcases h with hsilent | ⟨a', later', heq, hbegins⟩
      · exact .inl hsilent
      · exact .inr ((List.cons.inj heq).1 ▸ hbegins)
    obtain ⟨g, hg, hunasked, hsilent | hsets⟩ := yields_perform_silent hb hfirst
    · obtain ⟨g', hg', hunasked', hend⟩ := ih (hb.run [a]) (.inl hsilent) fun mid a' hmid hset => by
        have heq := hlast (a :: mid) a' (List.cons_prefix_cons.2 ⟨rfl, hmid⟩) hset
        exact (List.cons.inj heq).2
      refine ⟨g' ++ g, ?_, hunasked'.append hunasked, hend.imp_right ?_⟩
      · rw [run_cons, List.append_assoc]
        exact hg'.trans (congrArg (g' ++ ·) hg)
      · rintro ⟨mid, a', rfl, hset⟩
        exact ⟨a :: mid, a', rfl, hset⟩
    · obtain rfl : later = [] := (List.cons.inj (hlast [] a (by simp) hsets)).2.symm
      exact ⟨g, hg, hunasked, .inr ⟨[], a, rfl, hsets⟩⟩

/-- The output is silent and was not asked for a frame since the beginning. -/
structure Hushed (id : OutputId) (g : List JournalEntry) (b : Backend W) : Prop where
  agrees : b.Agrees
  silent : b.Silent id
  unasked : Unasked id g

theorem yields_forceTeardown_hushed (j : OutputId) (h : Hushed id g b) :
    Yields (forceTeardown j) b fun _ g' b' => Hushed id (g' ++ g) b' := by
  refine Yields.bind ((yields_perform (.teardownOutput j) b).and
    (yields_perform_silent h.agrees (.inl h.silent))) ?_
  rintro r g₁ b₁ ⟨hstages, hunasked, hsilent⟩
  have h₁ : Hushed id (g₁ ++ g) b₁ := ⟨h.agrees.stages hstages,
    hsilent.resolve_right (by simp [BackendAction.modesetOf?]), hunasked.append h.unasked⟩
  cases r with
  | ok _ => exact .pure h₁
  | error _ =>
    refine (yields_released j b₁).mono ?_
    intro _ g₂ b₂ h₂
    have hagrees := h₂.agrees h₁.agrees
    refine ⟨hagrees, fun o ho => ?_, ?_⟩
    · by_cases hid : id = j
      · subst hid
        exact .inl (hagrees.crtc_none ho (h₂.bare o ho))
      · exact (Hushes.of_seesOnly (h₂.seesOnly hid) h₁.silent).1 o ho
    · rw [List.append_assoc]
      exact (Unasked.of_mute (h₂.isMuteTo id)).append h₁.unasked

theorem hushed_shutDown (h : Hushed id g b) :
    ∃ g', b.shutDown.journal = g' ++ b.journal ∧ Hushed id (g' ++ g) b.shutDown := by
  have hall : Yields (do
      releaseAllOutputs
      BackendM.inContext RenderContext.teardown : BackendM W Unit) b fun _ g' b' =>
        Hushed id (g' ++ g) b' := by
    refine Yields.bind (P := fun _ g' b' => Hushed id (g' ++ g) b') ?_ fun _ g₁ b₁ h₁ => ?_
    · exact Yields.get_bind (.forM (fun slot _ _ h => yields_forceTeardown_hushed ⟨slot⟩ h) _ h)
    · refine (yields_quietly RenderContext.quietly_teardown b₁).mono fun _ g₂ b₂ h₂ => ?_
      rw [List.append_assoc]
      exact ⟨h₁.agrees.of_same h₂.same, h₁.silent.of_same h₂.same,
        (Unasked.of_quiet h₂.quiet).append h₁.unasked⟩
  exact hall

/-- From the moment an output that has a surface begins to be torn down, by itself or to set its mode
anew, until its mode is set again, no event asks it for a frame, whoever reads completions meanwhile
and whatever fails. The backend may be shut down in the end. -/
theorem no_request_once_teardown_began (context : RenderContext W)
    (before later : List BackendAction) {id : OutputId} {a : BackendAction} (shut : Bool) :
    let b := (Backend.new context).run before
    b.BeginsTeardown id a →
    (∀ mid x, mid ++ [x] <+: a :: later → (b.run mid).SetsMode id x →
      mid ++ [x] = a :: later ∧ shut = false) →
    let final := if shut then (b.run (a :: later)).shutDown else b.run (a :: later)
    ∃ gained, final.journal = gained ++ b.journal ∧ .event (.renderReady id) ∉ gained := by
  intro b hbegins hlast
  have hb : b.Agrees := (Agrees.new context).run before
  obtain ⟨g, hg, hunasked, hend⟩ := unasked_run hb (.inr ⟨a, later, rfl, hbegins⟩)
    fun mid x hmid hset => (hlast mid x hmid hset).1
  cases shut with
  | false => exact ⟨g, hg, hunasked⟩
  | true =>
    have hsilent : (b.run (a :: later)).Silent id := by
      refine hend.resolve_right ?_
      rintro ⟨mid, x, heq, hset⟩
      exact absurd (hlast mid x (heq ▸ List.prefix_refl _) hset).2 (by simp)
    obtain ⟨g', hg', hhushed⟩ := hushed_shutDown ⟨hb.run _, hsilent, hunasked⟩
    refine ⟨g' ++ g, ?_, hhushed.unasked⟩
    rw [if_pos rfl, hg', hg, List.append_assoc]

/-- A monitor was lit, its teardown did not wait for the first flip, and a dispatch reads the report of
the flip: the output is not told. -/
theorem no_request_after_stalled_teardown :
    let b := (Backend.new oneMonitor).run
      [.scan, .commitMode ⟨0⟩ .preferred, .setDrainTimeout (.ofMilliseconds 0)]
    ∃ gained, (b.run [.teardownOutput ⟨0⟩, .dispatch]).journal = gained ++ b.journal ∧
      reported ⟨30⟩ gained = 1 ∧ .event (.renderReady ⟨0⟩) ∉ gained := by
  have hlit : (((Backend.new oneMonitor).run [.scan, .commitMode ⟨0⟩ .preferred,
      .setDrainTimeout (.ofMilliseconds 0)]).output? ⟨0⟩).any (·.surface.isSome) = true := by
    decide +kernel
  have hreported : (fun b : Backend SimulatedDevice.world =>
      reported ⟨30⟩ ((b.run [.teardownOutput ⟨0⟩, .dispatch]).journal.take
        ((b.run [.teardownOutput ⟨0⟩, .dispatch]).journal.length - b.journal.length)))
          ((Backend.new oneMonitor).run [.scan, .commitMode ⟨0⟩ .preferred,
            .setDrainTimeout (.ofMilliseconds 0)]) = 1 := by decide +kernel
  have hquiet := @no_request_once_teardown_began _ oneMonitor
    [.scan, .commitMode ⟨0⟩ .preferred, .setDrainTimeout (.ofMilliseconds 0)] [.dispatch]
    ⟨0⟩ (.teardownOutput ⟨0⟩) false
  generalize (Backend.new oneMonitor).run
    [.scan, .commitMode ⟨0⟩ .preferred, .setDrainTimeout (.ofMilliseconds 0)] = b at *
  obtain ⟨o, ho, hlit⟩ := (Option.any_eq_true _ _).1 hlit
  obtain ⟨s, hs⟩ := Option.isSome_iff_exists.1 hlit
  have hnone (mid : List BackendAction) (x : BackendAction)
      (hmid : mid ++ [x] <+: [.teardownOutput ⟨0⟩, .dispatch]) : x.modesetOf? = none := by
    have hmem : x ∈ [BackendAction.teardownOutput ⟨0⟩, .dispatch] := hmid.subset (by simp)
    simp only [List.mem_cons, List.not_mem_nil, or_false] at hmem
    rcases hmem with rfl | rfl <;> rfl
  obtain ⟨gained, hgained, hunasked⟩ := hquiet ⟨trivial, .inl rfl, o, s, ho, hs⟩
    fun mid x hmid hset => by simp [SetsMode, hnone mid x hmid] at hset
  dsimp only at hreported
  change (b.run [.teardownOutput ⟨0⟩, .dispatch]).journal = gained ++ b.journal at hgained
  rw [hgained, List.length_append, Nat.add_sub_cancel, List.take_left] at hreported
  exact ⟨gained, hgained, hreported, hunasked⟩

end Backend
end Scanout
