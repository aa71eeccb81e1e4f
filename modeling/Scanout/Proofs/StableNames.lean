import Scanout.Proofs.LinkStates

/-!
# Names of outputs

A record is named by the first scan that reads its connector, which knows it by its state: a record
that was not read yet is invalid. No action takes a name away, and no record becomes invalid again.
But setting the mode of an invalid record ends that state without giving the record a name, and
then no scan names it any more.
-/

namespace Scanout

theorem ConnectorInfo.name_ne_empty (info : ConnectorInfo) : info.name ≠ "" := by
  simp [name]

namespace Output

theorem name_reconcile (o : Output) (info : ConnectorInfo) (id : OutputId) :
    (o.reconcile info id).1.name = if o.state = .invalid then info.name else o.name := by
  unfold reconcile
  cases hs : o.state <;> cases info.isConnected <;> simp [hs]

theorem state_reconcile_ne_invalid (o : Output) (info : ConnectorInfo) (id : OutputId) :
    (o.reconcile info id).1.state ≠ .invalid := by
  rw [state_reconcile]
  cases o.state <;> cases info.isConnected <;> simp [OutputState.seeing]

/-- What a stage of an action can do to the record of an output as far as its name is concerned:
nothing, reading its connector, or moving its state if the action is about this output. -/
inductive Retold (a : BackendAction) (id : OutputId) (g : List JournalEntry) (o o' : Output) :
    Prop where
  | alike (hname : o'.name = o.name) (hconnector : o'.connector = o.connector)
      (hstate : o'.state = o.state) (hsurface : o.surface = none → o'.surface = none)
  | read {info} (ha : a = .scan) (ho' : o' = (o.reconcile info id).1)
      (hread : info ∈ readingsOf o.connector g)
  | moved (ha : a.subject = some id) (hname : o'.name = o.name)
      (hconnector : o'.connector = o.connector) (hstate : o'.state ≠ .invalid)

theorem Retold.refl {a : BackendAction} {id : OutputId} {g : List JournalEntry} (o : Output) :
    Retold a id g o o := .alike rfl rfl rfl fun h => h

/-- The name is one that the connector answered with, and an invalid record has neither name nor
surface. -/
structure NamedBy (o : Output) (infos : List ConnectorInfo) : Prop where
  fresh : o.state = .invalid → o.name = "" ∧ o.surface = none
  told : o.name ≠ "" → ∃ info ∈ infos, o.name = info.name

namespace NamedBy

variable {a : BackendAction} {id : OutputId} {g g₀ : List JournalEntry} {o o' : Output}

theorem new (connector : ConnectorHandle) (infos : List ConnectorInfo) :
    (Output.new connector).NamedBy infos := ⟨fun _ => ⟨rfl, rfl⟩, fun h => absurd rfl h⟩

theorem state_ne_invalid {infos : List ConnectorInfo} (h : o.NamedBy infos) (hname : o.name ≠ "") :
    o.state ≠ .invalid := fun hstate => hname (h.fresh hstate).1

theorem retold (h : o.NamedBy (readingsOf o.connector g₀)) (hretold : Retold a id g o o') :
    o'.NamedBy (readingsOf o'.connector (g ++ g₀)) := by
  have hold (hname : o.name ≠ "") :
      ∃ info ∈ readingsOf o.connector (g ++ g₀), o.name = info.name := by
    obtain ⟨info, hinfo, heq⟩ := h.told hname
    exact ⟨info, by simp [hinfo], heq⟩
  cases hretold with
  | alike hname hconnector hstate hsurface =>
    rw [hconnector]
    refine ⟨fun hinvalid => ?_, hname ▸ hold⟩
    obtain ⟨hempty, hnone⟩ := h.fresh (hstate ▸ hinvalid)
    exact ⟨hname.trans hempty, hsurface hnone⟩
  | @read info _ ho' hread =>
    subst ho'
    rw [connector_reconcile]
    refine ⟨fun hinvalid => absurd hinvalid (state_reconcile_ne_invalid o info id), ?_⟩
    rw [name_reconcile]
    split
    · exact fun _ => ⟨info, by simp [hread], rfl⟩
    · exact hold
  | moved _ hname hconnector hstate =>
    rw [hconnector]
    exact ⟨fun hinvalid => absurd hinvalid hstate, hname ▸ hold⟩

end NamedBy

/-- A record that was read once keeps its name. -/
theorem Retold.keeps_name {a : BackendAction} {id : OutputId} {g : List JournalEntry}
    {o o' : Output} (h : Retold a id g o o') (hread : o.state ≠ .invalid) :
    o'.state ≠ .invalid ∧ o'.name = o.name := by
  cases h with
  | alike hname _ hstate _ => exact ⟨hstate ▸ hread, hname⟩
  | read _ ho' _ =>
    subst ho'
    rw [name_reconcile, if_neg hread]
    exact ⟨state_reconcile_ne_invalid _ _ _, rfl⟩
  | moved _ hname _ hstate => exact ⟨hstate, hname⟩

end Output

namespace Backend

variable {W : World} {a : BackendAction} {b b₁ b' : Backend W} {g g' g₀ : List JournalEntry}
  {id : OutputId}

/-- Every record comes from the one that was in its slot, or is a new one that a scan made. -/
def Retold (a : BackendAction) (b : Backend W) (g : List JournalEntry) (b' : Backend W) : Prop :=
  ∀ id o', b'.output? id = some o' →
    (b.output? id = none ∧ a = .scan ∧ o' = .new o'.connector) ∨
      ∃ o, b.output? id = some o ∧ Output.Retold a id g o o'

namespace Retold

theorem of_same (h : SameBooks b b') : Retold a b g b' := fun id o' ho' =>
  .inr ⟨o', h.output? id ▸ ho', .refl o'⟩

theorem of_elsewhere {o o₁ : Output} (hb : SameElsewhere id b b') (ho : b.output? id = some o)
    (ho₁ : b'.output? id = some o₁) (h : Output.Retold a id g o o₁) : Retold a b g b' := by
  intro j o' ho'
  by_cases hj : j = id
  · subst hj
    obtain rfl := Option.some.inj (ho₁.symm.trans ho')
    exact .inr ⟨o, ho, h⟩
  · exact .inr ⟨o', hb.outputs j hj ▸ ho', .refl o'⟩

theorem of_modify {f : Output → Output} {o : Output} (ho : b.output? id = some o)
    (hb : b'.outputs = b.outputs.modify id.slot f) (h : Output.Retold a id g o (f o)) :
    Retold a b g b' := by
  intro j o' ho'
  rw [output?_modify hb] at ho'
  split at ho'
  · next hj =>
    subst hj
    rw [ho] at ho'
    exact .inr ⟨o, ho, Option.some.inj ho' ▸ h⟩
  · exact .inr ⟨o', ho', .refl o'⟩

theorem of_stage (h : Stage a b g b') : Retold a b g b' := by
  cases h with
  | quiet h => exact .of_same h.same
  | retimed _ _ => exact fun id o' ho' => .inr ⟨o', ho', .refl o'⟩
  | slotted connector ha _ =>
    intro id o' ho'
    rw [output?_append (b := b) rfl] at ho'
    split at ho'
    · next hid =>
      refine .inl ⟨?_, ha, Option.some.inj ho' ▸ rfl⟩
      rw [hid]
      exact List.getElem?_eq_none (Nat.le_refl _)
    · exact .inr ⟨o', ho', .refl o'⟩
  | read ha ho h =>
    refine .of_modify ho h.outputs (.read ha rfl ?_)
    rw [readingsOf_told, if_pos rfl]
    exact List.mem_singleton_self _
  | completed h =>
    intro id o' ho'
    rw [h.output?, output?_completed] at ho'
    obtain ⟨o, ho, rfl⟩ := Option.map_eq_some_iff.1 ho'
    exact .inr ⟨o, ho, .alike rfl rfl rfl fun h => h⟩
  | cleaning _ ho _ => exact .of_modify ho rfl (.alike rfl rfl rfl fun h => h)
  | undrained ha ho _ h => exact .of_modify ho h.outputs (.moved ha rfl rfl nofun)
  | @released _ o _ _ _ _ ha ho _ _ _ _ h =>
    refine .of_modify ho h.outputs ?_
    by_cases hstate : o.state = .connected
    · refine .moved ha rfl rfl ?_
      rw [Output.withdrawn]
      simp [hstate]
    · exact .alike rfl rfl (if_neg hstate) fun _ => rfl
  | set ha ho _ h =>
    obtain ⟨k, s, fb, -, -, ho', -⟩ := h.ok_books ho
    exact .of_elsewhere h.elsewhere ho ho' (.moved ha rfl rfl nofun)
  | reverted ha ho _ h h' =>
    obtain ⟨o₁, ho₁, hrecord⟩ := h.error_record ho
    refine .of_elsewhere (h.elsewhere.trans (.of_release h')) ho
      (output?_modify_self h'.outputs ho₁) ?_
    rcases hrecord with rfl | ⟨k, rfl⟩ <;> exact .moved ha rfl rfl nofun
  | refused ha _ ho h => exact .of_modify ho h.outputs (.moved (ha ▸ rfl) rfl rfl nofun)
  | flipped _ ho hs _ _ _ h =>
    exact .of_modify ho h.outputs (.alike rfl rfl rfl fun hnone => by simp [hs] at hnone)
  | unflipped _ _ _ _ _ _ h => exact .of_same h

end Retold

/-- Every record has its name from a reading of its connector among the entries. -/
def NamedIn (g : List JournalEntry) (b : Backend W) : Prop :=
  ∀ id o, b.output? id = some o → o.NamedBy (readingsOf o.connector g)

theorem NamedIn.step (hstage : Stage a b g b') (h : NamedIn g₀ b) : NamedIn (g ++ g₀) b' := by
  intro id o' ho'
  rcases Retold.of_stage hstage id o' ho' with ⟨-, -, hnew⟩ | ⟨o, ho, hretold⟩
  · rw [hnew]
    exact .new _ _
  · exact (h id o ho).retold hretold

theorem NamedIn.new (context : RenderContext W) : NamedIn [] (Backend.new context) :=
  fun id o ho => by simp [Backend.new, output?] at ho

theorem namedIn_run (context : RenderContext W) (actions : List BackendAction) :
    ∃ g, ((Backend.new context).run actions).journal = g ++ context.journal ∧
      NamedIn g ((Backend.new context).run actions) :=
  run_keeps (b := Backend.new context) (fun _ _ _ _ _ _ hstage h => h.step hstage) (.new context)

/-- Every slot stays, and a record that was read once stays read and keeps its name. -/
def KeepsNames (b b' : Backend W) : Prop :=
  ∀ id o, b.output? id = some o → ∃ o', b'.output? id = some o' ∧ o'.connector = o.connector ∧
    (o.state ≠ .invalid → o'.state ≠ .invalid ∧ o'.name = o.name)

theorem KeepsNames.step (hstage : Stage a b g b') (h : KeepsNames b₁ b) : KeepsNames b₁ b' := by
  intro id o ho
  obtain ⟨o₁, ho₁, hconn₁, hkept₁⟩ := h id o ho
  obtain ⟨o', ho', hconn⟩ := SlotsKept.of_stage hstage id o₁ ho₁
  refine ⟨o', ho', hconn.trans hconn₁, fun hread => ?_⟩
  obtain ⟨hread₁, hname₁⟩ := hkept₁ hread
  rcases Retold.of_stage hstage id o' ho' with ⟨hnone, -⟩ | ⟨o₂, ho₂, hretold⟩
  · rw [ho₁] at hnone
    contradiction
  · obtain rfl := Option.some.inj (ho₁.symm.trans ho₂)
    obtain ⟨hread', hname'⟩ := hretold.keeps_name hread₁
    exact ⟨hread', hname'.trans hname₁⟩

theorem keepsNames_run (b : Backend W) (actions : List BackendAction) :
    KeepsNames b (b.run actions) := by
  obtain ⟨-, -, h⟩ := run_keeps (P := fun _ b' => KeepsNames b b')
    (fun _ (_ : _ ∈ actions) _ _ _ _ hstage h => h.step hstage)
    fun _ o ho => ⟨o, ho, rfl, fun hread => ⟨hread, rfl⟩⟩
  exact h

/-- The action sets the mode of an output whose connector was not read yet. -/
def Bypasses (b : Backend W) (a : BackendAction) : Prop :=
  ∃ id o, a.modesetOf? = some id ∧ b.output? id = some o ∧ o.state = .invalid

/-- Every record that is not invalid has a name. -/
def AllNamed (b : Backend W) : Prop :=
  ∀ id o, b.output? id = some o → o.state ≠ .invalid → o.name ≠ ""

namespace AllNamed

theorem new (context : RenderContext W) : (Backend.new context).AllNamed :=
  fun id o ho => by simp [Backend.new, output?] at ho

theorem of_read {readings : Output → List ConnectorInfo} (h : ∀ id o, b.output? id = some o →
    o.state ≠ .invalid → ∃ info ∈ readings o, o.name = info.name) : b.AllNamed := by
  intro id o ho hread
  obtain ⟨info, -, hname⟩ := h id o ho hread
  exact hname ▸ info.name_ne_empty

theorem of_same (h : b.AllNamed) (hb : SameBooks b b') : b'.AllNamed := fun id o ho =>
  h id o (hb.output? id ▸ ho)

/-- Names can only be missing after a stage that is about a record that was not read. The record that
the action is about stays read from stage to stage. -/
theorem stages (hstages : Stages a b g b') (h : b.AllNamed)
    (hread : ∀ id o, a.subject = some id → b.output? id = some o → o.state ≠ .invalid) :
    b'.AllNamed := by
  induction hstages with
  | nil => exact h
  | @cons b _ b₁ _ _ hstage _ ih =>
    have hretold := Retold.of_stage hstage
    refine ih (fun id o' ho' hread' => ?_) fun id o' ha ho' => ?_
    · rcases hretold id o' ho' with ⟨-, -, hnew⟩ | ⟨o, ho, hrecord⟩
      · rw [hnew] at hread'
        exact absurd rfl hread'
      · cases hrecord with
        | alike hname _ hstate _ => exact hname ▸ h id o ho (hstate ▸ hread')
        | @read info _ ho' _ =>
          rw [ho', Output.name_reconcile]
          split
          · exact info.name_ne_empty
          · exact h id o ho ‹_›
        | moved ha hname _ _ => exact hname ▸ h id o ho (hread id o ha ho)
    · rcases hretold id o' ho' with ⟨-, hscan, -⟩ | ⟨o, ho, hrecord⟩
      · simp [hscan, BackendAction.subject] at ha
      · exact (hrecord.keeps_name (hread id o ha ho)).1

end AllNamed

/-- Without a surface there is nothing to present and nothing to tear down. -/
theorem same_after_bare {o : Output} (ha : a.subject = some id) (hmode : a.modesetOf? = none)
    (ho : b.output? id = some o) (hs : o.surface = none) : SameBooks b (b.after a) := by
  cases a with
  | beginFrame i =>
    obtain ⟨g, -, h⟩ := yields_beginFrame i b
    exact h.same
  | endFrame i =>
    obtain rfl := Option.some.inj ha
    obtain ⟨g, -, ⟨-, -, h⟩ | ⟨o', s, crtc, core, ho', hs', -⟩⟩ := yields_endFrame i b
    · exact h.same
    · obtain rfl := Option.some.inj (ho.symm.trans ho')
      simp [hs] at hs'
  | teardownOutput i =>
    obtain rfl := Option.some.inj ha
    obtain ⟨g, -, h⟩ := yields_teardownOutput ha b
    have hsame : b.after (.teardownOutput i) = b :=
      h.eq_of_bare fun o' ho' => Option.some.inj (ho.symm.trans ho') ▸ hs
    exact hsame.symm ▸ .refl b
  | selectMode _ _ | commitMode _ _ => contradiction
  | scan | dispatch | clear _ _ _ | setDrainTimeout _ | teardownRenderer | pushEvent _ =>
    contradiction

/-- A record that was not read has no surface, so that without a mode-set nothing is done for it. -/
theorem AllNamed.after (h : b.AllNamed) (hnamed : NamedIn g b) (ha : ¬b.Bypasses a) :
    (b.after a).AllNamed := by
  by_cases hread : ∀ id o, a.subject = some id → b.output? id = some o → o.state ≠ .invalid
  · obtain ⟨g', -, hstages⟩ := stages_after b a
    exact .stages hstages h hread
  · simp only [Classical.not_forall, Decidable.not_not] at hread
    obtain ⟨id, o, hsubject, ho, hinvalid⟩ := hread
    have hmode : a.modesetOf? = none := by
      refine Option.eq_none_iff_forall_ne_some.2 fun i hi => ha ⟨id, o, ?_, ho, hinvalid⟩
      rw [hi, ← hsubject, BackendAction.subject_of_modesetOf? hi]
    exact h.of_same (same_after_bare hsubject hmode ho ((hnamed id o ho).fresh hinvalid).2)

theorem yields_commitMode_named {o : Output} (ho : b.output? id = some o) (hs : o.surface = none)
    (request : ModeRequest) : Yields (commitMode id request).run b fun _ _ b' =>
      ∃ o', b'.output? id = some o' ∧ o'.state ≠ .invalid ∧ o'.name = o.name := by
  refine (yields_commitMode_of_bare ho hs (yields_tryModeset id o.connector request b)).mono ?_
  rintro r g b' (⟨-, h⟩ | ⟨_, g₀, b₁, -, -, h, h'⟩)
  · obtain ⟨k, s, fb, -, -, hrecord, -⟩ := h.ok_books ho
    exact ⟨_, hrecord, nofun, rfl⟩
  · obtain ⟨o₁, ho₁, hrecord⟩ := h.error_record ho
    refine ⟨_, output?_modify_self h'.outputs ho₁, nofun, ?_⟩
    rcases hrecord with rfl | ⟨k, rfl⟩ <;> rfl

/-- Setting the mode of a record that has no surface leaves it read, with the name it had. -/
theorem modeset_after_bare {o : Output} (ha : a.modesetOf? = some id) (ho : b.output? id = some o)
    (hs : o.surface = none) :
    ∃ o', (b.after a).output? id = some o' ∧ o'.state ≠ .invalid ∧ o'.name = o.name := by
  have hcommit (request : ModeRequest) : ∃ o', (b.after (.commitMode id request)).output? id =
      some o' ∧ o'.state ≠ .invalid ∧ o'.name = o.name := by
    obtain ⟨-, -, h⟩ := yields_commitMode_named ho hs request
    exact h
  cases a with
  | commitMode i request =>
    obtain rfl := Option.some.inj ha
    exact hcommit request
  | selectMode i request =>
    obtain rfl := Option.some.inj ha
    cases hparse : ModeRequest.parse request with
    | ok parsed =>
      rw [after_selectMode hparse]
      exact hcommit parsed
    | error e =>
      have hunreadable : ¬(BackendAction.selectMode i request).Readable := by
        simp [BackendAction.Readable, hparse, Except.isOk, Except.toBool]
      rcases after_unreadable hunreadable rfl b with ⟨hnone, -⟩ | ⟨-, -, h⟩
      · rw [ho] at hnone
        contradiction
      · exact ⟨_, output?_modify_self h.outputs ho, by simp, rfl⟩
  | scan | beginFrame _ | endFrame _ | teardownOutput _ | dispatch | clear _ _ _
  | setDrainTimeout _ | teardownRenderer | pushEvent _ => contradiction

theorem Bypasses.not_allNamed (ha : b.Bypasses a) (hnamed : NamedIn g b) :
    ¬(b.after a).AllNamed := by
  obtain ⟨id, o, hmode, ho, hinvalid⟩ := ha
  obtain ⟨hempty, hs⟩ := (hnamed id o ho).fresh hinvalid
  obtain ⟨o', ho', hread, hname⟩ := modeset_after_bare hmode ho hs
  exact fun h => h id o' ho' hread (hname.trans hempty)

/-- Names are complete throughout a run that bypasses no reading. -/
private theorem allNamed_run (hnamed : NamedIn g b) (hb : b.AllNamed)
    {actions : List BackendAction}
    (h : ∀ before a, before ++ [a] <+: actions → ¬(b.run before).Bypasses a) :
    (b.run actions).AllNamed := by
  induction actions generalizing b g with
  | nil => exact hb
  | cons a actions ih =>
    obtain ⟨g', -, hstages⟩ := stages_after b a
    have hnamed' : NamedIn (g' ++ g) (b.after a) :=
      hstages.keep (fun _ _ _ _ hstage h => h.step hstage) hnamed
    refine ih hnamed' (hb.after hnamed (h [] a (by simp))) fun before a' hbefore => ?_
    exact h (a :: before) a' (List.cons_prefix_cons.2 ⟨rfl, hbefore⟩)

/-- At every boundary of a run every record that is not invalid has a name that its own connector
answered with, exactly if no action of the run sets the mode of an output whose connector was not
read yet. Without that condition, an invalid record has no name, a record that has a name has it
from its own connector, and it keeps it; and no record becomes invalid again. -/
theorem names_stable_unless_bypassed (context : RenderContext W) (actions : List BackendAction) :
    ((∀ before, before <+: actions → let b := (Backend.new context).run before
        ∃ gained, b.journal = gained ++ context.journal ∧
          ∀ id o, b.output? id = some o → o.state ≠ .invalid →
            ∃ info ∈ readingsOf o.connector gained, o.name = info.name) ↔
        ∀ before a, before ++ [a] <+: actions →
          ¬((Backend.new context).run before).Bypasses a) ∧
      let b := (Backend.new context).run actions
      ∃ gained, b.journal = gained ++ context.journal ∧
        ∀ id o, b.output? id = some o →
          (o.state = .invalid → o.name = "") ∧
          (o.name ≠ "" → ∃ info ∈ readingsOf o.connector gained, o.name = info.name) ∧
          ∀ later, ∃ o', (b.run later).output? id = some o' ∧ o'.connector = o.connector ∧
            (o.state ≠ .invalid → o'.state ≠ .invalid) ∧ (o.name ≠ "" → o'.name = o.name) := by
  refine ⟨⟨fun h before a hbefore hbypass => ?_, fun h before hbefore => ?_⟩, ?_⟩
  · obtain ⟨g, -, hnamed⟩ := namedIn_run context before
    obtain ⟨g', -, hread⟩ := h (before ++ [a]) hbefore
    rw [run_append] at hread
    exact hbypass.not_allNamed hnamed (.of_read hread)
  · intro b
    obtain ⟨g, hg, hnamed⟩ := namedIn_run context before
    have hall : b.AllNamed := allNamed_run (.new context) (.new context)
      fun earlier a hearlier => h earlier a (hearlier.trans hbefore)
    exact ⟨g, hg, fun id o ho hread => (hnamed id o ho).told (hall id o ho hread)⟩
  · intro b
    obtain ⟨g, hg, hnamed⟩ := namedIn_run context actions
    refine ⟨g, hg, fun id o ho => ⟨fun h => ((hnamed id o ho).fresh h).1, (hnamed id o ho).told, ?_⟩⟩
    intro later
    obtain ⟨o', ho', hconn, hkept⟩ := keepsNames_run b later id o ho
    exact ⟨o', ho', hconn, fun hread => (hkept hread).1,
      fun hname => (hkept ((hnamed id o ho).state_ne_invalid hname)).2⟩

/-- A rendering context on a device with one monitor, which cannot be read the first time. -/
def unreadableFirst : RenderContext SimulatedDevice.world :=
  { oneMonitor with
    world := { oneMonitor.world with faults := [⟨"connector", 0, 1, "injected"⟩] } }

/-- The scan could not read the connector, and then the mode of its output was set. The output is
connected and has no name. -/
theorem not_named_after_modeset :
    let b := (Backend.new unreadableFirst).run [.scan, .commitMode ⟨0⟩ .preferred]
    ¬∃ gained, b.journal = gained ++ unreadableFirst.journal ∧
      ∀ id o, b.output? id = some o → o.state ≠ .invalid →
        ∃ info ∈ readingsOf o.connector gained, o.name = info.name := by
  rintro b ⟨gained, -, hread⟩
  have hunnamed : (((Backend.new unreadableFirst).run
      [.scan, .commitMode ⟨0⟩ .preferred]).output? ⟨0⟩).any
        (fun o => o.state == .connected && o.name == "") = true := by decide +kernel
  obtain ⟨o, ho, hunnamed⟩ := (Option.any_eq_true _ _).1 hunnamed
  rw [Bool.and_eq_true, beq_iff_eq, beq_iff_eq] at hunnamed
  obtain ⟨info, -, hname⟩ := hread ⟨0⟩ o ho (by simp [hunnamed.1])
  exact info.name_ne_empty (hname.symm.trans hunnamed.2)

end Backend
end Scanout
