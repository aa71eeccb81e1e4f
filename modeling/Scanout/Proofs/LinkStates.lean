import Scanout.Proofs.HeldSurfaces

/-!
# Links as they were last seen

A scan reads the connectors that the kernel lists, and every record follows what its own connector
answered. A link that is read as up leaves its record connected or waiting for a mode; one that is
read as down leaves it disconnected, except that a record which is still waiting for its mode goes
on waiting. Such a record is not reported when its link comes up again.
-/

namespace Scanout

/-- The state of a record after its link was seen up or down. -/
def OutputState.seeing : OutputState → Bool → OutputState
  | .invalid, true | .disconnected, true => .needsModeset
  | .invalid, false | .connected, false => .disconnected
  | s, _ => s

/-- A link that is seen up is reported as one that came up. -/
def OutputState.ReportsUp (s : OutputState) : Prop := s = .invalid ∨ s = .disconnected

namespace OutputState

theorem seeing_true (s : OutputState) : s.seeing true = .needsModeset ∨ s.seeing true = .connected := by
  cases s <;> simp [seeing]

/-- Seen down, every state but one gives way. -/
theorem seeing_false_eq_iff (s : OutputState) :
    s.seeing false = .disconnected ↔ s ≠ .needsModeset := by
  cases s <;> simp [seeing]

theorem not_reportsUp_seeing_true (s : OutputState) : ¬(s.seeing true).ReportsUp := by
  cases s <;> simp [seeing, ReportsUp]

theorem reportsUp_of_seeing_false {s : OutputState} :
    (s.seeing false).ReportsUp ↔ s ≠ .needsModeset := by
  cases s <;> simp [seeing, ReportsUp]

end OutputState

namespace Output

theorem state_reconcile (o : Output) (info : ConnectorInfo) (id : OutputId) :
    (o.reconcile info id).1.state = o.state.seeing info.isConnected := by
  unfold reconcile
  cases hs : o.state <;> cases info.isConnected <;> simp [hs, OutputState.seeing]

theorem added_mem_reconcile (o : Output) (info : ConnectorInfo) (id : OutputId) :
    .added id ∈ (o.reconcile info id).2.toList ↔ info.isConnected = true ∧ o.state.ReportsUp := by
  unfold reconcile
  cases hs : o.state <;> cases info.isConnected <;> simp [hs, OutputState.ReportsUp]

theorem output_of_mem_reconcile {o : Output} {info : ConnectorInfo} {id : OutputId}
    {e : OutputEvent} (he : e ∈ (o.reconcile info id).2.toList) : e.output = id := by
  unfold reconcile at he
  dsimp only at he
  split at he <;> simp_all [OutputEvent.output]

theorem connector_reconcile (o : Output) (info : ConnectorInfo) (id : OutputId) :
    (o.reconcile info id).1.connector = o.connector := by
  unfold reconcile
  dsimp only
  split <;> split <;> rfl

/-- A record after its connector was asked about, and the event that tells about the change. -/
def heard (o : Output) (id : OutputId) : Except SystemError ConnectorInfo → Output × Option OutputEvent
  | .ok info => o.reconcile info id
  | .error _ => (o, none)

theorem connector_heard (o : Output) (id : OutputId) (answer : Except SystemError ConnectorInfo) :
    (o.heard id answer).1.connector = o.connector := by
  cases answer with
  | ok info => exact o.connector_reconcile info id
  | error e => rfl

theorem output_of_mem_heard {o : Output} {id : OutputId} {answer : Except SystemError ConnectorInfo}
    {e : OutputEvent} (he : e ∈ (o.heard id answer).2.toList) : e.output = id := by
  cases answer with
  | ok info => exact output_of_mem_reconcile he
  | error e => contradiction

/-- A record and the events about it after readings of its connector, the latest first. -/
def follow (o : Output) (id : OutputId) : List ConnectorInfo → Output × List OutputEvent
  | [] => (o, [])
  | info :: earlier =>
    ((((o.follow id earlier).1.reconcile info id).1),
      ((o.follow id earlier).1.reconcile info id).2.toList ++ (o.follow id earlier).2)

theorem follow_append (o : Output) (id : OutputId) (later earlier : List ConnectorInfo) :
    o.follow id (later ++ earlier) = (((o.follow id earlier).1.follow id later).1,
      ((o.follow id earlier).1.follow id later).2 ++ (o.follow id earlier).2) := by
  induction later with
  | nil => simp [follow]
  | cons info later ih => simp [follow, ih]

theorem connector_follow (o : Output) (id : OutputId) (infos : List ConnectorInfo) :
    (o.follow id infos).1.connector = o.connector := by
  induction infos with
  | nil => rfl
  | cons info infos ih => rw [follow, connector_reconcile, ih]

/-- A link is reported as having come up by each reading that finds it up when its record has not
known it to be. -/
theorem added_mem_follow {o : Output} {id : OutputId} {infos : List ConnectorInfo} :
    .added id ∈ (o.follow id infos).2 ↔ ∃ later info earlier, infos = later ++ info :: earlier ∧
      info.isConnected = true ∧ (o.follow id earlier).1.state.ReportsUp := by
  induction infos with
  | nil => simp [follow]
  | cons info infos ih =>
    rw [follow, List.mem_append, added_mem_reconcile, ih]
    constructor
    · rintro (⟨hup, hstate⟩ | ⟨later, i, earlier, rfl, h⟩)
      · exact ⟨[], info, infos, rfl, hup, hstate⟩
      · exact ⟨info :: later, i, earlier, rfl, h⟩
    · rintro ⟨later, i, earlier, heq, hup, hstate⟩
      cases later with
      | nil =>
        obtain ⟨rfl, rfl⟩ := List.cons.inj heq
        exact .inl ⟨hup, hstate⟩
      | cons j later =>
        obtain ⟨rfl, rfl⟩ := List.cons.inj heq
        exact .inr ⟨later, i, earlier, rfl, hup, hstate⟩

/-- Of readings that all find the link up, only the first can report it. -/
theorem added_mem_follow_of_up {o : Output} {id : OutputId} {infos : List ConnectorInfo}
    (hne : infos ≠ []) (hup : ∀ info ∈ infos, info.isConnected = true) :
    .added id ∈ (o.follow id infos).2 ↔ o.state.ReportsUp := by
  induction infos with
  | nil => contradiction
  | cons info infos ih =>
    rw [follow, List.mem_append, added_mem_reconcile]
    cases infos with
    | nil => simp [follow, hup info]
    | cons i infos =>
      rw [ih (by simp) fun j hj => hup j (List.mem_cons_of_mem _ hj)]
      refine or_iff_right fun ⟨_, hstate⟩ => ?_
      rw [follow, state_reconcile, hup i (by simp)] at hstate
      exact OutputState.not_reportsUp_seeing_true _ hstate

end Output

/-- What a connector answered, if the entry is a reading of it that succeeded. -/
def JournalEntry.reading? (connector : ConnectorHandle) : JournalEntry → Option ConnectorInfo
  | .call (.kernel (.connector h)) (.ok info) => if h = connector then some info else none
  | _ => none

def JournalEntry.eventOn? (id : OutputId) : JournalEntry → Option OutputEvent
  | .event e => if e.output = id then some e else none
  | _ => none

/-- The readings of a connector among the entries, the latest first. -/
def readingsOf (connector : ConnectorHandle) (gained : List JournalEntry) : List ConnectorInfo :=
  gained.filterMap (·.reading? connector)

/-- The events about an output among the entries, the latest first. -/
def eventsOn (id : OutputId) (gained : List JournalEntry) : List OutputEvent :=
  gained.filterMap (·.eventOn? id)

@[simp] theorem readingsOf_append (connector : ConnectorHandle) (g g' : List JournalEntry) :
    readingsOf connector (g' ++ g) = readingsOf connector g' ++ readingsOf connector g :=
  List.filterMap_append

@[simp] theorem eventsOn_append (id : OutputId) (g g' : List JournalEntry) :
    eventsOn id (g' ++ g) = eventsOn id g' ++ eventsOn id g := List.filterMap_append

theorem readingsOf_told (connector h : ConnectorHandle)
    (answer : Except SystemError ConnectorInfo) (events : List OutputEvent) :
    readingsOf connector (events.map .event ++ [.call (.kernel (.connector h)) answer]) =
      if connector = h then answer.toOption.toList else [] := by
  have hnone : readingsOf connector (events.map .event) = [] := by
    simp [readingsOf, JournalEntry.reading?]
  rw [readingsOf_append, hnone]
  cases answer with
  | error e => simp [readingsOf, JournalEntry.reading?, Except.toOption]
  | ok info =>
    by_cases hc : connector = h
    · simp [readingsOf, JournalEntry.reading?, hc, Except.toOption]
    · simp [readingsOf, JournalEntry.reading?, hc, Ne.symm hc]

theorem eventsOn_told {id : OutputId} {events : List OutputEvent} {c : Call} {answer : c.Answer}
    (h : ∀ e ∈ events, e.output = id) (j : OutputId) :
    eventsOn j (events.map .event ++ [.call c answer]) = if j = id then events else [] := by
  have hnone : eventsOn j [.call c answer] = [] := rfl
  rw [eventsOn_append, hnone, List.append_nil]
  induction events with
  | nil => simp [eventsOn]
  | cons e events ih =>
    rw [List.map_cons, eventsOn, List.filterMap_cons]
    have he := h e (by simp)
    have hrest := ih fun e' he' => h e' (List.mem_cons_of_mem _ he')
    rw [eventsOn] at hrest
    by_cases hj : j = id
    · simp_all [JournalEntry.eventOn?]
    · simp_all [JournalEntry.eventOn?, Ne.symm hj]

theorem mem_eventsOn {id : OutputId} {e : OutputEvent} {g : List JournalEntry} :
    e ∈ eventsOn id g ↔ e.output = id ∧ .event e ∈ g := by
  rw [eventsOn, List.mem_filterMap]
  constructor
  · rintro ⟨entry, hmem, heq⟩
    cases entry with
    | event e' =>
      simp only [JournalEntry.eventOn?, Option.ite_none_right_eq_some, Option.some.injEq] at heq
      obtain ⟨houtput, rfl⟩ := heq
      exact ⟨houtput, hmem⟩
    | call _ _ | claimed _ _ | released _ => contradiction
  · rintro ⟨houtput, hmem⟩
    exact ⟨_, hmem, if_pos houtput⟩

namespace Backend

variable {W : World} {a : BackendAction} {b b₁ b' : Backend W} {g g' : List JournalEntry}
  {id : OutputId}

/-- No two records are of one connector. -/
def DistinctConnectors (b : Backend W) : Prop :=
  ∀ id id' o o', b.output? id = some o → b.output? id' = some o' → o.connector = o'.connector →
    id = id'

/-- The connectors of the slots, in their order. -/
def connectors (b : Backend W) : List ConnectorHandle := b.outputs.map (·.connector)

theorem getElem?_connectors (b : Backend W) (id : OutputId) :
    b.connectors[id.slot]? = (b.output? id).map (·.connector) := List.getElem?_map

theorem mem_connectors {h : ConnectorHandle} :
    h ∈ b.connectors ↔ ∃ id o, b.output? id = some o ∧ o.connector = h := by
  constructor
  · intro hmem
    obtain ⟨slot, hslot⟩ := List.getElem?_of_mem hmem
    exact ⟨⟨slot⟩, Option.map_eq_some_iff.1 ((b.getElem?_connectors ⟨slot⟩).symm.trans hslot)⟩
  · rintro ⟨id, o, ho, hconn⟩
    exact hconn ▸ List.mem_map_of_mem (List.mem_of_getElem? ho)

/-- Every slot is of the connector that it was of. -/
def SameConnectors (b b' : Backend W) : Prop :=
  ∀ j, (b'.output? j).map (·.connector) = (b.output? j).map (·.connector)

namespace SameConnectors

theorem of_same (h : SameBooks b b') : SameConnectors b b' := fun j => by rw [h.output?]

theorem of_elsewhere {o o' : Output} (h : SameElsewhere id b b') (ho : b.output? id = some o)
    (ho' : b'.output? id = some o') (hconn : o'.connector = o.connector) :
    SameConnectors b b' := fun j => by
  by_cases hj : j = id
  · rw [hj, ho, ho', Option.map_some, Option.map_some, hconn]
  · rw [h.outputs j hj]

theorem of_modify {f : Output → Output} {o : Output}
    (h : b'.outputs = b.outputs.modify id.slot f) (ho : b.output? id = some o)
    (hf : (f o).connector = o.connector) : SameConnectors b b' := fun j => by
  rw [output?_modify h]
  split
  · next hj => rw [← hj, ho, Option.map_some, Option.map_some, Option.map_some, hf]
  · rfl

/-- No stage changes the connector of a slot; a scan may add one slot for a new connector. -/
theorem of_stage (h : Stage a b g b') : SameConnectors b b' ∨ ∃ connector,
    (∀ o ∈ b.outputs, o.connector ≠ connector) ∧
      b'.outputs = b.outputs ++ [Output.new connector] := by
  cases h with
  | slotted connector _ hnew => exact .inr ⟨connector, hnew, rfl⟩
  | quiet h => exact .inl (.of_same h.same)
  | retimed _ _ => exact .inl fun _ => rfl
  | read _ ho h => exact .inl (.of_modify h.outputs ho (Output.connector_reconcile _ _ _))
  | completed h =>
    refine .inl fun j => ?_
    rw [h.output?, output?_completed, Option.map_map]
    rfl
  | cleaning _ ho _ => exact .inl (.of_modify rfl ho rfl)
  | undrained _ ho _ h => exact .inl (.of_modify h.outputs ho rfl)
  | released _ ho _ _ _ _ h => exact .inl (.of_modify h.outputs ho rfl)
  | set _ ho _ h =>
    obtain ⟨k, s, fb, -, -, ho', -⟩ := h.ok_books ho
    exact .inl (.of_elsewhere h.elsewhere ho ho' rfl)
  | reverted _ ho _ h h' =>
    obtain ⟨o₁, ho₁, hrecord⟩ := h.error_record ho
    refine .inl (.of_elsewhere (h.elsewhere.trans (.of_release h')) ho
      (output?_modify_self h'.outputs ho₁) ?_)
    rcases hrecord with rfl | ⟨k, rfl⟩ <;> rfl
  | refused _ _ ho h => exact .inl (.of_modify h.outputs ho rfl)
  | flipped _ ho _ _ _ _ h => exact .inl (.of_modify h.outputs ho rfl)
  | unflipped _ _ _ _ _ _ h => exact .inl (.of_same h)

end SameConnectors

namespace DistinctConnectors

theorem of_same (h : b.DistinctConnectors) (hb : SameConnectors b b') : b'.DistinctConnectors := by
  have hback (j o') (ho' : b'.output? j = some o') :
      ∃ o, b.output? j = some o ∧ o.connector = o'.connector := by
    have hj := hb j
    rw [ho', Option.map_some] at hj
    exact Option.map_eq_some_iff.1 hj.symm
  intro j j' o o' ho ho' hconn
  obtain ⟨p, hp, hpc⟩ := hback j o ho
  obtain ⟨p', hp', hpc'⟩ := hback j' o' ho'
  exact h j j' p p' hp hp' ((hpc.trans hconn).trans hpc'.symm)

theorem slotted {connector : ConnectorHandle} (h : b.DistinctConnectors)
    (hnew : ∀ o ∈ b.outputs, o.connector ≠ connector)
    (hb : b'.outputs = b.outputs ++ [Output.new connector]) : b'.DistinctConnectors := by
  have hold (j o') (ho' : b'.output? j = some o') :
      (j = ⟨b.outputs.length⟩ ∧ o' = .new connector) ∨
        b.output? j = some o' ∧ o'.connector ≠ connector := by
    rw [output?_append hb] at ho'
    split at ho'
    · exact .inl ⟨‹_›, (Option.some.inj ho').symm⟩
    · exact .inr ⟨ho', hnew o' (List.mem_of_getElem? ho')⟩
  intro j j' o o' ho ho' hconn
  rcases hold j o ho with ⟨hj, rfl⟩ | ⟨ho, hne⟩
  · rcases hold j' o' ho' with ⟨hj', -⟩ | ⟨-, hne'⟩
    · exact hj.trans hj'.symm
    · exact absurd hconn.symm hne'
  · rcases hold j' o' ho' with ⟨-, rfl⟩ | ⟨ho', -⟩
    · exact absurd hconn hne
    · exact h j j' o o' ho ho' hconn

theorem step (h : b.DistinctConnectors) (hstage : Stage a b g b') : b'.DistinctConnectors := by
  rcases SameConnectors.of_stage hstage with hsame | ⟨connector, hnew, hb⟩
  · exact h.of_same hsame
  · exact h.slotted hnew hb

theorem stages (h : b.DistinctConnectors) (hstages : Stages a b g b') : b'.DistinctConnectors := by
  induction hstages with
  | nil => exact h
  | cons h₀ _ ih => exact ih (h.step h₀)

theorem run (context : RenderContext W) (actions : List BackendAction) :
    ((Backend.new context).run actions).DistinctConnectors := by
  have hnew : (Backend.new context).DistinctConnectors := fun _ _ o _ ho => by
    simp [Backend.new, output?] at ho
  obtain ⟨-, -, h⟩ := run_keeps (P := fun _ b => b.DistinctConnectors)
    (fun _ (_ : _ ∈ actions) _ _ _ _ hstage hb => hb.step hstage) hnew
  exact h

end DistinctConnectors

/-- Every slot stays, with its connector. -/
def SlotsKept (b b' : Backend W) : Prop :=
  ∀ id o, b.output? id = some o → ∃ o', b'.output? id = some o' ∧ o'.connector = o.connector

namespace SlotsKept

theorem refl (b : Backend W) : SlotsKept b b := fun _ o ho => ⟨o, ho, rfl⟩

theorem trans (h : SlotsKept b b₁) (h' : SlotsKept b₁ b') : SlotsKept b b' := fun id o ho => by
  obtain ⟨o₁, ho₁, hconn₁⟩ := h id o ho
  obtain ⟨o', ho', hconn⟩ := h' id o₁ ho₁
  exact ⟨o', ho', hconn.trans hconn₁⟩

theorem output?_eq_none (h : SlotsKept b b') (hid : b'.output? id = none) : b.output? id = none := by
  refine Option.eq_none_iff_forall_ne_some.2 fun o ho => ?_
  obtain ⟨o', ho', -⟩ := h id o ho
  rw [hid] at ho'
  contradiction

theorem of_stage (h : Stage a b g b') : SlotsKept b b' := by
  intro id o ho
  rcases SameConnectors.of_stage h with hsame | ⟨connector, -, hb⟩
  · have hid := hsame id
    rw [ho, Option.map_some] at hid
    exact Option.map_eq_some_iff.1 hid
  · exact ⟨o, output?_append_of_some hb ho, rfl⟩

theorem of_run (b : Backend W) (actions : List BackendAction) : SlotsKept b (b.run actions) := by
  obtain ⟨-, -, h⟩ := run_keeps (P := fun _ b' => SlotsKept b b')
    (fun _ (_ : _ ∈ actions) _ _ _ _ hstage hb => hb.trans (.of_stage hstage)) (.refl b)
  exact h

end SlotsKept

/-- The slots and records of `b'` are what readings of the connectors make of those of `b`, and the
events tell of the same readings. -/
structure Followed (b : Backend W) (g : List JournalEntry) (b' : Backend W) : Prop where
  slots : SlotsKept b b'
  known : ∀ h, readingsOf h g ≠ [] → ∃ id o', b'.output? id = some o' ∧ o'.connector = h
  unslotted : ∀ id, b'.output? id = none → eventsOn id g = []
  record : ∀ id o', b'.output? id = some o' → (o', eventsOn id g) =
    ((b.output? id).getD (.new o'.connector)).follow id (readingsOf o'.connector g)

namespace Followed

/-- Entries that tell of no readings and no events. -/
theorem of_same (h : SameBooks b b') (hread : ∀ c, readingsOf c g = [])
    (hevents : ∀ id, eventsOn id g = []) : Followed b g b' where
  slots _ o ho := ⟨o, (h.output? _).trans ho, rfl⟩
  known c hne := absurd (hread c) hne
  unslotted id _ := hevents id
  record id o' ho' := by
    rw [← h.output? id, ho', hread, hevents]
    rfl

theorem trans (h : Followed b g b₁) (h' : Followed b₁ g' b') (hb' : b'.DistinctConnectors) :
    Followed b (g' ++ g) b' where
  slots := h.slots.trans h'.slots
  known c hne := by
    rw [readingsOf_append] at hne
    by_cases hlater : readingsOf c g' = []
    · obtain ⟨id, o₁, ho₁, hconn₁⟩ := h.known c fun hearlier => hne (by simp [hlater, hearlier])
      obtain ⟨o', ho', hconn⟩ := h'.slots id o₁ ho₁
      exact ⟨id, o', ho', hconn.trans hconn₁⟩
    · exact h'.known c hlater
  unslotted id hnone := by
    rw [eventsOn_append, h'.unslotted id hnone,
      h.unslotted id (h'.slots.output?_eq_none hnone), List.append_nil]
  record id o' ho' := by
    have hrecord' := h'.record id o' ho'
    rw [eventsOn_append, readingsOf_append]
    cases ho₁ : b₁.output? id with
    | some o₁ =>
      obtain ⟨o₂, ho₂, hconn⟩ := h'.slots id o₁ ho₁
      obtain rfl := Option.some.inj (ho'.symm.trans ho₂)
      have hrecord := h.record id o₁ ho₁
      rw [← hconn] at hrecord
      rw [ho₁, Option.getD_some] at hrecord'
      rw [Output.follow_append, ← hrecord, ← hrecord']
    | none =>
      have hread : readingsOf o'.connector g = [] := by
        refine Classical.byContradiction fun hne => ?_
        obtain ⟨j, o₁, hj, hconn₁⟩ := h.known _ hne
        obtain ⟨o₂, ho₂, hconn⟩ := h'.slots j o₁ hj
        obtain rfl := hb' j id o₂ o' ho₂ ho' (hconn.trans hconn₁)
        rw [ho₁] at hj
        contradiction
      rw [ho₁] at hrecord'
      rw [hread, h.unslotted id ho₁, h.slots.output?_eq_none ho₁, List.append_nil, List.append_nil]
      exact hrecord'

end Followed

/-- Readings of one connector concern one record, which is a new one if there was none. -/
theorem Followed.of_readings {o : Output} {infos : List ConnectorInfo}
    (hstart : (b.output? id).getD (.new o.connector) = o)
    (ho' : b'.output? id = some (o.follow id infos).1) (helse : ∀ j ≠ id, b'.output? j = b.output? j)
    (hb' : b'.DistinctConnectors)
    (hread : ∀ c, readingsOf c g = if c = o.connector then infos else [])
    (hevents : ∀ j, eventsOn j g = if j = id then (o.follow id infos).2 else []) :
    Followed b g b' where
  slots j o₀ hj := by
    by_cases hjd : j = id
    · subst hjd
      rw [hj, Option.getD_some] at hstart
      exact ⟨_, ho', by rw [hstart, Output.connector_follow]⟩
    · exact ⟨o₀, (helse j hjd).trans hj, rfl⟩
  known c hne := by
    rw [hread] at hne
    split at hne
    · next hc => exact ⟨id, _, ho', (Output.connector_follow _ _ _).trans hc.symm⟩
    · contradiction
  unslotted j hnone := by
    rw [hevents, if_neg]
    rintro rfl
    rw [ho'] at hnone
    contradiction
  record j o' hj := by
    by_cases hjd : j = id
    · subst hjd
      obtain rfl := Option.some.inj (ho'.symm.trans hj)
      rw [hevents, if_pos rfl, hread, Output.connector_follow, if_pos rfl, hstart]
    · have hother : o'.connector ≠ o.connector := fun hconn =>
        hjd (hb' j id o' _ hj ho' (hconn.trans (Output.connector_follow o id infos).symm))
      rw [hevents, if_neg hjd, hread, if_neg hother, ← helse j hjd, hj]
      rfl

/-- The connectors with one more, unless it is among them. -/
def withConnector (connectors : List ConnectorHandle) (connector : ConnectorHandle) :
    List ConnectorHandle :=
  if connector ∈ connectors then connectors else connectors ++ [connector]

/-- The slot of a connector, which may be a new one, had the record `o` and has the record `o'`. -/
structure Slotted (b : Backend W) (id : OutputId) (o o' : Output) (b' : Backend W) : Prop where
  start : (b.output? id).getD (.new o.connector) = o
  record : b'.output? id = some o'
  others : ∀ j ≠ id, b'.output? j = b.output? j
  connectors : b'.connectors = withConnector b.connectors o.connector
  claims : b'.claims = b.claims
  timeout : b'.flipDrainTimeout = b.flipDrainTimeout

namespace Slotted

variable {o o₁ o' : Output}

theorem of_same (h : Slotted b id o o' b₁) (h' : SameBooks b₁ b') : Slotted b id o o' b' where
  start := h.start
  record := (h'.output? id).trans h.record
  others j hj := (h'.output? j).trans (h.others j hj)
  connectors := by rw [Backend.connectors, h'.outputs, ← Backend.connectors, h.connectors]
  claims := h'.claims.trans h.claims
  timeout := h'.timeout.trans h.timeout

theorem update (h : Slotted b id o o₁ b₁) (hconn : o'.connector = o₁.connector) :
    Slotted b id o o' { b₁ with outputs := b₁.outputs.modify id.slot fun _ => o' } where
  start := h.start
  record := output?_modify_self (f := fun _ => o') rfl h.record
  others j hj := by rw [output?_modify rfl, if_neg (Ne.symm hj), h.others j hj]
  connectors := by
    rw [← h.connectors]
    apply List.ext_getElem?
    intro slot
    rw [getElem?_connectors _ ⟨slot⟩, getElem?_connectors _ ⟨slot⟩, output?_modify rfl]
    split
    · next hslot => rw [← hslot, h.record, Option.map_some, Option.map_some, Option.map_some, hconn]
    · rfl
  claims := h.claims
  timeout := h.timeout

/-- A connector that is known has its record. -/
theorem of_known (h : Slotted b id o o' b') (hmem : o.connector ∈ b.connectors) :
    b.output? id = some o := by
  have hslot := b'.getElem?_connectors id
  rw [h.connectors, withConnector, if_pos hmem, getElem?_connectors, h.record] at hslot
  obtain ⟨o₁, ho₁, -⟩ := Option.map_eq_some_iff.1 hslot
  have hstart := h.start
  rw [ho₁, Option.getD_some] at hstart
  rw [ho₁, hstart]

theorem of_unknown (h : Slotted b id o o' b') (hmem : o.connector ∉ b.connectors) :
    b.output? id = none ∧ o = .new o.connector := by
  cases ho : b.output? id with
  | none =>
    have hstart := h.start
    rw [ho] at hstart
    exact ⟨rfl, hstart.symm⟩
  | some o₁ =>
    have hstart := h.start
    rw [ho, Option.getD_some] at hstart
    exact absurd (mem_connectors.2 ⟨id, o₁, ho, congrArg Output.connector hstart⟩) hmem

end Slotted

private theorem yields_slotOf_slotted (connector : ConnectorHandle) (b : Backend W) :
    Yields (slotOf connector) b fun id g b' => g = [] ∧
      ∃ o, o.connector = connector ∧ Slotted b id o o b' := by
  refine .get_bind ?_
  cases hfound : b.outputs.findIdx? (·.connector == connector) with
  | some slot =>
    obtain ⟨hslot, hconn, -⟩ := List.findIdx?_eq_some_iff_getElem.1 hfound
    have hconn : b.outputs[slot].connector = connector := by simpa using hconn
    have ho : b.output? ⟨slot⟩ = some b.outputs[slot] := List.getElem?_eq_getElem hslot
    have hknown : b.outputs[slot].connector ∈ b.connectors :=
      List.mem_map_of_mem (List.getElem_mem hslot)
    refine .pure ⟨rfl, b.outputs[slot], hconn, ?_⟩
    exact {
      start := by rw [ho, Option.getD_some]
      record := ho
      others := fun _ _ => rfl
      connectors := (if_pos hknown).symm
      claims := rfl
      timeout := rfl }
  | none =>
    have hunknown : connector ∉ b.connectors := by
      simpa [connectors] using List.findIdx?_eq_none_iff.1 hfound
    have hnew : b.output? ⟨b.outputs.length⟩ = none := List.getElem?_eq_none (Nat.le_refl _)
    refine ⟨[], rfl, rfl, .new connector, rfl, ?_⟩
    exact {
      start := by
        show (b.output? ⟨b.outputs.length⟩).getD _ = _
        rw [hnew]
        rfl
      record := (output?_append (b := b) rfl _).trans (if_pos rfl)
      others := fun j hj => (output?_append rfl j).trans (if_neg hj)
      connectors := List.map_append.trans (if_neg hunknown).symm
      claims := rfl
      timeout := rfl }

/-- A connector is asked about, and the record in its slot is what is made of the answer. -/
theorem yields_scanConnector_heard (connector : ConnectorHandle) (b : Backend W) :
    Yields (scanConnector connector) b fun _ g b' => ∃ id answer o, o.connector = connector ∧
      Slotted b id o (o.heard id answer).1 b' ∧
        g = (o.heard id answer).2.toList.map .event ++
          [.call (.kernel (.connector connector)) answer] := by
  refine (yields_slotOf_slotted connector b).bind ?_
  rintro id _ b₁ ⟨rfl, o, hconn, h₁⟩
  refine (yields_call (.kernel (.connector connector)) b₁).bind ?_
  rintro answer _ b₂ ⟨rfl, hsame⟩
  have h₂ := h₁.of_same hsame
  cases answer with
  | error e => exact .pure ⟨id, .error e, o, hconn, h₂, rfl⟩
  | ok info =>
    refine .get_bind ?_
    rw [h₂.record]
    dsimp only
    refine (yields_updateOutput id _ b₂).bind ?_
    rintro _ _ b₃ ⟨rfl, rfl⟩
    have h₃ := h₂.update (o.connector_reconcile info id)
    cases hevent : (o.reconcile info id).2 with
    | none =>
      refine .pure ⟨id, .ok info, o, hconn, h₃, ?_⟩
      rw [Output.heard, hevent]
      rfl
    | some event =>
      refine (yields_emit event _).mono ?_
      rintro _ _ b₄ ⟨rfl, h₄⟩
      refine ⟨id, .ok info, o, hconn, h₃.of_same h₄, ?_⟩
      rw [Output.heard, hevent]
      rfl

private theorem yields_readConnector (connector : ConnectorHandle) (b : Backend W) :
    Yields (scanConnector connector) b fun _ g b' =>
      b'.DistinctConnectors → Followed b g b' := by
  refine (yields_scanConnector_heard connector b).mono ?_
  rintro _ _ b' ⟨id, answer, o, rfl, h, rfl⟩ hb'
  have hfollow : o.follow id answer.toOption.toList =
      ((o.heard id answer).1, (o.heard id answer).2.toList) := by
    cases answer with
    | error e => rfl
    | ok info => simp [Output.follow, Output.heard, Except.toOption]
  have hrecord : b'.output? id = some (o.follow id answer.toOption.toList).1 := by
    rw [hfollow, h.record]
  refine .of_readings h.start hrecord h.others hb' ?_ ?_
  · exact fun c => readingsOf_told _ _ _ _
  · rw [hfollow]
    exact eventsOn_told fun e he => Output.output_of_mem_heard he

private theorem yields_readAll (connectors : List ConnectorHandle) {b : Backend W}
    (hb : b.DistinctConnectors) :
    Yields (connectors.forM scanConnector) b fun _ g b' =>
      b'.DistinctConnectors ∧ Followed b g b' := by
  induction connectors generalizing b with
  | nil => exact .pure ⟨hb, .of_same (.refl b) (fun _ => rfl) fun _ => rfl⟩
  | cons connector others ih =>
    refine (Yields.and (yields_scanConnector connector b) (yields_readConnector connector b)).bind ?_
    rintro _ g₁ b₁ ⟨hstages, hfollowed⟩
    have hb₁ := hb.stages hstages
    refine (ih hb₁).mono ?_
    rintro _ g₂ b₂ ⟨hb₂, h₂⟩
    exact ⟨hb₂, (hfollowed hb₁).trans h₂ hb₂⟩

/-- Whether it succeeds or not, a scan has every record follow the readings of its connector. -/
theorem yields_scan_followed {b : Backend W} (hb : b.DistinctConnectors) :
    Yields scan.run b fun _ g b' => Followed b g b' := by
  have hquiet {answer : Except SystemError ResourceHandles} {b₁ : Backend W}
      (h₁ : SameBooks b b₁) :
      Followed b [.call (.kernel .resources) answer] b₁ :=
    .of_same h₁ (fun _ => by simp [readingsOf, JournalEntry.reading?]) fun _ => rfl
  refine (yields_call (.kernel .resources) b).orFail_bindOk ?_ ?_
  · rintro resources _ b₁ ⟨rfl, h₁⟩
    have hb₁ : b₁.DistinctConnectors := hb.of_same (.of_same h₁)
    refine .lift ((yields_readAll resources.connectors hb₁).mono ?_)
    rintro _ g b' ⟨hb', h⟩
    exact (hquiet h₁).trans h hb'
  · rintro e _ b₁ ⟨rfl, h₁⟩
    exact hquiet h₁

theorem scan_followed (context : RenderContext W) (actions : List BackendAction) :
    let b := (Backend.new context).run actions
    ∃ gained, (b.after .scan).journal = gained ++ b.journal ∧
      Followed b gained (b.after .scan) :=
  yields_scan_followed (.run context actions)

namespace Followed

variable {o' : Output} {info : ConnectorInfo} {earlier : List ConnectorInfo}

theorem state_eq (h : Followed b g b') (ho' : b'.output? id = some o')
    (hread : readingsOf o'.connector g = info :: earlier) :
    o'.state = (((b.output? id).getD (.new o'.connector)).follow id earlier).1.state.seeing
      info.isConnected := by
  have hrecord := congrArg Prod.fst (h.record id o' ho')
  rw [hread] at hrecord
  rw [← Output.state_reconcile]
  exact congrArg Output.state hrecord

theorem event_added_mem (h : Followed b g b') (ho' : b'.output? id = some o') :
    .event (.added id) ∈ g ↔ .added id ∈ (((b.output? id).getD (.new o'.connector)).follow id
      (readingsOf o'.connector g)).2 := by
  rw [← h.record id o' ho', mem_eventsOn]
  exact (and_iff_right rfl).symm

end Followed

/-- After a scan, a record whose connector was read is waiting for a mode or connected if the last
reading found the link up, and disconnected if it found the link down, unless the record was still
waiting for its mode. A link is reported as having come up exactly if a reading finds it up whose
record was disconnected or never read. So a link that a scan found down and a later one finds up is
reported by the later one exactly if its record was not waiting for its mode when the link was
found down, as long as nothing else changes the state of the record in between. -/
theorem link_states_after_scan (context : RenderContext W) (actions : List BackendAction) :
    let b := (Backend.new context).run actions
    ∃ gained, (b.after .scan).journal = gained ++ b.journal ∧
      ∀ id o', (b.after .scan).output? id = some o' →
        let before := fun earlier =>
          (((b.output? id).getD (.new o'.connector)).follow id earlier).1.state
        (∀ info earlier, readingsOf o'.connector gained = info :: earlier →
          (info.isConnected = true → o'.state = .needsModeset ∨ o'.state = .connected) ∧
            (info.isConnected = false →
              (o'.state = .disconnected ↔ before earlier ≠ .needsModeset))) ∧
        (.event (.added id) ∈ gained ↔ ∃ later info earlier,
          readingsOf o'.connector gained = later ++ info :: earlier ∧ info.isConnected = true ∧
            (before earlier = .invalid ∨ before earlier = .disconnected)) ∧
        ∀ between, let b₂ := (b.after .scan).run between
          ∃ gained₂, (b₂.after .scan).journal = gained₂ ++ b₂.journal ∧
            ∀ info earlier o₂, readingsOf o'.connector gained = info :: earlier →
              info.isConnected = false → b₂.output? id = some o₂ → o₂.state = o'.state →
              readingsOf o'.connector gained₂ ≠ [] →
              (∀ i ∈ readingsOf o'.connector gained₂, i.isConnected = true) →
                (.event (.added id) ∈ gained₂ ↔ before earlier ≠ .needsModeset) := by
  intro b
  obtain ⟨gained, hgained, h⟩ := scan_followed context actions
  refine ⟨gained, hgained, fun id o' ho' => ?_⟩
  intro before
  refine ⟨fun info earlier hread => ?_, ?_, ?_⟩
  · rw [h.state_eq ho' hread]
    constructor
    · intro hup
      rw [hup]
      exact OutputState.seeing_true _
    · intro hdown
      rw [hdown]
      exact OutputState.seeing_false_eq_iff _
  · rw [h.event_added_mem ho']
    exact Output.added_mem_follow
  · intro between b₂
    have hb₂ : (Backend.new context).run (actions ++ .scan :: between) = b₂ := run_append _ _ _
    obtain ⟨gained₂, hgained₂, h₂⟩ := scan_followed context (actions ++ .scan :: between)
    rw [hb₂] at hgained₂ h₂
    refine ⟨gained₂, hgained₂, fun info earlier o₂ hread hdown ho₂ hstate hne hup => ?_⟩
    obtain ⟨p, hp, hconn⟩ := SlotsKept.of_run (b.after .scan) between id o' ho'
    obtain rfl := Option.some.inj (ho₂.symm.trans hp)
    obtain ⟨o₃, ho₃, hconn₃⟩ := h₂.slots id o₂ ho₂
    rw [h₂.event_added_mem ho₃, ho₂, Option.getD_some, hconn₃, hconn,
      Output.added_mem_follow_of_up hne hup, hstate, h.state_eq ho' hread, hdown]
    exact OutputState.reportsUp_of_seeing_false

end Backend

/-- A device whose monitor is plugged in and out: `links` are the states of the link that the
readings of connectors find, one after the other. -/
structure ReplugDevice where
  device : SimulatedDevice
  links : List ConnectionState

namespace ReplugDevice

/-- The link as the next reading finds it. -/
def replug (d : ReplugDevice) (h : ConnectorHandle) : ReplugDevice :=
  match d.links with
  | [] => d
  | link :: links =>
    { device :=
        { d.device with
          kernel := d.device.kernel.updateConnector h fun c => { c with state := link } }
      links }

def answer (c : Call) (d : ReplugDevice) : c.Answer × ReplugDevice :=
  let d := match c with
    | .kernel (.connector h) => d.replug h
    | _ => d
  let (a, device) := SimulatedDevice.answer c d.device
  (a, { d with device })

def world : World := ⟨ReplugDevice, answer, SimulatedDevice.world.patience⟩

end ReplugDevice

namespace Backend

/-- A rendering context on a device with one monitor, which is there when it is looked for first
and is pulled out before it is looked for again. -/
def unpluggedLater : RenderContext ReplugDevice.world where
  world := ⟨oneMonitor.world, [.connected, .disconnected]⟩
  journal := []
  handles := oneMonitor.handles
  chains := .empty

/-- The monitor was found, and no mode was set since. The next scan finds the link down, but the
record goes on waiting for a mode. -/
theorem not_disconnected_after_unplug :
    let b := (Backend.new unpluggedLater).run [.scan]
    ¬∀ gained, (b.after .scan).journal = gained ++ b.journal →
      ∀ id o' info earlier, (b.after .scan).output? id = some o' →
        readingsOf o'.connector gained = info :: earlier → info.isConnected = false →
          o'.state = .disconnected := by
  intro b h
  obtain ⟨gained, hgained, -⟩ := stages_after b .scan
  have htake : gained = (b.after .scan).journal.take
      ((b.after .scan).journal.length - b.journal.length) := by
    rw [hgained]
    simp
  have hviolated : ((b.after .scan).output? ⟨0⟩).any (fun o => o.state == .needsModeset &&
      (readingsOf o.connector ((b.after .scan).journal.take
        ((b.after .scan).journal.length - b.journal.length))).head?.any (!·.isConnected)) := by
    decide +kernel
  rw [← htake] at hviolated
  obtain ⟨o', ho', hviolated⟩ := (Option.any_eq_true _ _).1 hviolated
  rw [Bool.and_eq_true, beq_iff_eq] at hviolated
  obtain ⟨hstate, hdown⟩ := hviolated
  obtain ⟨info, hinfo, hdown⟩ := (Option.any_eq_true _ _).1 hdown
  obtain ⟨earlier, hread⟩ := List.head?_eq_some_iff.1 hinfo
  have hdisconnected := h gained hgained ⟨0⟩ o' info earlier ho' hread (by simpa using hdown)
  rw [hstate] at hdisconnected
  contradiction

end Backend
end Scanout
