import Mathlib.Data.List.Induction
import Mathlib.Data.List.Nodup
import Scanout.Proofs.LinkStates
import Scanout.Proofs.QueuedEvents

/-!
# Scans reconcile the records with the connectors

While the connectors answer the same throughout a scan, it does not matter how often they are
listed: a record that was made what its connector answered is not changed by the same answer. So a
scan does to each record what one reading of its connector does, tells of the changes in the order
in which the connectors are listed first, and has nothing to do when it is repeated.
-/

namespace Scanout

section FirstOccurrences

variable {α : Type} [BEq α] [LawfulBEq α] {l : List α} {a : α}

theorem eraseDups_concat_of_mem (h : a ∈ l) : (l ++ [a]).eraseDups = l.eraseDups := by
  rw [List.eraseDups_append]
  simp [List.removeAll, h]

theorem eraseDups_concat_of_not_mem (h : a ∉ l) : (l ++ [a]).eraseDups = l.eraseDups ++ [a] := by
  rw [List.eraseDups_append]
  simp [List.removeAll, h, List.eraseDups_cons]

theorem nodup_eraseDups (l : List α) : l.eraseDups.Nodup := by
  induction l using List.reverseRecOn with
  | nil => simp
  | append_singleton l a ih =>
    by_cases ha : a ∈ l
    · rwa [eraseDups_concat_of_mem ha]
    · rw [eraseDups_concat_of_not_mem ha]
      apply List.nodup_append'.2
      refine ⟨ih, by simp, ?_⟩
      simpa using ha

end FirstOccurrences

/-- The connectors known before, and behind them those of a list that were not known, each where it
is listed first. -/
def grown (known listed : List ConnectorHandle) : List ConnectorHandle :=
  known ++ (listed.filter (· ∉ known)).eraseDups

theorem mem_grown {known listed : List ConnectorHandle} {h : ConnectorHandle} :
    h ∈ grown known listed ↔ h ∈ known ∨ h ∈ listed := by
  simp only [grown, List.mem_append, List.mem_eraseDups, List.mem_filter, decide_eq_true_eq]
  tauto

theorem nodup_grown {known : List ConnectorHandle} (listed : List ConnectorHandle)
    (h : known.Nodup) : (grown known listed).Nodup := by
  refine List.nodup_append'.2 ⟨h, nodup_eraseDups _, ?_⟩
  intro c hknown hnew
  simp_all

/-- The connectors grow by one connector after the other. -/
theorem grown_concat (known listed : List ConnectorHandle) (h : ConnectorHandle) :
    grown known (listed ++ [h]) = Backend.withConnector (grown known listed) h := by
  unfold Backend.withConnector
  split
  · next hmem =>
    rw [grown, List.filter_append]
    by_cases hknown : h ∈ known
    · simp [hknown, grown]
    · have hlisted := (mem_grown.1 hmem).resolve_left hknown
      have hone : [h].filter (· ∉ known) = [h] := by simp [hknown]
      rw [hone, eraseDups_concat_of_mem (by simp [hlisted, hknown]), grown]
  · next hmem =>
    obtain ⟨hknown, hlisted⟩ := not_or.1 (mt mem_grown.2 hmem)
    have hone : [h].filter (· ∉ known) = [h] := by simp [hknown]
    rw [grown, List.filter_append, hone, eraseDups_concat_of_not_mem (by simp [hlisted]), grown,
      List.append_assoc]

namespace OutputState

theorem seeing_seeing (s : OutputState) (up : Bool) : (s.seeing up).seeing up = s.seeing up := by
  cases s <;> cases up <;> rfl

end OutputState

namespace Output

variable {o : Output} {id : OutputId} {answer : Except SystemError ConnectorInfo}

theorem reconcile_of_settled {info : ConnectorInfo}
    (h : o.state.seeing info.isConnected = o.state) : o.reconcile info id = (o, none) := by
  unfold reconcile
  cases hs : o.state <;> cases hc : info.isConnected <;> simp_all [OutputState.seeing]

/-- What a connector answered is not news the second time. -/
theorem heard_again (o : Output) (id : OutputId) (answer : Except SystemError ConnectorInfo) :
    (o.heard id answer).1.heard id answer = ((o.heard id answer).1, none) := by
  cases answer with
  | error e => rfl
  | ok info =>
    apply reconcile_of_settled
    rw [heard, state_reconcile, OutputState.seeing_seeing]

theorem removed_mem_reconcile (o : Output) (info : ConnectorInfo) (id : OutputId) :
    .removed id ∈ (o.reconcile info id).2.toList ↔
      info.isConnected = false ∧ o.state = .connected := by
  unfold reconcile
  cases hs : o.state <;> cases info.isConnected <;> simp [hs]

/-- A record is reported as added exactly if it comes to wait for a mode. -/
theorem added_mem_heard : .added id ∈ (o.heard id answer).2.toList ↔
    (o.heard id answer).1.state = .needsModeset ∧ o.state ≠ .needsModeset := by
  cases answer with
  | error e => simp [heard]
  | ok info =>
    rw [heard, added_mem_reconcile, state_reconcile]
    cases o.state <;> cases info.isConnected <;> simp [OutputState.seeing, OutputState.ReportsUp]

theorem removed_mem_heard : .removed id ∈ (o.heard id answer).2.toList ↔
    o.state = .connected ∧ (o.heard id answer).1.state = .disconnected := by
  cases answer with
  | error e => simp +contextual [heard]
  | ok info =>
    rw [heard, removed_mem_reconcile, state_reconcile]
    cases o.state <;> cases info.isConnected <;> simp [OutputState.seeing]

theorem of_mem_heard {e : OutputEvent} (he : e ∈ (o.heard id answer).2.toList) :
    e = .added id ∨ e = .removed id := by
  cases answer with
  | error _ => contradiction
  | ok info =>
    unfold heard reconcile at he
    cases hs : o.state <;> cases hc : info.isConnected <;> simp_all

theorem heard_eq (o : Output) (id : OutputId) (answer : Except SystemError ConnectorInfo) :
    ∃ name state modes, (o.heard id answer).1 = { o with name, state, modes } := by
  cases answer with
  | error e => exact ⟨o.name, o.state, o.modes, rfl⟩
  | ok info =>
    obtain ⟨name, state, modes, heq, -⟩ := o.reconcile_eq info id
    exact ⟨name, state, modes, heq⟩

/-- A record after a scan in which the connectors answered as given. -/
def revisited (o : Output) (id : OutputId) (listed : List ConnectorHandle)
    (answers : ConnectorHandle → Except SystemError ConnectorInfo) : Output × Option OutputEvent :=
  if o.connector ∈ listed then o.heard id (answers o.connector) else (o, none)

variable {listed : List ConnectorHandle}
  {answers : ConnectorHandle → Except SystemError ConnectorInfo}

theorem revisited_of_mem (h : o.connector ∈ listed) :
    o.revisited id listed answers = o.heard id (answers o.connector) := if_pos h

theorem revisited_of_not_mem (h : o.connector ∉ listed) :
    o.revisited id listed answers = (o, none) := if_neg h

theorem revisited_eq_heard (o : Output) (id : OutputId) (listed : List ConnectorHandle)
    (answers : ConnectorHandle → Except SystemError ConnectorInfo) :
    ∃ answer, o.revisited id listed answers = o.heard id answer := by
  by_cases h : o.connector ∈ listed
  · exact ⟨_, revisited_of_mem h⟩
  · exact ⟨.error default, revisited_of_not_mem h⟩

theorem revisited_concat_of_ne {connector : ConnectorHandle} (h : o.connector ≠ connector) :
    o.revisited id (listed ++ [connector]) answers = o.revisited id listed answers := by
  simp [revisited, h]

theorem connector_revisited (o : Output) (id : OutputId) (listed : List ConnectorHandle)
    (answers : ConnectorHandle → Except SystemError ConnectorInfo) :
    (o.revisited id listed answers).1.connector = o.connector := by
  obtain ⟨answer, h⟩ := o.revisited_eq_heard id listed answers
  rw [h, connector_heard]

end Output

/-- Whenever a connector is asked about, it answers the same. -/
def Answered (answers : ConnectorHandle → Except SystemError ConnectorInfo)
    (g : List JournalEntry) : Prop :=
  ∀ h answer, .call (.kernel (.connector h)) answer ∈ g → answer = answers h

theorem told_heard (event : Option OutputEvent) (c : Call) (answer : c.Answer) :
    told (event.toList.map .event ++ [.call c answer]) = event.toList := by
  cases event <;> rfl

namespace Backend

variable {W : World} {b b₀ b₁ b' : Backend W} {g g₀ : List JournalEntry} {id : OutputId}
  {o o' : Output} {listed : List ConnectorHandle}
  {answers : ConnectorHandle → Except SystemError ConnectorInfo}

/-- The record in a slot, which is a new one if the slot is not there yet. -/
def recordOf (b : Backend W) (id : OutputId) (connector : ConnectorHandle) : Output :=
  (b.output? id).getD (.new connector)

/-- No connector stands twice in the list exactly if no two records are of one connector. -/
theorem nodup_connectors_iff : b.connectors.Nodup ↔ b.DistinctConnectors := by
  constructor
  · intro hnodup id id' o o' ho ho' hconn
    have hslot := b.getElem?_connectors id
    have hslot' := b.getElem?_connectors id'
    rw [ho, Option.map_some] at hslot
    rw [ho', Option.map_some, ← hconn] at hslot'
    have heq := (List.getElem?_inj (List.getElem?_eq_some_iff.1 hslot).1 hnodup).1
      (hslot.trans hslot'.symm)
    cases id; cases id'; simp_all
  · intro hdistinct
    refine List.nodup_iff_getElem?_ne_getElem?.2 fun i j hij hj heq => ?_
    have hslot := heq.trans (List.getElem?_eq_getElem hj)
    obtain ⟨o, ho, hconn⟩ := Option.map_eq_some_iff.1 ((b.getElem?_connectors ⟨i⟩).symm.trans hslot)
    obtain ⟨o', ho', hconn'⟩ := Option.map_eq_some_iff.1
      ((b.getElem?_connectors ⟨j⟩).symm.trans (List.getElem?_eq_getElem hj))
    have heq := hdistinct _ _ o o' ho ho' (hconn.trans hconn'.symm)
    simp only [OutputId.mk.injEq] at heq
    omega

/-- What a scan has done when the connectors of a list were read, one after the other. -/
structure Revisited (answers : ConnectorHandle → Except SystemError ConnectorInfo)
    (listed : List ConnectorHandle) (b : Backend W) (g : List JournalEntry) (b' : Backend W) :
    Prop where
  connectors : b'.connectors = grown b.connectors listed
  claims : b'.claims = b.claims
  timeout : b'.flipDrainTimeout = b.flipDrainTimeout
  record : ∀ id o', b'.output? id = some o' →
    o' = ((b.recordOf id o'.connector).revisited id listed answers).1 ∧
      eventsOn id g = ((b.recordOf id o'.connector).revisited id listed answers).2.toList
  ordered : ((told g).map fun e => (b'.output? e.output).map (·.connector)).Sublist
    (listed.eraseDups.map some)

namespace Revisited

variable {e : OutputEvent}

theorem start (h : SameBooks b b') (hquiet : ∀ e, .event e ∉ g) : Revisited answers [] b g b' where
  connectors := by simp [Backend.connectors, grown, h.outputs]
  claims := h.claims
  timeout := h.timeout
  record id o' ho' := by
    rw [Output.revisited_of_not_mem List.not_mem_nil, recordOf, ← h.output? id, ho']
    refine ⟨rfl, List.eq_nil_iff_forall_not_mem.2 fun e he => ?_⟩
    exact hquiet e (mem_eventsOn.1 he).2
  ordered := by
    rw [told_eq_nil hquiet]
    exact .slnil

/-- Events are about connectors that were listed. -/
theorem slot_of_told (h : Revisited answers listed b₀ g₀ b) (he : e ∈ told g₀) :
    ∃ o, b.output? e.output = some o ∧ o.connector ∈ listed := by
  have hmem := h.ordered.subset (List.mem_map_of_mem he)
  obtain ⟨c, hc, heq⟩ := List.mem_map.1 hmem
  obtain ⟨o, ho, hconn⟩ := Option.map_eq_some_iff.1 heq.symm
  exact ⟨o, ho, hconn ▸ List.mem_eraseDups.1 hc⟩

/-- The slots that there were are still there. -/
theorem output?_eq_none (h : Revisited answers listed b₀ g₀ b) (hid : b.output? id = none) :
    b₀.output? id = none := by
  have hslot := b.getElem?_connectors id
  rw [hid, Option.map_none, h.connectors, List.getElem?_eq_none_iff, grown,
    List.length_append] at hslot
  have hshort : b₀.connectors[id.slot]? = none := List.getElem?_eq_none (by omega)
  rw [getElem?_connectors] at hshort
  exact Option.map_eq_none_iff.1 hshort

theorem connector_recordOf (h : Revisited answers listed b₀ g₀ b) (ho : b.output? id = some o) :
    (b₀.recordOf id o.connector).connector = o.connector := by
  rw [← Output.connector_revisited _ id listed answers, ← (h.record id o ho).1]

/-- A connector that was not listed yet has the record it had, and nothing was told of it. -/
theorem untouched (h : Revisited answers listed b₀ g₀ b) (hs : Slotted b id o o' b')
    (hnew : o.connector ∉ listed) :
    b₀.recordOf id o.connector = o ∧ eventsOn id g₀ = [] := by
  by_cases hmem : o.connector ∈ b.connectors
  · have ho := hs.of_known hmem
    have hrecord := h.record id o ho
    rw [Output.revisited_of_not_mem (by rwa [h.connector_recordOf ho])] at hrecord
    exact ⟨hrecord.1.symm, hrecord.2⟩
  · obtain ⟨hnone, ho⟩ := hs.of_unknown hmem
    constructor
    · rw [recordOf, h.output?_eq_none hnone, Option.getD_none, ← ho]
    · refine List.eq_nil_iff_forall_not_mem.2 fun e he => ?_
      obtain ⟨rfl, hevent⟩ := mem_eventsOn.1 he
      obtain ⟨o₁, ho₁, -⟩ := h.slot_of_told (mem_told.2 hevent)
      rw [hnone] at ho₁
      contradiction

/-- A connector that is listed again has nothing new to answer. -/
theorem again (h : Revisited answers listed b₀ g₀ b) (ho : b.output? id = some o)
    (hmem : o.connector ∈ listed) : o.heard id (answers o.connector) = (o, none) := by
  have hconn := h.connector_recordOf ho
  have hrecord := (h.record id o ho).1
  rw [Output.revisited_of_mem (by rwa [hconn]), hconn] at hrecord
  have htwice := (b₀.recordOf id o.connector).heard_again id (answers o.connector)
  rwa [← hrecord] at htwice

/-- The record in the slot that is read follows the answer, now or when it was read before. -/
theorem record_read (h : Revisited answers listed b₀ g₀ b)
    (hs : Slotted b id o (o.heard id (answers o.connector)).1 b') :
    (o.heard id (answers o.connector)).1 =
        ((b₀.recordOf id o.connector).revisited id (listed ++ [o.connector]) answers).1 ∧
      (o.heard id (answers o.connector)).2.toList ++ eventsOn id g₀ =
        ((b₀.recordOf id o.connector).revisited id (listed ++ [o.connector]) answers).2.toList := by
  by_cases hmem : o.connector ∈ listed
  · have hknown : o.connector ∈ b.connectors := h.connectors ▸ mem_grown.2 (.inr hmem)
    have ho := hs.of_known hknown
    have hrecord := h.record id o ho
    have hrec := h.connector_recordOf ho
    rw [h.again ho hmem, Output.revisited_of_mem (by simp [hrec]), hrec]
    rwa [Output.revisited_of_mem (by rwa [hrec]), hrec] at hrecord
  · obtain ⟨hrec, hnone⟩ := h.untouched hs hmem
    rw [hrec, hnone, List.append_nil, Output.revisited_of_mem (by simp)]
    exact ⟨rfl, rfl⟩

/-- What was told is about connectors that stay where they are. -/
theorem slots_of_told (h : Revisited answers listed b₀ g₀ b)
    (hs : Slotted b id o (o.heard id (answers o.connector)).1 b') (he : e ∈ told g₀) :
    (b'.output? e.output).map (·.connector) = (b.output? e.output).map (·.connector) := by
  by_cases hid : e.output = id
  · obtain ⟨o₁, ho₁, -⟩ := h.slot_of_told he
    have hstart := hs.start
    rw [← hid, ho₁, Option.getD_some] at hstart
    rw [ho₁, hid, hs.record, hstart, Option.map_some, Option.map_some, Output.connector_heard]
  · rw [hs.others _ hid]

/-- If there is an event about the connector that is read, it is listed for the first time. -/
theorem ordered_read (h : Revisited answers listed b₀ g₀ b)
    (hs : Slotted b id o (o.heard id (answers o.connector)).1 b') :
    ((told g₀ ++ (o.heard id (answers o.connector)).2.toList).map fun e =>
      (b'.output? e.output).map (·.connector)).Sublist
        ((listed ++ [o.connector]).eraseDups.map some) := by
  rw [List.map_append, List.map_congr_left fun e he => h.slots_of_told hs he]
  by_cases hmem : o.connector ∈ listed
  · have hknown : o.connector ∈ b.connectors := h.connectors ▸ mem_grown.2 (.inr hmem)
    rw [h.again (hs.of_known hknown) hmem, eraseDups_concat_of_mem hmem]
    simpa using h.ordered
  · rw [eraseDups_concat_of_not_mem hmem, List.map_append]
    apply h.ordered.append
    cases hevent : (o.heard id (answers o.connector)).2 with
    | none => exact List.nil_sublist _
    | some e =>
      have hmem : e ∈ (o.heard id (answers o.connector)).2.toList := by simp [hevent]
      have he : e.output = id := Output.output_of_mem_heard hmem
      simp [he, hs.record, Output.connector_heard]

/-- One more connector is read, which answers what it always answers. -/
theorem step (h : Revisited answers listed b₀ g₀ b) (hdistinct : b₀.connectors.Nodup)
    (hs : Slotted b id o (o.heard id (answers o.connector)).1 b') :
    Revisited answers (listed ++ [o.connector]) b₀
      ((o.heard id (answers o.connector)).2.toList.map .event ++
        [.call (.kernel (.connector o.connector)) (answers o.connector)] ++ g₀) b' := by
  have hconnectors : b'.connectors = grown b₀.connectors (listed ++ [o.connector]) := by
    rw [hs.connectors, h.connectors, grown_concat]
  have hdistinct' : b'.DistinctConnectors := by
    rw [← nodup_connectors_iff, hconnectors]
    exact nodup_grown _ hdistinct
  have hconn : (o.heard id (answers o.connector)).1.connector = o.connector :=
    o.connector_heard id _
  have hevents (j : OutputId) :
      eventsOn j ((o.heard id (answers o.connector)).2.toList.map .event ++
        [.call (.kernel (.connector o.connector)) (answers o.connector)]) =
      if j = id then (o.heard id (answers o.connector)).2.toList else [] :=
    eventsOn_told (fun e he => Output.output_of_mem_heard he) j
  constructor
  case connectors => exact hconnectors
  case claims => rw [hs.claims, h.claims]
  case timeout => rw [hs.timeout, h.timeout]
  case record =>
    intro j o' ho'
    rw [eventsOn_append, hevents]
    by_cases hj : j = id
    · subst hj
      obtain rfl := Option.some.inj (hs.record.symm.trans ho')
      rw [hconn, if_pos rfl]
      exact h.record_read hs
    · have ho : b.output? j = some o' := (hs.others j hj).symm.trans ho'
      have hother : o'.connector ≠ o.connector := fun heq =>
        hj (hdistinct' j id o' _ ho' hs.record (heq.trans hconn.symm))
      have hrec := h.connector_recordOf ho
      rw [if_neg hj, List.nil_append, Output.revisited_concat_of_ne (by rwa [hrec])]
      exact h.record j o' ho
  case ordered =>
    rw [told_append, told_heard]
    exact h.ordered_read hs

/-- A scan has nothing to do if all it lists was listed by the scan before and answers the same. -/
theorem settled {listed' : List ConnectorHandle} {g' : List JournalEntry} {b'' : Backend W}
    (h : Revisited answers listed b g b') (h' : Revisited answers listed' b' g' b'')
    (hsub : listed' ⊆ listed) : b''.outputs = b'.outputs ∧ told g' = [] := by
  have hconnectors : b''.connectors = b'.connectors := by
    have hnone : listed'.filter (· ∉ b'.connectors) = [] := by
      refine List.filter_eq_nil_iff.2 fun c hc => ?_
      simp [h.connectors, mem_grown, hsub hc]
    rw [h'.connectors, grown, hnone]
    simp
  have hrecord {id : OutputId} {o' : Output} (ho' : b'.output? id = some o') :
      b''.output? id = some o' ∧ eventsOn id g' = [] := by
    have hslot := b''.getElem?_connectors id
    rw [hconnectors, getElem?_connectors, ho'] at hslot
    obtain ⟨o'', ho'', hconn⟩ := Option.map_eq_some_iff.1 hslot.symm
    have hnews : o'.revisited id listed' answers = (o', none) := by
      by_cases hmem : o'.connector ∈ listed'
      · rw [Output.revisited_of_mem hmem, h.again ho' (hsub hmem)]
      · exact Output.revisited_of_not_mem hmem
    have hafter := h'.record id o'' ho''
    rw [recordOf, ho', Option.getD_some, hnews] at hafter
    exact ⟨ho''.trans (congrArg some hafter.1), hafter.2⟩
  constructor
  · refine outputs_ext fun id => ?_
    cases ho' : b'.output? id with
    | some o' => exact (hrecord ho').1
    | none =>
      have hslot := b''.getElem?_connectors id
      rw [hconnectors, getElem?_connectors, ho'] at hslot
      exact Option.map_eq_none_iff.1 hslot.symm
  · refine List.eq_nil_iff_forall_not_mem.2 fun e he => ?_
    obtain ⟨o'', ho'', -⟩ := h'.slot_of_told he
    have hslot := b''.getElem?_connectors e.output
    rw [hconnectors, getElem?_connectors, ho''] at hslot
    obtain ⟨o', ho', -⟩ := Option.map_eq_some_iff.1 hslot
    have hmem : e ∈ eventsOn e.output g' := mem_eventsOn.2 ⟨rfl, mem_told.1 he⟩
    rw [(hrecord ho').2] at hmem
    contradiction

end Revisited

/-- What a scan does when the connectors it lists were read, in terms of the answers. -/
theorem yields_readAll_revisited (connectors : List ConnectorHandle) (b : Backend W) :
    Yields (connectors.forM scanConnector) b fun _ g b' =>
      ∀ answers listed b₀ g₀, b₀.connectors.Nodup → Revisited answers listed b₀ g₀ b →
        Answered answers g → Revisited answers (listed ++ connectors) b₀ (g ++ g₀) b' := by
  induction connectors generalizing b with
  | nil =>
    refine .pure fun answers listed b₀ g₀ _ h _ => ?_
    rwa [List.append_nil]
  | cons connector others ih =>
    refine (yields_scanConnector_heard connector b).bind ?_
    rintro _ g₁ b₁ ⟨id, answer, o, rfl, hs, rfl⟩
    refine (ih b₁).mono ?_
    intro _ g₂ b₂ hrest answers listed b₀ g₀ hdistinct h hanswered
    obtain rfl : answer = answers o.connector := hanswered _ _ (by simp)
    have hothers := hrest answers _ b₀ _ hdistinct (h.step hdistinct hs) fun c answer hmem =>
      hanswered c answer (List.mem_append_left _ hmem)
    simpa using hothers

/-- A scan begins by asking for the connectors. If it is told, it cannot fail. -/
theorem yields_scan_revisited (b : Backend W) :
    Yields scan.run b fun r g b' =>
      (∃ e, g = [.call (.kernel .resources) (.error e)] ∧ r = .error (.kernel e) ∧
        SameBooks b b') ∨
      ∃ resources later, g = later ++ [.call (.kernel .resources) (.ok resources)] ∧ r = .ok () ∧
        (b.connectors.Nodup → ∀ answers, Answered answers later →
          Revisited answers resources.connectors b g b') := by
  refine (yields_call (.kernel .resources) b).orFail_bindOk ?_ ?_
  · rintro resources _ b₁ ⟨rfl, h₁⟩
    refine .lift ((yields_readAll_revisited resources.connectors b₁).mono ?_)
    intro _ later b' hread
    refine .inr ⟨resources, later, rfl, rfl, fun hdistinct answers hanswered => ?_⟩
    have hstart : Revisited answers [] b [.call (.kernel .resources) (.ok resources)] b₁ :=
      .start h₁ (by simp)
    exact hread answers [] b _ hdistinct hstart hanswered
  · rintro e _ b' ⟨rfl, h'⟩
    exact .inl ⟨e, rfl, rfl, h'⟩

/-- A scan that lists the connectors of a list, which answer as given throughout. -/
structure Reconciled (answers : ConnectorHandle → Except SystemError ConnectorInfo)
    (listed : List ConnectorHandle) (b : Backend W) (gained : List JournalEntry) (b' : Backend W) :
    Prop where
  /-- The records keep their slots and connectors, and each connector that had no record gets one
  behind them, in the order in which these connectors are listed first. -/
  slots : b'.connectors = b.connectors ++ (listed.filter (· ∉ b.connectors)).eraseDups
  distinct : b'.connectors.Nodup
  /-- A record whose connector was not listed or could not be read is as it was. -/
  unread : ∀ id o', b'.output? id = some o' →
    (o'.connector ∈ listed → (answers o'.connector).isOk = false) →
      o' = b.recordOf id o'.connector ∧
        (b.output? id = none → o'.state = .invalid ∧ o'.name = "")
  read : ∀ id o' info, b'.output? id = some o' → o'.connector ∈ listed →
    answers o'.connector = .ok info → o' = ((b.recordOf id o'.connector).reconcile info id).1
  /-- Only name, state and advertised modes of a record change. -/
  kept : ∀ id o', b'.output? id = some o' → ∃ name state modes,
    o' = { b.recordOf id o'.connector with name, state, modes }
  claims : b'.claims = b.claims
  events : ∀ e ∈ told gained, ∃ id o', b'.output? id = some o' ∧ (e = .added id ∨ e = .removed id)
  added : ∀ id o', b'.output? id = some o' → (.added id ∈ told gained ↔
    o'.state = .needsModeset ∧ (b.recordOf id o'.connector).state ≠ .needsModeset)
  removed : ∀ id o', b'.output? id = some o' → (.removed id ∈ told gained ↔
    (b.recordOf id o'.connector).state = .connected ∧ o'.state = .disconnected)
  once : ((told gained).map (·.output)).Nodup
  /-- The connectors of the outputs that events are about, in the order of the events. -/
  ordered : ((told gained).map fun e => (b'.output? e.output).map (·.connector)).Sublist
    (listed.eraseDups.map some)
  queue : b'.queue = (told gained).foldl EventQueue.push b.queue
  gains : b.queue.Gains (told gained) b'.queue

theorem Revisited.reconciled (h : Revisited answers listed b g b') (hdistinct : b.connectors.Nodup)
    (hrelays : Relays b g b') : Reconciled answers listed b g b' := by
  have hevent {id o'} (ho' : b'.output? id = some o') (e : OutputEvent) (he : e.output = id) :
      e ∈ told g ↔
        e ∈ ((b.recordOf id o'.connector).revisited id listed answers).2.toList := by
    rw [← (h.record id o' ho').2, mem_eventsOn, mem_told]
    exact (and_iff_right he).symm
  constructor
  case slots => exact h.connectors
  case distinct =>
    rw [h.connectors]
    exact nodup_grown listed hdistinct
  case claims => exact h.claims
  case queue => exact hrelays.queue
  case gains => exact hrelays.gains
  case ordered => exact h.ordered
  case once =>
    apply List.Nodup.of_map fun id => (b'.output? id).map (·.connector)
    rw [List.map_map]
    apply h.ordered.nodup
    exact (nodup_eraseDups listed).map fun _ _ => Option.some.inj
  case unread =>
    intro id o' ho' hunread
    have hconn := h.connector_recordOf ho'
    have hrecord := (h.record id o' ho').1
    have hsame : o' = b.recordOf id o'.connector := by
      by_cases hmem : o'.connector ∈ listed
      · cases hanswer : answers o'.connector with
        | error e => rwa [Output.revisited_of_mem (by rwa [hconn]), hconn, hanswer] at hrecord
        | ok info =>
          have hfailed := hunread hmem
          rw [hanswer] at hfailed
          contradiction
      · rwa [Output.revisited_of_not_mem (by rwa [hconn])] at hrecord
    refine ⟨hsame, fun hnew => ?_⟩
    rw [recordOf, hnew, Option.getD_none] at hsame
    rw [hsame]
    exact ⟨rfl, rfl⟩
  case read =>
    intro id o' info ho' hmem hanswer
    have hconn := h.connector_recordOf ho'
    have hrecord := (h.record id o' ho').1
    rwa [Output.revisited_of_mem (by rwa [hconn]), hconn, hanswer] at hrecord
  case kept =>
    intro id o' ho'
    obtain ⟨answer, hanswer⟩ := (b.recordOf id o'.connector).revisited_eq_heard id listed answers
    obtain ⟨name, state, modes, heq⟩ := (b.recordOf id o'.connector).heard_eq id answer
    exact ⟨name, state, modes, by rw [← heq, ← hanswer, ← (h.record id o' ho').1]⟩
  case events =>
    intro e he
    obtain ⟨o', ho', -⟩ := h.slot_of_told he
    rw [hevent ho' e rfl] at he
    obtain ⟨answer, hanswer⟩ :=
      (b.recordOf e.output o'.connector).revisited_eq_heard e.output listed answers
    rw [hanswer] at he
    exact ⟨e.output, o', ho', Output.of_mem_heard he⟩
  case added =>
    intro id o' ho'
    obtain ⟨answer, hanswer⟩ := (b.recordOf id o'.connector).revisited_eq_heard id listed answers
    rw [hevent ho' _ rfl, hanswer, Output.added_mem_heard, ← hanswer, ← (h.record id o' ho').1]
  case removed =>
    intro id o' ho'
    obtain ⟨answer, hanswer⟩ := (b.recordOf id o'.connector).revisited_eq_heard id listed answers
    rw [hevent ho' _ rfl, hanswer, Output.removed_mem_heard, ← hanswer, ← (h.record id o' ho').1]

/-- A scan whose enumeration of the connectors fails changes nothing and fails with it. Any other
scan succeeds, and if every connector answers the same throughout it, reconciles the records with
what the connectors answer. If after that the same or fewer connectors are listed, in any order and
as often as one likes, and answer the same, another scan changes no record and tells of nothing. -/
theorem scan_reconciles (context : RenderContext W) (actions : List BackendAction) :
    let b := (Backend.new context).run actions
    let b' := b.after .scan
    ∃ gained, b'.journal = gained ++ b.journal ∧
      ((∃ e, gained = [.call (.kernel .resources) (.error e)] ∧
          ((perform .scan).run b).1 = .error (.kernel e) ∧
          b'.outputs = b.outputs ∧ b'.claims = b.claims ∧ b'.queue = b.queue) ∨
        ∃ resources later, gained = later ++ [.call (.kernel .resources) (.ok resources)] ∧
          ((perform .scan).run b).1 = .ok () ∧
          ∀ answers, Answered answers later →
            Reconciled answers resources.connectors b gained b' ∧
            let b'' := b'.after .scan
            ∀ resources' later',
              b''.journal = later' ++ .call (.kernel .resources) (.ok resources') :: b'.journal →
              resources'.connectors ⊆ resources.connectors → Answered answers later' →
                b''.outputs = b'.outputs ∧ b''.claims = b'.claims ∧ told later' = [] ∧
                  b''.queue = b'.queue) := by
  intro b b'
  have hscan (b : Backend W) :=
    (yields_scan_revisited b).and (relays_perform (a := .scan) nofun nofun b)
  have hdistinct : b.connectors.Nodup := nodup_connectors_iff.2 (.run context actions)
  obtain ⟨gained, hgained, houtcome, hrelays⟩ := hscan b
  refine ⟨gained, hgained, ?_⟩
  rcases houtcome with ⟨e, rfl, hresult, hsame⟩ | ⟨resources, later, rfl, hresult, hread⟩
  · exact .inl ⟨e, rfl, hresult, hsame.outputs, hsame.claims, hrelays.queue⟩
  · refine .inr ⟨resources, later, rfl, hresult, fun answers hanswered => ?_⟩
    have hfirst := hread hdistinct answers hanswered
    have hreconciled := hfirst.reconciled hdistinct hrelays
    refine ⟨hreconciled, ?_⟩
    intro b'' resources' later' hjournal hsub hanswered'
    obtain ⟨gained', hgained', houtcome', hrelays'⟩ := hscan b'
    obtain rfl : gained' = later' ++ [.call (.kernel .resources) (.ok resources')] := by
      refine List.append_cancel_right (hgained'.symm.trans (hjournal.trans ?_))
      rw [List.append_assoc]
      rfl
    rcases houtcome' with ⟨e, heq, -⟩ | ⟨r, l, heq, -, hread'⟩
    · simp [List.append_eq_singleton_iff] at heq
    · obtain ⟨rfl, hlast⟩ := List.append_inj' heq rfl
      obtain rfl : resources' = r := by simpa using hlast
      have hsecond := hread' hreconciled.distinct answers hanswered'
      obtain ⟨houtputs, htold⟩ := hfirst.settled hsecond hsub
      have hqueue : b''.queue = b'.queue := hrelays'.queue_eq htold
      rw [told_append] at htold
      exact ⟨houtputs, hsecond.claims, (List.append_eq_nil_iff.1 htold).2, hqueue⟩

end Backend
end Scanout
