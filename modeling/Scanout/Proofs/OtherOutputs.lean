import Scanout.Proofs.CrtcIsolation
import Scanout.Proofs.FramePacing
import Scanout.Proofs.LinkStates

/-!
# What an action means to the other outputs

An action on one output can fail in many ways and can read completions of everybody while it waits.
All that another output sees of it are the flips that are reported for its own CRTC: they end its
pending flip, and it is asked for a frame for each of them unless it is being torn down.
-/

namespace Scanout

/-- The entry tells the output nothing and reports no flip. -/
def JournalEntry.IsMuteTo (j : OutputId) : JournalEntry → Prop
  | .call (.kernel .receive) answer => answer.isOk = false
  | .event e => e.output ≠ j
  | .call _ _ | .claimed _ _ | .released _ => True

section Mute

variable {j : OutputId} {e : JournalEntry} {g core : List JournalEntry}

theorem JournalEntry.IsQuiet.isMuteTo (h : e.IsQuiet) (j : OutputId) : e.IsMuteTo j := by
  unfold JournalEntry.IsMuteTo
  split
  · exact h
  · exact h.elim
  · trivial
  · trivial
  · trivial

theorem JournalEntry.IsMuteTo.eventOn?_eq (h : e.IsMuteTo j) : e.eventOn? j = none := by
  unfold JournalEntry.eventOn?
  split
  · exact if_neg h
  · rfl

theorem JournalEntry.IsMuteTo.reports_eq (h : e.IsMuteTo j) (c : CrtcHandle) : e.reports c = 0 := by
  unfold JournalEntry.reports
  split
  · exact absurd h nofun
  · rfl

theorem eventsOn_of_mute (h : ∀ e ∈ g, e.IsMuteTo j) : eventsOn j g = [] :=
  List.filterMap_eq_nil_iff.2 fun e he => (h e he).eventOn?_eq

theorem told_of_mute (h : ∀ j, ∀ e ∈ g, e.IsMuteTo j) : told g = [] :=
  told_eq_nil fun e he => h e.output _ he rfl

/-- The events about one output among those that are told. -/
theorem filter_told (j : OutputId) (g : List JournalEntry) :
    (told g).filter (·.output = j) = (eventsOn j g).reverse := by
  have hevent : (fun e : JournalEntry => e.event?.filter (·.output = j)) = (·.eventOn? j) := by
    funext e
    cases e with
    | event e => simp [JournalEntry.event?, JournalEntry.eventOn?, Option.filter]
    | call _ _ | claimed _ _ | released _ => rfl
  rw [told, eventsOn, List.filter_reverse, List.filter_filterMap, hevent]

theorem reported_of_mute (h : ∀ e ∈ g, e.IsMuteTo j) (c : CrtcHandle) : reported c g = 0 := by
  induction g with
  | nil => rfl
  | cons e g ih =>
    rw [reported, (h e (by simp)).reports_eq c, ih fun e' he' => h e' (List.mem_cons_of_mem _ he')]

theorem PutBack.isMuteTo {connector : ConnectorHandle} {claimed : Option CrtcHandle}
    {saved : Option CrtcInfo} (h : PutBack connector claimed saved g) (j : OutputId) :
    ∀ e ∈ g, e.IsMuteTo j := by
  cases h <;> simp [JournalEntry.IsMuteTo]

theorem Destroys.isMuteTo {s : SurfaceId} (h : Destroys s g) (j : OutputId) :
    ∀ e ∈ g, e.IsMuteTo j := by
  intro e he
  rcases h e he with hquiet | ⟨d, rfl⟩
  · exact hquiet.isMuteTo j
  · trivial

theorem FrameTried.isMuteTo {connector : ConnectorHandle} {crtc : CrtcHandle} {mode : DisplayMode}
    {shown : Option FramebufferId} (h : FrameTried connector crtc mode shown g) (j : OutputId) :
    ∀ e ∈ g, e.IsMuteTo j := by
  cases h <;> simp [JournalEntry.IsMuteTo]

theorem FlipAttempt.isMuteTo {crtc : CrtcHandle} {shown : Option FramebufferId}
    (h : FlipAttempt crtc shown g) (j : OutputId) : ∀ e ∈ g, e.IsMuteTo j := by
  cases h <;> simp [JournalEntry.IsMuteTo]

theorem Amid.isMuteTo (h : Amid core g) (hcore : ∀ e ∈ core, e.IsMuteTo j) :
    ∀ e ∈ g, e.IsMuteTo j := h.forall_mem hcore fun _ hq => hq.isMuteTo j

theorem eventsOn_readyEntries (j : OutputId) (ids : List OutputId) :
    eventsOn j (Backend.readyEntries ids) = List.replicate (ids.count j) (.renderReady j) := by
  rw [eventsOn, Backend.readyEntries, List.filterMap_reverse, List.filterMap_map]
  induction ids with
  | nil => rfl
  | cons i ids ih =>
    rw [List.filterMap_cons, Function.comp_apply, JournalEntry.eventOn?, OutputEvent.output]
    by_cases hi : i = j
    · rw [if_pos hi, List.reverse_cons, ih, hi, List.count_cons_self, List.replicate_succ']
    · rw [if_neg hi, List.count_cons_of_ne hi]
      exact ih

end Mute

/-- How many flips on the output's CRTC the entries report as completed. -/
def Output.reported (o : Output) (g : List JournalEntry) : Nat :=
  o.crtc.elim 0 fun c => Scanout.reported c g

namespace Output

variable {o : Output} {g g' : List JournalEntry}

@[simp] theorem reported_append : o.reported (g' ++ g) = o.reported g' + o.reported g := by
  unfold reported
  cases o.crtc <;> simp

@[simp] theorem reported_awaiting (p : Bool) : (o.awaiting p).reported g = o.reported g := rfl

theorem reported_eq_zero (h : ∀ c, Scanout.reported c g = 0) : o.reported g = 0 := by
  unfold reported
  cases o.crtc with
  | none => rfl
  | some c => exact h c

theorem reported_receive (ids : List OutputId) (completions : List FlipCompletion) :
    o.reported (Backend.readyEntries ids ++ [.call (.kernel .receive) (.ok completions)]) =
      completions.countP fun k => o.crtc == some k.crtc := by
  unfold reported
  cases o.crtc with
  | none => simp
  | some c =>
    simp [Backend.reported_readyEntries, Scanout.reported, JournalEntry.reports, Bool.beq_comm]

end Output

namespace Backend

variable {W : World} {a : BackendAction} {b b₁ b' : Backend W} {g g' : List JournalEntry}
  {id j : OutputId}

theorem SurfaceTried.isMuteTo {connector : ConnectorHandle} {crtc : CrtcHandle}
    {saved : Option CrtcInfo} {mode : DisplayMode} {r : Except ModesetError Unit}
    (h : SurfaceTried id connector crtc saved mode b r g b') (j : OutputId) :
    ∀ e ∈ g, e.IsMuteTo j := by
  cases h with
  | unmade h => exact fun e he => (h.quiet e he).isMuteTo j
  | undone _ htried hcore hback hdestroy _ =>
    simp only [List.forall_mem_append]
    exact ⟨⟨hdestroy.isMuteTo j, hback.isMuteTo j⟩, hcore.isMuteTo (htried.isMuteTo j)⟩
  | shown _ _ htried hcore _ => exact hcore.isMuteTo (htried.isMuteTo j)

theorem ModesetTried.isMuteTo {connector : ConnectorHandle} {r : Except ModesetError Unit}
    (h : ModesetTried id connector b r g b') (j : OutputId) : ∀ e ∈ g, e.IsMuteTo j := by
  cases h with
  | unclaimed h => exact fun e he => (h.quiet e he).isMuteTo j
  | claimed hk h =>
    simp only [List.forall_mem_append, List.forall_mem_cons]
    exact ⟨h.isMuteTo j, trivial, fun e he => (hk.quiet e he).isMuteTo j⟩

/-- The output keeps its claims, and its record and the events about it are as the flips reported
for its CRTC make them. -/
structure SeesOnly (j : OutputId) (b : Backend W) (g : List JournalEntry) (b' : Backend W) :
    Prop where
  owners : ∀ c, b'.claims.owner c = some j ↔ b.claims.owner c = some j
  absent : b.output? j = none → b'.output? j = none ∧ eventsOn j g = []
  present : ∀ o, b.output? j = some o →
    b'.output? j = some (o.awaiting (o.flipPending && o.reported g == 0)) ∧
      eventsOn j g = if o.cleaningUp then [] else List.replicate (o.reported g) (.renderReady j)

theorem Agrees.owner_of_output (hb : b.Agrees) {o : Output} (ho : b.output? j = some o)
    (c : CrtcHandle) : b.claims.owner c = some j ↔ o.crtc = some c := by
  rw [hb.owner]
  simp [ho]

/-- Flips are completed for the output that owns their CRTC. -/
theorem Agrees.not_completes (hb : b.Agrees) {o : Output} (ho : b.output? j = some o)
    (completions : List FlipCompletion) : (!b.completes completions j) =
      ((completions.countP fun k => o.crtc == some k.crtc) == 0) := by
  rw [Bool.eq_iff_iff, Bool.not_eq_true', completes, List.any_eq_false, beq_iff_eq,
    List.countP_eq_zero]
  simp only [beq_iff_eq, hb.owner_of_output ho]

theorem count_ready_of_output (hb : b.Agrees) {o : Output} (ho : b.output? j = some o)
    (completions : List FlipCompletion) : (b.ready completions).count j =
      if o.cleaningUp then 0 else completions.countP fun k => o.crtc == some k.crtc := by
  have howner (k : FlipCompletion) :
      (o.crtc == some k.crtc) = (b.claims.owner k.crtc == some j) := by
    rw [Bool.eq_iff_iff, beq_iff_eq, beq_iff_eq, hb.owner_of_output ho]
  have htold (k : FlipCompletion) : ((b.claims.owner k.crtc).map fun i =>
      i == j && (b.output? i).any (!·.cleaningUp)).getD false =
        (o.crtc == some k.crtc && !o.cleaningUp) := by
    rw [howner]
    cases b.claims.owner k.crtc with
    | none => simp
    | some i =>
      by_cases hi : i = j
      · simp [hi, ho]
      · simp [beq_eq_false_iff_ne.2 hi]
  rw [ready, List.count, List.countP_filter, List.countP_filterMap]
  simp only [htold]
  cases o.cleaningUp <;> simp

namespace SeesOnly

/-- Nothing is seen of what leaves record and claims alone, tells nothing and reports no flip. -/
theorem of_mute (hg : ∀ e ∈ g, e.IsMuteTo j) (houtput : b'.output? j = b.output? j)
    (howners : ∀ c, b'.claims.owner c = some j ↔ b.claims.owner c = some j) :
    SeesOnly j b g b' where
  owners := howners
  absent hnone := ⟨houtput.trans hnone, eventsOn_of_mute hg⟩
  present o ho := by
    rw [houtput, ho, eventsOn_of_mute hg, o.reported_eq_zero (reported_of_mute hg)]
    simp [Output.awaiting]

theorem of_same (hg : ∀ e ∈ g, e.IsMuteTo j) (h : SameBooks b b') : SeesOnly j b g b' :=
  .of_mute hg (h.output? j) fun c => by rw [h.claims]

theorem of_elsewhere (hg : ∀ e ∈ g, e.IsMuteTo j) (h : SameElsewhere id b b') (hj : j ≠ id) :
    SeesOnly j b g b' := .of_mute hg (h.outputs j hj) fun c => h.owners c j hj

theorem of_modify {f : Output → Output} (hg : ∀ e ∈ g, e.IsMuteTo j)
    (h : SameBooks { b with outputs := b.outputs.modify id.slot f } b') (hj : j ≠ id) :
    SeesOnly j b g b' :=
  .of_elsewhere hg (.of_modify h.outputs fun c i _ => by rw [h.claims]) hj

theorem trans (h : SeesOnly j b g b₁) (h' : SeesOnly j b₁ g' b') : SeesOnly j b (g' ++ g) b' where
  owners c := (h'.owners c).trans (h.owners c)
  absent hnone := by
    obtain ⟨hnone₁, hg⟩ := h.absent hnone
    obtain ⟨hnone', hg'⟩ := h'.absent hnone₁
    exact ⟨hnone', by rw [eventsOn_append, hg, hg', List.append_nil]⟩
  present o ho := by
    obtain ⟨ho₁, hg⟩ := h.present o ho
    obtain ⟨ho', hg'⟩ := h'.present _ ho₁
    rw [ho', eventsOn_append, hg, hg', Output.reported_append, Output.reported_awaiting]
    constructor
    · cases o.flipPending <;> cases o.reported g <;> simp [Output.awaiting]
    · cases hclean : o.cleaningUp <;> simp [Output.awaiting, hclean]

theorem completed (hb : b.Agrees) {completions : List FlipCompletion}
    (h : SameBooks (b.completed completions) b') (j : OutputId) : SeesOnly j b
      (readyEntries (b.ready completions) ++ [.call (.kernel .receive) (.ok completions)]) b' where
  owners c := by rw [h.claims, claims_completed]
  absent hnone := by
    rw [h.output?, output?_completed, hnone, eventsOn_append, eventsOn_readyEntries]
    refine ⟨rfl, ?_⟩
    have hunasked : (b.ready completions).count j = 0 := by
      refine List.count_eq_zero.2 fun hmem => ?_
      simpa [hnone] using (List.mem_filter.1 hmem).2
    rw [hunasked]
    rfl
  present o ho := by
    rw [h.output?, output?_completed, ho, eventsOn_append, eventsOn_readyEntries,
      count_ready_of_output hb ho, Output.reported_receive]
    constructor
    · rw [Option.map_some, Output.awaiting, hb.not_completes ho]
    · cases o.cleaningUp <;> simp [eventsOn, JournalEntry.eventOn?]

/-- Nothing but the flips reported for its CRTC is seen by an output of any stage of an action
on another one. -/
theorem of_stage (hb : b.Agrees) (ha : a.subject = some id) (hj : j ≠ id) (h : Stage a b g b') :
    SeesOnly j b g b' := by
  have hother {i : OutputId} (hi : a.subject = some i) : j ≠ i := by
    rw [ha] at hi
    exact Option.some.inj hi ▸ hj
  cases h with
  | quiet h => exact .of_same (fun e he => (h.quiet e he).isMuteTo j) h.same
  | retimed _ h | slotted _ h _ => simp [h, BackendAction.subject] at ha
  | read h _ _ => simp [h, BackendAction.subject] at ha
  | completed h => exact .completed hb h j
  | cleaning hi _ _ => exact .of_modify (by simp) (.refl _) (hother hi)
  | undrained hi _ _ h =>
    refine .of_modify ?_ h (hother hi)
    simpa [JournalEntry.IsMuteTo, OutputEvent.output] using (hother hi).symm
  | released hi _ _ _ hback hdestroy h =>
    refine .of_elsewhere ?_ (.of_release h) (hother hi)
    simp only [List.forall_mem_append, List.forall_mem_cons]
    exact ⟨⟨trivial, hdestroy.isMuteTo j⟩, hback.isMuteTo j⟩
  | set hi _ _ h => exact .of_elsewhere (h.isMuteTo j) h.elsewhere (hother hi)
  | reverted hi _ _ h h' =>
    refine .of_elsewhere ?_ (h.elsewhere.trans (.of_release h')) (hother hi)
    simp only [List.forall_mem_cons]
    exact ⟨(hother hi).symm, trivial, h.isMuteTo j⟩
  | @refused i _ _ _ _ hi _ _ h =>
    have hne : j ≠ i := hother (congrArg BackendAction.subject hi)
    refine .of_elsewhere ?_ (.of_release h) hne
    simp only [List.forall_mem_cons]
    exact ⟨hne.symm, trivial, by simp⟩
  | flipped hi _ _ _ hflip hcore h =>
    exact .of_modify (hcore.isMuteTo (hflip.isMuteTo j)) h (hother hi)
  | unflipped _ _ _ _ hflip hcore h => exact .of_same (hcore.isMuteTo (hflip.isMuteTo j)) h

theorem of_stages (hb : b.Agrees) (ha : a.subject = some id) (hj : j ≠ id) (h : Stages a b g b') :
    SeesOnly j b g b' := by
  induction h with
  | nil => exact .of_same (by simp) (.refl _)
  | cons h₀ _ ih => exact (SeesOnly.of_stage hb ha hj h₀).trans (ih (hb.step h₀))

end SeesOnly

/-- Whatever is done for one output and whatever the device answers, another output keeps its
claims and its record, except that its flip is no longer pending if completions on its CRTC were
received meanwhile. It is asked for a frame once for each of these unless it is being torn down,
and there is no other event about it. The queue gains what is told, so it gains no other event
about it either. -/
theorem others_see_completions_only (context : RenderContext W) (actions : List BackendAction)
    {a : BackendAction} {id j : OutputId} (ha : a.subject = some id) (hj : j ≠ id) :
    let b := (Backend.new context).run actions
    ∃ gained, (b.after a).journal = gained ++ b.journal ∧
      b.queue.Gains (told gained) (b.after a).queue ∧
      (∀ c, (b.after a).claims.owner c = some j ↔ b.claims.owner c = some j) ∧
      (b.output? j = none → (b.after a).output? j = none ∧ eventsOn j gained = [] ∧
        (told gained).filter (·.output = j) = []) ∧
      ∀ o, b.output? j = some o →
        let n := o.crtc.elim 0 fun c => reported c gained
        let asked := if o.cleaningUp then [] else List.replicate n (OutputEvent.renderReady j)
        (b.after a).output? j = some (if n = 0 then o else { o with flipPending := false }) ∧
          eventsOn j gained = asked ∧ (told gained).filter (·.output = j) = asked := by
  intro b
  obtain ⟨gained, hgained, hqueue⟩ := gains_after b a
  rw [a.pushed?_of_subject ha, Option.toList_none, List.append_nil] at hqueue
  obtain ⟨gained', hgained', hstages⟩ := stages_after b a
  obtain rfl : gained' = gained := List.append_cancel_right (hgained'.symm.trans hgained)
  have hsees := SeesOnly.of_stages ((Agrees.new context).run actions) ha hj hstages
  refine ⟨gained', hgained, hqueue, hsees.owners, fun hnone => ?_, fun o ho => ?_⟩
  · obtain ⟨hnone', hevents⟩ := hsees.absent hnone
    exact ⟨hnone', hevents, by rw [filter_told, hevents, List.reverse_nil]⟩
  · obtain ⟨hrecord, hevents⟩ := hsees.present o ho
    refine ⟨hrecord.trans (congrArg some ?_), hevents, ?_⟩
    · show o.awaiting (o.flipPending && o.reported gained' == 0) =
        if o.reported gained' = 0 then o else o.awaiting false
      by_cases hn : o.reported gained' = 0
      · simp [hn, Output.awaiting]
      · rw [if_neg hn, beq_eq_false_iff_ne.2 hn, Bool.and_false]
    · rw [filter_told, hevents]
      cases o.cleaningUp with
      | true => rfl
      | false => exact List.reverse_replicate

/-- Two monitors were lit, and the second one's first flip is reported while the first one is torn
down. -/
theorem others_see_completions_only_on_teardown :
    let b := (Backend.new twoMonitors).run
      [.scan, .commitMode ⟨0⟩ .preferred, .commitMode ⟨1⟩ .preferred]
    ∃ gained o, (b.after (.teardownOutput ⟨0⟩)).journal = gained ++ b.journal ∧
      b.output? ⟨1⟩ = some o ∧ o.flipPending = true ∧
      (b.after (.teardownOutput ⟨0⟩)).output? ⟨1⟩ = some { o with flipPending := false } ∧
      eventsOn ⟨1⟩ gained = [.renderReady ⟨1⟩] := by
  have hlit : (((Backend.new twoMonitors).run [.scan, .commitMode ⟨0⟩ .preferred,
      .commitMode ⟨1⟩ .preferred]).output? ⟨1⟩).any
        (fun o => o.crtc == some ⟨31⟩ && o.flipPending && !o.cleaningUp) = true := by
    decide +kernel
  have hreported : (fun b : Backend SimulatedDevice.world =>
      reported ⟨31⟩ ((b.after (.teardownOutput ⟨0⟩)).journal.take
        ((b.after (.teardownOutput ⟨0⟩)).journal.length - b.journal.length)))
          ((Backend.new twoMonitors).run [.scan, .commitMode ⟨0⟩ .preferred,
            .commitMode ⟨1⟩ .preferred]) = 1 := by decide +kernel
  have hseen := others_see_completions_only twoMonitors
    [.scan, .commitMode ⟨0⟩ .preferred, .commitMode ⟨1⟩ .preferred] (a := .teardownOutput ⟨0⟩)
    (j := ⟨1⟩) rfl (by decide)
  generalize (Backend.new twoMonitors).run
    [.scan, .commitMode ⟨0⟩ .preferred, .commitMode ⟨1⟩ .preferred] = b at *
  obtain ⟨gained, hgained, -, -, -, hpresent⟩ := hseen
  obtain ⟨o, ho, hlit⟩ := (Option.any_eq_true _ _).1 hlit
  simp only [Bool.and_eq_true, beq_iff_eq, Bool.not_eq_true'] at hlit
  obtain ⟨⟨hcrtc, hpending⟩, hclean⟩ := hlit
  dsimp only at hreported
  rw [hgained, List.length_append, Nat.add_sub_cancel, List.take_left] at hreported
  have hn : (o.crtc.elim 0 fun c => reported c gained) = 1 := by
    rw [hcrtc, Option.elim_some, hreported]
  obtain ⟨hrecord, hevents, -⟩ := hpresent o ho
  rw [hn] at hrecord hevents
  rw [hclean] at hevents
  exact ⟨gained, o, hgained, ho, hpending, hrecord, hevents⟩

end Backend
end Scanout
