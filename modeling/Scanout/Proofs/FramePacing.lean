import Scanout.Proofs.FlipsUnderWay
import Scanout.Proofs.QueuedEvents

/-!
# The pace of frames

From the moment an output claims a CRTC until it releases its claims, the flips that the kernel
accepts on the CRTC and the events that ask the output for its next frame take turns, if the
kernel has at most one flip of a CRTC under way and reports every flip once. Reports name a CRTC
only, and they are read by whoever waits, so it is the claims that have to bring each of them to
the output whose flip it was.
-/

namespace Scanout

/-- What an entry says about the frames of an output: a flip was accepted, or the output was asked
for its next frame. -/
inductive FrameNote
  | flip
  | ready
  deriving DecidableEq

def JournalEntry.frameNote? (id : OutputId) (c : CrtcHandle) : JournalEntry → Option FrameNote
  | .call (.kernel (.pageFlip crtc _)) (.ok _) => if crtc = c then some .flip else none
  | .event (.renderReady j) => if j = id then some .ready else none
  | _ => none

/-- The flips accepted on a CRTC and the requests to an output, the latest first. -/
def frameNotes (id : OutputId) (c : CrtcHandle) (gained : List JournalEntry) : List FrameNote :=
  gained.filterMap (·.frameNote? id c)

/-- How many flips on a CRTC the entry reports as completed. -/
def JournalEntry.reports (c : CrtcHandle) : JournalEntry → Nat
  | .call (.kernel .receive) (.ok completions) => completions.countP (·.crtc == c)
  | _ => 0

def reported (c : CrtcHandle) : List JournalEntry → Nat
  | [] => 0
  | e :: earlier => e.reports c + reported c earlier

/-- A CRTC that an output owns, and the entries since it was claimed. -/
structure CrtcSession where
  crtc : CrtcHandle
  entries : List JournalEntry

def CrtcSession.add (s : CrtcSession) (e : JournalEntry) : CrtcSession :=
  { s with entries := e :: s.entries }

/-- The session of an output after an entry: its claim begins one and its release ends it. -/
def JournalEntry.noteSession (id : OutputId) (s : Option CrtcSession) :
    JournalEntry → Option CrtcSession
  | .claimed crtc j => if j = id then some ⟨crtc, []⟩ else s.map (·.add (.claimed crtc j))
  | .released j => if j = id then none else s.map (·.add (.released j))
  | .call c answer => s.map (·.add (.call c answer))
  | .event e => s.map (·.add (.event e))

def sessionOf (id : OutputId) : List JournalEntry → Option CrtcSession
  | [] => none
  | e :: earlier => e.noteSession id (sessionOf id earlier)

/-- The entry neither begins nor ends a session of the output. -/
def JournalEntry.KeepsSession (id : OutputId) (e : JournalEntry) : Prop :=
  ∀ s, e.noteSession id s = s.map (·.add e)

/-- The kernel accepts no second flip on a CRTC, and it reports flips that are under way only,
each of them once. -/
def JournalEntry.FlipsOnce (flips : List CrtcHandle) : JournalEntry → Prop
  | .call (.kernel (.pageFlip crtc _)) (.ok _) => crtc ∉ flips
  | .call (.kernel .receive) (.ok completions) =>
    (completions.map (·.crtc)).Nodup ∧ ∀ k ∈ completions, k.crtc ∈ flips
  | _ => True

instance (flips : List CrtcHandle) : DecidablePred (JournalEntry.FlipsOnce flips)
  | .call (.kernel (.pageFlip crtc _)) (.ok _) => inferInstanceAs (Decidable (crtc ∉ flips))
  | .call (.kernel .receive) (.ok completions) => inferInstanceAs (Decidable
      ((completions.map (·.crtc)).Nodup ∧ ∀ k ∈ completions, k.crtc ∈ flips))
  | .call (.kernel (.pageFlip _ _)) (.error _) | .call (.kernel .receive) (.error _)
  | .call (.kernel .resources) _ | .call (.kernel (.connector _)) _ | .call (.kernel (.encoder _)) _
  | .call (.kernel (.crtc _)) _ | .call (.kernel (.addFramebuffer _ _ _)) _
  | .call (.kernel (.removeFramebuffer _)) _ | .call (.kernel (.setCrtc _)) _
  | .call (.kernel (.wait _)) _ | .call (.gpu _) _ | .call .clock _ | .claimed _ _ | .released _
  | .event _ => instDecidableTrue

theorem JournalEntry.FlipsOnce.acceptsFree {flips : List CrtcHandle} {e : JournalEntry}
    (h : e.FlipsOnce flips) : e.AcceptsFree flips := by
  unfold JournalEntry.AcceptsFree
  split
  · exact h
  · trivial

/-- The kernel treated flips as it should, given the flips that were under way before. -/
def FlipsExact (flips : List CrtcHandle) (gained : List JournalEntry) : Prop :=
  flips.Nodup ∧ Each (fun earlier e => e.FlipsOnce (flipsAfter flips earlier)) gained

instance (flips : List CrtcHandle) : DecidablePred (FlipsExact flips) := fun g =>
  @instDecidableAnd _ _ _ (Each.decidable g)

theorem FlipsExact.append_iff {flips : List CrtcHandle} {g g' : List JournalEntry} :
    FlipsExact flips (g' ++ g) ↔ FlipsExact flips g ∧
      Each (fun earlier e => e.FlipsOnce (flipsAfter (flipsAfter flips g) earlier)) g' := by
  simp only [FlipsExact, Each.append_iff, flipsAfter_append, and_comm, and_assoc]

theorem nodup_flipsAfter {flips : List CrtcHandle} {g : List JournalEntry} (h : flips.Nodup)
    (hg : Each (fun earlier e => e.FlipsOnce (flipsAfter flips earlier)) g) :
    (flipsAfter flips g).Nodup := by
  induction g with
  | nil => exact h
  | cons e g ih =>
    have hearlier := ih hg.2
    have hfree := hg.1
    rw [flipsAfter]
    unfold JournalEntry.noteFlip
    split
    · exact List.nodup_cons.2 ⟨hfree, hearlier⟩
    · exact nodup_foldl_erase hearlier _
    · exact hearlier

/-- Flips and requests for the next frame take turns, beginning with a flip. The flag tells whether
the latest of them is a flip. -/
inductive Alternates : Bool → List FrameNote → Prop
  | first : Alternates true [.flip]
  | asked {notes} (h : Alternates true notes) : Alternates false (.ready :: notes)
  | flipped {notes} (h : Alternates false notes) : Alternates true (.flip :: notes)

theorem Alternates.count_flip {pending : Bool} {notes : List FrameNote}
    (h : Alternates pending notes) :
    notes.count .flip = notes.count .ready + if pending then 1 else 0 := by
  induction h with
  | first => rfl
  | asked _ ih => simpa using ih
  | flipped _ ih => simpa using ih

theorem Alternates.head? {pending : Bool} {notes : List FrameNote} (h : Alternates pending notes) :
    notes.head? = some (if pending then .flip else .ready) := by
  cases h <;> rfl

/-- The entry is of no concern for the session of an output, which may own a CRTC. -/
def JournalEntry.ForeignTo (id : OutputId) (c : Option CrtcHandle) : JournalEntry → Prop
  | .call (.kernel (.pageFlip crtc _)) (.ok _) => c ≠ some crtc
  | .call (.kernel .receive) (.ok _) => False
  | .event (.renderReady j) => j ≠ id
  | .claimed _ j | .released j => j ≠ id
  | _ => True

theorem JournalEntry.IsQuiet.foreignTo {e : JournalEntry} (h : e.IsQuiet) (id : OutputId)
    (c : Option CrtcHandle) : e.ForeignTo id c := by
  unfold JournalEntry.ForeignTo
  split
  · exact h.elim
  · simp [JournalEntry.IsQuiet, Except.isOk, Except.toBool] at h
  · exact h.elim
  · exact h.elim
  · exact h.elim
  · trivial

section Sessions

variable {id : OutputId} {c : CrtcHandle} {co : Option CrtcHandle} {flips : List CrtcHandle}
  {core g g' : List JournalEntry}

theorem JournalEntry.ForeignTo.keepsSession {e : JournalEntry} (h : e.ForeignTo id co) :
    e.KeepsSession id := by
  intro s
  cases e with
  | call _ _ | event _ => rfl
  | claimed _ _ | released _ => exact if_neg h

theorem sessionOf_append_of_keeps (h : ∀ e ∈ g', e.KeepsSession id) :
    sessionOf id (g' ++ g) =
      (sessionOf id g).map fun s => { s with entries := g' ++ s.entries } := by
  induction g' with
  | nil => simp
  | cons e g' ih =>
    rw [List.cons_append, sessionOf, h e (by simp), ih fun e' he' => h e' (List.mem_cons_of_mem _ he'),
      Option.map_map]
    rfl

theorem sessionOf_append_of_foreign (h : ∀ e ∈ g', e.ForeignTo id co) :
    sessionOf id (g' ++ g) =
      (sessionOf id g).map fun s => { s with entries := g' ++ s.entries } :=
  sessionOf_append_of_keeps fun e he => (h e he).keepsSession

/-- A session is the latest part of the entries. -/
theorem entries_isPrefix {s : CrtcSession} (h : sessionOf id g = some s) : s.entries <+: g := by
  induction g generalizing s with
  | nil => contradiction
  | cons e g ih =>
    have hadd (hs : (sessionOf id g).map (·.add e) = some s) : s.entries <+: e :: g := by
      obtain ⟨s', hs', rfl⟩ := Option.map_eq_some_iff.1 hs
      exact List.cons_prefix_cons.2 ⟨rfl, ih hs'⟩
    rw [sessionOf] at h
    cases e with
    | call _ _ | event _ => exact hadd h
    | claimed crtc j =>
      by_cases hj : j = id
      · rw [JournalEntry.noteSession, if_pos hj] at h
        obtain rfl := Option.some.inj h
        exact List.nil_prefix
      · rw [JournalEntry.noteSession, if_neg hj] at h
        exact hadd h
    | released j =>
      by_cases hj : j = id
      · rw [JournalEntry.noteSession, if_pos hj] at h
        contradiction
      · rw [JournalEntry.noteSession, if_neg hj] at h
        exact hadd h
@[simp] theorem frameNotes_append (id : OutputId) (c : CrtcHandle) (g g' : List JournalEntry) :
    frameNotes id c (g' ++ g) = frameNotes id c g' ++ frameNotes id c g := List.filterMap_append

/-- Each request for a frame of the output is told. -/
theorem count_ready_frameNotes (id : OutputId) (c : CrtcHandle) (g : List JournalEntry) :
    (frameNotes id c g).count .ready = (told g).count (.renderReady id) := by
  rw [told, List.count_reverse, frameNotes, List.count, List.count, List.countP_filterMap,
    List.countP_filterMap]
  refine List.countP_congr fun e _ => ?_
  unfold JournalEntry.frameNote? JournalEntry.event?
  split
  · split <;> simp_all
  · split <;> simp_all
  · split <;> simp_all

@[simp] theorem reported_append (c : CrtcHandle) (g g' : List JournalEntry) :
    reported c (g' ++ g) = reported c g' + reported c g := by
  induction g' with
  | nil => simp [reported]
  | cons e g' ih => rw [List.cons_append, reported, reported, ih, Nat.add_assoc]

theorem frameNotes_of_foreign (h : ∀ e ∈ g, e.ForeignTo id (some c)) : frameNotes id c g = [] := by
  refine List.filterMap_eq_nil_iff.2 fun e he => ?_
  have hforeign := h e he
  unfold JournalEntry.frameNote?
  split
  · exact if_neg fun hc => hforeign (congrArg some hc.symm)
  · exact if_neg hforeign
  · rfl

theorem JournalEntry.ForeignTo.reports {e : JournalEntry} (h : e.ForeignTo id co)
    (c : CrtcHandle) : e.reports c = 0 := by
  unfold JournalEntry.reports
  split
  · exact h.elim
  · rfl

theorem reported_of_foreign (h : ∀ e ∈ g, e.ForeignTo id co) : reported c g = 0 := by
  induction g with
  | nil => rfl
  | cons e g ih =>
    rw [reported, (h e (by simp)).reports, ih fun e' he' => h e' (List.mem_cons_of_mem _ he')]

theorem mem_flipsAfter_of_foreign (h : ∀ e ∈ g, e.ForeignTo id (some c)) :
    c ∈ flipsAfter flips g ↔ c ∈ flips := by
  induction g with
  | nil => exact Iff.rfl
  | cons e g ih =>
    rw [← ih fun e' he' => h e' (List.mem_cons_of_mem _ he'), flipsAfter]
    have hforeign := h e (by simp)
    unfold JournalEntry.noteFlip
    split
    · rw [List.mem_cons]
      exact or_iff_right fun hc => hforeign (congrArg some hc)
    · exact hforeign.elim
    · exact Iff.rfl

theorem Amid.frameNotes (h : Amid core g) (id : OutputId) (c : CrtcHandle) :
    frameNotes id c g = Scanout.frameNotes id c core := by
  obtain ⟨before, after, hbefore, hafter, rfl⟩ := h
  rw [frameNotes_append, frameNotes_append,
    frameNotes_of_foreign fun e he => (hbefore e he).foreignTo id (some c),
    frameNotes_of_foreign fun e he => (hafter e he).foreignTo id (some c), List.append_nil,
    List.nil_append]

theorem Amid.reported (h : Amid core g) (c : CrtcHandle) :
    reported c g = Scanout.reported c core := by
  obtain ⟨before, after, hbefore, hafter, rfl⟩ := h
  rw [reported_append, reported_append,
    reported_of_foreign fun e he => (hbefore e he).foreignTo ⟨0⟩ none,
    reported_of_foreign fun e he => (hafter e he).foreignTo ⟨0⟩ none, Nat.add_zero, Nat.zero_add]

theorem Amid.foreignTo (h : Amid core g) (hcore : ∀ e ∈ core, e.ForeignTo id co) :
    ∀ e ∈ g, e.ForeignTo id co := h.forall_mem hcore fun _ hq => hq.foreignTo id co

theorem PutBack.foreignTo {connector : ConnectorHandle} {claimed : Option CrtcHandle}
    {saved : Option CrtcInfo} (h : PutBack connector claimed saved g) (id : OutputId)
    (co : Option CrtcHandle) : ∀ e ∈ g, e.ForeignTo id co := by
  cases h <;> simp [JournalEntry.ForeignTo]

theorem Destroys.foreignTo {s : SurfaceId} (h : Destroys s g) (id : OutputId)
    (co : Option CrtcHandle) : ∀ e ∈ g, e.ForeignTo id co := by
  intro e he
  rcases h e he with hquiet | ⟨d, rfl⟩
  · exact hquiet.foreignTo id co
  · trivial

theorem FrameTried.foreignTo {connector : ConnectorHandle} {crtc : CrtcHandle}
    {mode : DisplayMode} {shown : Option FramebufferId} (h : FrameTried connector crtc mode shown g)
    (id : OutputId) (hc : co ≠ some crtc) : ∀ e ∈ g, e.ForeignTo id co := by
  cases h <;> simp [JournalEntry.ForeignTo, hc]

theorem FlipAttempt.foreignTo {crtc : CrtcHandle} {shown : Option FramebufferId}
    (h : FlipAttempt crtc shown g) (id : OutputId) (hc : shown = none ∨ co ≠ some crtc) :
    ∀ e ∈ g, e.ForeignTo id co := by
  cases h with
  | unmade | refused _ _ => simp [JournalEntry.ForeignTo]
  | accepted fb => simpa [JournalEntry.ForeignTo] using hc

end Sessions

/-- What matters of a record with a CRTC for the pace of its frames. -/
structure FrameState where
  crtc : CrtcHandle
  pending : Bool
  cleaningUp : Bool

def Output.frameState? (o : Output) : Option FrameState :=
  o.crtc.map fun c => ⟨c, o.flipPending, o.cleaningUp⟩

theorem Output.frameState?_reconcile (o : Output) (info : ConnectorInfo) (id : OutputId) :
    (o.reconcile info id).1.frameState? = o.frameState? := by
  obtain ⟨name, state, modes, heq, -⟩ := o.reconcile_eq info id
  rw [heq]
  rfl

theorem Output.foreignTo_of_mem_reconcile {o : Output} {info : ConnectorInfo} {id : OutputId}
    {e : OutputEvent} (he : e ∈ (o.reconcile info id).2.toList) (j : OutputId)
    (co : Option CrtcHandle) : JournalEntry.ForeignTo j co (.event e) := by
  unfold Output.reconcile at he
  dsimp only at he
  split at he <;> simp_all [JournalEntry.ForeignTo]

/-- The session of an output is as its record tells. -/
inductive SlotPaced (flips : List CrtcHandle) (gained : List JournalEntry) (id : OutputId) :
    Option FrameState → Prop where
  | dark (h : sessionOf id gained = none) : SlotPaced flips gained id none
  | lit {f : FrameState} (entries : List JournalEntry)
      (h : sessionOf id gained = some ⟨f.crtc, entries⟩)
      (hpending : f.crtc ∈ flips ↔ f.pending = true)
      (hnotes : f.cleaningUp = false → Alternates f.pending (frameNotes id f.crtc entries))
      (hreported : f.cleaningUp = false →
        (frameNotes id f.crtc entries).count .ready = reported f.crtc entries) :
      SlotPaced flips gained id (some f)

namespace SlotPaced

variable {flips : List CrtcHandle} {g g' : List JournalEntry} {id : OutputId}
  {f : Option FrameState}

theorem foreign (h : SlotPaced flips g id f)
    (hg : ∀ e ∈ g', e.ForeignTo id (f.map (·.crtc))) :
    SlotPaced (flipsAfter flips g') (g' ++ g) id f := by
  cases h with
  | dark h => exact .dark (by rw [sessionOf_append_of_foreign hg, h, Option.map_none])
  | lit entries h hpending hnotes hreported =>
    rw [Option.map_some] at hg
    have hnone := frameNotes_of_foreign hg
    refine .lit (g' ++ entries) ?_ ?_ (fun hclean => ?_) fun hclean => ?_
    · rw [sessionOf_append_of_foreign hg, h, Option.map_some]
    · rw [mem_flipsAfter_of_foreign hg, hpending]
    · rw [frameNotes_append, hnone]
      exact hnotes hclean
    · rw [frameNotes_append, hnone, reported_append, reported_of_foreign hg, Nat.zero_add]
      exact hreported hclean

theorem released (flips : List CrtcHandle) (id : OutputId) (g : List JournalEntry) :
    SlotPaced flips (.released id :: g) id none := .dark (if_pos rfl)

theorem removed (flips : List CrtcHandle) (id : OutputId) (g : List JournalEntry) :
    SlotPaced flips (.event (.removed id) :: .released id :: g) id none := by
  refine .dark ?_
  rw [sessionOf, sessionOf, JournalEntry.noteSession, JournalEntry.noteSession, if_pos rfl]
  rfl

/-- In cleanup less is asked. -/
theorem cleaningUp (h : SlotPaced flips g id f) :
    SlotPaced flips g id (f.map fun f => { f with cleaningUp := true }) := by
  cases h with
  | dark h => exact .dark h
  | lit entries h hpending _ _ => exact .lit entries h hpending nofun nofun

end SlotPaced

namespace Backend

variable {W : World} {a : BackendAction} {b b' : Backend W} {g g' : List JournalEntry}
  {id j : OutputId} {o : Output} {c : CrtcHandle} {flips : List CrtcHandle}

def frameState? (b : Backend W) (id : OutputId) : Option FrameState :=
  (b.output? id).bind (·.frameState?)

theorem frameState?_of_output? {f : FrameState} (ho : b.output? id = some o)
    (hf : o.frameState? = some f) : b.frameState? id = some f := by
  rw [frameState?, ho, Option.bind_some, hf]

/-- The CRTC of an output is the one that it owns. -/
theorem Agrees.owner_iff (hb : b.Agrees) :
    b.claims.owner c = some id ↔ (b.frameState? id).map (·.crtc) = some c := by
  rw [hb.owner]
  constructor
  · rintro ⟨o, ho, hc⟩
    simp [frameState?, Output.frameState?, ho, hc]
  · intro h
    obtain ⟨f, hf, rfl⟩ := Option.map_eq_some_iff.1 h
    obtain ⟨o, ho, hframe⟩ := Option.bind_eq_some_iff.1 hf
    obtain ⟨crtc, hc, rfl⟩ := Option.map_eq_some_iff.1 hframe
    exact ⟨o, ho, hc⟩

/-- The sessions of all outputs are as their records tell. -/
structure Paced (flips : List CrtcHandle) (gained : List JournalEntry) (b : Backend W) :
    Prop where
  nodup : flips.Nodup
  slots : ∀ id, SlotPaced flips gained id (b.frameState? id)

theorem SameBooks.frameState? (h : SameBooks b b') (id : OutputId) :
    b'.frameState? id = b.frameState? id := by
  rw [Backend.frameState?, h.output?, Backend.frameState?]

theorem frameState?_modify {f : Output → Output} (ho : b.output? id = some o)
    (hb : b'.outputs = b.outputs.modify id.slot f) (hf : (f o).frameState? = o.frameState?)
    (j : OutputId) : b'.frameState? j = b.frameState? j := by
  rw [frameState?, output?_modify hb, frameState?]
  split
  · next hj => rw [← hj, ho, Option.map_some, Option.bind_some, Option.bind_some, hf]
  · rfl

theorem frameState?_cleaning (ho : b.output? id = some o) :
    { b with outputs := b.outputs.modify id.slot fun o => { o with cleaningUp := true }
      }.frameState? id = (b.frameState? id).map fun f => { f with cleaningUp := true } := by
  rw [frameState?, output?_modify_self (b := b) rfl ho, frameState?, ho]
  simp [Output.frameState?, Function.comp_def]

theorem frameState?_append {connector : ConnectorHandle}
    (hb : b'.outputs = b.outputs ++ [Output.new connector]) (j : OutputId) :
    b'.frameState? j = b.frameState? j := by
  rw [frameState?, output?_append hb, frameState?]
  split
  · next hj =>
    have hnone : b.output? ⟨b.outputs.length⟩ = none := List.getElem?_eq_none (Nat.le_refl _)
    rw [hj, hnone]
    rfl
  · rfl

/-- A CRTC is owned by the output whose record has it. -/
theorem Agrees.owner_beq {f : FrameState} (hb : b.Agrees) (hf : b.frameState? id = some f)
    (c : CrtcHandle) : (b.claims.owner c == some id) = (c == f.crtc) := by
  rw [Bool.eq_iff_iff, beq_iff_eq, beq_iff_eq, hb.owner_iff, hf, Option.map_some]
  exact ⟨fun h => (Option.some.inj h).symm, fun h => congrArg some h.symm⟩

theorem frameState?_completed (hb : b.Agrees) (completions : List FlipCompletion) :
    (b.completed completions).frameState? id = (b.frameState? id).map fun f =>
      { f with pending := f.pending && !completions.any (·.crtc == f.crtc) } := by
  cases hf : b.frameState? id with
  | none =>
    rw [frameState?, output?_completed, Option.bind_map]
    rw [frameState?] at hf
    cases ho : b.output? id with
    | none => rfl
    | some o =>
      rw [ho, Option.bind_some] at hf
      simpa [Output.frameState?] using hf
  | some f =>
    have hreported : b.completes completions id = completions.any (·.crtc == f.crtc) := by
      simp only [completes, hb.owner_beq hf]
    obtain ⟨o, ho, hframe⟩ := Option.bind_eq_some_iff.1 hf
    obtain ⟨c, hc, rfl⟩ := Option.map_eq_some_iff.1 hframe
    rw [frameState?, output?_completed, ho, hreported]
    simp [Output.frameState?, hc]

/-- A report of a flip brings the owner of its CRTC one request for the next frame. -/
theorem count_ready {f : FrameState} (hb : b.Agrees) (hf : b.frameState? id = some f)
    (hclean : f.cleaningUp = false) (completions : List FlipCompletion) :
    (b.ready completions).count id = completions.countP (·.crtc == f.crtc) := by
  have hasked : (b.output? id).any (!·.cleaningUp) = true := by
    obtain ⟨o, ho, hframe⟩ := Option.bind_eq_some_iff.1 hf
    obtain ⟨c, hc, rfl⟩ := Option.map_eq_some_iff.1 hframe
    rw [ho]
    simpa using hclean
  rw [ready, List.count, List.countP_filter, List.countP_filterMap]
  refine List.countP_congr fun k _ => ?_
  have howner := hb.owner_beq hf k.crtc
  cases hk : b.claims.owner k.crtc with
  | none => simp_all
  | some j =>
    rw [← howner, hk, Option.map_some, Option.getD_some]
    by_cases hj : j = id
    · simp [hj, hasked]
    · simp [hj]

theorem frameNotes_readyEntries (ids : List OutputId) :
    frameNotes id c (readyEntries ids) = List.replicate (ids.count id) .ready := by
  rw [readyEntries, frameNotes, List.filterMap_reverse, List.filterMap_map]
  induction ids with
  | nil => rfl
  | cons j ids ih =>
    rw [List.filterMap_cons, Function.comp_apply, JournalEntry.frameNote?]
    by_cases hj : j = id
    · rw [if_pos hj, List.reverse_cons, ih, hj, List.count_cons_self, List.replicate_succ']
    · rw [if_neg hj, List.count_cons_of_ne hj]
      exact ih

theorem reported_readyEntries (ids : List OutputId) : reported c (readyEntries ids) = 0 := by
  rw [readyEntries, ← List.map_reverse]
  induction ids.reverse with
  | nil => rfl
  | cons j ids ih => exact ih ▸ Nat.zero_add _

/-- A CRTC is reported once or not at all. -/
theorem countP_crtc {completions : List FlipCompletion} (h : (completions.map (·.crtc)).Nodup) :
    completions.countP (·.crtc == c) = if completions.any (·.crtc == c) then 1 else 0 := by
  have hmap : completions.countP (·.crtc == c) = (completions.map (·.crtc)).count c := by
    rw [List.count, List.countP_map]
    rfl
  rw [hmap, h.count]
  simp

/-- Reports that are read are told with a request each. -/
theorem frameNotes_completed {f : FrameState} (hb : b.Agrees) (hf : b.frameState? id = some f)
    (hclean : f.cleaningUp = false) (completions : List FlipCompletion)
    (entries : List JournalEntry) :
    frameNotes id f.crtc (readyEntries (b.ready completions) ++
      [.call (.kernel .receive) (.ok completions)] ++ entries) =
        List.replicate (completions.countP (·.crtc == f.crtc)) .ready ++
          frameNotes id f.crtc entries := by
  rw [frameNotes_append, frameNotes_append, frameNotes_readyEntries, count_ready hb hf hclean]
  simp [frameNotes, JournalEntry.frameNote?]

theorem flipsAfter_completed (completions : List FlipCompletion) (ids : List OutputId) :
    flipsAfter flips (readyEntries ids ++ [.call (.kernel .receive) (.ok completions)]) =
      completions.foldl (·.erase ·.crtc) flips := by
  rw [flipsAfter_append, flipsAfter_of_keeps fun e he => ?_]
  · rfl
  · obtain ⟨event, -, rfl⟩ := List.mem_map.1 (readyEntries_eq _ ▸ he)
    exact fun _ => rfl

/-- The reports that are read bring every output to the end of its flip. -/
theorem slotPaced_completed {completions : List FlipCompletion}
    (h : SlotPaced flips g id (b.frameState? id)) (hb : b.Agrees) (hflips : flips.Nodup)
    (hk : (completions.map (·.crtc)).Nodup ∧ ∀ k ∈ completions, k.crtc ∈ flips) :
    SlotPaced (completions.foldl (·.erase ·.crtc) flips)
      (readyEntries (b.ready completions) ++ [.call (.kernel .receive) (.ok completions)] ++ g) id
      ((b.completed completions).frameState? id) := by
  have hkeeps : ∀ e ∈ readyEntries (b.ready completions) ++
      [.call (.kernel .receive) (.ok completions)], e.KeepsSession id := by
    intro e he s
    rw [readyEntries_eq] at he
    rcases JournalEntry.mem_told he with ⟨event, rfl⟩ | rfl <;> rfl
  rw [frameState?_completed hb]
  cases hf : b.frameState? id with
  | none =>
    rw [hf] at h
    cases h with
    | dark h => exact .dark (by rw [sessionOf_append_of_keeps hkeeps, h, Option.map_none])
  | some f =>
    rw [hf] at h
    cases h with
    | lit entries h hpending hnotes hreported =>
      refine .lit (readyEntries (b.ready completions) ++
        [.call (.kernel .receive) (.ok completions)] ++ entries) ?_ ?_ ?_ ?_
      · rw [sessionOf_append_of_keeps hkeeps, h, Option.map_some]
      · rw [mem_foldl_erase hflips, hpending]
        simp
      · intro hclean
        rw [frameNotes_completed hb hf hclean, countP_crtc hk.1]
        cases hany : completions.any (·.crtc == f.crtc) with
        | false => simpa [hany] using hnotes hclean
        | true =>
          obtain ⟨k, hmem, hkc⟩ := List.any_eq_true.1 hany
          have hpend : f.pending = true := hpending.1 (beq_iff_eq.1 hkc ▸ hk.2 k hmem)
          simpa [hany, hpend] using Alternates.asked (hpend ▸ hnotes hclean)
      · intro hclean
        rw [frameNotes_completed hb hf hclean, List.count_append, List.count_replicate_self,
          hreported hclean, reported_append, reported_append, reported_readyEntries, reported,
          reported, JournalEntry.reports]
        simp

theorem frameState?_eq_none (ho : b.output? id = some o) (hc : o.crtc = none) :
    b.frameState? id = none := by
  rw [frameState?, ho, Option.bind_some, Output.frameState?, hc, Option.map_none]

/-- An output that owns nothing else has another CRTC than one that is owned. -/
theorem Agrees.crtc_ne (hb : b.Agrees) (hj : b.claims.owner c ≠ some j) :
    (b.frameState? j).map (·.crtc) ≠ some c := fun hc => hj (hb.owner_iff.2 hc)

theorem ModesetTried.foreignTo {connector : ConnectorHandle} {r : Except ModesetError Unit}
    {co : Option CrtcHandle} (h : ModesetTried id connector b r g b') (hj : j ≠ id)
    (hco : ∀ crtc, b.claims.owner crtc = none → co ≠ some crtc) :
    ∀ e ∈ g, e.ForeignTo j co := by
  cases h with
  | unclaimed h => exact fun e he => (h.quiet e he).foreignTo j co
  | @claimed k _ g₁ g₂ _ hk h =>
    have hne := hco _ hk.free
    intro e he
    rw [List.mem_append, List.mem_cons] at he
    rcases he with he | rfl | he
    · cases h with
      | unmade h => exact (h.quiet e he).foreignTo j co
      | undone _ htried hcore hback hdestroy _ =>
        rw [List.mem_append, List.mem_append] at he
        rcases he with (he | he) | he
        · exact hdestroy.foreignTo j co e he
        · exact hback.foreignTo j co e he
        · exact hcore.foreignTo (htried.foreignTo j hne) e he
      | shown _ _ htried hcore _ => exact hcore.foreignTo (htried.foreignTo j hne) e he
    · exact hj.symm
    · exact (hk.quiet e he).foreignTo j co

/-- A session begins with the flip of the first frame. -/
theorem ModesetTried.ok_slotPaced {connector : ConnectorHandle}
    (h : ModesetTried id connector b (.ok ()) g' b') (ho : b.output? id = some o) :
    SlotPaced (flipsAfter flips g') (g' ++ g) id (b'.frameState? id) := by
  cases h with
  | @claimed k _ g₁ g₂ _ _ h =>
    cases h with
    | @shown s fb core _ _ _ _ htried hcore h =>
      have ho' := output?_modify_self h.outputs (output?_configured k ho)
      have hf : b'.frameState? id = some ⟨k.crtc, true, o.cleaningUp⟩ :=
        frameState?_of_output? ho' rfl
      have hkeeps : ∀ e ∈ g₂, e.ForeignTo id none := hcore.foreignTo (htried.foreignTo id nofun)
      cases htried
      rw [hf]
      refine .lit g₂ ?_ (iff_of_true ?_ rfl) (fun _ => ?_) fun _ => ?_
      · rw [List.append_assoc, sessionOf_append_of_foreign hkeeps, List.cons_append, sessionOf,
          JournalEntry.noteSession, if_pos rfl]
        simp
      · rw [flipsAfter_append, hcore.flipsAfter]
        exact List.mem_cons_self
      · rw [hcore.frameNotes]
        simpa [frameNotes, JournalEntry.frameNote?] using Alternates.first
      · rw [hcore.frameNotes, hcore.reported]
        simp [frameNotes, JournalEntry.frameNote?, reported, JournalEntry.reports]

namespace Paced

theorem of_foreign (h : Paced flips g b)
    (hexact : Each (fun earlier e => e.FlipsOnce (flipsAfter flips earlier)) g')
    (hb : ∀ id, b'.frameState? id = b.frameState? id)
    (hg : ∀ id, ∀ e ∈ g', e.ForeignTo id ((b.frameState? id).map (·.crtc))) :
    Paced (flipsAfter flips g') (g' ++ g) b' where
  nodup := nodup_flipsAfter h.nodup hexact
  slots id := by
    rw [hb]
    exact (h.slots id).foreign (hg id)

theorem of_elsewhere (h : Paced flips g b)
    (hexact : Each (fun earlier e => e.FlipsOnce (flipsAfter flips earlier)) g')
    (hb : SameElsewhere id b b')
    (hg : ∀ j ≠ id, ∀ e ∈ g', e.ForeignTo j ((b.frameState? j).map (·.crtc)))
    (hown : SlotPaced (flipsAfter flips g') (g' ++ g) id (b'.frameState? id)) :
    Paced (flipsAfter flips g') (g' ++ g) b' where
  nodup := nodup_flipsAfter h.nodup hexact
  slots j := by
    by_cases hj : j = id
    · exact hj ▸ hown
    · rw [frameState?, hb.outputs j hj, ← frameState?]
      exact (h.slots j).foreign (hg j hj)

theorem quiet (h : Paced flips g b)
    (hexact : Each (fun earlier e => e.FlipsOnce (flipsAfter flips earlier)) g')
    (hb : ∀ id, b'.frameState? id = b.frameState? id) (hg : ∀ e ∈ g', e.IsQuiet) :
    Paced (flipsAfter flips g') (g' ++ g) b' :=
  h.of_foreign hexact hb fun _ e he => (hg e he).foreignTo _ _

/-- The flip of the next frame is accepted after the one before it was reported. -/
theorem flipped {fb : FramebufferId} {core : List JournalEntry} (h : Paced flips g b)
    (hexact : Each (fun earlier e => e.FlipsOnce (flipsAfter flips earlier)) g')
    (hb : b.Agrees) (ho : b.output? id = some o) (hc : o.crtc = some c)
    (hflip : FlipAttempt c (some fb) core) (hcore : Amid core g')
    (h' : SameBooks { b with outputs := b.outputs.modify id.slot (·.presenting fb) } b') :
    Paced (flipsAfter flips g') (g' ++ g) b' := by
  have howner : b.claims.owner c = some id := (hb.owner c id).2 ⟨o, ho, hc⟩
  have hf : b.frameState? id = some ⟨c, o.flipPending, o.cleaningUp⟩ :=
    frameState?_of_output? ho (by rw [Output.frameState?, hc, Option.map_some])
  have hf' : b'.frameState? id = some ⟨c, true, o.cleaningUp⟩ :=
    frameState?_of_output? (output?_modify_self h'.outputs ho)
      (by rw [Output.frameState?, Output.presenting, hc, Option.map_some])
  have hslot := h.slots id
  have helsewhere : SameElsewhere id b b' := .of_modify h'.outputs fun c j _ => by rw [h'.claims]
  refine h.of_elsewhere hexact helsewhere (fun j hj => ?_) ?_
  · refine hcore.foreignTo (hflip.foreignTo j (.inr (hb.crtc_ne fun hcj => ?_)))
    exact hj (Option.some.inj (hcj.symm.trans howner))
  · rw [hf] at hslot
    rw [hf']
    cases hslot with
    | lit entries h hpending hnotes hreported =>
      have hfree := hflip.notMem hcore (hexact.imp fun _ _ honce => honce.acceptsFree)
      have hidle : o.flipPending = false := Bool.eq_false_iff.2 fun hp => hfree (hpending.2 hp)
      have hkeeps : ∀ e ∈ g', e.ForeignTo id none :=
        hcore.foreignTo (hflip.foreignTo id (.inr (Option.some_ne_none c).symm))
      dsimp only at hnotes hreported
      rw [hidle] at hnotes
      cases hflip
      refine .lit (g' ++ entries) ?_ (iff_of_true ?_ rfl) (fun hclean => ?_)
        fun hclean => ?_
      · rw [sessionOf_append_of_foreign hkeeps, h, Option.map_some]
      · rw [hcore.flipsAfter]
        exact List.mem_cons_self
      · rw [frameNotes_append, hcore.frameNotes]
        simpa [frameNotes, JournalEntry.frameNote?] using Alternates.flipped (hnotes hclean)
      · rw [frameNotes_append, reported_append, hcore.frameNotes, hcore.reported]
        simpa [frameNotes, JournalEntry.frameNote?, reported, JournalEntry.reports]
          using hreported hclean

end Paced

/-- Every stage keeps the pace. -/
theorem Stage.paced (h : Stage a b g' b') (hb : b.Agrees) (hp : Paced flips g b)
    (hexact : Each (fun earlier e => e.FlipsOnce (flipsAfter flips earlier)) g') :
    Paced (flipsAfter flips g') (g' ++ g) b' := by
  cases h with
  | quiet h => exact hp.quiet hexact h.same.frameState? h.quiet
  | retimed _ _ => exact hp.quiet hexact (fun _ => rfl) (by simp)
  | slotted _ _ _ => exact hp.quiet hexact (frameState?_append rfl) (by simp)
  | read _ ho h =>
    refine hp.of_foreign hexact (frameState?_modify ho h.outputs (Output.frameState?_reconcile _ _ _))
      fun j e he => ?_
    rcases List.mem_append.1 he with he | he
    · obtain ⟨event, hevent, rfl⟩ := List.mem_map.1 he
      exact Output.foreignTo_of_mem_reconcile hevent j _
    · obtain rfl := List.mem_singleton.1 he
      trivial
  | completed h =>
    refine ⟨nodup_flipsAfter hp.nodup hexact, fun j => ?_⟩
    rw [h.frameState?, flipsAfter_completed]
    rw [Each.append_iff] at hexact
    exact slotPaced_completed (hp.slots j) hb hp.nodup hexact.2.1
  | @cleaning id o _ _ ho _ =>
    refine hp.of_elsewhere hexact (.of_modify rfl fun _ _ _ => Iff.rfl) (by simp) ?_
    rw [frameState?_cleaning ho]
    exact (hp.slots id).cleaningUp
  | undrained _ ho _ h =>
    refine hp.of_foreign hexact (frameState?_modify ho h.outputs rfl) fun j e he => ?_
    obtain rfl := List.mem_singleton.1 he
    trivial
  | released _ ho _ _ hback hdestroy h =>
    have hdark := frameState?_eq_none (output?_modify_self h.outputs ho) rfl
    refine hp.of_elsewhere hexact (.of_release h) (fun j hj e he => ?_) (hdark ▸ .released _ _ _)
    rw [List.mem_append, List.mem_cons] at he
    rcases he with (rfl | he) | he
    · exact hj.symm
    · exact hdestroy.foreignTo _ _ e he
    · exact hback.foreignTo _ _ e he
  | set _ ho _ h =>
    refine hp.of_elsewhere hexact h.elsewhere (fun j hj => ?_) (h.ok_slotPaced ho)
    exact h.foreignTo hj fun crtc hfree => hb.crtc_ne (by simp [hfree])
  | reverted _ ho _ h h' =>
    obtain ⟨o₁, ho₁, -⟩ := h.error_record ho
    have hdark := frameState?_eq_none (output?_modify_self h'.outputs ho₁) rfl
    refine hp.of_elsewhere hexact (h.elsewhere.trans (.of_release h')) (fun j hj e he => ?_)
      (hdark ▸ .removed _ _ _)
    rw [List.mem_cons, List.mem_cons] at he
    rcases he with rfl | rfl | he
    · trivial
    · exact hj.symm
    · exact h.foreignTo hj (fun crtc hfree => hb.crtc_ne (by simp [hfree])) e he
  | refused _ _ ho h =>
    have hdark := frameState?_eq_none (output?_modify_self h.outputs ho) rfl
    refine hp.of_elsewhere hexact (.of_release h) (fun j hj e he => ?_) (hdark ▸ .removed _ _ _)
    rw [List.mem_cons, List.mem_singleton] at he
    rcases he with rfl | rfl
    · trivial
    · exact hj.symm
  | flipped _ ho _ hc hflip hcore h => exact hp.flipped hexact hb ho hc hflip hcore h
  | unflipped _ _ _ _ hflip hcore h =>
    exact hp.of_foreign hexact h.frameState? fun j =>
      hcore.foreignTo (hflip.foreignTo j (.inl rfl))

private theorem paced_run (context : RenderContext W) (actions : List BackendAction)
    (flips : List CrtcHandle) :
    ∃ g, ((Backend.new context).run actions).journal = g ++ context.journal ∧
      ((Backend.new context).run actions).Agrees ∧ (FlipsExact flips g →
        Paced (flipsAfter flips g) g ((Backend.new context).run actions)) := by
  refine run_keeps (P := fun g b => b.Agrees ∧ (FlipsExact flips g → Paced (flipsAfter flips g) g b))
    (fun a _ b g b' g₀ h hb => ⟨hb.1.step h, fun hexact => ?_⟩) ⟨Agrees.new context, fun hexact => ?_⟩
  · rw [FlipsExact.append_iff] at hexact
    rw [flipsAfter_append]
    exact h.paced hb.1 (hb.2 hexact.1) hexact.2
  · refine ⟨hexact.1, fun id => ?_⟩
    have hnone : (Backend.new context).frameState? id = none := by
      simp [frameState?, output?, Backend.new]
    exact hnone ▸ .dark rfl

/-- A frame that is presented before the flip of the last one was reported is refused, and nothing
changes by it. -/
theorem Paced.endFrame_refused {later : List JournalEntry} (h : Paced flips g b)
    (ho : b.output? id = some o) (hc : o.crtc = some c) (hpending : o.flipPending = true)
    (hlater : (b.after (.endFrame id)).journal = later ++ b.journal)
    (hexact : Each (fun earlier e => e.FlipsOnce (flipsAfter flips earlier)) later) :
    (∃ e, ((endFrame id).run b).1 = .error e) ∧ (b.after (.endFrame id)).output? id = some o ∧
      ∀ e ∈ later, e.ForeignTo id (some c) := by
  obtain ⟨g', hg', hend⟩ := yields_endFrame id b
  obtain rfl : later = g' := List.append_cancel_right (hlater.symm.trans hg')
  rcases hend with ⟨e, hr, hquiet⟩ | ⟨o₁, s, crtc, core, ho₁, -, hc₁, hcore, hflip⟩
  · exact ⟨⟨e, hr⟩, (hquiet.same.output? id).trans ho,
      fun e he => (hquiet.quiet e he).foreignTo _ _⟩
  · obtain rfl := Option.some.inj (ho.symm.trans ho₁)
    obtain rfl := Option.some.inj (hc.symm.trans hc₁)
    rcases hflip with ⟨e, hr, hflip, hsame⟩ | ⟨fb, -, hflip, -⟩
    · exact ⟨⟨e, hr⟩, (hsame.output? id).trans ho, hcore.foreignTo (hflip.foreignTo id (.inl rfl))⟩
    · have hslot := h.slots id
      have hf : b.frameState? id = some ⟨c, o.flipPending, o.cleaningUp⟩ :=
        frameState?_of_output? ho (by rw [Output.frameState?, hc, Option.map_some])
      rw [hf] at hslot
      cases hslot with
      | lit _ _ hunder _ _ =>
        have hfree := hflip.notMem hcore (hexact.imp fun _ _ honce => honce.acceptsFree)
        exact absurd (hunder.2 hpending) hfree

/-- An output has a session exactly as long as it has a CRTC. -/
theorem Paced.session_eq_none_iff (h : Paced flips g b) (ho : b.output? id = some o) :
    sessionOf id g = none ↔ o.crtc = none := by
  have hslot := h.slots id
  rw [frameState?, ho, Option.bind_some, Output.frameState?] at hslot
  cases hc : o.crtc with
  | none =>
    rw [hc, Option.map_none] at hslot
    cases hslot with
    | dark h => exact iff_of_true h rfl
  | some c =>
    rw [hc, Option.map_some] at hslot
    cases hslot with
    | lit _ h _ _ _ => exact iff_of_false (by simp [h]) nofun

theorem Paced.of_session {s : CrtcSession} (h : Paced flips g b) (hs : sessionOf id g = some s) :
    ∃ o, b.output? id = some o ∧ o.crtc = some s.crtc ∧
      (o.flipPending = true ↔ s.crtc ∈ flips) ∧ (o.cleaningUp = false →
        Alternates o.flipPending (frameNotes id s.crtc s.entries) ∧
          (frameNotes id s.crtc s.entries).count .ready = reported s.crtc s.entries) := by
  have hslot := h.slots id
  cases hf : b.frameState? id with
  | none =>
    rw [hf] at hslot
    cases hslot with
    | dark h => simp [hs] at h
  | some f =>
    rw [hf] at hslot
    obtain ⟨o, ho, hframe⟩ := Option.bind_eq_some_iff.1 hf
    obtain ⟨c, hc, rfl⟩ := Option.map_eq_some_iff.1 hframe
    cases hslot with
    | lit entries h hpending hnotes hreported =>
      obtain rfl := Option.some.inj (hs.symm.trans h)
      exact ⟨o, ho, hc, hpending.symm, fun hclean => ⟨hnotes hclean, hreported hclean⟩⟩

/-- If the kernel accepts no second flip on a CRTC and reports every flip once, then within the
session of an output, which lasts from the claim of its CRTC to the release, the flips that were
accepted are one more than the requests for the next frame if the record is waiting for a flip, and
as many otherwise; every report of a flip on the CRTC has brought one request; and the latest of
flips and requests is a request unless the record is waiting. A frame that is presented while the
record is waiting is refused without any change to this. All that was told is in the queue, in its
order and beside nothing but what was put there otherwise, and the requests of a session are the ones
that were told in it. -/
theorem frames_paced (context : RenderContext W) (actions : List BackendAction)
    (flips : List CrtcHandle) :
    let b := (Backend.new context).run actions
    ∃ gained, b.journal = gained ++ context.journal ∧
      b.queue.Holds (told gained) (actions.filterMap (·.pushed?)) ∧ (FlipsExact flips gained →
      (∀ id o, b.output? id = some o → (sessionOf id gained = none ↔ o.crtc = none)) ∧
      ∀ id s, sessionOf id gained = some s → ∃ o, b.output? id = some o ∧ o.crtc = some s.crtc ∧
        (s.entries <+: gained ∧
          (frameNotes id s.crtc s.entries).count .ready = (told s.entries).count (.renderReady id)) ∧
        (o.flipPending = true ↔ s.crtc ∈ flipsAfter flips gained) ∧
        (o.cleaningUp = false →
          let notes := frameNotes id s.crtc s.entries
          notes.count .flip = notes.count .ready + (if o.flipPending then 1 else 0) ∧
            notes.count .ready = reported s.crtc s.entries ∧
            notes.head? = some (if o.flipPending then .flip else .ready)) ∧
        ∀ later, o.flipPending = true →
          (b.after (.endFrame id)).journal = later ++ b.journal → FlipsExact flips (later ++ gained) →
          (∃ e, ((endFrame id).run b).1 = .error e) ∧ (b.after (.endFrame id)).output? id = some o ∧
            sessionOf id (later ++ gained) = some { s with entries := later ++ s.entries } ∧
            frameNotes id s.crtc later = []) := by
  intro b
  obtain ⟨gained, hgained, -, hpaced⟩ := paced_run context actions flips
  obtain ⟨gained', hgained', hholds⟩ := queueHolds_run (queueHolds_new context) actions
  obtain rfl : gained' = gained := List.append_cancel_right (hgained'.symm.trans hgained)
  refine ⟨gained', hgained, hholds, fun hexact => ?_⟩
  have hp := hpaced hexact
  refine ⟨fun id o ho => hp.session_eq_none_iff ho, fun id s hs => ?_⟩
  obtain ⟨o, ho, hc, hpending, hnotes⟩ := hp.of_session hs
  refine ⟨o, ho, hc, ⟨entries_isPrefix hs, count_ready_frameNotes id s.crtc s.entries⟩, hpending,
    fun hclean => ?_, fun later hwaiting hlater hexact' => ?_⟩
  · obtain ⟨halternate, hreported⟩ := hnotes hclean
    exact ⟨halternate.count_flip, hreported, halternate.head?⟩
  · obtain ⟨hrefused, hsame, hforeign⟩ :=
      hp.endFrame_refused ho hc hwaiting hlater (FlipsExact.append_iff.1 hexact').2
    refine ⟨hrefused, hsame, ?_, frameNotes_of_foreign hforeign⟩
    rw [sessionOf_append_of_foreign hforeign, hs, Option.map_some]

/-- A monitor was lit, the flip of its first frame was reported, and another frame was presented. -/
theorem frames_paced_second_frame :
    let b := (Backend.new oneMonitor).run
      [.scan, .commitMode ⟨0⟩ .preferred, .dispatch, .endFrame ⟨0⟩]
    ∃ gained s o, b.journal = gained ++ oneMonitor.journal ∧ FlipsExact [] gained ∧
      sessionOf ⟨0⟩ gained = some s ∧ b.output? ⟨0⟩ = some o ∧ o.cleaningUp = false ∧
      o.flipPending = true ∧ s.crtc ∈ flipsAfter [] gained ∧
      (frameNotes ⟨0⟩ s.crtc s.entries).count .flip =
        (frameNotes ⟨0⟩ s.crtc s.entries).count .ready + 1 := by
  have hexact : decide (FlipsExact [] ((Backend.new oneMonitor).run
      [.scan, .commitMode ⟨0⟩ .preferred, .dispatch, .endFrame ⟨0⟩]).journal) = true := by
    decide +kernel
  have hwaits : (((Backend.new oneMonitor).run
      [.scan, .commitMode ⟨0⟩ .preferred, .dispatch, .endFrame ⟨0⟩]).output? ⟨0⟩).any
        (fun o => o.crtc.isSome && o.flipPending && !o.cleaningUp) = true := by decide +kernel
  have h := frames_paced oneMonitor [.scan, .commitMode ⟨0⟩ .preferred, .dispatch, .endFrame ⟨0⟩] []
  generalize (Backend.new oneMonitor).run
    [.scan, .commitMode ⟨0⟩ .preferred, .dispatch, .endFrame ⟨0⟩] = b at *
  obtain ⟨gained, hgained, hholds, hpaced⟩ := h
  have hempty : gained ++ oneMonitor.journal = gained := List.append_nil gained
  rw [hgained, hempty, decide_eq_true_iff] at hexact
  obtain ⟨hsessions, hpaced⟩ := hpaced hexact
  obtain ⟨o, ho, hwaits⟩ := (Option.any_eq_true _ _).1 hwaits
  simp only [Bool.and_eq_true, Bool.not_eq_true'] at hwaits
  obtain ⟨⟨hcrtc, hpending⟩, hclean⟩ := hwaits
  cases hs : sessionOf ⟨0⟩ gained with
  | none => simp [(hsessions ⟨0⟩ o ho).1 hs] at hcrtc
  | some s =>
    obtain ⟨o', ho', -, -, hunder, hnotes, -⟩ := hpaced ⟨0⟩ s hs
    obtain rfl := Option.some.inj (ho.symm.trans ho')
    obtain ⟨hcount, -⟩ := hnotes hclean
    rw [hpending] at hcount
    exact ⟨gained, s, o, hgained, hexact, hs, ho, hclean, hpending, hunder.1 hpending, hcount⟩

end Backend
end Scanout
