import Scanout.Proofs.ClaimLedger
import Scanout.Proofs.RecordAgreement
import Scanout.SimulatedDevice

/-!
# Whose CRTCs an action programs

An action on an output programs the CRTC that the output owns, with one exception: the snapshot
that was taken when its mode was set is put back without asking who owns that CRTC by now.
`Conduct` lists what an entry of an action can be, given the claims at its moment.
-/

namespace Scanout

/-- The CRTC that a call programs. -/
def JournalEntry.target? : JournalEntry → Option CrtcHandle
  | .call (.kernel (.setCrtc commit)) _ => some commit.crtc
  | .call (.kernel (.pageFlip crtc _)) _ => some crtc
  | _ => none

/-- No output but `id` owns the CRTC that the call programs, if it programs one. -/
def JournalEntry.IsolatedFor (id : OutputId) (t : CrtcClaims) (e : JournalEntry) : Prop :=
  ∀ crtc, e.target? = some crtc → ∀ j, t.owner crtc = some j → j = id

instance (id : OutputId) (t : CrtcClaims) (e : JournalEntry) : Decidable (e.IsolatedFor id t) :=
  decidable_of_iff ((e.target?.bind t.owner).all (· == id)) (by
    simp only [Option.all_eq_true, Option.bind_eq_some_iff, beq_iff_eq]
    exact ⟨fun h crtc hc j hj => h j ⟨crtc, hc, hj⟩, fun h j ⟨crtc, hc, hj⟩ => h crtc hc j hj⟩)

/-- The call puts a snapshot that has a mode back on a connector. -/
def JournalEntry.PutsBack (connector : ConnectorHandle) (s : CrtcInfo) (e : JournalEntry) : Prop :=
  s.mode.isSome ∧ ∃ answer, e = .call (.kernel (.setCrtc (s.restoring connector))) answer

theorem JournalEntry.IsQuiet.target?_eq {e : JournalEntry} (h : e.IsQuiet) : e.target? = none := by
  unfold JournalEntry.target?
  split
  · exact h.elim
  · exact h.elim
  · rfl

theorem PutBack.puts_back {connector : ConnectorHandle} {claimed : Option CrtcHandle}
    {s : CrtcInfo} {g : List JournalEntry} (h : PutBack connector claimed (some s) g)
    (hmode : s.mode.isSome) : ∃ e ∈ g, e.PutsBack connector s := by
  have hback (answer) : JournalEntry.PutsBack connector s
      (.call (.kernel (.setCrtc (s.restoring connector))) answer) := ⟨hmode, answer, rfl⟩
  have hfilter : (some s).filter (·.mode.isSome) = some s := Option.filter_some_pos hmode
  cases h with
  | nothing hs _ => simp [hfilter] at hs
  | off hs _ => simp [hfilter] at hs
  | restored hs _ | refused hs _ =>
    obtain rfl := Option.some.inj (hfilter.symm.trans hs)
    exact ⟨_, List.mem_singleton_self _, hback _⟩
  | moved hs _ _ | refusedOff hs _ =>
    obtain rfl := Option.some.inj (hfilter.symm.trans hs)
    exact ⟨_, List.mem_cons_of_mem _ (List.mem_singleton_self _), hback _⟩

/-- What an entry of an action on `subject` can be, if `Saved` tells the snapshots that may be
put back. -/
inductive Conduct (subject : Option OutputId) (Saved : OutputId → ConnectorHandle → CrtcInfo → Prop)
    (t : CrtcClaims) : JournalEntry → Prop where
  | event (e : OutputEvent) : Conduct subject Saved t (.event e)
  | claimed {crtc id} (hid : subject = some id) (hfree : t.owner crtc = none) :
      Conduct subject Saved t (.claimed crtc id)
  | released {id} (hid : subject = some id) : Conduct subject Saved t (.released id)
  | idle {c answer} (h : (JournalEntry.call c answer).target? = none) :
      Conduct subject Saved t (.call c answer)
  | own {c answer id crtc} (hid : subject = some id)
      (h : (JournalEntry.call c answer).target? = some crtc) (howner : t.owner crtc = some id) :
      Conduct subject Saved t (.call c answer)
  | putBack {id connector s answer} (hid : subject = some id) (hsaved : Saved id connector s)
      (hmode : s.mode.isSome) :
      Conduct subject Saved t (.call (.kernel (.setCrtc (s.restoring connector))) answer)

namespace Conduct

variable {subject : Option OutputId} {Saved Saved' : OutputId → ConnectorHandle → CrtcInfo → Prop}
  {t : CrtcClaims} {e : JournalEntry} {g : List JournalEntry} {id : OutputId}

theorem mono (h : Conduct subject Saved t e) (hsaved : ∀ id c s, Saved id c s → Saved' id c s) :
    Conduct subject Saved' t e := by
  cases h with
  | event e => exact .event e
  | claimed hid hfree => exact .claimed hid hfree
  | released hid => exact .released hid
  | idle h => exact .idle h
  | own hid h howner => exact .own hid h howner
  | putBack hid hs hmode => exact .putBack hid (hsaved _ _ _ hs) hmode

theorem of_quiet (h : e.IsQuiet) : Conduct subject Saved t e := by
  cases e with
  | call c answer => exact .idle h.target?_eq
  | claimed _ _ => exact h.elim
  | released _ => exact h.elim
  | event e => exact .event e

theorem of_putBack {connector : ConnectorHandle} {claimed : Option CrtcHandle}
    {saved : Option CrtcInfo} (h : PutBack connector claimed saved g)
    (howner : ∀ crtc, claimed = some crtc → t.owner crtc = some id)
    (hsaved : ∀ s, saved = some s → Saved id connector s) :
    ∀ e ∈ g, Conduct (some id) Saved t e := by
  have hoff {crtc answer} (hc : claimed = some crtc) :
      Conduct (some id) Saved t (.call (.kernel (.setCrtc (.switchOff crtc))) answer) :=
    .own rfl rfl (howner crtc hc)
  have hback {s answer} (hs : saved.filter (·.mode.isSome) = some s) :
      Conduct (some id) Saved t (.call (.kernel (.setCrtc (s.restoring connector))) answer) := by
    obtain ⟨hs, hmode⟩ := Option.filter_eq_some_iff.1 hs
    exact .putBack rfl (hsaved s hs) hmode
  cases h with
  | nothing _ _ => simp
  | off _ hc => simpa using hoff hc
  | restored hs _ => simpa using hback hs
  | moved hs hc _ => simpa using ⟨hoff hc, hback hs⟩
  | refused hs _ => simpa using hback hs
  | refusedOff hs hc => simpa using ⟨hoff hc, hback hs⟩

theorem of_destroys {s : SurfaceId} (h : Destroys s g) : ∀ e ∈ g, Conduct subject Saved t e := by
  intro e he
  rcases h e he with hquiet | ⟨d, rfl⟩
  · exact .of_quiet hquiet
  · exact .idle rfl

theorem of_frameTried {connector : ConnectorHandle} {crtc : CrtcHandle} {mode : DisplayMode}
    {shown : Option FramebufferId} (h : FrameTried connector crtc mode shown g)
    (howner : t.owner crtc = some id) : ∀ e ∈ g, Conduct (some id) Saved t e := by
  have hcommit {fb answer} : Conduct (some id) Saved t
      (.call (.kernel (.setCrtc ⟨crtc, fb, (0, 0), [connector], some mode⟩)) answer) :=
    .own rfl rfl howner
  have hflip {fb answer} : Conduct (some id) Saved t
      (.call (.kernel (.pageFlip crtc fb)) answer) := .own rfl rfl howner
  cases h with
  | undrawn => simp
  | refused _ _ => simpa using hcommit
  | unflipped _ _ => simpa using ⟨hflip, hcommit⟩
  | shown _ => simpa using ⟨hflip, hcommit⟩

theorem of_flipAttempt {crtc : CrtcHandle} {shown : Option FramebufferId}
    (h : FlipAttempt crtc shown g) (howner : t.owner crtc = some id) :
    ∀ e ∈ g, Conduct (some id) Saved t e := by
  have hflip {fb answer} : Conduct (some id) Saved t
      (.call (.kernel (.pageFlip crtc fb)) answer) := .own rfl rfl howner
  cases h with
  | unmade => simp
  | refused _ _ => simpa using hflip
  | accepted _ => simpa using hflip

/-- An action on one output leaves the claims of the others alone. -/
theorem owner_note (h : Conduct (some id) Saved t e) {j : OutputId} (hj : j ≠ id) (c : CrtcHandle) :
    (t.note e).owner c = some j ↔ t.owner c = some j := by
  cases h with
  | event _ | idle _ | own _ _ _ | putBack _ _ _ => rfl
  | claimed hid hfree => exact t.owner_claim_of_ne (Option.some.inj hid ▸ hj) hfree c
  | released hid => exact t.owner_release_of_ne (Option.some.inj hid ▸ hj) c

theorem owner_noting (h : Each (fun earlier => Conduct (some id) Saved (t.noting earlier)) g)
    {j : OutputId} (hj : j ≠ id) (c : CrtcHandle) :
    (t.noting g).owner c = some j ↔ t.owner c = some j := by
  induction g with
  | nil => rfl
  | cons e g ih => exact (h.1.owner_note hj c).trans (ih h.2)

theorem target?_eq_none (h : Conduct none Saved t e) : e.target? = none := by
  cases h with
  | event _ => rfl
  | idle h => exact h
  | claimed hid _ | released hid | own hid _ _ | putBack hid _ _ => contradiction

/-- An entry keeps to the CRTCs of its output unless it puts a snapshot back on a CRTC that was
another output's from the beginning. -/
theorem isolated_iff {t₀ : CrtcClaims} (h : Conduct (some id) Saved t e)
    (hothers : ∀ c, ∀ j ≠ id, t.owner c = some j ↔ t₀.owner c = some j) :
    e.IsolatedFor id t ↔ ¬∃ connector s, Saved id connector s ∧ e.PutsBack connector s ∧
      ∃ j ≠ id, t₀.owner s.handle = some j := by
  constructor
  · rintro hiso ⟨connector, s, -, ⟨-, answer, rfl⟩, j, hj, howner⟩
    exact hj (hiso s.handle rfl j ((hothers _ j hj).2 howner))
  · intro hnone crtc htarget j howner
    cases h with
    | event _ | claimed _ _ | released _ => contradiction
    | idle hidle =>
      rw [hidle] at htarget
      contradiction
    | own hid hown howner' =>
      obtain rfl := Option.some.inj (hown.symm.trans htarget)
      rw [howner, Option.some_inj] at howner'
      exact howner'.trans (Option.some.inj hid).symm
    | @putBack _ connector s answer hid hsaved hmode =>
      obtain rfl := Option.some.inj hid
      obtain rfl : s.handle = crtc := Option.some.inj htarget
      refine Classical.byContradiction fun hj => hnone ?_
      exact ⟨connector, s, hsaved, ⟨hmode, answer, rfl⟩, j, hj, (hothers _ j hj).1 howner⟩

end Conduct

/-- The record is what became of another one: it is that of the same connector, and its snapshot
is the same or was read in between. -/
def Output.SavedFrom (g : List JournalEntry) (o o' : Output) : Prop :=
  o'.connector = o.connector ∧ ∀ s, o'.savedCrtc = some s →
    o.savedCrtc = some s ∨ ∃ c, .call (.kernel (.crtc c)) (.ok s) ∈ g

namespace Backend

variable {W : World} {a : BackendAction} {b b₁ b' : Backend W} {g g' : List JournalEntry}
  {id : OutputId} {o o' : Output}

/-- The snapshots that an action may put back for an output: that of its record, and what it
reads itself. -/
def Snapshot (b : Backend W) (g : List JournalEntry) (id : OutputId) (connector : ConnectorHandle)
    (s : CrtcInfo) : Prop :=
  ∃ o, b.output? id = some o ∧ o.connector = connector ∧
    (o.savedCrtc = some s ∨ ∃ c, .call (.kernel (.crtc c)) (.ok s) ∈ g)

theorem SurfaceTried.conduct {connector : ConnectorHandle} {crtc : CrtcHandle}
    {saved : Option CrtcInfo} {mode : DisplayMode} {r : Except ModesetError Unit}
    {Saved : OutputId → ConnectorHandle → CrtcInfo → Prop} {t : CrtcClaims}
    (h : SurfaceTried id connector crtc saved mode b r g b') (howner : t.owner crtc = some id)
    (hsaved : ∀ s, saved = some s → Saved id connector s) :
    ∀ e ∈ g, Conduct (some id) Saved t e := by
  cases h with
  | unmade h => exact fun e he => .of_quiet (h.quiet e he)
  | undone _ htried hcore hback hdestroy _ =>
    intro e he
    rw [List.mem_append, List.mem_append] at he
    rcases he with (he | he) | he
    · exact Conduct.of_destroys hdestroy e he
    · exact Conduct.of_putBack hback (fun _ hc => Option.some.inj hc ▸ howner) hsaved e he
    · exact hcore.forall_mem (Conduct.of_frameTried htried howner) (fun _ => .of_quiet) e he
  | shown _ _ htried hcore _ =>
    exact hcore.forall_mem (Conduct.of_frameTried htried howner) fun _ => .of_quiet

/-- From the claim on, an attempt to set a mode programs the CRTC that it has claimed. -/
theorem ModesetTried.conduct {r : Except ModesetError Unit} (ho : b.output? id = some o)
    (h : ModesetTried id o.connector b r g b') :
    Each (fun earlier => Conduct (some id) (b.Snapshot g) (b.claims.noting earlier)) g := by
  cases h with
  | unclaimed h =>
    exact .of_keeps (fun e he => (h.quiet e he).keepsClaims) fun e he => .of_quiet (h.quiet e he)
  | claimed hk h =>
    rw [Each.append_iff]
    refine ⟨?_, ?_, .of_keeps hk.keepsClaims fun e he => .of_quiet (hk.quiet e he)⟩
    · simp only [CrtcClaims.noting_append, hk.noting_claimed]
      refine .of_keeps h.keepsClaims (h.conduct ?_ fun s hs => ?_)
      · rw [b.claims.owner_claim id hk.free, if_pos rfl]
      · obtain ⟨c, hc⟩ := hk.snapshot s hs
        exact ⟨o, ho, rfl, .inr ⟨c, by simp [hc]⟩⟩
    · refine .claimed rfl ?_
      rw [CrtcClaims.noting_of_keeps hk.keepsClaims]
      exact hk.free

theorem Snapshot.mono {connector : ConnectorHandle} {s : CrtcInfo} (hsub : g ⊆ g')
    (h : b.Snapshot g id connector s) : b.Snapshot g' id connector s := by
  obtain ⟨o, ho, hc, hs⟩ := h
  exact ⟨o, ho, hc, hs.imp_right fun ⟨c, hc⟩ => ⟨c, hsub hc⟩⟩

/-- A call that is followed by events, if it programs nothing. -/
private theorem conduct_told {subject : Option OutputId} {t : CrtcClaims}
    {Saved : OutputId → ConnectorHandle → CrtcInfo → Prop} {events : List OutputEvent} {c : Call}
    {answer : c.Answer} (h : (JournalEntry.call c answer).target? = none) :
    Each (fun earlier => Conduct subject Saved (t.noting earlier))
      (events.map .event ++ [.call c answer]) := by
  refine .of_keeps (fun e he => ?_) fun e he => ?_
  · rcases JournalEntry.mem_told he with ⟨event, rfl⟩ | rfl <;> trivial
  · rcases JournalEntry.mem_told he with ⟨event, rfl⟩ | rfl
    · exact .event event
    · exact .idle h

/-- Every entry of a stage is one that `Conduct` allows at its moment. -/
theorem Stage.conduct (h : Stage a b g b') (hb : b.Agrees) :
    Each (fun earlier => Conduct a.subject (b.Snapshot g) (b.claims.noting earlier)) g := by
  cases h with
  | quiet h =>
    exact .of_keeps (fun e he => (h.quiet e he).keepsClaims) fun e he => .of_quiet (h.quiet e he)
  | retimed _ _ => trivial
  | slotted _ _ _ => trivial
  | read _ _ _ => exact conduct_told rfl
  | completed _ =>
    rw [readyEntries_eq]
    exact conduct_told rfl
  | cleaning _ _ _ => trivial
  | undrained _ _ _ _ => exact ⟨.event _, trivial⟩
  | @released id o s g₁ g₂ _ ha ho _ _ hback hdestroy _ =>
    rw [ha]
    refine ⟨.released rfl, .of_keeps (g := g₂ ++ g₁) (fun e he => ?_) fun e he => ?_⟩
    · exact (List.mem_append.1 he).elim (hdestroy.keepsClaims e) (hback.keepsClaims e)
    · rcases List.mem_append.1 he with he | he
      · exact Conduct.of_destroys hdestroy e he
      · refine Conduct.of_putBack hback (fun c hc => ?_) (fun s hs => ?_) e he
        · exact (hb.owner c id).2 ⟨o, ho, hc⟩
        · exact ⟨o, ho, rfl, .inl hs⟩
  | set ha ho _ h => exact ha ▸ h.conduct ho
  | reverted ha ho _ h _ =>
    rw [ha]
    refine ⟨.event _, .released rfl, (h.conduct ho).imp fun _ _ hc => hc.mono fun _ _ _ hs => ?_⟩
    exact hs.mono (by simp)
  | refused ha _ _ _ => exact ⟨.event _, .released (ha ▸ rfl), trivial⟩
  | flipped ha ho _ hc hflip hcore _ =>
    rw [ha]
    have howner := (hb.owner _ _).2 ⟨_, ho, hc⟩
    exact .of_keeps (hcore.keepsClaims hflip.keepsClaims)
      (hcore.forall_mem (Conduct.of_flipAttempt hflip howner) fun _ => .of_quiet)
  | unflipped ha ho _ hc hflip hcore _ =>
    rw [ha]
    have howner := (hb.owner _ _).2 ⟨_, ho, hc⟩
    exact .of_keeps (hcore.keepsClaims hflip.keepsClaims)
      (hcore.forall_mem (Conduct.of_flipAttempt hflip howner) fun _ => .of_quiet)

def Descends (b : Backend W) (g : List JournalEntry) (b' : Backend W) : Prop :=
  ∀ id o', b'.output? id = some o' → ∃ o, b.output? id = some o ∧ o.SavedFrom g o'

namespace Descends

theorem of_same (h : SameBooks b b') : Descends b g b' := fun id o' ho' =>
  ⟨o', h.output? id ▸ ho', rfl, fun _ hs => .inl hs⟩

theorem of_modify {f : Output → Output} (h : b'.outputs = b.outputs.modify id.slot f)
    (hf : ∀ o, b.output? id = some o → o.SavedFrom g (f o)) : Descends b g b' := by
  intro j o' ho'
  rw [output?_modify h] at ho'
  split at ho'
  · next hj =>
    subst hj
    obtain ⟨o, ho, rfl⟩ := Option.map_eq_some_iff.1 ho'
    exact ⟨o, ho, hf o ho⟩
  · exact ⟨o', ho', rfl, fun _ hs => .inl hs⟩

theorem of_elsewhere (h : SameElsewhere id b b') (ho : b.output? id = some o)
    (ho' : b'.output? id = some o') (hsaved : o.SavedFrom g o') : Descends b g b' := by
  intro j o₁ ho₁
  by_cases hj : j = id
  · subst hj
    obtain rfl := Option.some.inj (ho'.symm.trans ho₁)
    exact ⟨o, ho, hsaved⟩
  · exact ⟨o₁, h.outputs j hj ▸ ho₁, rfl, fun _ hs => .inl hs⟩

/-- An action on an output adds no slots. -/
theorem of_stage (ha : a.subject = some id) (h : Stage a b g b') : Descends b g b' := by
  cases h with
  | quiet h => exact .of_same h.same
  | retimed _ _ => exact fun _ o' ho' => ⟨o', ho', rfl, fun _ hs => .inl hs⟩
  | slotted _ hscan _ =>
    subst hscan
    contradiction
  | read hscan _ _ =>
    subst hscan
    contradiction
  | completed h =>
    intro j o' ho'
    rw [h.output?, output?_completed] at ho'
    obtain ⟨o, ho, rfl⟩ := Option.map_eq_some_iff.1 ho'
    exact ⟨o, ho, rfl, fun _ hs => .inl hs⟩
  | cleaning _ _ _ => exact .of_modify rfl fun _ _ => ⟨rfl, fun _ hs => .inl hs⟩
  | undrained _ _ _ h => exact .of_modify h.outputs fun _ _ => ⟨rfl, fun _ hs => .inl hs⟩
  | released _ _ _ _ _ _ h => exact .of_modify h.outputs fun _ _ => ⟨rfl, nofun⟩
  | set _ ho _ h =>
    obtain ⟨k, s, fb, -, -, ho', -, -, hread⟩ := h.ok_books ho
    exact .of_elsewhere h.elsewhere ho ho' ⟨rfl, fun s hs => .inr (hread s hs)⟩
  | reverted _ ho _ h h' =>
    obtain ⟨o₁, ho₁, hrecord⟩ := h.error_record ho
    refine .of_elsewhere (h.elsewhere.trans (.of_release h')) ho
      (output?_modify_self h'.outputs ho₁) ⟨?_, nofun⟩
    rcases hrecord with rfl | ⟨k, rfl⟩ <;> rfl
  | refused _ _ _ h => exact .of_modify h.outputs fun _ _ => ⟨rfl, nofun⟩
  | flipped _ _ _ _ _ _ h => exact .of_modify h.outputs fun _ _ => ⟨rfl, fun _ hs => .inl hs⟩
  | unflipped _ _ _ _ _ _ h => exact .of_same h

end Descends

/-- A snapshot that may be put back later is the record's own or was read in between. -/
theorem Snapshot.of_descends {connector : ConnectorHandle} {s : CrtcInfo} (h : Descends b g b₁)
    (hs : b₁.Snapshot g' id connector s) : b.Snapshot (g' ++ g) id connector s := by
  obtain ⟨o₁, ho₁, hconn, hsaved⟩ := hs
  obtain ⟨o, ho, hconn₁, hsaved₁⟩ := h id o₁ ho₁
  refine ⟨o, ho, hconn₁.symm.trans hconn, ?_⟩
  rcases hsaved with hs | ⟨c, hc⟩
  · exact (hsaved₁ s hs).imp_right fun ⟨c, hc⟩ => ⟨c, List.mem_append_right _ hc⟩
  · exact .inr ⟨c, List.mem_append_left _ hc⟩

/-- What a later stage may put back is traced back to the record at the beginning. -/
theorem Stages.conduct (h : Stages a b g b') (hb : b.Agrees) (ha : a.subject = some id) :
    Each (fun earlier => Conduct (some id) (b.Snapshot g) (b.claims.noting earlier)) g := by
  induction h with
  | nil => trivial
  | cons h₀ _ ih =>
    rw [Each.append_iff]
    simp only [CrtcClaims.noting_append, ← h₀.claims_noting]
    constructor
    · exact (ih (hb.step h₀)).imp fun _ _ hc => hc.mono fun _ _ _ hs =>
        hs.of_descends (.of_stage ha h₀)
    · rw [← ha]
      exact (h₀.conduct hb).imp fun _ _ hc => hc.mono fun _ _ _ hs =>
        hs.mono (List.subset_append_right _ _)

theorem Stages.target?_eq_none (h : Stages a b g b') (hb : b.Agrees) (ha : a.subject = none) :
    ∀ e ∈ g, e.target? = none := by
  induction h with
  | nil => simp
  | cons h₀ _ ih =>
    intro e he
    rcases List.mem_append.1 he with he | he
    · exact ih (hb.step h₀) e he
    · obtain ⟨later, earlier, heq⟩ := List.append_of_mem he
      have hconduct := Each.iff_forall.1 (h₀.conduct hb) later e earlier heq
      rw [ha] at hconduct
      exact hconduct.target?_eq_none

theorem TeardownTried.puts_back {s : CrtcInfo} (h : TeardownTried a id b (.ok ()) g b')
    (ho : b.output? id = some o) (hsurface : o.surface.isSome) (hs : o.savedCrtc = some s)
    (hmode : s.mode.isSome) : ∃ e ∈ g, e.PutsBack o.connector s := by
  cases h with
  | bare ho₁ hs₁ =>
    obtain rfl := Option.some.inj (ho.symm.trans ho₁)
    simp [hs₁] at hsurface
  | released ho₁ _ _ _ hback _ _ =>
    obtain rfl := Option.some.inj (ho.symm.trans ho₁)
    rw [hs] at hback
    obtain ⟨e, he, hputs⟩ := hback.puts_back hmode
    exact ⟨e, by simp [he], hputs⟩

/-- A call of an action on an output programs a CRTC that another output owns exactly if it puts
a snapshot back on a CRTC that was the other output's when the action began. Tearing down does
put the snapshot back, and actions on no output program nothing. -/
theorem isolated_unless_put_back (context : RenderContext W) (actions : List BackendAction)
    (a : BackendAction) :
    let b := (Backend.new context).run actions
    ∃ gained, (b.after a).journal = gained ++ b.journal ∧
      (b.after a).claims = b.claims.noting gained ∧
      (a.subject = none → ∀ e ∈ gained, e.target? = none) ∧
      (∀ id, a.subject = some id →
        Each (fun earlier e => e.IsolatedFor id (b.claims.noting earlier) ↔
          ¬∃ connector s, b.Snapshot gained id connector s ∧ e.PutsBack connector s ∧
            ∃ j ≠ id, b.claims.owner s.handle = some j) gained) ∧
      ∀ id o s, a = .teardownOutput id → ((teardownOutput id).run b).1 = .ok () →
        b.output? id = some o → o.surface.isSome → o.savedCrtc = some s → s.mode.isSome →
          ∃ e ∈ gained, e.PutsBack o.connector s := by
  intro b
  have hb : b.Agrees := (Agrees.new context).run actions
  obtain ⟨gained, hjournal, hstages⟩ := stages_after b a
  refine ⟨gained, hjournal, hstages.claims_noting, hstages.target?_eq_none hb, ?_, ?_⟩
  · intro id ha
    have hconduct := hstages.conduct hb ha
    rw [Each.iff_forall]
    intro later e earlier hsplit
    have hmoment := hconduct
    rw [hsplit, Each.append_iff] at hmoment
    exact (Each.iff_forall.1 hconduct later e earlier hsplit).isolated_iff
      fun c j hj => Conduct.owner_noting hmoment.2.2 hj c
  · rintro id o s rfl hok ho hsurface hs hmode
    obtain ⟨g, hg, htried⟩ := yields_teardownOutput (a := .teardownOutput id) rfl b
    rw [hok] at htried
    obtain rfl : gained = g := List.append_cancel_right (hjournal.symm.trans hg)
    exact htried.puts_back ho hsurface hs hmode

/-- A rendering context on a device with two monitors. The first one is lit through a CRTC that
the second one needs. -/
def twoMonitors : RenderContext SimulatedDevice.world :=
  let mode : DisplayMode := ⟨0, 1920, 0, 0, 0, 0, 1080, 0, 0, 0, 0, 60, 0, 0, "m"⟩
  { world :=
      { faults := []
        kernel := .new
          [⟨⟨10⟩, .hdmiA, 1, .connected, [mode], [⟨20⟩], some ⟨20⟩⟩,
            ⟨⟨11⟩, .hdmiA, 2, .connected, [mode], [⟨21⟩], none⟩]
          [⟨⟨20⟩, some ⟨31⟩, 3⟩, ⟨⟨21⟩, none, 2⟩]
          [⟨⟨30⟩, none, (0, 0), none⟩, ⟨⟨31⟩, some ⟨7⟩, (0, 0), some mode⟩]
        gpu := .new SimulatedGpu.defaultVisuals 2 }
    journal := []
    handles := some ⟨⟨1⟩, ⟨1⟩, ⟨1⟩, ⟨1⟩⟩
    chains := .empty }

/-- Both monitors were lit, the first one through another CRTC than before. -/
def rerouted : Backend SimulatedDevice.world :=
  (Backend.new twoMonitors).run
    [.scan, .commitMode ⟨0⟩ .preferred, .commitMode ⟨1⟩ .preferred, .dispatch]

/-- Tearing the first output down programs the CRTC that the second one owns. -/
theorem not_isolated_after_reroute :
    ¬∀ gained, (rerouted.after (.teardownOutput ⟨0⟩)).journal = gained ++ rerouted.journal →
      Each (fun earlier e => e.IsolatedFor ⟨0⟩ (rerouted.claims.noting earlier)) gained := by
  intro h
  obtain ⟨g, hg, -⟩ := stages_after rerouted (.teardownOutput ⟨0⟩)
  have hgained : g = (rerouted.after (.teardownOutput ⟨0⟩)).journal.take
      ((rerouted.after (.teardownOutput ⟨0⟩)).journal.length - rerouted.journal.length) := by
    rw [hg]
    simp
  have hviolated : ¬Each (fun earlier e => e.IsolatedFor ⟨0⟩ (rerouted.claims.noting earlier))
      ((rerouted.after (.teardownOutput ⟨0⟩)).journal.take
        ((rerouted.after (.teardownOutput ⟨0⟩)).journal.length - rerouted.journal.length)) := by
    decide +kernel
  rw [← hgained] at hviolated
  exact hviolated (h g hg)

end Backend
end Scanout
