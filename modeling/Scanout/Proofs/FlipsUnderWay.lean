import Scanout.Proofs.ClaimLedger
import Scanout.Proofs.HeldSurfaces

/-!
# Flips that are under way

A flip is under way from the moment the kernel accepts it until the kernel reports that it
completed. Records are told of neither; what they have is a flag that is set when a flip is
accepted and cleared when one is reported for a CRTC that is claimed. The two agree as long as
the kernel accepts no second flip on a CRTC, and so nothing is given up under a flip.
-/

namespace Scanout

/-- The flips under way after an entry. A report ends one flip on its CRTC. -/
def JournalEntry.noteFlip (flips : List CrtcHandle) : JournalEntry → List CrtcHandle
  | .call (.kernel (.pageFlip crtc _)) (.ok _) => crtc :: flips
  | .call (.kernel .receive) (.ok completions) => completions.foldl (·.erase ·.crtc) flips
  | _ => flips

def flipsAfter (flips : List CrtcHandle) : List JournalEntry → List CrtcHandle
  | [] => flips
  | e :: earlier => e.noteFlip (flipsAfter flips earlier)

/-- The flips under way after the entries of a session in which none was under way before. -/
def flipsUnderWay (gained : List JournalEntry) : List CrtcHandle := flipsAfter [] gained

/-- If the entry is an accepted flip, none was under way on its CRTC. -/
def JournalEntry.AcceptsFree (flips : List CrtcHandle) : JournalEntry → Prop
  | .call (.kernel (.pageFlip crtc _)) (.ok _) => crtc ∉ flips
  | _ => True

instance (flips : List CrtcHandle) : DecidablePred (JournalEntry.AcceptsFree flips) := fun e => by
  unfold JournalEntry.AcceptsFree
  split <;> infer_instance

/-- The kernel accepted a flip only where none was under way. -/
def FlipsHonest (gained : List JournalEntry) : Prop :=
  Each (fun earlier e => e.AcceptsFree (flipsUnderWay earlier)) gained

instance : DecidablePred FlipsHonest := Each.decidable

/-- The entry gives nothing up that a flip under way needs: no CRTC is released or assigned
anew, and no surface of the output that the action is about is destroyed. -/
def JournalEntry.SparesFlips (subject : Option OutputId) (t : CrtcClaims)
    (flips : List CrtcHandle) : JournalEntry → Prop
  | .released id => ∀ c ∈ flips, t.owner c ≠ some id
  | .claimed crtc _ => crtc ∉ flips
  | .call (.gpu (.destroySurface _ _)) _ =>
    ∃ id, subject = some id ∧ ∀ c ∈ flips, t.owner c ≠ some id
  | _ => True

/-- No entry gives anything up that a flip under way at its moment needs. -/
def FlipsSpared (subject : Option OutputId) (t : CrtcClaims) (flips : List CrtcHandle)
    (gained : List JournalEntry) : Prop :=
  Each (fun earlier e => e.SparesFlips subject (t.noting earlier) (flipsAfter flips earlier)) gained

def JournalEntry.KeepsFlips (e : JournalEntry) : Prop := ∀ flips, e.noteFlip flips = flips

theorem JournalEntry.IsQuiet.keepsFlips {e : JournalEntry} (h : e.IsQuiet) : e.KeepsFlips := by
  intro flips
  unfold JournalEntry.noteFlip
  split
  · exact h.elim
  · simp [JournalEntry.IsQuiet, Except.isOk, Except.toBool] at h
  · rfl

theorem JournalEntry.IsQuiet.sparesFlips {e : JournalEntry} (h : e.IsQuiet)
    (subject : Option OutputId) (t : CrtcClaims) (flips : List CrtcHandle) :
    e.SparesFlips subject t flips := by
  unfold JournalEntry.SparesFlips
  split
  · exact h.elim
  · exact h.elim
  · exact h.elim
  · trivial

def JournalEntry.destroyed? : JournalEntry → Option SurfaceId
  | .call (.gpu (.destroySurface _ s)) _ => some s
  | _ => none

theorem JournalEntry.IsQuiet.destroyed?_eq {e : JournalEntry} (h : e.IsQuiet) :
    e.destroyed? = none := by
  unfold JournalEntry.destroyed?
  split
  · exact h.elim
  · rfl

theorem flipsAfter_append (flips : List CrtcHandle) (g g' : List JournalEntry) :
    flipsAfter flips (g' ++ g) = flipsAfter (flipsAfter flips g) g' := by
  induction g' with
  | nil => rfl
  | cons e g' ih => rw [List.cons_append, flipsAfter, ih, flipsAfter]

theorem flipsAfter_of_keeps {g : List JournalEntry} (h : ∀ e ∈ g, e.KeepsFlips)
    (flips : List CrtcHandle) : flipsAfter flips g = flips := by
  induction g with
  | nil => rfl
  | cons e g ih =>
    rw [flipsAfter, ih fun e' he' => h e' (List.mem_cons_of_mem _ he')]
    exact h e (by simp) flips

namespace FlipsSpared

variable {subject : Option OutputId} {t : CrtcClaims} {flips : List CrtcHandle}
  {g g' : List JournalEntry}

theorem append_iff : FlipsSpared subject t flips (g' ++ g) ↔
    FlipsSpared subject (t.noting g) (flipsAfter flips g) g' ∧ FlipsSpared subject t flips g := by
  simp only [FlipsSpared, Each.append_iff, CrtcClaims.noting_append, flipsAfter_append]

theorem of_forall (h : ∀ e ∈ g, ∀ t flips, e.SparesFlips subject t flips) :
    FlipsSpared subject t flips g := by
  rw [FlipsSpared, Each.iff_forall]
  rintro later e earlier rfl
  exact h e (by simp) _ _

theorem of_quiet (h : ∀ e ∈ g, e.IsQuiet) : FlipsSpared subject t flips g :=
  .of_forall fun e he => (h e he).sparesFlips subject

/-- While nothing is claimed and no flip is accepted, a moment is like the beginning. -/
theorem of_still (hclaims : ∀ e ∈ g, e.KeepsClaims) (hflips : ∀ e ∈ g, e.KeepsFlips)
    (h : ∀ e ∈ g, e.SparesFlips subject t flips) : FlipsSpared subject t flips g := by
  rw [FlipsSpared, Each.iff_forall]
  rintro later e earlier rfl
  rw [CrtcClaims.noting_of_keeps fun e' he' => hclaims e' (by simp [he']),
    flipsAfter_of_keeps fun e' he' => hflips e' (by simp [he'])]
  exact h e (by simp)

theorem told {events : List OutputEvent} {c : Call} {answer : c.Answer}
    (h : ∀ t flips, (JournalEntry.call c answer).SparesFlips subject t flips) :
    FlipsSpared subject t flips (events.map .event ++ [.call c answer]) := by
  refine .of_forall fun e he t flips => ?_
  rcases JournalEntry.mem_told he with ⟨event, rfl⟩ | rfl
  · trivial
  · exact h t flips

end FlipsSpared

theorem mem_foldl_erase {flips : List CrtcHandle} (h : flips.Nodup)
    (completions : List FlipCompletion) (c : CrtcHandle) :
    c ∈ completions.foldl (·.erase ·.crtc) flips ↔ c ∈ flips ∧ ∀ k ∈ completions, k.crtc ≠ c := by
  induction completions generalizing flips with
  | nil => simp
  | cons k others ih =>
    rw [List.foldl_cons, ih (h.erase _), h.mem_erase_iff, List.forall_mem_cons]
    constructor
    · rintro ⟨⟨hne, hmem⟩, hall⟩
      exact ⟨hmem, hne.symm, hall⟩
    · rintro ⟨hmem, hne, hall⟩
      exact ⟨⟨hne.symm, hmem⟩, hall⟩

theorem nodup_foldl_erase {flips : List CrtcHandle} (h : flips.Nodup)
    (completions : List FlipCompletion) : (completions.foldl (·.erase ·.crtc) flips).Nodup := by
  induction completions generalizing flips with
  | nil => exact h
  | cons k others ih => exact ih (h.erase _)

theorem PutBack.keepsFlips {connector : ConnectorHandle} {claimed : Option CrtcHandle}
    {saved : Option CrtcInfo} {g : List JournalEntry} (h : PutBack connector claimed saved g) :
    ∀ e ∈ g, e.KeepsFlips := by
  cases h <;> simp [JournalEntry.KeepsFlips, JournalEntry.noteFlip]

theorem PutBack.sparesFlips {connector : ConnectorHandle} {claimed : Option CrtcHandle}
    {saved : Option CrtcInfo} {g : List JournalEntry} (h : PutBack connector claimed saved g)
    (subject : Option OutputId) (t : CrtcClaims) (flips : List CrtcHandle) :
    ∀ e ∈ g, e.SparesFlips subject t flips := by
  cases h <;> simp [JournalEntry.SparesFlips]

theorem PutBack.destroyed?_eq {connector : ConnectorHandle} {claimed : Option CrtcHandle}
    {saved : Option CrtcInfo} {g : List JournalEntry} (h : PutBack connector claimed saved g) :
    ∀ e ∈ g, e.destroyed? = none := by
  cases h <;> simp [JournalEntry.destroyed?]

theorem Destroys.keepsFlips {s : SurfaceId} {g : List JournalEntry} (h : Destroys s g) :
    ∀ e ∈ g, e.KeepsFlips := by
  intro e he
  rcases h e he with hquiet | ⟨d, rfl⟩
  · exact hquiet.keepsFlips
  · exact fun _ => rfl

theorem Destroys.sparesFlips {s : SurfaceId} {g : List JournalEntry} (h : Destroys s g)
    {id : OutputId} {t : CrtcClaims} {flips : List CrtcHandle}
    (hspared : ∀ c ∈ flips, t.owner c ≠ some id) : ∀ e ∈ g, e.SparesFlips (some id) t flips := by
  intro e he
  rcases h e he with hquiet | ⟨d, rfl⟩
  · exact hquiet.sparesFlips _ _ _
  · exact ⟨id, rfl, hspared⟩

theorem FrameTried.keepsFlips {connector : ConnectorHandle} {crtc : CrtcHandle}
    {mode : DisplayMode} {g : List JournalEntry} (h : FrameTried connector crtc mode none g) :
    ∀ e ∈ g, e.KeepsFlips := by
  cases h <;> simp [JournalEntry.KeepsFlips, JournalEntry.noteFlip]

theorem FrameTried.sparesFlips {connector : ConnectorHandle} {crtc : CrtcHandle}
    {mode : DisplayMode} {shown : Option FramebufferId} {g : List JournalEntry}
    (h : FrameTried connector crtc mode shown g) (subject : Option OutputId) (t : CrtcClaims)
    (flips : List CrtcHandle) : ∀ e ∈ g, e.SparesFlips subject t flips := by
  cases h <;> simp [JournalEntry.SparesFlips]

theorem FrameTried.destroyed?_eq {connector : ConnectorHandle} {crtc : CrtcHandle}
    {mode : DisplayMode} {shown : Option FramebufferId} {g : List JournalEntry}
    (h : FrameTried connector crtc mode shown g) : ∀ e ∈ g, e.destroyed? = none := by
  cases h <;> simp [JournalEntry.destroyed?]

theorem FlipAttempt.destroyed?_eq {crtc : CrtcHandle} {shown : Option FramebufferId}
    {g : List JournalEntry} (h : FlipAttempt crtc shown g) : ∀ e ∈ g, e.destroyed? = none := by
  cases h <;> simp [JournalEntry.destroyed?]

theorem FlipAttempt.keepsFlips {crtc : CrtcHandle} {g : List JournalEntry}
    (h : FlipAttempt crtc none g) : ∀ e ∈ g, e.KeepsFlips := by
  cases h <;> simp [JournalEntry.KeepsFlips, JournalEntry.noteFlip]

theorem FlipAttempt.sparesFlips {crtc : CrtcHandle} {shown : Option FramebufferId}
    {g : List JournalEntry} (h : FlipAttempt crtc shown g) (subject : Option OutputId)
    (t : CrtcClaims) (flips : List CrtcHandle) : ∀ e ∈ g, e.SparesFlips subject t flips := by
  cases h <;> simp [JournalEntry.SparesFlips]

theorem FlipAttempt.spared {crtc : CrtcHandle} {shown : Option FramebufferId}
    {core g : List JournalEntry} {subject : Option OutputId} {t : CrtcClaims}
    {flips : List CrtcHandle} (h : FlipAttempt crtc shown core) (hcore : Amid core g) :
    FlipsSpared subject t flips g :=
  .of_forall fun e he t flips => hcore.forall_mem (h.sparesFlips subject t flips)
    (fun _ hq => hq.sparesFlips subject t flips) e he

theorem Amid.flipsAfter {core g : List JournalEntry} (h : Amid core g)
    (flips : List CrtcHandle) : flipsAfter flips g = Scanout.flipsAfter flips core := by
  obtain ⟨before, after, hbefore, hafter, rfl⟩ := h
  rw [flipsAfter_append, flipsAfter_append,
    flipsAfter_of_keeps fun e he => (hbefore e he).keepsFlips,
    flipsAfter_of_keeps fun e he => (hafter e he).keepsFlips]

/-- A flip that is accepted amid quiet entries found none under way. -/
theorem FlipAttempt.notMem {crtc : CrtcHandle} {fb : FramebufferId} {core g : List JournalEntry}
    {flips : List CrtcHandle} (h : FlipAttempt crtc (some fb) core) (hcore : Amid core g)
    (hhonest : Each (fun earlier e => e.AcceptsFree (flipsAfter flips earlier)) g) :
    crtc ∉ flips := by
  obtain ⟨before, after, hbefore, -, rfl⟩ := hcore
  cases h
  have hmoment := Each.iff_forall.1 hhonest after (.call (.kernel (.pageFlip crtc fb)) (.ok ()))
    before (by simp)
  rwa [flipsAfter_of_keeps fun e he => (hbefore e he).keepsFlips] at hmoment

namespace Backend

variable {W : World} {a : BackendAction} {b b₁ b' : Backend W} {g g' : List JournalEntry}
  {id : OutputId} {o o' : Output} {c : CrtcHandle} {flips : List CrtcHandle}

/-- An output waits for a flip on the CRTC to complete. -/
def AwaitsOn (b : Backend W) (c : CrtcHandle) : Prop :=
  ∃ id o, b.output? id = some o ∧ o.crtc = some c ∧ o.flipPending = true

/-- The flips under way are those that outputs wait for. -/
structure FlipsAgree (flips : List CrtcHandle) (b : Backend W) : Prop where
  nodup : flips.Nodup
  mem_iff : ∀ c, c ∈ flips ↔ b.AwaitsOn c

theorem awaitsOn_congr (hb : SameElsewhere id b b') (ho : b.output? id = some o)
    (ho' : b'.output? id = some o')
    (h : o'.crtc = some c ∧ o'.flipPending = true ↔ o.crtc = some c ∧ o.flipPending = true) :
    b'.AwaitsOn c ↔ b.AwaitsOn c := by
  constructor
  · rintro ⟨j, o₁, ho₁, hawait⟩
    by_cases hj : j = id
    · subst hj
      obtain rfl := Option.some.inj (ho'.symm.trans ho₁)
      exact ⟨j, o, ho, h.1 hawait⟩
    · exact ⟨j, o₁, hb.outputs j hj ▸ ho₁, hawait⟩
  · rintro ⟨j, o₁, ho₁, hawait⟩
    by_cases hj : j = id
    · subst hj
      obtain rfl := Option.some.inj (ho.symm.trans ho₁)
      exact ⟨j, o', ho', h.2 hawait⟩
    · exact ⟨j, o₁, (hb.outputs j hj).trans ho₁, hawait⟩

namespace FlipsAgree

theorem of_awaitsOn (h : FlipsAgree flips b) (hb : ∀ c, b'.AwaitsOn c ↔ b.AwaitsOn c) :
    FlipsAgree flips b' := ⟨h.nodup, fun c => (h.mem_iff c).trans (hb c).symm⟩

theorem of_same (h : FlipsAgree flips b) (hb : SameBooks b b') : FlipsAgree flips b' :=
  h.of_awaitsOn fun c => by simp only [AwaitsOn, hb.output?]

/-- A record may change as it likes if it waits for what it waited for. -/
theorem of_modify {f : Output → Output} (h : FlipsAgree flips b) (ho : b.output? id = some o)
    (hb : SameBooks { b with outputs := b.outputs.modify id.slot f } b')
    (hcrtc : (f o).crtc = o.crtc) (hpending : (f o).flipPending = o.flipPending) :
    FlipsAgree flips b' :=
  h.of_awaitsOn fun c => awaitsOn_congr
    (.of_modify hb.outputs fun c j _ => by rw [hb.claims]) ho (output?_modify_self hb.outputs ho)
    (by rw [hcrtc, hpending])

/-- An output that waits for nothing may be given up. -/
theorem of_release {f : Output → Output} (h : FlipsAgree flips b)
    (hb : SameElsewhere id b b₁) (ho : b.output? id = some o) (ho₁ : b₁.output? id = some o')
    (hb' : SameBooks
      { b₁ with outputs := b₁.outputs.modify id.slot f, claims := b₁.claims.release id } b')
    (hidle : ∀ c, ¬(o.crtc = some c ∧ o.flipPending = true)) (hcrtc : (f o').crtc = none) :
    FlipsAgree flips b' :=
  h.of_awaitsOn fun c => awaitsOn_congr (hb.trans (.of_release hb')) ho
    (output?_modify_self hb'.outputs ho₁) (iff_of_false (by simp [hcrtc]) (hidle c))

/-- An output that waited for nothing waits for the flip that was accepted. -/
theorem of_accepted (h : FlipsAgree flips b) (hb : SameElsewhere id b b')
    (ho : b.output? id = some o) (ho' : b'.output? id = some o') (hfree : c ∉ flips)
    (hcrtc : o.crtc = none ∨ o.crtc = some c) (hcrtc' : o'.crtc = some c)
    (hpending : o'.flipPending = true) : FlipsAgree (c :: flips) b' where
  nodup := List.nodup_cons.2 ⟨hfree, h.nodup⟩
  mem_iff d := by
    rw [List.mem_cons, h.mem_iff]
    by_cases hd : d = c
    · subst hd
      exact iff_of_true (.inl rfl) ⟨id, o', ho', hcrtc', hpending⟩
    · rw [awaitsOn_congr hb ho ho', or_iff_right hd]
      refine iff_of_false ?_ ?_
      · rintro ⟨hc, -⟩
        exact hd (Option.some.inj (hc.symm.trans hcrtc'))
      · rintro ⟨hc, -⟩
        rcases hcrtc with hnone | hsome
        · simp [hnone] at hc
        · exact hd (Option.some.inj (hc.symm.trans hsome))

/-- Reports of flips clear the flags of the outputs that own the CRTCs. -/
theorem completed (h : FlipsAgree flips b) (hb : b.Agrees) (completions : List FlipCompletion) :
    FlipsAgree (completions.foldl (·.erase ·.crtc) flips) (b.completed completions) where
  nodup := nodup_foldl_erase h.nodup completions
  mem_iff c := by
    rw [mem_foldl_erase h.nodup, h.mem_iff]
    constructor
    · rintro ⟨⟨id, o, ho, hc, hp⟩, hnone⟩
      have hreported : b.completes completions id = false := by
        refine Bool.eq_false_iff.2 fun hany => ?_
        obtain ⟨k, hk, howner⟩ := List.any_eq_true.1 hany
        obtain ⟨o₁, ho₁, hc₁⟩ := (hb.owner k.crtc id).1 (beq_iff_eq.1 howner)
        obtain rfl := Option.some.inj (ho.symm.trans ho₁)
        exact hnone k hk (Option.some.inj (hc₁.symm.trans hc))
      refine ⟨id, _, (output?_completed b completions id).trans (congrArg _ ho), hc, ?_⟩
      simp [hp, hreported]
    · rintro ⟨id, o', ho', hc, hp⟩
      rw [output?_completed] at ho'
      obtain ⟨o, ho, rfl⟩ := Option.map_eq_some_iff.1 ho'
      obtain ⟨hpending, hreported⟩ := Bool.and_eq_true_iff.1 hp
      refine ⟨⟨id, o, ho, hc, hpending⟩, fun k hk hkc => ?_⟩
      have howner := (hb.owner c id).2 ⟨o, ho, hc⟩
      have hany : b.completes completions id = true :=
        List.any_eq_true.2 ⟨k, hk, by simp [hkc, howner]⟩
      simp [hany] at hreported

end FlipsAgree

theorem FlipsAgree.notMem_of_free (h : FlipsAgree flips b) (hb : b.Agrees)
    (hfree : b.claims.owner c = none) : c ∉ flips := by
  intro hc
  obtain ⟨id, o, ho, hcrtc, -⟩ := (h.mem_iff c).1 hc
  rw [(hb.owner c id).2 ⟨o, ho, hcrtc⟩] at hfree
  contradiction

/-- The CRTCs with a flip under way belong to other outputs than one that waits for none. -/
theorem FlipsAgree.foreign (h : FlipsAgree flips b) (hb : b.Agrees) (ho : b.output? id = some o)
    (hidle : ∀ c, ¬(o.crtc = some c ∧ o.flipPending = true)) :
    ∀ c ∈ flips, ∃ j ≠ id, b.claims.owner c = some j := by
  intro c hc
  obtain ⟨j, o₁, ho₁, hawait⟩ := (h.mem_iff c).1 hc
  refine ⟨j, ?_, (hb.owner c j).2 ⟨o₁, ho₁, hawait.1⟩⟩
  rintro rfl
  obtain rfl := Option.some.inj (ho.symm.trans ho₁)
  exact hidle c hawait

theorem ModesetTried.error_keepsFlips {connector : ConnectorHandle} {e : ModesetError}
    (h : ModesetTried id connector b (.error e) g b') : ∀ e ∈ g, e.KeepsFlips := by
  cases h with
  | unclaimed h => exact fun e he => (h.quiet e he).keepsFlips
  | claimed hk h =>
    intro e he
    rw [List.mem_append, List.mem_cons] at he
    rcases he with he | rfl | he
    · cases h with
      | unmade h => exact (h.quiet e he).keepsFlips
      | undone _ htried hcore hback hdestroy _ =>
        rw [List.mem_append, List.mem_append] at he
        rcases he with (he | he) | he
        · exact hdestroy.keepsFlips e he
        · exact hback.keepsFlips e he
        · exact hcore.forall_mem htried.keepsFlips (fun _ => JournalEntry.IsQuiet.keepsFlips) e he
    · exact fun _ => rfl
    · exact (hk.quiet e he).keepsFlips

/-- A failed attempt destroys its surface again before any flip of the output is under way. -/
theorem ModesetTried.error_spared {connector : ConnectorHandle} {e : ModesetError}
    (h : ModesetTried id connector b (.error e) g b')
    (hforeign : ∀ c ∈ flips, ∃ j ≠ id, b.claims.owner c = some j) :
    FlipsSpared (some id) b.claims flips g := by
  have hflips := h.error_keepsFlips
  cases h with
  | unclaimed h => exact .of_quiet h.quiet
  | @claimed k _ g₁ g₂ _ hk h =>
    have hread : ∀ e ∈ g₁, e.KeepsFlips := fun e he => (hk.quiet e he).keepsFlips
    have hclaim : flipsAfter flips (.claimed k.crtc id :: g₁) = flips :=
      flipsAfter_of_keeps (fun e he => hflips e (List.mem_append_right _ he)) flips
    rw [FlipsSpared.append_iff, hk.noting_claimed, hclaim]
    refine ⟨?_, ?_, FlipsSpared.of_quiet hk.quiet⟩
    · refine .of_still h.keepsClaims (fun e he => hflips e (List.mem_append_left _ he)) ?_
      intro e he
      cases h with
      | unmade h => exact (h.quiet e he).sparesFlips _ _ _
      | undone _ htried hcore hback hdestroy _ =>
        rw [List.mem_append, List.mem_append] at he
        rcases he with (he | he) | he
        · refine hdestroy.sparesFlips (fun c hc => ?_) e he
          obtain ⟨j, hj, howner⟩ := hforeign c hc
          rw [(b.claims.owner_claim_of_ne hj hk.free c).2 howner]
          exact fun heq => hj (Option.some.inj heq)
        · exact hback.sparesFlips _ _ _ e he
        · exact hcore.forall_mem (htried.sparesFlips _ _ _) (fun _ hq => hq.sparesFlips _ _ _) e he
    · show k.crtc ∉ flipsAfter flips g₁
      rw [flipsAfter_of_keeps hread]
      intro hc
      obtain ⟨j, -, howner⟩ := hforeign _ hc
      rw [hk.free] at howner
      contradiction

/-- An attempt that fails is unwound without giving anything up under a flip. -/
theorem ModesetTried.error_flips {connector : ConnectorHandle} {e : ModesetError}
    (h : ModesetTried id connector b (.error e) g b₁) (h' : SameBooks (b₁.reverted id) b')
    (ho : b.output? id = some o) (hs : o.surface = none) (hb : b.Agrees)
    (hf : FlipsAgree flips b) :
    FlipsAgree (flipsAfter flips (.event (.removed id) :: .released id :: g)) b' ∧
      FlipsSpared (some id) b.claims flips (.event (.removed id) :: .released id :: g) := by
  have hidle : ∀ c, ¬(o.crtc = some c ∧ o.flipPending = true) := by simp [hb.crtc_none ho hs]
  have hforeign := hf.foreign hb ho hidle
  have hflips : flipsAfter flips g = flips := flipsAfter_of_keeps h.error_keepsFlips flips
  obtain ⟨o₁, ho₁, -⟩ := h.error_record ho
  refine ⟨?_, trivial, ?_, h.error_spared hforeign⟩
  · show FlipsAgree (flipsAfter flips g) _
    rw [hflips]
    exact hf.of_release h.elsewhere ho ho₁ h' hidle rfl
  · show ∀ c ∈ flipsAfter flips g, (b.claims.noting g).owner c ≠ some id
    rw [hflips, ← h.claims_noting]
    intro c hc howner
    obtain ⟨j, hj, howner'⟩ := hforeign c hc
    rw [(h.elsewhere.owners c j hj).2 howner'] at howner
    exact hj (Option.some.inj howner)

/-- An attempt that succeeds gives nothing up, and its flip is under way afterwards. -/
theorem ModesetTried.ok_flips {connector : ConnectorHandle}
    (h : ModesetTried id connector b (.ok ()) g b') (ho : b.output? id = some o)
    (hs : o.surface = none) (hb : b.Agrees) (hf : FlipsAgree flips b) :
    FlipsAgree (flipsAfter flips g) b' ∧ FlipsSpared (some id) b.claims flips g := by
  have helsewhere := h.elsewhere
  cases h with
  | @claimed k _ g₁ g₂ _ hk h =>
    cases h with
    | @shown s fb core _ _ _ _ htried hcore h =>
      have hfree : k.crtc ∉ flips := hf.notMem_of_free hb hk.free
      have hread : flipsAfter flips g₁ = flips :=
        flipsAfter_of_keeps (fun e he => (hk.quiet e he).keepsFlips) flips
      have hflipped : flipsAfter flips (g₂ ++ .claimed k.crtc id :: g₁) = k.crtc :: flips := by
        rw [flipsAfter_append, hcore.flipsAfter, flipsAfter, hread]
        cases htried
        rfl
      have ho' := output?_modify_self h.outputs (output?_configured k ho)
      constructor
      · rw [hflipped]
        exact hf.of_accepted helsewhere ho ho' hfree (.inl (hb.crtc_none ho hs)) rfl rfl
      · rw [FlipsSpared.append_iff]
        refine ⟨?_, ?_, FlipsSpared.of_quiet hk.quiet⟩
        · exact .of_forall fun e he t flips => hcore.forall_mem
            (htried.sparesFlips _ t flips) (fun _ hq => hq.sparesFlips _ t flips) e he
        · show k.crtc ∉ flipsAfter flips g₁
          rwa [hread]

namespace FlipsAgree

theorem slotted (h : FlipsAgree flips b) (connector : ConnectorHandle) :
    FlipsAgree flips { b with outputs := b.outputs ++ [Output.new connector] } := by
  refine h.of_awaitsOn fun c => ⟨?_, ?_⟩
  · rintro ⟨j, o, ho, hawait⟩
    rw [output?_append (b := b) rfl] at ho
    split at ho
    · obtain rfl := Option.some.inj ho
      simp [Output.new] at hawait
    · exact ⟨j, o, ho, hawait⟩
  · rintro ⟨j, o, ho, hawait⟩
    exact ⟨j, o, output?_append_of_some rfl ho, hawait⟩

/-- An output that waits for nothing is released without giving anything up under a flip. -/
theorem released {s : SurfaceId} (hf : FlipsAgree flips b) (hb : b.Agrees)
    (ho : b.output? id = some o) (hpending : o.flipPending = false)
    (hback : PutBack o.connector o.crtc o.savedCrtc g) (hdestroy : Destroys s g')
    (h : SameBooks (b.withdrawn id) b') :
    FlipsAgree (flipsAfter flips (.released id :: g' ++ g)) b' ∧
      FlipsSpared (some id) b.claims flips (.released id :: g' ++ g) := by
  have hidle : ∀ c, ¬(o.crtc = some c ∧ o.flipPending = true) := by simp [hpending]
  have hflips : ∀ e ∈ g' ++ g, e.KeepsFlips := fun e he =>
    (List.mem_append.1 he).elim (hdestroy.keepsFlips e) (hback.keepsFlips e)
  have hclaims : ∀ e ∈ g' ++ g, e.KeepsClaims := fun e he =>
    (List.mem_append.1 he).elim (hdestroy.keepsClaims e) (hback.keepsClaims e)
  have hspared : ∀ c ∈ flips, b.claims.owner c ≠ some id := fun c hc howner => by
    obtain ⟨j, hj, howner'⟩ := hf.foreign hb ho hidle c hc
    exact hj (Option.some.inj (howner'.symm.trans howner))
  refine ⟨?_, ?_, FlipsSpared.of_still hclaims hflips fun e he => ?_⟩
  · show FlipsAgree (flipsAfter flips (g' ++ g)) _
    rw [flipsAfter_of_keeps hflips]
    exact hf.of_release (.of_same (.refl b)) ho ho h hidle rfl
  · show ∀ c ∈ flipsAfter flips (g' ++ g), (b.claims.noting (g' ++ g)).owner c ≠ some id
    rw [flipsAfter_of_keeps hflips, CrtcClaims.noting_of_keeps hclaims]
    exact hspared
  · rcases List.mem_append.1 he with he | he
    · exact hdestroy.sparesFlips hspared e he
    · exact hback.sparesFlips _ _ _ e he

/-- The flip of a frame is accepted on a CRTC that has none under way. -/
theorem flipped {fb : FramebufferId} {core : List JournalEntry} (hf : FlipsAgree flips b)
    (ho : b.output? id = some o) (hc : o.crtc = some c) (hflip : FlipAttempt c (some fb) core)
    (hcore : Amid core g)
    (h : SameBooks { b with outputs := b.outputs.modify id.slot (·.presenting fb) } b')
    (hhonest : Each (fun earlier e => e.AcceptsFree (flipsAfter flips earlier)) g) :
    FlipsAgree (flipsAfter flips g) b' := by
  have hfree := hflip.notMem hcore hhonest
  rw [hcore.flipsAfter]
  cases hflip
  have helsewhere : SameElsewhere id b b' := .of_modify h.outputs fun c j _ => by rw [h.claims]
  exact hf.of_accepted helsewhere ho (output?_modify_self h.outputs ho) hfree (.inr hc) hc rfl

end FlipsAgree

/-- Every stage keeps flips and records in agreement and gives nothing up under a flip. -/
theorem Stage.flipsAgree (h : Stage a b g b') (ha : a.Readable) (hb : b.Agrees)
    (hf : FlipsAgree flips b)
    (hhonest : Each (fun earlier e => e.AcceptsFree (flipsAfter flips earlier)) g) :
    FlipsAgree (flipsAfter flips g) b' ∧ FlipsSpared a.subject b.claims flips g := by
  have hkept (hg : ∀ e ∈ g, e.KeepsFlips) (hf' : FlipsAgree flips b') :
      FlipsAgree (flipsAfter flips g) b' := by
    rwa [flipsAfter_of_keeps hg]
  cases h with
  | quiet h =>
    exact ⟨hkept (fun e he => (h.quiet e he).keepsFlips) (hf.of_same h.same), .of_quiet h.quiet⟩
  | retimed _ _ => exact ⟨⟨hf.nodup, hf.mem_iff⟩, trivial⟩
  | slotted connector _ _ => exact ⟨hf.slotted connector, trivial⟩
  | @read id o info _ _ ho h =>
    have hsame : (o.reconcile info id).1.crtc = o.crtc ∧
        (o.reconcile info id).1.flipPending = o.flipPending := by
      obtain ⟨name, state, modes, heq, -⟩ := o.reconcile_eq info id
      rw [heq]
      exact ⟨rfl, rfl⟩
    refine ⟨hkept (fun e he => ?_) (hf.of_modify ho h hsame.1 hsame.2), .told fun _ _ => trivial⟩
    rcases JournalEntry.mem_told he with ⟨event, rfl⟩ | rfl <;> exact fun _ => rfl
  | completed h =>
    rw [readyEntries_eq]
    refine ⟨?_, .told fun _ _ => trivial⟩
    rw [flipsAfter_append, flipsAfter_of_keeps fun e he => ?_]
    · exact (hf.completed hb _).of_same h
    · obtain ⟨event, -, rfl⟩ := List.mem_map.1 he
      exact fun _ => rfl
  | cleaning _ ho _ => exact ⟨hf.of_modify ho (.refl _) rfl rfl, trivial⟩
  | undrained _ ho _ h => exact ⟨hf.of_modify ho h rfl rfl, trivial, trivial⟩
  | released hid ho _ hpending hback hdestroy h =>
    exact hid ▸ hf.released hb ho hpending hback hdestroy h
  | set hid ho hs h => exact hid ▸ h.ok_flips ho hs hb hf
  | reverted hid ho hs h h' => exact hid ▸ h.error_flips h' ho hs hb hf
  | refused hselect hparse _ _ =>
    subst hselect
    simp [BackendAction.Readable, hparse, Except.isOk, Except.toBool] at ha
  | flipped _ ho _ hc hflip hcore h =>
    exact ⟨hf.flipped ho hc hflip hcore h hhonest, hflip.spared hcore⟩
  | unflipped _ _ _ _ hflip hcore h =>
    have hkeeps := hcore.forall_mem hflip.keepsFlips fun _ => JournalEntry.IsQuiet.keepsFlips
    exact ⟨hkept hkeeps (hf.of_same h), hflip.spared hcore⟩

/-- The flips under way and the claims at the moment of each stage are those that it begins with. -/
theorem Stages.flipsAgree (h : Stages a b g b') (ha : a.Readable) (hb : b.Agrees)
    (hf : FlipsAgree flips b)
    (hhonest : Each (fun earlier e => e.AcceptsFree (flipsAfter flips earlier)) g) :
    FlipsAgree (flipsAfter flips g) b' ∧ FlipsSpared a.subject b.claims flips g := by
  induction h generalizing flips with
  | nil => exact ⟨hf, trivial⟩
  | cons h₀ _ ih =>
    rw [Each.append_iff] at hhonest
    obtain ⟨hf₁, hspared₁⟩ := h₀.flipsAgree ha hb hf hhonest.2
    simp only [flipsAfter_append] at hhonest
    obtain ⟨hf', hspared'⟩ := ih (hb.step h₀) hf₁ hhonest.1
    rw [h₀.claims_noting] at hspared'
    rw [flipsAfter_append, FlipsSpared.append_iff]
    exact ⟨hf', hspared', hspared₁⟩

/-- The surface is that of the output, or one that is not made yet. -/
def MayDestroy (b : Backend W) (id : OutputId) (s : SurfaceId) : Prop :=
  (∃ o s', b.output? id = some o ∧ o.surface = some s' ∧ s'.surface = s) ∨
    b.chains.created < s.number

theorem Kept.mayDestroy {s : SurfaceId} (h : Kept b b₁) (hs : b₁.MayDestroy id s) :
    b.MayDestroy id s := by
  rcases hs with ⟨o₁, s₁, ho₁, hs₁, rfl⟩ | hnew
  · rcases h.record id o₁ s₁ ho₁ hs₁ with ⟨hnew, -⟩ | ⟨o, ho, hsame⟩
    · exact .inr hnew
    · obtain ⟨s', hs', hsurface⟩ := hsame.surface_of hs₁
      exact .inl ⟨o, s', ho, hs', hsurface⟩
  · exact .inr (Nat.lt_of_le_of_lt h.created hnew)

theorem ModesetTried.destroyed {connector : ConnectorHandle} {r : Except ModesetError Unit}
    (h : ModesetTried id connector b r g b') :
    ∀ e ∈ g, ∀ s, e.destroyed? = some s → b.chains.created < s.number := by
  cases h with
  | unclaimed h => exact fun e he s hs => by simp [(h.quiet e he).destroyed?_eq] at hs
  | claimed hk h =>
    intro e he s hs
    rw [List.mem_append, List.mem_cons] at he
    rcases he with he | rfl | he
    · cases h with
      | unmade h => simp [(h.quiet e he).destroyed?_eq] at hs
      | undone hnew htried hcore hback hdestroy _ =>
        rw [List.mem_append, List.mem_append] at he
        rcases he with (he | he) | he
        · rcases hdestroy e he with hquiet | ⟨d, rfl⟩
          · simp [hquiet.destroyed?_eq] at hs
          · exact Option.some.inj hs ▸ hnew
        · simp [hback.destroyed?_eq e he] at hs
        · simp [hcore.forall_mem htried.destroyed?_eq (fun _ hq => hq.destroyed?_eq) e he] at hs
      | shown _ _ htried hcore _ =>
        simp [hcore.forall_mem htried.destroyed?_eq (fun _ hq => hq.destroyed?_eq) e he] at hs
    · contradiction
    · simp [(hk.quiet e he).destroyed?_eq] at hs

theorem Stage.destroyed (h : Stage a b g b') :
    ∀ e ∈ g, ∀ s, e.destroyed? = some s → ∃ id, a.subject = some id ∧ b.MayDestroy id s := by
  intro e he s hs
  cases h with
  | quiet h => simp [(h.quiet e he).destroyed?_eq] at hs
  | retimed _ _ | slotted _ _ _ | cleaning _ _ _ => contradiction
  | read _ _ _ => rcases JournalEntry.mem_told he with ⟨event, rfl⟩ | rfl <;> contradiction
  | completed _ =>
    rw [readyEntries_eq] at he
    rcases JournalEntry.mem_told he with ⟨event, rfl⟩ | rfl <;> contradiction
  | undrained _ _ _ _ =>
    obtain rfl := List.mem_singleton.1 he
    contradiction
  | released hid ho hsurface _ hback hdestroy _ =>
    rw [List.mem_append, List.mem_cons] at he
    rcases he with (rfl | he) | he
    · contradiction
    · rcases hdestroy e he with hquiet | ⟨d, rfl⟩
      · simp [hquiet.destroyed?_eq] at hs
      · exact ⟨_, hid, .inl ⟨_, _, ho, hsurface, Option.some.inj hs⟩⟩
    · simp [hback.destroyed?_eq e he] at hs
  | set hid _ _ h => exact ⟨_, hid, .inr (h.destroyed e he s hs)⟩
  | reverted hid _ _ h _ =>
    rw [List.mem_cons, List.mem_cons] at he
    rcases he with rfl | rfl | he
    · contradiction
    · contradiction
    · exact ⟨_, hid, .inr (h.destroyed e he s hs)⟩
  | refused _ _ _ _ =>
    rw [List.mem_cons, List.mem_singleton] at he
    rcases he with rfl | rfl <;> contradiction
  | flipped _ _ _ _ hflip hcore _ | unflipped _ _ _ _ hflip hcore _ =>
    simp [hcore.forall_mem hflip.destroyed?_eq (fun _ hq => hq.destroyed?_eq) e he] at hs

theorem Stages.destroyed (h : Stages a b g b') (ha : a.Readable) :
    ∀ e ∈ g, ∀ s, e.destroyed? = some s → ∃ id, a.subject = some id ∧ b.MayDestroy id s := by
  induction h with
  | nil => simp
  | cons h₀ _ ih =>
    intro e he s hs
    rcases List.mem_append.1 he with he | he
    · obtain ⟨id, hid, hmay⟩ := ih e he s hs
      exact ⟨id, hid, (Kept.of_stage ha h₀).mayDestroy hmay⟩
    · exact h₀.destroyed e he s hs

/-- Flips and records agree after every run without requests that cannot be read. -/
private theorem flipsAgree_run (context : RenderContext W) {actions : List BackendAction}
    (hread : ∀ a ∈ actions, a.Readable) :
    ∃ g, ((Backend.new context).run actions).journal = g ++ context.journal ∧
      (FlipsHonest g → FlipsAgree (flipsUnderWay g) ((Backend.new context).run actions)) := by
  have hnew : FlipsAgree [] (Backend.new context) :=
    ⟨List.nodup_nil, fun c => by simp [AwaitsOn, Backend.new, output?]⟩
  have hstep (a) (ha : a ∈ actions) (b b' : Backend W) (g g₀) (h : Stage a b g b')
      (hb : b.Agrees ∧ (FlipsHonest g₀ → FlipsAgree (flipsUnderWay g₀) b)) :
      b'.Agrees ∧ (FlipsHonest (g ++ g₀) → FlipsAgree (flipsUnderWay (g ++ g₀)) b') := by
    refine ⟨hb.1.step h, fun hhonest => ?_⟩
    rw [FlipsHonest, Each.append_iff] at hhonest
    simp only [flipsUnderWay, flipsAfter_append] at hhonest
    rw [flipsUnderWay, flipsAfter_append]
    exact (h.flipsAgree (hread a ha) hb.1 (hb.2 hhonest.2) hhonest.1).1
  obtain ⟨g, hg, -, hagree⟩ := run_keeps (fun a ha b g b' g₀ => hstep a ha b b' g g₀)
    ⟨Agrees.new context, fun _ => hnew⟩
  exact ⟨g, hg, hagree⟩

/-- If the kernel accepts no second flip on a CRTC, the flips under way at every boundary of a run
are those that a record with surface, CRTC and claim waits for. Within the next action, no CRTC is
released or assigned anew while a flip is under way on it, and the surfaces that are destroyed are
those of an output none of whose CRTCs has a flip under way. -/
theorem nothing_given_up_under_way (context : RenderContext W) (actions : List BackendAction)
    (a : BackendAction) (hread : ∀ a' ∈ actions ++ [a], a'.Readable) :
    let b := (Backend.new context).run actions
    ∃ before gained, b.journal = before ++ context.journal ∧
      (b.after a).journal = gained ++ b.journal ∧
      (FlipsHonest before → ∀ c, c ∈ flipsUnderWay before ↔
        ∃ id o, b.output? id = some o ∧ o.crtc = some c ∧ o.surface.isSome ∧
          b.claims.owner c = some id ∧ o.flipPending = true) ∧
      (FlipsHonest (gained ++ before) → Each (fun earlier e => e.SparesFlips a.subject
        (b.claims.noting earlier) (flipsUnderWay (earlier ++ before))) gained) ∧
      ∀ e ∈ gained, ∀ s, e.destroyed? = some s →
        ∃ id, a.subject = some id ∧ b.MayDestroy id s := by
  intro b
  have hb : b.Agrees := (Agrees.new context).run actions
  have ha : a.Readable := hread a (by simp)
  obtain ⟨before, hbefore, hagree⟩ := flipsAgree_run context
    fun a' (ha' : a' ∈ actions) => hread a' (by simp [ha'])
  obtain ⟨gained, hgained, hstages⟩ := stages_after b a
  refine ⟨before, gained, hbefore, hgained, fun hhonest c => ?_, fun hhonest => ?_,
    hstages.destroyed ha⟩
  · rw [(hagree hhonest).mem_iff]
    constructor
    · rintro ⟨id, o, ho, hc, hpending⟩
      obtain ⟨s, m, hs, -⟩ := (hb.coherent id o ho).surface (by simp [hc])
      exact ⟨id, o, ho, hc, by simp [hs], (hb.owner c id).2 ⟨o, ho, hc⟩, hpending⟩
    · rintro ⟨id, o, ho, hc, -, -, hpending⟩
      exact ⟨id, o, ho, hc, hpending⟩
  · rw [FlipsHonest, Each.append_iff] at hhonest
    simp only [flipsUnderWay, flipsAfter_append] at hhonest ⊢
    exact (hstages.flipsAgree ha hb (hagree hhonest.2) hhonest.1).2

/-- The flip of a first frame is waited for before its output is given up. -/
theorem nothing_given_up_on_teardown :
    let b := (Backend.new oneMonitor).run [.scan, .commitMode ⟨0⟩ .preferred]
    ∃ before gained, b.journal = before ++ oneMonitor.journal ∧
      (b.after (.teardownOutput ⟨0⟩)).journal = gained ++ b.journal ∧
      FlipsHonest (gained ++ before) ∧ ⟨30⟩ ∈ flipsUnderWay before ∧
      (∀ c, c ∈ flipsUnderWay before ↔
        ∃ id o, b.output? id = some o ∧ o.crtc = some c ∧ o.surface.isSome ∧
          b.claims.owner c = some id ∧ o.flipPending = true) ∧
      Each (fun earlier e => e.SparesFlips (some ⟨0⟩) (b.claims.noting earlier)
        (flipsUnderWay (earlier ++ before))) gained := by
  have hhonest : decide (FlipsHonest (((Backend.new oneMonitor).run
      [.scan, .commitMode ⟨0⟩ .preferred]).after (.teardownOutput ⟨0⟩)).journal) = true := by
    decide +kernel
  have hpending : decide (⟨30⟩ ∈ flipsUnderWay ((Backend.new oneMonitor).run
      [.scan, .commitMode ⟨0⟩ .preferred]).journal) = true := by decide +kernel
  have h := nothing_given_up_under_way oneMonitor [.scan, .commitMode ⟨0⟩ .preferred]
    (.teardownOutput ⟨0⟩) (by decide)
  generalize (Backend.new oneMonitor).run [.scan, .commitMode ⟨0⟩ .preferred] = b at *
  obtain ⟨before, gained, hbefore, hgained, hiff, hspares, -⟩ := h
  have hempty : before ++ oneMonitor.journal = before := List.append_nil before
  rw [hgained, hbefore, hempty, decide_eq_true_iff] at hhonest
  rw [hbefore, hempty, decide_eq_true_iff] at hpending
  exact ⟨before, gained, hbefore, hgained, hhonest, hpending,
    hiff (Each.append_iff.1 hhonest).2, hspares hhonest⟩

end Backend
end Scanout
