import Scanout.Proofs.ChoiceReads
import Scanout.Proofs.HeldSurfaces
import Scanout.Proofs.QueuedEvents
import Scanout.Proofs.SurfaceAccounts

/-!
# Which CRTCs a failed mode-set switches off

A mode-set that fails after its surface was created puts the snapshot back and switches off the CRTC
that it claimed, whether or not it had come to program that CRTC. What it puts back is what there is.
So the CRTC table is as before but for CRTCs that were switched off, and if one of these was lit
for another connector, that connector goes dark.
-/

namespace Scanout

section Commits

variable {c d : CrtcHandle} {s s' : CrtcInfo} {connector : ConnectorHandle}

@[simp] theorem CrtcCommit.switchOff_inj : switchOff c = switchOff d ↔ c = d := by simp [switchOff]

@[simp] theorem CrtcCommit.switchOff_ne_restoring : switchOff c ≠ s.restoring connector := by
  simp [switchOff, CrtcInfo.restoring]

@[simp] theorem CrtcInfo.restoring_ne_switchOff : s.restoring connector ≠ .switchOff c :=
  CrtcCommit.switchOff_ne_restoring.symm

theorem CrtcInfo.handle_eq_of_restoring (h : s.restoring connector = s'.restoring connector) :
    s.handle = s'.handle := congrArg CrtcCommit.crtc h

end Commits

/-- What is read of a CRTC is what the table says. -/
def JournalEntry.Tells (t : CrtcTable) : JournalEntry → Prop
  | .call (.kernel (.crtc c)) (.ok s) => s = t.info c
  | _ => True

instance (t : CrtcTable) : DecidablePred (JournalEntry.Tells t) := fun e => by
  unfold JournalEntry.Tells
  split <;> infer_instance

/-- The kernel was asked to flip to the first frame of a connector, whose commit it had accepted. -/
def ShowsFrame (connector : ConnectorHandle) (gained : List JournalEntry) : Prop :=
  ∃ crtc fb mode answer,
    [.call (.kernel (.pageFlip crtc fb)) answer,
      .call (.kernel (.setCrtc ⟨crtc, some fb, (0, 0), [connector], some mode⟩)) (.ok ())] <:+: gained

theorem ShowsFrame.mono {connector : ConnectorHandle} {g g' : List JournalEntry}
    (h : ShowsFrame connector g) (hg : g <:+: g') : ShowsFrame connector g' := by
  obtain ⟨crtc, fb, mode, answer, h⟩ := h
  exact ⟨crtc, fb, mode, answer, h.trans hg⟩

/-- A page flip is asked for. -/
def JournalEntry.AsksForFlip : JournalEntry → Prop
  | .call (.kernel (.pageFlip _ _)) _ => True
  | _ => False

instance : DecidablePred JournalEntry.AsksForFlip := fun e => by
  unfold JournalEntry.AsksForFlip
  split <;> infer_instance

/-- A commit takes the mode of a CRTC away. -/
def JournalEntry.switchesOff : JournalEntry → Bool
  | .call (.kernel (.setCrtc commit)) _ => commit.mode.isNone
  | _ => false

theorem ShowsFrame.exists_flip {connector : ConnectorHandle} {g : List JournalEntry}
    (h : ShowsFrame connector g) : ∃ e ∈ g, e.AsksForFlip := by
  obtain ⟨crtc, fb, mode, answer, h⟩ := h
  exact ⟨.call (.kernel (.pageFlip crtc fb)) answer, h.subset List.mem_cons_self, trivial⟩

theorem Amid.isInfix {core g : List JournalEntry} (h : Amid core g) : core <:+: g := by
  obtain ⟨before, after, -, -, rfl⟩ := h
  exact List.infix_append after core before

theorem Amid.mem_or_quiet {core g : List JournalEntry} {e : JournalEntry} (h : Amid core g)
    (he : e ∈ g) : e ∈ core ∨ e.IsQuiet :=
  h.forall_mem (P := fun e => e ∈ core ∨ e.IsQuiet) (fun _ => .inl) (fun _ => .inr) e he

/-- The commit of the first frame was accepted, or it is all that was committed, and was refused. -/
theorem FrameTried.shows_or_refused {connector : ConnectorHandle} {crtc : CrtcHandle}
    {mode : DisplayMode} {shown : Option FramebufferId} {core : List JournalEntry}
    (h : FrameTried connector crtc mode shown core) :
    ShowsFrame connector core ∨ shown = none ∧ ∀ e ∈ core, ∃ fb cause, e =
      .call (.kernel (.setCrtc ⟨crtc, some fb, (0, 0), [connector], some mode⟩)) (.error cause) := by
  cases h with
  | undrawn => exact .inr ⟨rfl, by simp⟩
  | refused fb cause => exact .inr ⟨rfl, List.forall_mem_singleton.2 ⟨fb, cause, rfl⟩⟩
  | unflipped fb cause => exact .inl ⟨crtc, fb, mode, .error cause, List.infix_refl _⟩
  | shown fb => exact .inl ⟨crtc, fb, mode, .ok (), List.infix_refl _⟩

/-- An entry that keeps every table is not an accepted commit: a dark table and a lit one would not
agree about what was committed. -/
theorem JournalEntry.KeepsTable.ne_commit {e : JournalEntry} (h : e.KeepsTable) (commit : CrtcCommit) :
    e ≠ .call (.kernel (.setCrtc commit)) (.ok ()) := by
  rintro rfl
  let lit : CrtcTable := CrtcTable.dark.set ⟨commit.crtc, some ⟨0⟩, (0, 0), none⟩
  have hdark := congrArg (·.info commit.crtc) (h .dark)
  have hlit := congrArg (·.info commit.crtc) (h lit)
  have hset (t : CrtcTable) : (t.set commit.result).info commit.crtc = commit.result := if_pos rfl
  simp only [CrtcTable.note, hset] at hdark hlit
  have hoff : CrtcInfo.off commit.crtc = lit.info commit.crtc := hdark.symm.trans hlit
  simp [lit, CrtcTable.info_set, CrtcInfo.off] at hoff

namespace CrtcTable

variable {t : CrtcTable} {g g' : List JournalEntry} {c : CrtcHandle} {s : CrtcInfo}

/-- Everything that is read is told truly. -/
def ToldTruly (t : CrtcTable) (gained : List JournalEntry) : Prop :=
  Each (fun earlier e => e.Tells (t.after earlier)) gained

instance (t : CrtcTable) : DecidablePred t.ToldTruly := fun g => Each.decidable g

theorem toldTruly_append : t.ToldTruly (g' ++ g) ↔ (t.after g).ToldTruly g' ∧ t.ToldTruly g := by
  simp only [ToldTruly, Each.append_iff, after_append]

theorem ToldTruly.eq_info (h : t.ToldTruly g) (hkeeps : ∀ e ∈ g, e.KeepsTable)
    (hs : .call (.kernel (.crtc c)) (.ok s) ∈ g) : s = t.info c := by
  obtain ⟨later, earlier, rfl⟩ := List.append_of_mem hs
  have htold : s = (t.after earlier).info c := Each.iff_forall.1 h later _ earlier rfl
  rwa [after_of_keeps fun e he => hkeeps e (by simp [he])] at htold

/-- The CRTCs that were switched off are off, and the others are as before. -/
structure Darkens (t : CrtcTable) (gained : List JournalEntry) : Prop where
  off : ∀ c, .call (.kernel (.setCrtc (.switchOff c))) (.ok ()) ∈ gained →
    (t.after gained).info c = .off c
  kept : ∀ c, .call (.kernel (.setCrtc (.switchOff c))) (.ok ()) ∉ gained →
    (t.after gained).info c = t.info c

namespace Darkens

theorem of_keeps (h : ∀ e ∈ g, e.KeepsTable) : t.Darkens g where
  off _ hoff := absurd rfl ((h _ hoff).ne_commit _)
  kept _ _ := by rw [after_of_keeps h]

theorem append (h : t.Darkens g) (h' : (t.after g).Darkens g') : t.Darkens (g' ++ g) where
  off c hoff := by
    rw [after_append]
    by_cases hlater : .call (.kernel (.setCrtc (.switchOff c))) (.ok ()) ∈ g'
    · exact h'.off c hlater
    · rw [h'.kept c hlater]
      exact h.off c ((List.mem_append.1 hoff).resolve_left hlater)
  kept c hoff := by
    rw [List.mem_append, not_or] at hoff
    rw [after_append, h'.kept c hoff.1, h.kept c hoff.2]

end Darkens

theorem darkens_switchOff (t : CrtcTable) (c : CrtcHandle) (answer : Except SystemError Unit) :
    t.Darkens [.call (.kernel (.setCrtc (.switchOff c))) answer] := by
  cases answer with
  | ok _ =>
    refine ⟨fun d hd => ?_, fun d hd => ?_⟩
    · obtain rfl : d = c := by simpa using hd
      exact if_pos rfl
    · have hne : d ≠ c := fun h => hd (h ▸ List.mem_singleton_self _)
      exact if_neg hne
  | error _ => exact ⟨fun _ hd => by simp at hd, fun _ _ => rfl⟩

/-- Putting back what there is makes no difference. -/
theorem darkens_restoring (hs : s = t.info s.handle) (connector : ConnectorHandle)
    (answer : Except SystemError Unit) :
    t.Darkens [.call (.kernel (.setCrtc (s.restoring connector))) answer] := by
  refine ⟨fun d hd => ?_, fun d _ => ?_⟩
  · simp at hd
  · cases answer with
    | ok _ =>
      show (if d = s.handle then s else t.info d) = t.info d
      by_cases hd : d = s.handle
      · rw [if_pos hd, hd, ← hs]
      · rw [if_neg hd]
    | error _ => rfl

end CrtcTable

section PutBack

variable {t : CrtcTable} {connector : ConnectorHandle} {c : CrtcHandle} {saved : Option CrtcInfo}
  {g : List JournalEntry}

theorem PutBack.darkens (h : PutBack connector (some c) saved g)
    (hsaved : ∀ s, saved = some s → s = t.info s.handle) : t.Darkens g := by
  have hgiven {s : CrtcInfo} (hs : saved.filter (·.mode.isSome) = some s) : s = t.info s.handle :=
    hsaved s (Option.filter_eq_some_iff.1 hs).1
  cases h with
  | nothing _ hc | refused _ hc => contradiction
  | off _ hc => exact t.darkens_switchOff _ _
  | restored hs _ => exact CrtcTable.darkens_restoring (hgiven hs) connector _
  | moved hs _ _ | refusedOff hs _ =>
    exact (CrtcTable.darkens_restoring (hgiven hs) connector _).append (CrtcTable.darkens_switchOff _ _ _)

/-- The CRTC that is switched off is the claimed one, unless its snapshot was put back. -/
theorem PutBack.switched (h : PutBack connector (some c) saved g) {d : CrtcHandle}
    {answer : Except SystemError Unit}
    (hd : .call (.kernel (.setCrtc (.switchOff d))) answer ∈ g) :
    d = c ∧ ∀ s : CrtcInfo, .call (.kernel (.setCrtc (s.restoring connector))) (.ok ()) ∈ g →
      s.handle ≠ d := by
  cases h with
  | nothing _ hc | refused _ hc => contradiction
  | @off _ answer' _ hc =>
    obtain rfl := Option.some.inj hc
    obtain ⟨rfl, -⟩ : d = c ∧ answer = answer' := by simpa using hd
    exact ⟨rfl, by simp⟩
  | restored _ _ => simp at hd
  | @moved s' _ answer' _ hc hne =>
    obtain rfl := Option.some.inj hc
    obtain ⟨rfl, -⟩ : d = c ∧ answer = answer' := by simpa using hd
    refine ⟨rfl, fun s hs => ?_⟩
    have hback : s.restoring connector = s'.restoring connector := by simpa using hs
    rw [CrtcInfo.handle_eq_of_restoring hback]
    exact Ne.symm hne
  | @refusedOff _ _ _ answer' _ hc =>
    obtain rfl := Option.some.inj hc
    obtain ⟨rfl, -⟩ : d = c ∧ answer = answer' := by simpa using hd
    exact ⟨rfl, by simp⟩

/-- What is committed besides a first frame that is refused is what puts the CRTCs back. -/
theorem mem_putBack_of_commit {mode : DisplayMode} {s : SurfaceId}
    {core g₁ g₂ g₃ : List JournalEntry}
    (hrefused : ∀ e ∈ core, ∃ fb cause, e =
      .call (.kernel (.setCrtc ⟨c, some fb, (0, 0), [connector], some mode⟩)) (.error cause))
    (hcore : Amid core g₁) (hdestroy : Destroys s g₃) {commit : CrtcCommit}
    {answer : Except SystemError Unit} (hall : commit.framebuffer = none ∨ answer = .ok ())
    (hmem : .call (.kernel (.setCrtc commit)) answer ∈ g₃ ++ g₂ ++ g₁) :
    .call (.kernel (.setCrtc commit)) answer ∈ g₂ := by
  rcases List.mem_append.1 hmem with hmem | hmem
  · refine (List.mem_append.1 hmem).resolve_left fun hlate => ?_
    rcases hdestroy _ hlate with hquiet | ⟨d, hd⟩
    · exact hquiet
    · cases hd
  · rcases hcore.mem_or_quiet hmem with hframe | hquiet
    · obtain ⟨fb, cause, heq⟩ := hrefused _ hframe
      cases heq
      rcases hall with hnone | hok
      · contradiction
      · contradiction
    · exact hquiet.elim

end PutBack

namespace Backend

variable {W : World} {b b' : Backend W} {id : OutputId} {o : Output} {connector : ConnectorHandle}
  {request : ModeRequest} {g : List JournalEntry} {t : CrtcTable}

/-- Unless a surface was acquired, everything is quiet. -/
theorem yields_initSurface_acquired (id : OutputId) (connector : ConnectorHandle)
    (crtc : CrtcHandle) (saved : Option CrtcInfo) (mode : DisplayMode) (b : Backend W) :
    Yields (initSurface id connector crtc saved mode).run b fun _ g _ =>
      (∃ s, .surface s ∈ acquired g) ∨ ∀ e ∈ g, e.IsQuiet := by
  refine ((yields_createSurface mode.size.1 mode.size.2 b).and (Yields.orFail (yields_context
    (RenderContext.yields_createSurface_settles mode.size.1 mode.size.2 b.toRenderContext)))).bindOk
    ?_ fun _ _ _ h => .inr h.1.1.quiet
  rintro s g₁ b₁ ⟨-, _ | _, ⟨⟩, ⟨hsettles, hs, hchains⟩, -⟩
  have hacquired : Resource.surface s ∈ acquired g₁ := by
    refine List.count_pos_iff.1 ?_
    rw [hsettles.fresh, hchains, hs, if_pos ⟨Nat.lt_succ_self _, Nat.le_refl _⟩]
    exact Nat.one_pos
  refine (relays_showOrGiveUp id s connector crtc saved mode _ b₁).mono ?_
  intro _ g₂ _ _
  exact .inl ⟨s, by rw [acquired_append]; exact List.mem_append_right _ hacquired⟩

/-- It came to switching the CRTC off: a surface was acquired, and no snapshot of that CRTC was put
back. -/
structure SwitchedOff (connector : ConnectorHandle) (gained : List JournalEntry) (c : CrtcHandle) :
    Prop where
  surface : ∃ s, .surface s ∈ acquired gained
  replaced : ∀ s : CrtcInfo, .call (.kernel (.setCrtc (s.restoring connector))) (.ok ()) ∈ gained →
    s.handle ≠ c

/-- Entries that commit nothing make no difference. -/
theorem SwitchedOff.mono {c : CrtcHandle} {g' : List JournalEntry} (h : SwitchedOff connector g c)
    (hsub : g ⊆ g') (hcommits : ∀ commit answer, .call (.kernel (.setCrtc commit)) answer ∈ g' →
      .call (.kernel (.setCrtc commit)) answer ∈ g) : SwitchedOff connector g' c where
  surface := by
    obtain ⟨s, hs⟩ := h.surface
    exact ⟨s, List.filterMap_subset _ hsub hs⟩
  replaced s hs := h.replaced s (hcommits _ _ hs)

theorem OnlyChooses.not_mem_commit (h : OnlyChooses b g b') (commit : CrtcCommit)
    (answer : Except SystemError Unit) : .call (.kernel (.setCrtc commit)) answer ∉ g := by
  intro hmem
  rcases h.entries _ hmem with ⟨c, hreads, a, heq⟩ | ⟨crtc, id, heq⟩
  · cases heq
    exact hreads
  · contradiction

theorem yields_initSurface_darkens {saved : Option CrtcInfo}
    (hsaved : ∀ s, saved = some s → s = t.info s.handle) (id : OutputId)
    (connector : ConnectorHandle) (crtc : CrtcHandle) (mode : DisplayMode) (b : Backend W) :
    Yields (initSurface id connector crtc saved mode).run b fun _ g _ => ShowsFrame connector g ∨
      t.Darkens g ∧ ∀ c answer, .call (.kernel (.setCrtc (.switchOff c))) answer ∈ g →
        c = crtc ∧ SwitchedOff connector g c := by
  refine ((yields_initSurface id connector crtc saved mode b).and
    (yields_initSurface_acquired id connector crtc saved mode b)).mono ?_
  rintro r g b' ⟨htried, hacquired⟩
  cases htried with
  | unmade h =>
    refine .inr ⟨.of_keeps fun e he => (h.quiet e he).keepsTable, fun c answer hc => ?_⟩
    exact (h.quiet _ hc).elim
  | shown _ _ hframe hcore _ =>
    obtain hshown | ⟨hnone, -⟩ := hframe.shows_or_refused
    · exact .inl (hshown.mono hcore.isInfix)
    · contradiction
  | @undone _ s core g₁ g₂ g₃ _ _ hframe hcore hback hdestroy _ =>
    obtain hshown | ⟨-, hrefused⟩ := hframe.shows_or_refused
    · exact .inl (hshown.mono (hcore.isInfix.trans (List.suffix_append _ _).isInfix))
    · have hkeeps : ∀ e ∈ g₁, e.KeepsTable := hcore.forall_mem (fun e he => by
        obtain ⟨fb, cause, rfl⟩ := hrefused e he
        exact fun _ => rfl) fun _ => JournalEntry.IsQuiet.keepsTable
      refine .inr ⟨?_, fun c answer hc => ?_⟩
      · refine .append (.of_keeps hkeeps) ?_
        rw [CrtcTable.after_of_keeps hkeeps]
        exact (hback.darkens hsaved).append (.of_keeps hdestroy.keepsTable)
      · obtain ⟨hclaimed, hreplaced⟩ := hback.switched
          (mem_putBack_of_commit hrefused hcore hdestroy (.inl rfl) hc)
        refine ⟨hclaimed, hacquired.resolve_right fun hquiet => hquiet _ hc, fun s hs => ?_⟩
        exact hreplaced s (mem_putBack_of_commit hrefused hcore hdestroy (.inr rfl) hs)

/-- What an attempt to set a mode does to the CRTC table, unless it comes to show a frame. -/
theorem yields_tryModeset_darkens (t : CrtcTable) (id : OutputId) (connector : ConnectorHandle)
    (request : ModeRequest) (b : Backend W) :
    Yields (tryModeset id connector request).run b fun _ g _ => t.ToldTruly g →
      ShowsFrame connector g ∨
        t.Darkens g ∧ ∀ c answer, .call (.kernel (.setCrtc (.switchOff c))) answer ∈ g →
          .claimed c id ∈ g ∧ b.claims.owner c = none ∧ SwitchedOff connector g c := by
  refine yields_tryModeset_of_choice ((onlyChooses_chooseAndClaim id connector request b).and
    (yields_chooseAndClaim id connector request b)) ?_ ?_
  · rintro e g b' ⟨honly, hquiet⟩ -
    exact .inr ⟨.of_keeps honly.keepsTable, fun c answer hc => (hquiet.quiet _ hc).elim⟩
  · rintro k g b₁ ⟨honly, hchosen, -⟩
    by_cases htold : t.ToldTruly g
    · have hsaved (s : CrtcInfo) (hs : k.saved = some s) : s = t.info s.handle := by
        obtain ⟨c, hread⟩ := hchosen.saved_read hs
        obtain rfl := htold.eq_info honly.keepsTable hread
        rw [t.handle_info]
      obtain ⟨hclaimed, hfree⟩ := hchosen.unowned
      refine (yields_initSurface_darkens hsaved id connector k.crtc k.mode _).mono ?_
      rintro r g' b' (hshown | ⟨hdarkens, hoff⟩) -
      · exact .inl (hshown.mono (List.prefix_append _ _).isInfix)
      · refine .inr ⟨.append (.of_keeps honly.keepsTable) ?_, fun c answer hc => ?_⟩
        · rwa [CrtcTable.after_of_keeps honly.keepsTable]
        · have hlate (commit : CrtcCommit) (answer : Except SystemError Unit)
              (hmem : .call (.kernel (.setCrtc commit)) answer ∈ g' ++ g) :
              .call (.kernel (.setCrtc commit)) answer ∈ g' :=
            (List.mem_append.1 hmem).resolve_right (honly.not_mem_commit _ _)
          obtain ⟨rfl, hswitched⟩ := hoff c answer (hlate _ _ hc)
          exact ⟨List.mem_append_right _ hclaimed, hfree,
            hswitched.mono (List.subset_append_left _ _) hlate⟩
    · refine (yields_initSurface id connector k.crtc k.saved k.mode _).mono ?_
      intro r g' b' _ htold'
      exact absurd (CrtcTable.toldTruly_append.1 htold').2 htold

/-- A mode-set of an output without a surface that fails before its first frame was accepted leaves
the CRTC table as it was, but for CRTCs that it switched off. Such a CRTC was claimed in the course of
it and owned by nobody before; it comes to that only after a surface was created, and only if no
snapshot of that very CRTC was put back. So the table is as before exactly if the CRTCs that were
switched off had been off. -/
theorem failed_modeset_darkens (t : CrtcTable) (ho : b.output? id = some o) (hs : o.surface = none)
    (hgained : (b.after (.commitMode id request)).journal = g ++ b.journal)
    (htold : t.ToldTruly g) (hdark : ¬ShowsFrame o.connector g) :
    (∀ c, .call (.kernel (.setCrtc (.switchOff c))) (.ok ()) ∈ g → (t.after g).info c = .off c) ∧
      (∀ c, .call (.kernel (.setCrtc (.switchOff c))) (.ok ()) ∉ g →
        (t.after g).info c = t.info c) ∧
      (∀ c answer, .call (.kernel (.setCrtc (.switchOff c))) answer ∈ g →
        .claimed c id ∈ g ∧ b.claims.owner c = none ∧ (∃ s, .surface s ∈ acquired g) ∧
          ∀ s : CrtcInfo, .call (.kernel (.setCrtc (s.restoring o.connector))) (.ok ()) ∈ g →
            s.handle ≠ c) ∧
      ((∀ c, (t.after g).info c = t.info c) ↔
        ∀ c, .call (.kernel (.setCrtc (.switchOff c))) (.ok ()) ∈ g → t.info c = .off c) := by
  have hresult : t.Darkens g ∧ ∀ c answer, .call (.kernel (.setCrtc (.switchOff c))) answer ∈ g →
      .claimed c id ∈ g ∧ b.claims.owner c = none ∧ SwitchedOff o.connector g c := by
    obtain ⟨g', hg', htried⟩ :=
      yields_commitMode_of_bare ho hs (yields_tryModeset_darkens t id o.connector request b)
    obtain rfl : g = g' := List.append_cancel_right (hgained.symm.trans hg')
    obtain ⟨-, htried⟩ | ⟨e, g₀, b₁, -, rfl, htried, -⟩ := htried
    · exact (htried htold).resolve_left hdark
    · obtain ⟨hdarkens, hoff⟩ := (htried htold.2.2).resolve_left fun hshown =>
        hdark (hshown.mono (List.suffix_append [_, _] g₀).isInfix)
      have hcommits (commit : CrtcCommit) (answer : Except SystemError Unit)
          (hmem : .call (.kernel (.setCrtc commit)) answer ∈
            .event (.removed id) :: .released id :: g₀) :
          .call (.kernel (.setCrtc commit)) answer ∈ g₀ := by
        simpa using hmem
      have hkeeps : ∀ e ∈ [JournalEntry.event (.removed id), .released id], e.KeepsTable :=
        List.forall_mem_cons.2 ⟨fun _ => rfl, List.forall_mem_singleton.2 fun _ => rfl⟩
      refine ⟨hdarkens.append (.of_keeps hkeeps), fun c answer hc => ?_⟩
      obtain ⟨hclaimed, hfree, hswitched⟩ := hoff c answer (hcommits _ _ hc)
      have hsub : g₀ ⊆ .event (.removed id) :: .released id :: g₀ :=
        List.subset_append_right [_, _] g₀
      exact ⟨hsub hclaimed, hfree, hswitched.mono hsub hcommits⟩
  obtain ⟨hdarkens, hoff⟩ := hresult
  refine ⟨hdarkens.off, hdarkens.kept, fun c answer hc => ?_, fun h c hc => ?_, fun h c => ?_⟩
  · obtain ⟨hclaimed, hfree, hswitched⟩ := hoff c answer hc
    exact ⟨hclaimed, hfree, hswitched.surface, hswitched.replaced⟩
  · rw [← h c, hdarkens.off c hc]
  · by_cases hc : .call (.kernel (.setCrtc (.switchOff c))) (.ok ()) ∈ g
    · rw [hdarkens.off c hc, h c hc]
    · exact hdarkens.kept c hc

/-- Two monitors that want the same CRTC, which is lit for the first one or for the second one. A surface
cannot be made current. -/
def litForFirst (first : Bool) : RenderContext SimulatedDevice.world :=
  let mode : DisplayMode := ⟨0, 1920, 0, 0, 0, 0, 1080, 0, 0, 0, 0, 60, 0, 0, "m"⟩
  { world :=
      { faults := [⟨"make_current", 0, 1, "injected"⟩]
        kernel := .new
          [⟨⟨10⟩, .hdmiA, 1, .connected, [mode], [⟨20⟩], if first then some ⟨20⟩ else none⟩,
            ⟨⟨11⟩, .hdmiA, 2, .connected, [mode], [⟨21⟩], if first then none else some ⟨21⟩⟩]
          [⟨⟨20⟩, if first then some ⟨30⟩ else none, 1⟩, ⟨⟨21⟩, if first then none else some ⟨30⟩, 1⟩]
          [⟨⟨30⟩, some ⟨7⟩, (0, 0), some mode⟩]
        gpu := .new SimulatedGpu.defaultVisuals 2 }
    journal := []
    handles := some ⟨⟨1⟩, ⟨1⟩, ⟨1⟩, ⟨1⟩⟩
    chains := .empty }

/-- The CRTC table of a simulated kernel. -/
def tableOf (k : SimulatedKernel) : CrtcTable := k.crtcs.foldl CrtcTable.set .dark

/-- The first monitor was lit before, and stays lit when its mode cannot be set. -/
theorem failed_modeset_keeps_own_picture :
    let b := (Backend.new (litForFirst true)).run [.scan]
    let t := tableOf b.world.kernel
    ∃ gained, (b.after (.commitMode ⟨0⟩ .preferred)).journal = gained ++ b.journal ∧
      ((commitMode ⟨0⟩ .preferred).run b).1.isOk = false ∧ (t.info ⟨30⟩).mode.isSome = true ∧
      ∀ c, (t.after gained).info c = t.info c := by
  have hbare : (((Backend.new (litForFirst true)).run [.scan]).output? ⟨0⟩).any
      (·.surface.isNone) = true := by decide +kernel
  have hfail : ((commitMode ⟨0⟩ .preferred).run
      ((Backend.new (litForFirst true)).run [.scan])).1.isOk = false := by decide +kernel
  have hrun : (let b := (Backend.new (litForFirst true)).run [.scan]
      let gained := (JournalEntry.since b.journal
        (b.after (.commitMode ⟨0⟩ .preferred)).journal).reverse
      let t := tableOf b.world.kernel
      decide (t.ToldTruly gained) && gained.all (fun e => decide ¬e.AsksForFlip) &&
        (t.info ⟨30⟩).mode.isSome && gained.all (fun e => !e.switchesOff)) = true := by
    decide +kernel
  generalize (Backend.new (litForFirst true)).run [.scan] = b at *
  obtain ⟨o, ho, hs⟩ := (Option.any_eq_true _ _).1 hbare
  obtain ⟨gained, hgained, -⟩ := stages_after b (.commitMode ⟨0⟩ .preferred)
  dsimp only at hrun
  rw [hgained, JournalEntry.since_append, List.reverse_reverse] at hrun
  simp only [Bool.and_eq_true, decide_eq_true_eq, List.all_eq_true] at hrun
  obtain ⟨⟨⟨htold, hquiet⟩, hlit⟩, hkept⟩ := hrun
  have hdark : ¬ShowsFrame o.connector gained := fun hshown => by
    obtain ⟨e, he, hflip⟩ := hshown.exists_flip
    exact hquiet e he hflip
  obtain ⟨-, -, -, hsame⟩ := failed_modeset_darkens (tableOf b.world.kernel) ho
    (Option.isNone_iff_eq_none.1 hs) hgained htold hdark
  exact ⟨gained, hgained, hfail, hlit, hsame.2 fun c hc => (Bool.false_ne_true (hkept _ hc)).elim⟩

/-- If it is the second monitor that was lit, it goes dark when the mode of the first one cannot be
set. -/
theorem other_picture_goes_dark :
    let b := (Backend.new (litForFirst false)).run [.scan]
    let b' := b.after (.commitMode ⟨0⟩ .preferred)
    let t := tableOf b.world.kernel
    ∃ gained, b'.journal = gained ++ b.journal ∧
      (b.output? ⟨0⟩).any (fun o => o.surface.isNone && o.connector = ⟨10⟩) = true ∧
      ((commitMode ⟨0⟩ .preferred).run b).1.isOk = false ∧
      t.ToldTruly gained ∧ ¬ShowsFrame ⟨10⟩ gained ∧ (t.info ⟨30⟩).mode.isSome = true ∧
      (t.after gained).info ⟨30⟩ = .off ⟨30⟩ ∧ (tableOf b'.world.kernel).info ⟨30⟩ = .off ⟨30⟩ := by
  have hbare : (((Backend.new (litForFirst false)).run [.scan]).output? ⟨0⟩).any
      (fun o => o.surface.isNone && o.connector = ⟨10⟩) = true := by decide +kernel
  have hfail : ((commitMode ⟨0⟩ .preferred).run
      ((Backend.new (litForFirst false)).run [.scan])).1.isOk = false := by decide +kernel
  have hrun : (let b := (Backend.new (litForFirst false)).run [.scan]
      let gained := (JournalEntry.since b.journal
        (b.after (.commitMode ⟨0⟩ .preferred)).journal).reverse
      let t := tableOf b.world.kernel
      decide (t.ToldTruly gained) && gained.all (fun e => decide ¬e.AsksForFlip) &&
        (t.info ⟨30⟩).mode.isSome && (t.after gained).info ⟨30⟩ = .off ⟨30⟩ &&
        (tableOf (b.after (.commitMode ⟨0⟩ .preferred)).world.kernel).info ⟨30⟩ = .off ⟨30⟩)
      = true := by decide +kernel
  generalize (Backend.new (litForFirst false)).run [.scan] = b at *
  obtain ⟨gained, hgained, -⟩ := stages_after b (.commitMode ⟨0⟩ .preferred)
  dsimp only at hrun
  rw [hgained, JournalEntry.since_append, List.reverse_reverse] at hrun
  simp only [Bool.and_eq_true, decide_eq_true_eq, List.all_eq_true] at hrun
  obtain ⟨⟨⟨⟨htold, hquiet⟩, hlit⟩, hoff⟩, hkernel⟩ := hrun
  refine ⟨gained, hgained, hbare, hfail, htold, fun hshown => ?_, hlit, hoff, hkernel⟩
  obtain ⟨e, he, hflip⟩ := hshown.exists_flip
  exact hquiet e he hflip

end Backend
end Scanout
