import Scanout.Proofs.LinkStates
import Scanout.Proofs.ModesetChoices

/-!
# Tearing down what was set up

Setting a mode commits to one CRTC, which nobody owned, and presenting frames commits to none. The
teardown that follows puts the snapshot back and gives the claim up. The CRTC table is then what it
was, except that the claimed CRTC is off if nothing is known about a mode it had before.
-/

namespace Scanout

/-- The action presents frames or passes completions on. -/
def BackendAction.Presents : BackendAction → Prop
  | .beginFrame _ | .endFrame _ | .dispatch => True
  | _ => False

instance : DecidablePred BackendAction.Presents
  | .beginFrame _ | .endFrame _ | .dispatch => instDecidableTrue
  | .scan | .selectMode _ _ | .commitMode _ _ | .teardownOutput _ | .clear _ _ _
  | .setDrainTimeout _ | .teardownRenderer | .pushEvent _ => instDecidableFalse

/-- A CRTC that was driven differently for a while and a snapshot that is put back. -/
theorem CrtcTable.info_putBack_set {t : CrtcTable} {driven : CrtcInfo} {restored : Option CrtcInfo}
    (h : ∀ s, restored = some s → s = t.info s.handle) (c : CrtcHandle) :
    ((t.set driven).putBack driven.handle restored).info c =
      if c = driven.handle ∧ ¬restored.any (·.handle == c) then .off c else t.info c := by
  rcases @info_putBack (t.set driven) c driven.handle restored with
    ⟨s, hs, hhandle, hinfo⟩ | ⟨hne, hinfo⟩
  · rw [hinfo, if_neg (by simp [hs, hhandle]), ← hhandle]
    exact h s hs
  · have hany : ¬restored.any (·.handle == c) := by
      rw [Option.any_eq_true]
      rintro ⟨s, hs, hhandle⟩
      exact hne s hs (eq_of_beq hhandle)
    rw [hinfo, info_set]
    by_cases hc : c = driven.handle
    · rw [if_pos hc, if_pos ⟨hc, hany⟩, hc]
    · rw [if_neg hc, if_neg hc, if_neg fun h' => hc h'.1]

/-- The snapshots of two tables agree about the mode if the tables agree about that CRTC's. -/
theorem KernelAnswers.snapshot_mode_congr {k : KernelAnswers} {t t' : CrtcTable}
    {info : ConnectorInfo}
    (h : ∀ s, k.snapshot t info = some s → (t'.info s.handle).mode = s.mode) :
    (k.snapshot t' info).bind (·.mode) = (k.snapshot t info).bind (·.mode) := by
  unfold KernelAnswers.snapshot at h ⊢
  cases hencoder : info.currentEncoder with
  | none => rfl
  | some encoder =>
    rw [Option.bind_some, Option.bind_some]
    cases hc : (k.encoder encoder).crtc with
    | none => rfl
    | some c =>
      have hmode := h (t.info c) (by rw [hencoder, Option.bind_some, hc, Option.map_some])
      rwa [t.handle_info] at hmode

namespace Backend

variable {W : World} {k : KernelAnswers} {b b' : Backend W} {id : OutputId} {o : Output}
  {g : List JournalEntry} {request : ModeRequest}

/-- The table and the claims stay as they are, and so does what the outputs have to give up. -/
structure Steady (b : Backend W) (gained : List JournalEntry) (b' : Backend W) : Prop where
  table : ∀ e ∈ gained, e.KeepsTable
  holding : ∀ id, b'.holding? id = b.holding? id
  claims : b'.claims = b.claims

instance : Composes (Steady (W := W)) where
  refl _ := ⟨by simp, fun _ => rfl, rfl⟩
  trans h h' := ⟨fun e he => (List.mem_append.1 he).elim (h'.table e) (h.table e),
    fun id => (h'.holding id).trans (h.holding id), h'.claims.trans h.claims⟩

theorem Calm.steady (h : Calm b g b') : Steady b g b' :=
  ⟨fun e he => (h.still e he).keepsTable, h.holding, h.claims⟩

theorem steady_endFrame (id : OutputId) :
    Always Steady (endFrame id : ExceptT BackendError (BackendM W) Unit).run := fun b => by
  refine (yields_endFrame id b).mono ?_
  rintro r g b' (⟨-, -, h⟩ | ⟨o, s, c, core, -, -, -, hcore, hflip⟩)
  · exact ⟨fun e he => (h.quiet e he).keepsTable, holding?_congr h.same.outputs, h.same.claims⟩
  · have htable {shown} (hflip : FlipAttempt c shown core) : ∀ e ∈ g, e.KeepsTable :=
      hcore.forall_mem hflip.keepsTable fun _ => JournalEntry.IsQuiet.keepsTable
    rcases hflip with ⟨-, -, hflip, h⟩ | ⟨fb, -, hflip, h⟩
    · exact ⟨htable hflip, holding?_congr h.outputs, h.claims⟩
    · refine ⟨htable hflip, holding?_modify h.outputs fun o _ => ?_, h.claims⟩
      simp [Output.presenting, Output.holding?, Function.comp_def]

theorem steady_presents {a : BackendAction} (ha : a.Presents) :
    Always (Steady (W := W)) (perform a).run := by
  cases a with
  | beginFrame id => exact fun b => (calm_beginFrame id b).mono fun _ _ _ => Calm.steady
  | endFrame id => exact steady_endFrame id
  | dispatch => exact fun b => (always_dispatchCompletions b).mono fun _ _ _ => Calm.steady
  | _ => exact ha.elim

/-- A mode was set: `c` is what it settled on, and its CRTC is driven accordingly. -/
structure SetUp (k : KernelAnswers) (id : OutputId) (o : Output) (request : ModeRequest)
    (b : Backend W) (c : ModesetChoice) (gained : List JournalEntry) (b' : Backend W) : Prop where
  free : b.claims.owner c.crtc = none
  claims : b'.claims = (b.claims.claim c.crtc id).2
  record : ∃ s fb, b'.output? id = some ((o.configured c).lit c.mode s fb)
  table : ∃ fb, ∀ t : CrtcTable, t.after gained = t.set ⟨c.crtc, some fb, (0, 0), some c.mode⟩
  choice : ∀ t, k.GaveAll t gained → k.choice? t b.claims o.connector request = some c

/-- A choice is known by the record that it was written to. -/
theorem Shows.eq {c c' : ModesetChoice} {s : SurfaceId} {fb : FramebufferId}
    (h : ((o.configured c).lit c.mode s fb).Shows c') : c' = c := by
  obtain ⟨o₀, s', fb', heq⟩ := h
  obtain ⟨modes, saved, mode, encoder, crtc⟩ := c
  obtain ⟨modes', saved', mode', encoder', crtc'⟩ := c'
  simp only [Output.lit, Output.configured, Output.mk.injEq, Option.some.injEq] at heq
  simp [heq]

theorem SetUp.of_tried (ho : b.output? id = some o)
    (h : ModesetTried id o.connector b (.ok ()) g b')
    (hchoice : ∀ t, k.GaveAll t g →
      SetsChoice (k.choice? t b.claims o.connector request) id (.ok ()) g b') :
    ∃ c, SetUp k id o request b c g b' := by
  cases h with
  | @claimed c _ g₁ g₂ _ hc h =>
    cases h with
    | @shown s fb core _ _ _ _ htried hcore h =>
      have hrecord : b'.output? id = some ((o.configured c).lit c.mode s fb) :=
        output?_modify_self h.outputs (output?_configured c ho)
      refine ⟨c, hc.free, h.claims, ⟨s, fb, hrecord⟩, ⟨fb, fun t => ?_⟩, fun t hgave => ?_⟩
      · rw [CrtcTable.after_append, hcore.table, CrtcTable.after,
          CrtcTable.after_of_keeps fun e he => (hc.quiet e he).keepsTable]
        cases htried
        rfl
      · obtain ⟨hsettled, -, hshown⟩ := hchoice t hgave
        obtain ⟨c', hc'⟩ := Option.isSome_iff_exists.1 (hsettled rfl)
        rw [hc', Shows.eq (hshown c' hc' rfl _ hrecord)]

/-- Setting the mode of an output without a surface claims what it settles on; what else a success
means is told by `SetUp`. -/
theorem yields_commitMode_bare (k : KernelAnswers) (ho : b.output? id = some o)
    (hs : o.surface = none) (request : ModeRequest) :
    Yields (commitMode id request).run b fun r g b' =>
      (∀ t, k.GaveAll t g → ∀ c, k.choice? t b.claims o.connector request = some c →
        .claimed c.crtc id ∈ g) ∧
      (r = .ok () → ∃ c, SetUp k id o request b c g b') := by
  refine (yields_commitMode_of_bare ho hs ((yields_tryModeset id o.connector request b).and
    (yields_tryModeset_choice k id o.connector request b))).mono ?_
  rintro r g b' (⟨rfl, h, hchoice⟩ | ⟨e, g₀, b₁, rfl, rfl, ⟨-, hchoice⟩, -⟩)
  · exact ⟨fun t hgave => (hchoice t hgave).claimed, fun _ => SetUp.of_tried ho h hchoice⟩
  · refine ⟨fun t hgave c hc => ?_, nofun⟩
    simpa using (hchoice t hgave.2.2).claimed c hc

/-- A teardown that succeeds ends with putting the snapshot back and giving the claim up. Until then
everything is calm, so that the record has the same to give up as at first. -/
theorem yields_teardownOutput_held {h : Holding} (hh : b.holding? id = some h) :
    Yields (teardownOutput id).run b fun r g b' => r = .ok () →
      ∃ connector g₀ g₁ g₂, g = .released id :: g₂ ++ g₁ ++ g₀ ∧ (∀ e ∈ g₀, e.KeepsTable) ∧
        PutBack connector h.crtc h.saved g₁ ∧ Destroys h.surface g₂ ∧
        b'.claims = b.claims.release id ∧
        ∃ o', b'.output? id = some o' ∧ o'.surface = none := by
  obtain ⟨o, s, ho, hs, -⟩ := holding?_eq_some_iff.1 hh
  refine yields_teardownOutput_of_parts ho hs (always_awaitFlip (R := Calm) id _) ?_ (by simp)
  intro g b₁ hcalm
  obtain ⟨o₁, s₁, ho₁, hs₁, rfl⟩ := holding?_eq_some_iff.1
    ((hcalm.holding id).trans ((b.holding?_marked id id).trans hh))
  refine (yields_releaseOutput ho₁ hs₁).mono ?_
  rintro _ _ b' ⟨g₁, g₂, rfl, hback, hdestroy, h'⟩ -
  refine ⟨o₁.connector, g, g₁, g₂, rfl, hcalm.steady.table, hback, hdestroy, ?_, _,
    output?_modify_self h'.outputs ho₁, rfl⟩
  rw [h'.claims]
  exact congrArg (·.release id) hcalm.claims

/-- What is left of the table once the snapshot was put back after `SetUp`. -/
theorem SetUp.info_after {c : ModesetChoice} {t : CrtcTable} {connector : ConnectorHandle}
    {g₀ g₁ g₂ : List JournalEntry} {s : SurfaceId} (h : SetUp k id o request b c g b')
    (hg₀ : ∀ e ∈ g₀, e.KeepsTable) (hback : PutBack connector (some c.crtc) c.saved g₁)
    (hdestroy : Destroys s g₂)
    (hgave : k.GaveAll t (.released id :: g₂ ++ g₁ ++ g₀ ++ g)) (d : CrtcHandle) :
    (t.after (.released id :: g₂ ++ g₁ ++ g₀ ++ g)).info d =
      if d = c.crtc ∧ ¬(c.saved.filter (·.mode.isSome)).any (·.handle == d) then .off d
      else t.info d := by
  have hgranted := hgave.granted
  obtain ⟨-, -, -, -, -, hsaved⟩ := KernelAnswers.choice?_eq_some_iff.1
    (h.choice t (KernelAnswers.gaveAll_append.1 hgave).2)
  have hgiven : ∀ s, c.saved.filter (·.mode.isSome) = some s → s = t.info s.handle := fun s hs =>
    KernelAnswers.info_of_snapshot (hsaved ▸ (Option.filter_eq_some_iff.1 hs).1)
  obtain ⟨fb, htable⟩ := h.table
  obtain ⟨restored, hrestored, -, hall⟩ := hback.after_eq
    (fun e he => (hgranted e (by simp [he])).grantsOff) (t.set ⟨c.crtc, some fb, (0, 0), some c.mode⟩)
  obtain rfl := hall fun e he => hgranted e (by simp [he])
  have hafter : t.after (.released id :: g₂ ++ g₁ ++ g₀ ++ g) =
      (t.set ⟨c.crtc, some fb, (0, 0), some c.mode⟩).putBack c.crtc
        (c.saved.filter (·.mode.isSome)) := by
    rw [CrtcTable.after_append, htable, CrtcTable.after_append, CrtcTable.after_of_keeps hg₀,
      CrtcTable.after_append, hrestored]
    refine CrtcTable.after_of_keeps fun e he => ?_
    rcases List.mem_cons.1 he with rfl | he
    · exact fun _ => rfl
    · exact hdestroy.keepsTable e he
  rw [hafter]
  exact CrtcTable.info_putBack_set hgiven d

/-- On such a table the same is settled on again. -/
private theorem choice?_again {c : ModesetChoice} {t t' : CrtcTable}
    (h : k.choice? t b.claims o.connector request = some c)
    (hinfo : ∀ d, t'.info d =
      if d = c.crtc ∧ ¬(c.saved.filter (·.mode.isSome)).any (·.handle == d) then .off d
      else t.info d) :
    ∃ saved, k.choice? t' b.claims o.connector request = some { c with saved } := by
  obtain ⟨-, -, -, -, -, hsaved⟩ := KernelAnswers.choice?_eq_some_iff.1 h
  have hmode : (k.snapshot t' (k.connector o.connector)).bind (·.mode) =
      (k.snapshot t (k.connector o.connector)).bind (·.mode) := by
    refine KernelAnswers.snapshot_mode_congr fun s hs => ?_
    rw [hinfo]
    split
    · next hoff =>
      cases hm : s.mode with
      | none => rfl
      | some m =>
        refine absurd ?_ hoff.2
        simp [hsaved, hs, hm, Option.filter_some]
    · rw [← KernelAnswers.info_of_snapshot hs]
  exact ⟨_, by rw [KernelAnswers.choice?_congr _ _ _ hmode, h, Option.map_some]⟩

/-- A mode is set that was not set before, frames are presented, and the output is torn down. Then
the claims are those of the beginning, and if the kernel refused nothing, every CRTC is configured
as in the beginning, except that the claimed one is off unless its snapshot had a mode. So the same
mode, encoder and CRTC are found when the mode is set again. -/
theorem teardown_undoes_modeset (k : KernelAnswers) (t : CrtcTable) {b : Backend W}
    {id : OutputId} {o : Output} {request : ModeRequest} {frames : List BackendAction}
    (ho : b.output? id = some o) (hs : o.surface = none)
    (hclaims : ∀ c, b.claims.owner c ≠ some id) (hframes : ∀ a ∈ frames, a.Presents)
    (hset : ((commitMode id request).run b).1 = .ok ())
    (hdown :
      ((teardownOutput id).run ((b.after (.commitMode id request)).run frames)).1 = .ok ()) :
    let lit := b.after (.commitMode id request)
    let dark := (lit.run frames).after (.teardownOutput id)
    ∃ gained again o₁ c, dark.journal = gained ++ b.journal ∧
      (dark.after (.commitMode id request)).journal = again ++ dark.journal ∧
      lit.output? id = some o₁ ∧ o₁.crtc = some c ∧ lit.claims.owner c = some id ∧
      dark.claims = b.claims ∧
      (k.GaveAll t gained →
        o₁.savedCrtc = k.snapshot t (k.connector o.connector) ∧
        (∀ d ≠ c, (t.after gained).info d = t.info d) ∧
        (t.after gained).info c =
          (if (o₁.savedCrtc.filter (·.mode.isSome)).any (·.handle == c) then t.info c
            else .off c) ∧
        (k.GaveAll (t.after gained) again → .claimed c id ∈ again ∧
          (((commitMode id request).run dark).1 = .ok () →
            ∃ o₂, (dark.after (.commitMode id request)).output? id = some o₂ ∧
              o₂.mode = o₁.mode ∧ o₂.encoder = o₁.encoder ∧ o₂.crtc = o₁.crtc))) := by
  intro lit dark
  obtain ⟨g, hg, -, hsetup⟩ := yields_commitMode_bare k ho hs request
  obtain ⟨c, hc⟩ := hsetup hset
  obtain ⟨s, fb, hrecord⟩ := hc.record
  obtain ⟨g₀, hg₀, hsteady⟩ := run_always (fun a ha => steady_presents (hframes a ha)) lit
  have hheld : (lit.run frames).holding? id = some ⟨s, some c.crtc, c.saved⟩ :=
    (hsteady.holding id).trans (holding?_of_output? hrecord)
  obtain ⟨g₁, hg₁, hdark⟩ := yields_teardownOutput_held hheld
  obtain ⟨connector, g₂, g₃, g₄, rfl, hg₂, hback, hdestroy, hreleased, o', ho', hs'⟩ := hdark hdown
  have hlit : lit.journal = g ++ b.journal := hg
  have hclaim : lit.claims = (b.claims.claim c.crtc id).2 := hc.claims
  have hend : dark.journal = .released id :: g₄ ++ g₃ ++ g₂ ++ (lit.run frames).journal := hg₁
  have hsame : dark.claims = b.claims := by
    rw [← b.claims.release_claim hc.free hclaims, ← hclaim, ← hsteady.claims]
    exact hreleased
  have hconnector : o'.connector = o.connector := by
    have hslots : SlotsKept b dark := (SlotsKept.of_run b [.commitMode id request]).trans
      ((SlotsKept.of_run lit frames).trans (SlotsKept.of_run _ [.teardownOutput id]))
    obtain ⟨o'', ho'', hconn⟩ := hslots id o ho
    exact Option.some.inj (ho'.symm.trans ho'') ▸ hconn
  obtain ⟨again, hagain, hclaimed, hsetup'⟩ := yields_commitMode_bare k ho' hs' request
  refine ⟨.released id :: g₄ ++ g₃ ++ (g₂ ++ g₀) ++ g, again, _, c.crtc, ?_, hagain, hrecord, rfl,
    ?_, hsame, fun hgave => ?_⟩
  · rw [hend, hg₀, hlit]
    simp
  · rw [hclaim, b.claims.owner_claim id hc.free, if_pos rfl]
  · have hinfo := hc.info_after (fun e he =>
      (List.mem_append.1 he).elim (hg₂ e) (hsteady.table e)) hback hdestroy hgave
    have hchoice := hc.choice t (KernelAnswers.gaveAll_append.1 hgave).2
    obtain ⟨-, -, -, -, -, hsaved⟩ := KernelAnswers.choice?_eq_some_iff.1 hchoice
    refine ⟨hsaved, fun d hd => (hinfo d).trans (if_neg fun h => hd h.1), ?_, fun hgave' => ?_⟩
    · rw [hinfo]
      simp only [true_and, ite_not]
      rfl
    · obtain ⟨saved, hsecond⟩ := choice?_again hchoice hinfo
      rw [← hconnector, ← hsame] at hsecond
      have hclaim' := hclaimed _ hgave' _ hsecond
      refine ⟨hclaim', fun hok => ?_⟩
      obtain ⟨c', hc'⟩ := hsetup' hok
      obtain rfl := Option.some.inj (hsecond.symm.trans (hc'.choice _ hgave'))
      obtain ⟨s', fb', hrecord'⟩ := hc'.record
      exact ⟨_, hrecord', rfl, rfl, rfl⟩

/-- What the kernel of `oneMonitor` answers. -/
def oneMonitorAnswers : KernelAnswers where
  connector _ := ⟨⟨10⟩, .hdmiA, 1, .connected,
    [⟨0, 1920, 0, 0, 0, 0, 1080, 0, 0, 0, 0, 60, 0, 0, "m"⟩], [⟨20⟩], none⟩
  encoder _ := ⟨⟨20⟩, none, 1⟩
  resources := ⟨[⟨10⟩], [⟨30⟩]⟩

/-- A monitor is lit, shows two frames and is torn down, and then it is lit again. -/
theorem teardown_undoes_modeset_two_frames :
    let b := (Backend.new oneMonitor).run [.scan]
    let dark := ((b.after (.commitMode ⟨0⟩ .preferred)).run
      [.dispatch, .beginFrame ⟨0⟩, .endFrame ⟨0⟩, .dispatch]).after (.teardownOutput ⟨0⟩)
    ∃ gained again c, dark.journal = gained ++ b.journal ∧
      (dark.after (.commitMode ⟨0⟩ .preferred)).journal = again ++ dark.journal ∧
      oneMonitorAnswers.GaveAll .dark gained ∧ oneMonitorAnswers.GaveAll .dark again ∧
      dark.claims = b.claims ∧ CrtcTable.dark.after gained = .dark ∧ .claimed c ⟨0⟩ ∈ again := by
  have hbare : (((Backend.new oneMonitor).run [.scan]).output? ⟨0⟩).any (·.surface.isNone) := by
    decide +kernel
  have hclaims : ((Backend.new oneMonitor).run [.scan]).claims = .empty := by decide +kernel
  have hset : ((commitMode ⟨0⟩ .preferred).run ((Backend.new oneMonitor).run [.scan])).1.isOk := by
    decide +kernel
  have hdown : ((teardownOutput ⟨0⟩).run ((((Backend.new oneMonitor).run [.scan]).after
      (.commitMode ⟨0⟩ .preferred)).run
        [.dispatch, .beginFrame ⟨0⟩, .endFrame ⟨0⟩, .dispatch])).1.isOk := by decide +kernel
  have hgave : decide (oneMonitorAnswers.GaveAll .dark
      (JournalEntry.since ((Backend.new oneMonitor).run [.scan]).journal
        (((((Backend.new oneMonitor).run [.scan]).after (.commitMode ⟨0⟩ .preferred)).run
          [.dispatch, .beginFrame ⟨0⟩, .endFrame ⟨0⟩, .dispatch]).after
            (.teardownOutput ⟨0⟩)).journal).reverse) = true := by decide +kernel
  have hgave' : decide (oneMonitorAnswers.GaveAll .dark
      (JournalEntry.since
        (((((Backend.new oneMonitor).run [.scan]).after (.commitMode ⟨0⟩ .preferred)).run
          [.dispatch, .beginFrame ⟨0⟩, .endFrame ⟨0⟩, .dispatch]).after
            (.teardownOutput ⟨0⟩)).journal
        ((((((Backend.new oneMonitor).run [.scan]).after (.commitMode ⟨0⟩ .preferred)).run
          [.dispatch, .beginFrame ⟨0⟩, .endFrame ⟨0⟩, .dispatch]).after
            (.teardownOutput ⟨0⟩)).after (.commitMode ⟨0⟩ .preferred)).journal).reverse) = true := by
    decide +kernel
  generalize (Backend.new oneMonitor).run [.scan] = b at *
  obtain ⟨o, ho, hs⟩ := (Option.any_eq_true _ _).1 hbare
  obtain ⟨gained, again, o₁, c, hgained, hagain, -, -, -, hsame, hround⟩ :=
    teardown_undoes_modeset oneMonitorAnswers .dark ho (Option.isNone_iff_eq_none.1 hs)
      (fun c => by simp [hclaims]) (by decide) (eq_ok_of_isOk hset) (eq_ok_of_isOk hdown)
  rw [hagain, JournalEntry.since_append, List.reverse_reverse, decide_eq_true_iff] at hgave'
  rw [hgained, JournalEntry.since_append, List.reverse_reverse, decide_eq_true_iff] at hgave
  obtain ⟨-, helse, hc, hsecond⟩ := hround hgave
  have hdark : CrtcTable.dark.after gained = .dark := by
    ext1
    funext d
    by_cases hd : d = c
    · rw [hd, hc]
      exact ite_self _
    · exact helse d hd
  rw [hdark] at hsecond
  exact ⟨gained, again, c, hgained, hagain, hgave, hgave', hsame, hdark, (hsecond hgave').1⟩

end Backend
end Scanout
