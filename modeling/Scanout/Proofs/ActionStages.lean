import Scanout.BackendHistory
import Scanout.Proofs.FlipDrain
import Scanout.Proofs.OutputSetup

/-!
# The stages of an action

Whatever is asked of a backend, it goes through stages, and there are few kinds of them. A
stage tells what is added to the journal and what becomes of the books. What every stage
keeps is kept by every action and by every run.
-/

namespace Scanout

def BackendAction.subject : BackendAction → Option OutputId
  | .selectMode id _ | .commitMode id _ | .beginFrame id | .endFrame id | .teardownOutput id =>
    some id
  | .scan | .dispatch | .clear _ _ _ | .setDrainTimeout _ | .teardownRenderer | .pushEvent _ => none

/-- The output whose mode the action sets. -/
def BackendAction.modesetOf? : BackendAction → Option OutputId
  | .selectMode id _ | .commitMode id _ => some id
  | .scan | .beginFrame _ | .endFrame _ | .teardownOutput _ | .dispatch | .clear _ _ _
  | .setDrainTimeout _ | .teardownRenderer | .pushEvent _ => none

theorem BackendAction.subject_of_modesetOf? {a : BackendAction} {id : OutputId}
    (h : a.modesetOf? = some id) : a.subject = some id := by
  cases a with
  | selectMode _ _ | commitMode _ _ => exact h
  | _ => contradiction

/-- The action is not one with a mode request that cannot be read. -/
def BackendAction.Readable : BackendAction → Prop
  | .selectMode _ request => (ModeRequest.parse request).isOk
  | .scan | .commitMode _ _ | .beginFrame _ | .endFrame _ | .teardownOutput _ | .dispatch
  | .clear _ _ _ | .setDrainTimeout _ | .teardownRenderer | .pushEvent _ => True

instance : DecidablePred BackendAction.Readable := fun a => by
  cases a <;> unfold BackendAction.Readable <;> infer_instance

def Output.awaiting (o : Output) (pending : Bool) : Output := { o with flipPending := pending }

namespace Backend

variable {W : World} {a : BackendAction}

/-- The books after setting a mode failed. -/
def reverted (b : Backend W) (id : OutputId) : Backend W :=
  { b with
    outputs := b.outputs.modify id.slot fun o => { o.resetModeset with state := .disconnected }
    claims := b.claims.release id }

/-- The books after an output was released. -/
def withdrawn (b : Backend W) (id : OutputId) : Backend W :=
  { b with
    outputs := b.outputs.modify id.slot .withdrawn
    claims := b.claims.release id }

@[simp] theorem claims_reverted (b : Backend W) (id : OutputId) :
    (b.reverted id).claims = b.claims.release id := rfl

@[simp] theorem claims_withdrawn (b : Backend W) (id : OutputId) :
    (b.withdrawn id).claims = b.claims.release id := rfl

inductive Stage (a : BackendAction) (b : Backend W) : List JournalEntry → Backend W → Prop where
  | quiet {g b'} (h : Quiet b g b') : Stage a b g b'
  | retimed (timeout : Duration) (ha : a = .setDrainTimeout timeout) :
      Stage a b [] { b with flipDrainTimeout := timeout }
  | slotted (connector : ConnectorHandle) (ha : a = .scan)
      (hnew : ∀ o ∈ b.outputs, o.connector ≠ connector) :
      Stage a b [] { b with outputs := b.outputs ++ [Output.new connector] }
  | read {id : OutputId} {o info b'} (ha : a = .scan) (ho : b.output? id = some o)
      (h : SameBooks
        { b with outputs := b.outputs.modify id.slot fun _ => (o.reconcile info id).1 } b') :
      Stage a b
        ((o.reconcile info id).2.toList.map .event ++
          [.call (.kernel (.connector o.connector)) (.ok info)]) b'
  | completed {completions b'} (h : SameBooks (b.completed completions) b') :
      Stage a b
        (readyEntries (b.ready completions) ++ [.call (.kernel .receive) (.ok completions)]) b'
  | cleaning {id o s} (ha : a.subject = some id) (ho : b.output? id = some o)
      (hs : o.surface = some s) :
      Stage a b []
        { b with outputs := b.outputs.modify id.slot fun o => { o with cleaningUp := true } }
  /-- An output's flip did not complete, so that its mode cannot be set. -/
  | undrained {id o s b'} (ha : a.subject = some id) (ho : b.output? id = some o)
      (hs : o.surface = some s)
      (h : SameBooks
        { b with outputs := b.outputs.modify id.slot fun o => { o with state := .disconnected } }
        b') :
      Stage a b [.event (.removed id)] b'
  /-- An output whose flip is not pending was released. -/
  | released {id o s g₁ g₂ b'} (ha : a.subject = some id) (ho : b.output? id = some o)
      (hs : o.surface = some s) (hidle : o.flipPending = false)
      (hback : PutBack o.connector o.crtc o.savedCrtc g₁) (hdestroy : Destroys s.surface g₂)
      (h : SameBooks (b.withdrawn id) b') : Stage a b (.released id :: g₂ ++ g₁) b'
  | set {id o g b'} (ha : a.subject = some id) (ho : b.output? id = some o)
      (hs : o.surface = none) (h : ModesetTried id o.connector b (.ok ()) g b') : Stage a b g b'
  | reverted {id o e g b₁ b'} (ha : a.subject = some id) (ho : b.output? id = some o)
      (hs : o.surface = none) (h : ModesetTried id o.connector b (.error e) g b₁)
      (h' : SameBooks (b₁.reverted id) b') :
      Stage a b (.event (.removed id) :: .released id :: g) b'
  | refused {id o request e b'} (ha : a = .selectMode id request)
      (he : ModeRequest.parse request = .error e) (ho : b.output? id = some o)
      (h : SameBooks (b.reverted id) b') : Stage a b [.event (.removed id), .released id] b'
  | flipped {id o s crtc fb core g b'} (ha : a.subject = some id) (ho : b.output? id = some o)
      (hs : o.surface = some s) (hc : o.crtc = some crtc)
      (hflip : FlipAttempt crtc (some fb) core) (hcore : Amid core g)
      (h : SameBooks { b with outputs := b.outputs.modify id.slot (·.presenting fb) } b') :
      Stage a b g b'
  | unflipped {id o s crtc core g b'} (ha : a.subject = some id) (ho : b.output? id = some o)
      (hs : o.surface = some s) (hc : o.crtc = some crtc) (hflip : FlipAttempt crtc none core)
      (hcore : Amid core g) (h : SameBooks b b') : Stage a b g b'

inductive Stages (a : BackendAction) : Backend W → List JournalEntry → Backend W → Prop where
  | nil (b : Backend W) : Stages a b [] b
  | cons {b g b₁ g' b'} (h : Stage a b g b₁) (h' : Stages a b₁ g' b') : Stages a b (g' ++ g) b'

namespace Stages

variable {b b₁ b' : Backend W} {g g' : List JournalEntry}

theorem single (h : Stage a b g b') : Stages a b g b' := by
  simpa using Stages.cons h (.nil b')

theorem trans (h : Stages a b g b₁) (h' : Stages a b₁ g' b') : Stages a b (g' ++ g) b' := by
  induction h with
  | nil => simpa using h'
  | cons h₀ _ ih => simpa using Stages.cons h₀ (ih h')

theorem snoc (h : Stages a b g b₁) (h' : Stage a b₁ g' b') : Stages a b (g' ++ g) b' :=
  h.trans (single h')

theorem quiet (h : Quiet b g b') : Stages a b g b' := single (.quiet h)

/-- What every stage keeps of the journal and the books, the stages keep. -/
theorem keep {P : List JournalEntry → Backend W → Prop}
    (hstep : ∀ b g b' g₀, Stage a b g b' → P g₀ b → P (g ++ g₀) b') (h : Stages a b g b')
    {g₀ : List JournalEntry} (hP : P g₀ b) : P (g ++ g₀) b' := by
  induction h generalizing g₀ with
  | nil => exact hP
  | cons h₀ _ ih =>
    rw [List.append_assoc]
    exact ih (hstep _ _ _ _ h₀ hP)

end Stages

theorem Round.stages {id : OutputId} {deadline : Duration} {b b' : Backend W}
    {r : Except BackendError Unit} {g : List JournalEntry} (h : Round id deadline b r g b') :
    Stages a b g b' := by
  cases h with
  | late _ h | unwaited _ h | idle _ h => exact .quiet ⟨by simp [JournalEntry.IsQuiet], h⟩
  | unread _ h =>
    exact .quiet ⟨by simp [JournalEntry.IsQuiet, Except.isOk, Except.toBool], h⟩
  | @read time completions _ _ h =>
    have hwait : Quiet b [.call (.kernel (.wait (deadline - time))) (.ok true),
        .call .clock time] b := ⟨by simp [JournalEntry.IsQuiet], .refl b⟩
    simpa using (Stages.quiet hwait).snoc (.completed h)

theorem Drained.stages {id : OutputId} {deadline : Duration} {b b' : Backend W}
    {r : Except BackendError Unit} {g : List JournalEntry} (h : Drained id deadline b r g b') :
    Stages a b g b' := by
  induction h with
  | settled _ | exhausted _ => exact .nil _
  | stopped _ h => exact h.stages
  | again _ h _ ih => exact h.stages.trans ih

/-- What dispatching goes through is open to every action. -/
theorem Stages.of_dispatch {b b' : Backend W} {g : List JournalEntry}
    (h : Stages .dispatch b g b') : Stages a b g b' := by
  induction h with
  | nil b => exact .nil b
  | cons h₀ _ ih =>
    refine .cons ?_ ih
    cases h₀ with
    | quiet h => exact .quiet h
    | completed h => exact .completed h
    | retimed _ ha | slotted _ ha _ | read ha _ _ | cleaning ha _ _ | undrained ha _ _ _
    | released ha _ _ _ _ _ _ | set ha _ _ _ | reverted ha _ _ _ _ | refused ha _ _ _
    | flipped ha _ _ _ _ _ _ | unflipped ha _ _ _ _ _ _ => contradiction

/-- The books once the record of an output is marked as being torn down. -/
def marked (b : Backend W) (id : OutputId) : Backend W :=
  { b with outputs := b.outputs.modify id.slot fun o => { o with cleaningUp := true } }

theorem output?_marked {b : Backend W} {id : OutputId} {o : Output} (ho : b.output? id = some o) :
    (b.marked id).output? id = some { o with cleaningUp := true } :=
  output?_modify_self (b := b) (f := fun o => { o with cleaningUp := true }) rfl ho

/-- An output with a surface is marked, and the clock tells until when its flip is awaited. Once the
flip has completed, everything is released. -/
inductive Awaited (id : OutputId) (o : Output) (s : OutputSurface) (b : Backend W) :
    Except BackendError Unit → List JournalEntry → Backend W → Prop where
  | stalled {start e g b₁ b'} (hstart : SameBooks (b.marked id) b₁)
      (h : Drained id (start + b.flipDrainTimeout) b₁ (.error e) g b') :
      Awaited id o s b (.error e) (g ++ [.call .clock start]) b'
  | released {start g g₁ g₂ b₁ b₂ b'} (hstart : SameBooks (b.marked id) b₁)
      (h : Drained id (start + b.flipDrainTimeout) b₁ (.ok ()) g b₂)
      (hback : PutBack o.connector o.crtc o.savedCrtc g₁) (hdestroy : Destroys s.surface g₂)
      (huntimed : ∀ e ∈ .released id :: g₂ ++ g₁, e.Untimed)
      (h' : SameBooks (b₂.withdrawn id) b') :
      Awaited id o s b (.ok ()) (.released id :: g₂ ++ g₁ ++ (g ++ [.call .clock start])) b'

/-- The part of a teardown that waits. -/
def awaitFlip (id : OutputId) : ExceptT BackendError (BackendM W) Unit := do
  let b ← get
  let start ← now
  drainFlip id (start + b.flipDrainTimeout) W.patience

/-- Once an output with a surface is marked, a teardown waits and then releases. -/
theorem yields_teardownOutput_of_parts {id : OutputId} {b : Backend W} {o : Output}
    {s : OutputSurface} {P Q : Except BackendError Unit → List JournalEntry → Backend W → Prop}
    (ho : b.output? id = some o) (hs : o.surface = some s)
    (hwait : Yields (awaitFlip id).run (b.marked id) P)
    (hrelease : ∀ g b₁, P (.ok ()) g b₁ →
      Yields (releaseOutput id) b₁ fun _ g' b' => Q (.ok ()) (g' ++ g) b')
    (hstall : ∀ e g b₁, P (.error e) g b₁ → Q (.error e) g b₁) :
    Yields (teardownOutput id).run b Q := by
  have hrun : (teardownOutput id).run b =
      (awaitFlip id >>= fun _ => ExceptT.lift (releaseOutput id)).run (b.marked id) := by
    rw [teardownOutput, run_requireOutput_bind, ho]
    dsimp only
    rw [hs, Option.isNone_some, if_neg (by simp)]
    simp only [awaitFlip, bind_assoc]
    rfl
  obtain ⟨g, hg, hQ⟩ := hwait.bindOk (fun _ g b₁ h => .lift (hrelease g b₁ h)) hstall
  exact ⟨g, hrun ▸ hg, hrun ▸ hQ⟩

theorem yields_awaitFlip (id : OutputId) (b : Backend W) :
    Yields (awaitFlip id).run b fun r g b' => ∃ start b₁ g₁, g = g₁ ++ [.call .clock start] ∧
      SameBooks b b₁ ∧ Drained id (start + b.flipDrainTimeout) b₁ r g₁ b' := by
  refine .getOk_bind ?_
  refine (yields_quietCallOk (c := .clock) b fun _ => trivial).bindOk ?_ (by simp)
  rintro start _ b₁ ⟨_, ⟨⟩, rfl, -, h₁⟩
  refine (yields_drainFlip_drained id (start + b.flipDrainTimeout) W.patience b₁).mono ?_
  exact fun _ g₁ _ h => ⟨start, b₁, g₁, rfl, h₁, h⟩

theorem yields_teardownOutput_awaited {id : OutputId} {b : Backend W} {o : Output}
    {s : OutputSurface} (ho : b.output? id = some o) (hs : o.surface = some s) :
    Yields (teardownOutput id).run b (Awaited id o s b) := by
  refine yields_teardownOutput_of_parts ho hs (yields_awaitFlip id (b.marked id)) ?_ ?_
  · rintro _ b₂ ⟨start, b₁, g, rfl, hstart, h⟩
    have ho₂ := h.record ((hstart.output? id).trans (output?_marked ho))
    refine ((yields_releaseOutput ho₂ hs).and (untimed_releaseOutput id b₂)).mono ?_
    rintro _ _ b' ⟨⟨g₁, g₂, rfl, hback, hdestroy, h'⟩, huntimed⟩
    exact .released hstart h hback hdestroy huntimed h'
  · rintro e _ b' ⟨start, b₁, g, rfl, hstart, h⟩
    exact .stalled hstart h

/-- An output with a surface is marked and its flip awaited, before everything is released. -/
inductive TornDown (id : OutputId) (o : Output) (s : OutputSurface) (b : Backend W) :
    Except BackendError Unit → List JournalEntry → Backend W → Prop where
  | stalled {p e g b'} (h : Stages .dispatch (b.marked id) g b')
      (hkept : b'.output? id = some ({ o with cleaningUp := true }.awaiting p)) :
      TornDown id o s b (.error e) g b'
  | released {g g₁ g₂ b₁ b'} (h : Stages .dispatch (b.marked id) g b₁)
      (hkept : b₁.output? id = some ({ o with cleaningUp := true }.awaiting false))
      (hback : PutBack o.connector o.crtc o.savedCrtc g₁) (hdestroy : Destroys s.surface g₂)
      (h' : SameBooks (b₁.withdrawn id) b') :
      TornDown id o s b (.ok ()) (.released id :: g₂ ++ g₁ ++ g) b'

theorem yields_teardownOutput_lit {id : OutputId} {b : Backend W} {o : Output} {s : OutputSurface}
    (ho : b.output? id = some o) (hs : o.surface = some s) :
    Yields (teardownOutput id).run b (TornDown id o s b) := by
  have hdrained {start : Duration} {b₁ b₂ : Backend W} {r : Except BackendError Unit}
      {g : List JournalEntry} (hstart : SameBooks (b.marked id) b₁)
      (h : Drained id (start + b.flipDrainTimeout) b₁ r g b₂) :
      Stages .dispatch (b.marked id) (g ++ [.call .clock start]) b₂ ∧
        b₂.output? id = some ({ o with cleaningUp := true }.awaiting !r.isOk) :=
    ⟨(Stages.quiet ⟨by simp [JournalEntry.IsQuiet], hstart⟩).trans h.stages,
      h.record ((hstart.output? id).trans (output?_marked ho))⟩
  refine (yields_teardownOutput_awaited ho hs).mono ?_
  intro r g b' h
  cases h with
  | stalled hstart h => exact .stalled (hdrained hstart h).1 (hdrained hstart h).2
  | released hstart h hback hdestroy _ h' =>
    exact .released (hdrained hstart h).1 (hdrained hstart h).2 hback hdestroy h'

inductive TeardownTried (a : BackendAction) (id : OutputId) (b : Backend W) :
    Except BackendError Unit → List JournalEntry → Backend W → Prop where
  | unknown (ho : b.output? id = none) : TeardownTried a id b (.error (.unknownOutput id)) [] b
  | bare {o} (ho : b.output? id = some o) (hs : o.surface = none) :
      TeardownTried a id b (.ok ()) [] b
  | stalled {o s p e g b'} (ho : b.output? id = some o) (hs : o.surface = some s)
      (h : Stages a b g b')
      (hkept : b'.output? id = some ({ o with cleaningUp := true }.awaiting p)) :
      TeardownTried a id b (.error e) g b'
  | released {o s g g₁ g₂ b₁ b'} (ho : b.output? id = some o) (hs : o.surface = some s)
      (h : Stages a b g b₁)
      (hkept : b₁.output? id = some ({ o with cleaningUp := true }.awaiting false))
      (hback : PutBack o.connector o.crtc o.savedCrtc g₁) (hdestroy : Destroys s.surface g₂)
      (h' : SameBooks (b₁.withdrawn id) b') :
      TeardownTried a id b (.ok ()) (.released id :: g₂ ++ g₁ ++ g) b'

theorem TeardownTried.stages {id : OutputId} {b b' : Backend W} {r : Except BackendError Unit}
    {g : List JournalEntry} (ha : a.subject = some id) (h : TeardownTried a id b r g b') :
    Stages a b g b' := by
  cases h with
  | unknown _ => exact .nil b
  | bare _ _ => exact .nil b
  | stalled _ _ h _ => exact h
  | released _ hs h hkept hback hdestroy h' =>
    exact h.snoc (.released ha hkept hs rfl hback hdestroy h')

/-- Without a surface there is nothing to tear down. -/
theorem TeardownTried.eq_of_bare {id : OutputId} {b b' : Backend W} {r : Except BackendError Unit}
    {g : List JournalEntry} (h : TeardownTried a id b r g b')
    (hbare : ∀ o, b.output? id = some o → o.surface = none) : b' = b := by
  cases h with
  | unknown _ | bare _ _ => rfl
  | stalled ho hs _ _ => simp [hbare _ ho] at hs
  | released ho hs _ _ _ _ _ => simp [hbare _ ho] at hs

/-- An output that was torn down has no surface. -/
theorem TeardownTried.surface_none {id : OutputId} {b b' : Backend W} {g : List JournalEntry}
    (h : TeardownTried a id b (.ok ()) g b') : ∃ o o', b.output? id = some o ∧
      b'.output? id = some o' ∧ o'.connector = o.connector ∧ o'.surface = none := by
  cases h with
  | bare ho hs => exact ⟨_, _, ho, ho, rfl, hs⟩
  | @released o _ _ _ _ b₁ _ ho _ _ hkept _ _ h' =>
    exact ⟨o, _, ho, output?_modify_self h'.outputs hkept, rfl, rfl⟩

theorem run_teardownOutput_of_unknown {id : OutputId} {b : Backend W} (ho : b.output? id = none) :
    (teardownOutput id).run b = (.error (.unknownOutput id), b) := by
  rw [teardownOutput, run_requireOutput_bind, ho]

/-- Without a surface there is nothing to do for a teardown. -/
theorem run_teardownOutput_of_bare {id : OutputId} {b : Backend W} {o : Output}
    (ho : b.output? id = some o) (hs : o.surface = none) :
    (teardownOutput id).run b = (.ok (), b) := by
  rw [teardownOutput, run_requireOutput_bind, ho]
  dsimp only
  rw [hs, Option.isNone_none, if_pos rfl]
  rfl

theorem yields_teardownOutput {id : OutputId} (ha : a.subject = some id) (b : Backend W) :
    Yields (teardownOutput id).run b (TeardownTried a id b) := by
  cases ho : b.output? id with
  | none => exact .of_idle (run_teardownOutput_of_unknown ho) (.unknown ho)
  | some o =>
    cases hs : o.surface with
    | none => exact .of_idle (run_teardownOutput_of_bare ho hs) (.bare ho hs)
    | some s =>
      have hmark : Stages a b [] (b.marked id) := .single (.cleaning ha ho hs)
      refine (yields_teardownOutput_lit ho hs).mono ?_
      intro r g b' h
      cases h with
      | stalled h hkept => exact .stalled ho hs (by simpa using hmark.trans h.of_dispatch) hkept
      | released h hkept hback hdestroy h' =>
        exact .released ho hs (by simpa using hmark.trans h.of_dispatch) hkept hback hdestroy h'

theorem yields_failModeset (id : OutputId) (b : Backend W) :
    Yields (failModeset id) b fun _ g b' =>
      g = [.event (.removed id), .released id] ∧ SameBooks (b.reverted id) b' := by
  refine (yields_releaseClaims id b).bind ?_
  rintro _ _ b₁ ⟨rfl, h₁⟩
  refine (yields_updateOutput id _ b₁).bind ?_
  rintro _ _ _ ⟨rfl, rfl⟩
  refine (yields_emit (.removed id) _).mono ?_
  rintro _ _ b₂ ⟨rfl, h₂⟩
  exact ⟨rfl, (h₁.modify id.slot _).trans h₂⟩

/-- Setting the mode of an output without a surface succeeds or is unwound. -/
theorem yields_setOrRevert {id : OutputId} {connector : ConnectorHandle} {request : ModeRequest}
    {b : Backend W} {P : Except ModesetError Unit → List JournalEntry → Backend W → Prop}
    (h : Yields (tryModeset id connector request).run b P) :
    Yields (orRelease (failModeset id)
      (orFail BackendError.modeset (tryModeset id connector request).run)).run b fun r g b' =>
      (r = .ok () ∧ P (.ok ()) g b') ∨
        ∃ e g₀ b₁, r = .error (.modeset e) ∧ g = .event (.removed id) :: .released id :: g₀ ∧
          P (.error e) g₀ b₁ ∧ SameBooks (b₁.reverted id) b' := by
  refine Yields.orRelease (Yields.orFail h) ?_ ?_
  · rintro _ g b' ⟨_ | _, hr, h⟩
    · cases hr
    · exact .inl ⟨rfl, h⟩
  · rintro _ g b' ⟨e | _, hr, h⟩
    · obtain rfl := Except.error.inj hr
      refine (yields_failModeset id b').mono ?_
      rintro _ _ b'' ⟨rfl, h'⟩
      exact .inr ⟨e, g, b', rfl, rfl, h, h'⟩
    · cases hr

theorem run_commitMode_of_unknown {id : OutputId} {b : Backend W} (ho : b.output? id = none)
    (request : ModeRequest) : (commitMode id request).run b = (.error (.unknownOutput id), b) := by
  rw [commitMode, run_requireOutput_bind, ho]

/-- Setting a mode has two parts, whether or not there is a surface: the output is torn down, and
then its mode is set or what was done for it is reverted. If the teardown fails, the output is
given up instead. -/
theorem yields_commitMode_of_parts {id : OutputId} {request : ModeRequest} {b : Backend W}
    {o : Output} {P Q : Except BackendError Unit → List JournalEntry → Backend W → Prop}
    (ho : b.output? id = some o) (hdown : Yields (teardownOutput id).run b P)
    (hstall : ∀ e g b₁, P (.error e) g b₁ → Yields (do
        updateOutput id fun o => { o with state := .disconnected }
        emit (.removed id) : BackendM W Unit) b₁ fun _ g' b' => Q (.error e) (g' ++ g) b')
    (hset : ∀ g b₁, P (.ok ()) g b₁ → Yields (orRelease (failModeset id)
      (orFail BackendError.modeset (tryModeset id o.connector request).run)).run b₁
      fun r g' b' => Q r (g' ++ g) b') :
    Yields (commitMode id request).run b Q := by
  refine (yields_requireOutput id b).bindOk ?_ ?_
  · rintro o' _ b ⟨rfl, rfl, ho'⟩
    obtain rfl := Option.some.inj (ho.symm.trans ho')
    simp only [List.append_nil]
    cases hs : o.surface with
    | none =>
      obtain ⟨g, hg, hP⟩ := hdown
      rw [run_teardownOutput_of_bare ho hs] at hg hP
      obtain rfl : g = [] := List.append_left_eq_self.1 hg.symm
      rw [Option.isSome_none, if_neg (by simp)]
      refine (hset [] b hP).mono ?_
      intro r g' b' h
      rwa [List.append_nil] at h
    | some s =>
      rw [Option.isSome_some, if_pos rfl]
      exact Yields.bindOk (Yields.orRelease (Q := fun r g b' =>
        match r with
        | .ok _ => P (.ok ()) g b'
        | .error e => Q (.error e) g b') hdown (fun _ _ _ h => h) hstall)
        (fun _ g b₁ h => hset g b₁ h) fun _ _ _ h => h
  · rintro e _ b ⟨rfl, rfl, -, hnone⟩
    rw [ho] at hnone
    contradiction

/-- An output whose teardown fails counts as disconnected. -/
theorem yields_commitMode_of_torn {id : OutputId} {request : ModeRequest} {b : Backend W}
    {o : Output} {P Q : Except BackendError Unit → List JournalEntry → Backend W → Prop}
    (ho : b.output? id = some o) (hdown : Yields (teardownOutput id).run b P)
    (hstall : ∀ e g b₁ b', P (.error e) g b₁ →
      SameBooks
        { b₁ with outputs := b₁.outputs.modify id.slot fun o => { o with state := .disconnected } }
        b' → Q (.error e) (.event (.removed id) :: g) b')
    (hset : ∀ g b₁, P (.ok ()) g b₁ → Yields (orRelease (failModeset id)
      (orFail BackendError.modeset (tryModeset id o.connector request).run)).run b₁
      fun r g' b' => Q r (g' ++ g) b') :
    Yields (commitMode id request).run b Q := by
  refine yields_commitMode_of_parts ho hdown (fun e g b₁ h => ?_) hset
  refine (yields_updateOutput id _ b₁).bind ?_
  rintro _ _ _ ⟨rfl, rfl⟩
  refine (yields_emit (.removed id) _).mono ?_
  rintro _ _ b' ⟨rfl, h'⟩
  exact hstall e g b₁ b' h h'

/-- An output without a surface need not be torn down before its mode is set. -/
theorem yields_commitMode_of_bare {id : OutputId} {request : ModeRequest} {b : Backend W}
    {o : Output} {P : Except ModesetError Unit → List JournalEntry → Backend W → Prop}
    (ho : b.output? id = some o) (hs : o.surface = none)
    (h : Yields (tryModeset id o.connector request).run b P) :
    Yields (commitMode id request).run b fun r g b' =>
      (r = .ok () ∧ P (.ok ()) g b') ∨
        ∃ e g₀ b₁, r = .error (.modeset e) ∧ g = .event (.removed id) :: .released id :: g₀ ∧
          P (.error e) g₀ b₁ ∧ SameBooks (b₁.reverted id) b' := by
  have hdown : Yields (teardownOutput id).run b fun r g b' => r = .ok () ∧ g = [] ∧ b' = b :=
    .of_idle (run_teardownOutput_of_bare ho hs) ⟨rfl, rfl, rfl⟩
  refine yields_commitMode_of_torn ho hdown ?_ ?_
  · rintro e g b₁ b' ⟨hr, -⟩
    contradiction
  · rintro _ _ ⟨-, rfl, rfl⟩
    refine (yields_setOrRevert h).mono ?_
    intro r g b' h'
    rwa [List.append_nil]

private theorem yields_setStage {id : OutputId} {b : Backend W} {o : Output}
    (ha : a.subject = some id) (ho : b.output? id = some o) (hs : o.surface = none)
    (request : ModeRequest) :
    Yields (orRelease (failModeset id)
      (orFail BackendError.modeset (tryModeset id o.connector request).run)).run b
      fun _ g b' => Stage a b g b' := by
  refine (yields_setOrRevert (yields_tryModeset id o.connector request b)).mono ?_
  rintro _ _ b' (⟨-, h⟩ | ⟨_, g, b₁, -, rfl, h, h'⟩)
  · exact .set ha ho hs h
  · exact .reverted ha ho hs h h'

theorem yields_commitMode {id : OutputId} (ha : a.subject = some id) (request : ModeRequest)
    (b : Backend W) :
    Yields (commitMode id request).run b fun _ g b' => Stages a b g b' := by
  cases ho : b.output? id with
  | none => exact .of_idle (run_commitMode_of_unknown ho request) (.nil b)
  | some o =>
    refine yields_commitMode_of_torn ho (yields_teardownOutput ha b) ?_ ?_
    · intro e g b₁ b' h h'
      cases h with
      | unknown hnone =>
        rw [ho] at hnone
        contradiction
      | stalled _ hs h hkept => exact h.snoc (.undrained ha hkept hs h')
    · intro g b₁ h
      obtain ⟨o₀, o', ho₀, ho', hconn, hs'⟩ := h.surface_none
      obtain rfl := Option.some.inj (ho.symm.trans ho₀)
      rw [← hconn]
      refine (yields_setStage ha ho' hs' request).mono ?_
      intro _ g' b'' h'
      exact (h.stages ha).snoc h'

/-- A mode request that cannot be read costs the output its claims. -/
theorem yields_selectUnreadable (id : OutputId) {request : String}
    {e : MalformedModeRequest} (hparse : ModeRequest.parse request = .error e) (b : Backend W) :
    Yields (selectAndCommitMode id request).run b fun r g b' =>
      (b.output? id = none ∧ r = .error (.unknownOutput id) ∧ g = [] ∧ b' = b) ∨
        ∃ o, b.output? id = some o ∧ r = .error (.modeset (.mode (.invalidRequest e))) ∧
          g = [.event (.removed id), .released id] ∧ SameBooks (b.reverted id) b' := by
  unfold selectAndCommitMode
  rw [hparse]
  refine (Yields.discardOk (yields_requireOutput id b)).bindOk ?_ ?_
  · rintro _ _ b ⟨o | o, hr, rfl, rfl, ho⟩
    · simp [Except.map] at hr
    · refine (yields_failModeset id b).lift_bind ?_
      rintro _ _ b' ⟨rfl, h⟩
      exact .throw (.inr ⟨o, ho, rfl, rfl, h⟩)
  · rintro e' _ b ⟨o | o, hr, rfl, rfl, ho⟩
    · obtain rfl : e' = o := by simpa [Except.map] using hr
      exact .inl ⟨ho.2, by rw [ho.1], rfl, rfl⟩
    · simp [Except.map] at hr

/-- A mode request that can be read is as good as what it reads as. -/
theorem run_selectAndCommitMode {request : String} {parsed : ModeRequest}
    (hparse : ModeRequest.parse request = .ok parsed) (id : OutputId) (b : Backend W) :
    (selectAndCommitMode id request).run b = (commitMode id parsed).run b := by
  have hselect : selectAndCommitMode (W := W) id request =
      requireOutput id >>= fun _ => commitMode id parsed := by
    unfold selectAndCommitMode
    rw [hparse]
    exact bind_map_left _ _ _
  rw [hselect, run_requireOutput_bind]
  cases ho : b.output? id with
  | none => exact (run_commitMode_of_unknown ho parsed).symm
  | some o => rfl

theorem yields_selectReadable {request : String} {parsed : ModeRequest}
    (hparse : ModeRequest.parse request = .ok parsed) {id : OutputId} {b : Backend W}
    {Q : Except BackendError Unit → List JournalEntry → Backend W → Prop}
    (h : Yields (commitMode id parsed).run b Q) :
    Yields (selectAndCommitMode id request).run b Q := by
  unfold Yields
  rwa [run_selectAndCommitMode hparse]

theorem after_selectMode {request : String} {parsed : ModeRequest}
    (hparse : ModeRequest.parse request = .ok parsed) (id : OutputId) (b : Backend W) :
    b.after (.selectMode id request) = b.after (.commitMode id parsed) :=
  congrArg Prod.snd (run_selectAndCommitMode hparse id b)

theorem yields_selectAndCommitMode (id : OutputId) (request : String) (b : Backend W) :
    Yields (selectAndCommitMode id request).run b fun _ g b' =>
      Stages (.selectMode id request) b g b' := by
  cases hparse : ModeRequest.parse request with
  | ok parsed =>
    exact yields_selectReadable hparse (yields_commitMode (a := .selectMode id request) rfl parsed b)
  | error e =>
    refine (yields_selectUnreadable id hparse b).mono ?_
    rintro _ _ b' (⟨-, -, rfl, rfl⟩ | ⟨o, ho, -, rfl, h⟩)
    · exact .nil b'
    · exact .single (.refused rfl hparse ho h)

/-- A mode request that cannot be read changes nothing but that its output is given up. -/
theorem after_unreadable {id : OutputId} (hread : ¬a.Readable) (ha : a.subject = some id)
    (b : Backend W) : (b.output? id = none ∧ b.after a = b) ∨
      ∃ o, b.output? id = some o ∧ SameBooks (b.reverted id) (b.after a) := by
  cases a with
  | selectMode j request =>
    obtain rfl := Option.some.inj ha
    cases hparse : ModeRequest.parse request with
    | ok parsed => simp [BackendAction.Readable, hparse, Except.isOk, Except.toBool] at hread
    | error e =>
      obtain ⟨g, -, ⟨ho, -, -, h⟩ | ⟨o, ho, -, -, h⟩⟩ := yields_selectUnreadable j hparse b
      · exact .inl ⟨ho, h⟩
      · exact .inr ⟨o, ho, h⟩
  | _ => exact absurd trivial hread

private theorem yields_slotOf (connector : ConnectorHandle) (b : Backend W) :
    Yields (slotOf connector) b fun id g b' => Stages .scan b g b' ∧
      ∃ o, b'.output? id = some o ∧ o.connector = connector := by
  refine .get_bind ?_
  cases hfound : b.outputs.findIdx? (·.connector == connector) with
  | some slot =>
    obtain ⟨hslot, hconn, -⟩ := List.findIdx?_eq_some_iff_getElem.1 hfound
    exact .pure ⟨.nil b, b.outputs[slot], List.getElem?_eq_getElem hslot, by simpa using hconn⟩
  | none =>
    have hnew : ∀ o ∈ b.outputs, o.connector ≠ connector := by
      simpa [List.findIdx?_eq_none_iff] using hfound
    refine ⟨[], rfl, .single (.slotted connector rfl hnew), .new connector, ?_, rfl⟩
    exact List.getElem?_concat_length

theorem yields_scanConnector (connector : ConnectorHandle) (b : Backend W) :
    Yields (scanConnector connector) b fun _ g b' => Stages .scan b g b' := by
  refine (yields_slotOf connector b).bind ?_
  rintro id g₁ b₁ ⟨h₁, o, ho, rfl⟩
  refine (yields_call (.kernel (.connector o.connector)) b₁).bind ?_
  rintro answer _ b₂ ⟨rfl, h₂⟩
  cases answer with
  | error e => exact .pure (h₁.trans (.quiet ⟨by simp [JournalEntry.IsQuiet], h₂⟩))
  | ok info =>
    refine .get_bind ?_
    rw [h₂.output?, ho]
    have hread {b'} (h : SameBooks
        { b₁ with outputs := b₁.outputs.modify id.slot fun _ => (o.reconcile info id).1 } b') :
        Stage .scan b₁ ((o.reconcile info id).2.toList.map .event ++
          [.call (.kernel (.connector o.connector)) (.ok info)]) b' := .read rfl ho h
    dsimp only
    generalize o.reconcile info id = update at hread ⊢
    obtain ⟨o', event⟩ := update
    refine (yields_updateOutput id _ b₂).bind ?_
    rintro _ _ _ ⟨rfl, rfl⟩
    have hbooks := h₂.modify id.slot fun _ => o'
    cases event with
    | none => exact ⟨[], rfl, h₁.snoc (hread hbooks)⟩
    | some event =>
      refine (yields_emit event _).mono ?_
      rintro _ _ b₃ ⟨rfl, h₃⟩
      exact h₁.snoc (hread (hbooks.trans h₃))

private theorem yields_scanAll (connectors : List ConnectorHandle) (b : Backend W) :
    Yields (connectors.forM scanConnector) b fun _ g b' => Stages .scan b g b' := by
  induction connectors generalizing b with
  | nil => exact .pure (.nil b)
  | cons connector others ih =>
    refine (yields_scanConnector connector b).bind ?_
    intro _ g b₁ h₁
    refine (ih b₁).mono ?_
    intro _ g' b' h
    exact h₁.trans h

theorem yields_scan (b : Backend W) :
    Yields scan.run b fun _ g b' => Stages .scan b g b' := by
  refine (yields_quietCall (c := .kernel .resources) b fun _ => trivial).orFail_bindOk ?_ ?_
  · rintro resources g b₁ ⟨-, h₁⟩
    refine .lift ((yields_scanAll resources.connectors b₁).mono ?_)
    intro _ g' b' h
    exact (Stages.quiet h₁).trans h
  · rintro e g b₁ ⟨-, h₁⟩
    exact .quiet h₁

theorem yields_perform (a : BackendAction) (b : Backend W) :
    Yields (perform a).run b fun _ g b' => Stages a b g b' := by
  cases a with
  | scan => exact yields_scan b
  | selectMode id request => exact yields_selectAndCommitMode id request b
  | commitMode id request => exact yields_commitMode rfl request b
  | beginFrame id =>
    refine (yields_beginFrame id b).mono ?_
    intro _ g b' h
    exact .quiet h
  | endFrame id =>
    refine (yields_endFrame id b).mono ?_
    intro r g b' h
    rcases h with ⟨-, -, h⟩ | ⟨o, s, crtc, core, ho, hs, hc, hcore, hflip⟩
    · exact .quiet h
    · rcases hflip with ⟨-, -, hflip, h⟩ | ⟨fb, -, hflip, h⟩
      · exact .single (.unflipped rfl ho hs hc hflip hcore h)
      · exact .single (.flipped rfl ho hs hc hflip hcore h)
  | teardownOutput id =>
    refine (yields_teardownOutput (a := .teardownOutput id) rfl b).mono ?_
    intro r g b' h
    exact h.stages rfl
  | dispatch =>
    refine (yields_dispatchCompletions b).mono ?_
    rintro r g b' (⟨cause, -, rfl, h⟩ | ⟨count, completions, -, rfl, h⟩)
    · exact .quiet ⟨by simp [JournalEntry.IsQuiet, Except.isOk, Except.toBool], h⟩
    · exact .single (.completed h)
  | clear width height colour =>
    refine .lift ((yields_quietly (RenderContext.quietly_clear width height colour) b).mono ?_)
    intro _ g b' h
    exact .quiet h
  | setDrainTimeout timeout => exact ⟨[], rfl, .single (.retimed timeout rfl)⟩
  | teardownRenderer =>
    refine .lift ((yields_quietly RenderContext.quietly_teardown b).mono ?_)
    intro _ g b' h
    exact .quiet h
  | pushEvent e => exact ⟨[], rfl, .quiet ⟨by simp, rfl, rfl, rfl, Nat.le_refl _⟩⟩

theorem stages_after (b : Backend W) (a : BackendAction) :
    ∃ g, (b.after a).journal = g ++ b.journal ∧ Stages a b g (b.after a) := yields_perform a b

private theorem run_keeps_from {P : List JournalEntry → Backend W → Prop}
    {actions : List BackendAction}
    (hstep : ∀ a ∈ actions, ∀ b g b' g₀, Stage a b g b' → P g₀ b → P (g ++ g₀) b')
    {b : Backend W} {g₀ : List JournalEntry} (hP : P g₀ b) :
    ∃ g, (b.run actions).journal = g ++ b.journal ∧ P (g ++ g₀) (b.run actions) := by
  induction actions generalizing b g₀ with
  | nil => exact ⟨[], rfl, hP⟩
  | cons a actions ih =>
    obtain ⟨g, hg, h⟩ := stages_after b a
    obtain ⟨g', hg', hP'⟩ := ih (fun a' ha' => hstep a' (List.mem_cons_of_mem _ ha'))
      (h.keep (hstep a (by simp)) hP)
    exact ⟨g' ++ g, by rw [run_cons, hg', hg, List.append_assoc], by rwa [List.append_assoc]⟩

/-- What every stage of every action keeps of the books and of the entries since the beginning, a
run keeps. -/
theorem run_keeps {P : List JournalEntry → Backend W → Prop} {actions : List BackendAction}
    (hstep : ∀ a ∈ actions, ∀ b g b' g₀, Stage a b g b' → P g₀ b → P (g ++ g₀) b')
    {b : Backend W} (hP : P [] b) :
    ∃ g, (b.run actions).journal = g ++ b.journal ∧ P g (b.run actions) := by
  obtain ⟨g, hg, h⟩ := run_keeps_from hstep hP
  exact ⟨g, hg, by rwa [List.append_nil] at h⟩

end Backend
end Scanout
