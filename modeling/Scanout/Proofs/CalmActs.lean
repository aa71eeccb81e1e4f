import Scanout.Proofs.CrtcTable
import Scanout.Proofs.RecordAgreement

/-!
# Acts that leave CRTCs and framebuffers alone

Scanning, passing completions on, waiting for a flip and beginning a frame commit nothing to a
CRTC and neither register nor remove a framebuffer. The records keep their surfaces, each with its
CRTC and snapshot, and the swap chains stay as they are. What such acts are made of is said once,
for all relations that the parts stay within.
-/

namespace Scanout

/-- The entry commits nothing, registers and removes no framebuffer and changes no claims. -/
def JournalEntry.IsStill : JournalEntry → Prop
  | .call (.kernel (.setCrtc _)) _ | .call (.kernel (.addFramebuffer _ _ _)) _
  | .call (.kernel (.removeFramebuffer _)) _ | .claimed _ _ | .released _ => False
  | .call _ _ | .event _ => True

theorem JournalEntry.IsStill.keepsTable {e : JournalEntry} (h : e.IsStill) : e.KeepsTable := by
  intro t
  unfold CrtcTable.note
  split
  · exact h.elim
  · rfl

/-- A call that only reads, from the kernel or from the clock. -/
def Call.Reads : Call → Prop
  | .kernel .resources | .kernel (.connector _) | .kernel (.encoder _) | .kernel (.crtc _)
  | .kernel (.wait _) | .kernel .receive | .clock => True
  | .kernel (.addFramebuffer _ _ _) | .kernel (.removeFramebuffer _) | .kernel (.setCrtc _)
  | .kernel (.pageFlip _ _) | .gpu _ => False

theorem Call.Reads.isStill {c : Call} (h : c.Reads) (a : c.Answer) :
    (JournalEntry.call c a).IsStill := by
  cases c with
  | kernel request => cases request <;> trivial
  | gpu _ => trivial
  | clock => trivial

/-- What an output with a surface has to give up when it is released. -/
structure Holding where
  surface : SurfaceId
  crtc : Option CrtcHandle
  saved : Option CrtcInfo

def Output.holding? (o : Output) : Option Holding :=
  o.surface.map fun s => ⟨s.surface, o.crtc, o.savedCrtc⟩

theorem Output.holding?_reconcile (o : Output) (info : ConnectorInfo) (id : OutputId) :
    (o.reconcile info id).1.holding? = o.holding? := by
  obtain ⟨name, state, modes, heq, -⟩ := o.reconcile_eq info id
  rw [heq]
  rfl

namespace RenderContext

variable {W : World} {α ε : Type}

/-- The swap chains are the same and so is everything that still entries leave alone. -/
structure Idle (c : RenderContext W) (gained : List JournalEntry) (c' : RenderContext W) : Prop where
  still : ∀ e ∈ gained, e.IsStill
  chains : c'.chains = c.chains

instance : Composes (Idle (W := W)) where
  refl _ := ⟨by simp, rfl⟩
  trans h h' := ⟨fun e he => (List.mem_append.1 he).elim (h'.still e) (h.still e),
    h'.chains.trans h.chains⟩

theorem idle_call {c : Call} (h : ∀ a, (JournalEntry.call c a).IsStill) :
    Always Idle (call c : RenderM W c.Answer) := fun s =>
  ⟨[.call c (W.answer c s.world).1], rfl, by simpa using h _, rfl⟩

theorem idle_makeCurrent (surface : SurfaceId) :
    Always Idle ((makeCurrent surface).run : RenderM W _) :=
  .bindOk always_requireHandles fun _ => .orFail (idle_call fun _ => trivial)

theorem idle_swapBuffers (surface : SurfaceId) :
    Always Idle ((swapBuffers surface).run : RenderM W _) :=
  .bindOk always_requireHandles fun _ => .orFail (idle_call fun _ => trivial)

theorem idle_clear (width height : UInt32) (colour : Colour) :
    Always Idle (clear width height colour : RenderM W Unit) := idle_call fun _ => trivial

/-- The calls that end a surface, after which its swap chain is dropped. -/
theorem idle_endSurface (h : ContextHandles) (surface : SurfaceId) : Always Idle (do
    discard (gpu (.makeCurrent h.display h.context none))
    gpu (.destroySurface h.display surface) : RenderM W Unit) :=
  .bind (.discard (idle_call fun _ => trivial)) fun _ => idle_call fun _ => trivial

theorem idle_teardown : Always Idle (teardown : RenderM W Unit) := by
  refine .get_bind fun c => ?_
  cases c.handles with
  | none => exact Always.pure () c
  | some h =>
    have hmodify : Always Idle (modify fun c => { c with handles := none } : RenderM W PUnit) :=
      fun c => ⟨[], rfl, by simp, rfl⟩
    refine Always.bind hmodify (fun _ => ?_) c
    exact .bind (.discard (idle_call fun _ => trivial)) fun _ =>
      .bind (idle_call fun _ => trivial) fun _ => .bind (idle_call fun _ => trivial) fun _ =>
        idle_call fun _ => trivial

end RenderContext

namespace Backend

variable {W : World} {α ε : Type} {b b' : Backend W} {id : OutputId} {o : Output}

def holding? (b : Backend W) (id : OutputId) : Option Holding := (b.output? id).bind (·.holding?)

theorem holding?_of_output? (ho : b.output? id = some o) : b.holding? id = o.holding? := by
  rw [holding?, ho, Option.bind_some]

theorem holding?_eq_some_iff {h : Holding} : b.holding? id = some h ↔
    ∃ o s, b.output? id = some o ∧ o.surface = some s ∧ ⟨s.surface, o.crtc, o.savedCrtc⟩ = h := by
  simp only [holding?, Output.holding?, Option.bind_eq_some_iff, Option.map_eq_some_iff,
    exists_and_left]

theorem holding?_congr (h : b'.outputs = b.outputs) (id : OutputId) :
    b'.holding? id = b.holding? id := by
  rw [holding?, output?, h, ← output?, ← holding?]

theorem holding?_modify {f : Output → Output} (hb : b'.outputs = b.outputs.modify id.slot f)
    (hf : ∀ o, b.output? id = some o → (f o).holding? = o.holding?) (j : OutputId) :
    b'.holding? j = b.holding? j := by
  rw [holding?, output?_modify hb, holding?]
  split
  · next hj =>
    subst hj
    cases ho : b.output? id with
    | none => rfl
    | some o => exact hf o ho
  · rfl

theorem holding?_marked (b : Backend W) (id j : OutputId) :
    (b.marked id).holding? j = b.holding? j :=
  holding?_modify (f := fun o => { o with cleaningUp := true }) rfl (fun _ _ => rfl) j

theorem holding?_append {connector : ConnectorHandle}
    (hb : b'.outputs = b.outputs ++ [Output.new connector]) (j : OutputId) :
    b'.holding? j = b.holding? j := by
  rw [holding?, output?_append hb, holding?]
  split
  · next hj =>
    have hnone : b.output? ⟨b.outputs.length⟩ = none := List.getElem?_eq_none (Nat.le_refl _)
    rw [hj, hnone]
    rfl
  · rfl

/-- A relation that acts stay within if they read, tell of events and keep records, and leave every
record what it holds. -/
class RecordKeeping (R : Backend W → List JournalEntry → Backend W → Prop) : Prop
    extends Composes R where
  read : ∀ c : Call, c.Reads → Always R (call c : BackendM W c.Answer)
  told : ∀ e, Always R (emit e : BackendM W Unit)
  kept : ∀ (b : Backend W) (id : OutputId) (f : Output → Output),
    (∀ o, b.output? id = some o → (f o).holding? = o.holding?) →
      R b [] { b with outputs := b.outputs.modify id.slot f }
  slotted : ∀ (b : Backend W) (connector : ConnectorHandle),
    R b [] { b with outputs := b.outputs ++ [Output.new connector] }

section RecordKeeping

variable {R : Backend W → List JournalEntry → Backend W → Prop}

theorem always_requireOutput [Composes R] (id : OutputId) :
    Always R (requireOutput id : ExceptT BackendError (BackendM W) Output).run := by
  refine fun b => Yields.getOk_bind ?_
  cases b.output? id with
  | some o => exact Always.pureOk o b
  | none => exact Always.throw _ b

theorem always_activeCrtc [Composes R]
    (hread : ∀ c : Call, c.Reads → Always R (call c : BackendM W c.Answer)) (info : ConnectorInfo) :
    Always R (activeCrtc info : ExceptT ε (BackendM W) (Option CrtcInfo)).run := by
  unfold activeCrtc
  cases info.currentEncoder with
  | none => exact .pureOk none
  | some encoder =>
    refine .bindOk (.lift (hread (.kernel (.encoder encoder)) trivial)) fun answer => ?_
    cases answer with
    | error _ => exact .pureOk none
    | ok i =>
      dsimp only
      cases i.crtc with
      | none => exact .pureOk none
      | some c => exact .bindOk (.lift (hread (.kernel (.crtc c)) trivial)) fun _ => .pureOk _

theorem always_firstFit [Composes R]
    (hread : ∀ c : Call, c.Reads → Always R (call c : BackendM W c.Answer))
    (crtcs : List CrtcHandle) (claims : CrtcClaims) (encoders : List EncoderHandle) :
    Always R (firstFit crtcs claims encoders : BackendM W _) := by
  induction encoders with
  | nil => exact .pure none
  | cons encoder others ih =>
    refine .bind (hread (.kernel (.encoder encoder)) trivial) fun answer => ?_
    cases answer with
    | error _ => exact ih
    | ok i =>
      dsimp only
      cases i.firstFree crtcs claims with
      | some crtc => exact .pure _
      | none => exact ih

theorem always_claimCrtc [Composes R]
    (hread : ∀ c : Call, c.Reads → Always R (call c : BackendM W c.Answer))
    (hnote : ∀ crtc id, Always R (note (.claimed crtc id) : BackendM W Unit))
    (hclaims : ∀ (b : Backend W) (claims : CrtcClaims), R b [] { b with claims := claims })
    (id : OutputId) (info : ConnectorInfo) (crtcs : List CrtcHandle) :
    Always R (claimCrtc id info crtcs : ExceptT ModesetError (BackendM W) _).run := by
  refine .orFail (.get_bind fun b => ?_)
  have hfit := always_firstFit hread crtcs b.claims info.encoders
  refine Always.bind (.bind hfit fun found => ?_) (fun result => ?_) b
  · cases found with
    | none => exact .pure _
    | some pair => exact .bind (hnote pair.2 id) fun _ => .pure _
  · have hmodify : Always R (modify fun b => { b with claims := result.2 } : BackendM W PUnit) :=
      fun b => ⟨[], rfl, hclaims b result.2⟩
    exact .bind hmodify fun _ => .pure _

variable [RecordKeeping R]

theorem always_readOk {c : Call} (h : c.Reads) :
    Always R (call c : ExceptT ε (BackendM W) c.Answer).run := .lift (RecordKeeping.read c h)

theorem always_updateOutput (id : OutputId) {f : Output → Output}
    (hf : ∀ o, (f o).holding? = o.holding?) :
    Always R (updateOutput id f : BackendM W Unit) := fun b =>
  ⟨[], rfl, RecordKeeping.kept b id f fun o _ => hf o⟩

theorem always_complete (k : FlipCompletion) : Always R (complete k : BackendM W Bool) := by
  refine .get_bind fun b => ?_
  cases howner : b.claims.owner k.crtc with
  | none => exact Always.pure _ b
  | some id =>
    cases ho : b.output? id with
    | none =>
      simp only [ho]
      exact Always.pure _ b
    | some o =>
      simp only [ho]
      have hrecord : Always R (updateOutput id fun o => { o with flipPending := false } :
          BackendM W Unit) := always_updateOutput id fun _ => rfl
      refine Always.bind hrecord (fun _ => ?_) b
      cases o.cleaningUp with
      | true => exact .bind (.pure ()) fun _ => .pure _
      | false => exact .bind (RecordKeeping.told _) fun _ => .pure _

theorem always_completeAll (completions : List FlipCompletion) :
    Always R (completeAll completions : BackendM W Nat) := by
  induction completions with
  | nil => exact .pure _
  | cons k others ih => exact .bind (always_complete k) fun _ => .bind ih fun _ => .pure _

theorem always_dispatchCompletions :
    Always R (dispatchCompletions : ExceptT BackendError (BackendM W) Nat).run :=
  .bindOk (.orFail (RecordKeeping.read _ trivial)) fun completions =>
    .lift (always_completeAll completions)

theorem always_drainFlip (id : OutputId) (deadline : Duration) (rounds : Nat) :
    Always R (drainFlip id deadline rounds : ExceptT BackendError (BackendM W) Unit).run := by
  induction rounds with
  | zero =>
    refine fun b => Yields.getOk_bind ?_
    split
    · exact Always.throw _ b
    · exact Always.pureOk _ b
  | succ rounds ih =>
    refine fun b => Yields.getOk_bind ?_
    split
    · refine Always.bindOk (R := R) (always_readOk (c := .clock) trivial) (fun time => ?_) b
      split
      · exact .throw _
      · refine .bindOk (.orFail (RecordKeeping.read _ trivial)) fun readable => ?_
        cases readable with
        | false => exact ih
        | true => exact .bindOk (.discardOk always_dispatchCompletions) fun _ => ih
    · exact Always.pureOk _ b

theorem always_awaitFlip (id : OutputId) :
    Always R (awaitFlip id : ExceptT BackendError (BackendM W) Unit).run := by
  refine fun b => Yields.getOk_bind ?_
  exact Always.bindOk (R := R) (always_readOk (c := .clock) trivial)
    (fun start => always_drainFlip id _ _) b

private theorem always_slotOf (connector : ConnectorHandle) :
    Always R (slotOf connector : BackendM W OutputId) := by
  refine .get_bind fun b => ?_
  cases b.outputs.findIdx? (·.connector == connector) with
  | some slot => exact Always.pure _ b
  | none => exact ⟨[], rfl, RecordKeeping.slotted b connector⟩

private theorem always_scanConnector (connector : ConnectorHandle) :
    Always R (scanConnector connector : BackendM W Unit) := by
  refine .bind (always_slotOf connector) fun id =>
    .bind (RecordKeeping.read (.kernel (.connector connector)) trivial) fun answer => ?_
  cases answer with
  | error _ => exact .pure ()
  | ok info =>
    refine .get_bind fun b => ?_
    cases ho : b.output? id with
    | none => exact Always.pure () b
    | some o =>
      dsimp only
      have hkept := o.holding?_reconcile info id
      generalize o.reconcile info id = update at hkept ⊢
      obtain ⟨o', event⟩ := update
      have hrecord : Yields (updateOutput id fun _ => o') b fun _ g b' => R b g b' := by
        refine ⟨[], rfl, RecordKeeping.kept b id _ fun o₁ ho₁ => ?_⟩
        exact Option.some.inj (ho.symm.trans ho₁) ▸ hkept
      refine hrecord.bind fun _ g b' h => ?_
      cases event with
      | none => exact .pure (Composes.trans h (Composes.refl b'))
      | some event => exact (RecordKeeping.told event b').mono fun _ _ _ h' => Composes.trans h h'

theorem always_scan : Always R (scan : ExceptT BackendError (BackendM W) Unit).run :=
  .bindOk (.orFail (RecordKeeping.read _ trivial)) fun resources =>
    .lift (.forM always_scanConnector resources.connectors)

section Release

variable {id : OutputId} (hset : ∀ commit, Always R (kernel (.setCrtc commit) : BackendM W _))
  (hdestroy : ∀ s, Always R (BackendM.inContext (RenderContext.destroySurface s) : BackendM W Unit))
  (hrelease : Always R (releaseClaims id : BackendM W Unit))
  (hrecord : ∀ f, Always R (updateOutput id f : BackendM W Unit))

include hset hdestroy hrelease hrecord

theorem always_teardownOutput :
    Always R (teardownOutput id : ExceptT BackendError (BackendM W) Unit).run := by
  refine .bindOk (always_requireOutput id) fun o => ?_
  cases o.surface.isNone with
  | true => exact .pureOk ()
  | false =>
    refine .bindOk (.lift (hrecord _)) fun _ b => Yields.getOk_bind ?_
    exact Always.bindOk (R := R) (always_readOk (c := .clock) trivial)
      (fun start => .bindOk (always_drainFlip id _ _) fun _ =>
        .lift (always_releaseOutput hset hdestroy hrelease hrecord)) b

end Release
end RecordKeeping

/-- Surfaces, CRTCs, claims and framebuffers are left alone. -/
structure Calm (b : Backend W) (gained : List JournalEntry) (b' : Backend W) : Prop where
  still : ∀ e ∈ gained, e.IsStill
  holding : ∀ id, b'.holding? id = b.holding? id
  claims : b'.claims = b.claims
  chains : b'.chains = b.chains

instance : Composes (Calm (W := W)) where
  refl _ := ⟨by simp, fun _ => rfl, rfl, rfl⟩
  trans h h' := ⟨fun e he => (List.mem_append.1 he).elim (h'.still e) (h.still e),
    fun id => (h'.holding id).trans (h.holding id), h'.claims.trans h.claims,
    h'.chains.trans h.chains⟩

theorem Calm.table {g : List JournalEntry} (h : Calm b g b') (t : CrtcTable) : t.after g = t :=
  CrtcTable.after_of_keeps fun e he => (h.still e he).keepsTable

theorem calm_call {c : Call} (h : ∀ a, (JournalEntry.call c a).IsStill) :
    Always Calm (call c : BackendM W c.Answer) := fun b =>
  ⟨[.call c (W.answer c b.world).1], rfl, by simpa using h _, fun _ => rfl, rfl, rfl⟩

theorem calm_inContext {act : RenderM W α} (h : Always RenderContext.Idle act) :
    Always Calm (BackendM.inContext act) := fun b => by
  obtain ⟨g, hg, hidle⟩ := h b.toRenderContext
  exact ⟨g, hg, hidle.still, fun _ => rfl, rfl, hidle.chains⟩

theorem calm_render {cause : RenderError → ε} {act : ExceptT RenderError (RenderM W) α}
    (h : Always RenderContext.Idle act.run) : Always Calm (render cause act).run :=
  .orFail (calm_inContext h)

instance : RecordKeeping (Calm (W := W)) where
  read _ h := calm_call h.isStill
  told e _ := ⟨[.event e], rfl, by simp [JournalEntry.IsStill], fun _ => rfl, rfl, rfl⟩
  kept _ _ _ hf := ⟨by simp, holding?_modify rfl hf, rfl, rfl⟩
  slotted _ _ := ⟨by simp, holding?_append rfl, rfl, rfl⟩

theorem calm_beginFrame (id : OutputId) :
    Always Calm (beginFrame id : ExceptT BackendError (BackendM W) Unit).run := by
  refine .bindOk (always_requireOutput id) fun o => ?_
  cases o.surface with
  | none => exact .throw _
  | some s => exact calm_render (RenderContext.idle_makeCurrent s.surface)

/-- What is done with the record of an output is done only if there is one. -/
theorem leads_requireOutput_bind {P Q : Backend W → Prop}
    {R : Backend W → List JournalEntry → Backend W → Prop} [Composes R]
    {f : Output → ExceptT BackendError (BackendM W) α} (hPQ : ∀ b, P b → Q b)
    (h : ∀ b o, P b → b.output? id = some o →
      Yields (f o).run b fun _ g b' => R b g b' ∧ Q b') :
    Leads P R Q (requireOutput id >>= f).run := by
  intro b hb
  refine (yields_requireOutput id b).bindOk ?_ ?_
  · rintro o _ b ⟨rfl, rfl, ho⟩
    refine (h b o hb ho).mono fun _ g b' hb' => ?_
    rwa [List.append_nil]
  · rintro e _ b ⟨rfl, rfl, -⟩
    exact ⟨Composes.refl b, hPQ b hb⟩

/-- A run keeps what each of its actions keeps, and stays within what they stay within. -/
theorem run_leads {P : Backend W → Prop} {R : Backend W → List JournalEntry → Backend W → Prop}
    [Composes R] {actions : List BackendAction} (h : ∀ a ∈ actions, Leads P R P (perform a).run)
    {b : Backend W} (hb : P b) :
    ∃ g, (b.run actions).journal = g ++ b.journal ∧ R b g (b.run actions) ∧ P (b.run actions) := by
  induction actions generalizing b with
  | nil => exact ⟨[], rfl, Composes.refl b, hb⟩
  | cons a actions ih =>
    obtain ⟨g, hg, hfirst, hb₁⟩ := h a (by simp) b hb
    obtain ⟨g', hg', hrest, hb'⟩ :=
      ih (fun a' ha' => h a' (List.mem_cons_of_mem _ ha')) (b := b.after a) hb₁
    refine ⟨g' ++ g, ?_, Composes.trans hfirst hrest, hb'⟩
    rw [run_cons, hg', List.append_assoc]
    exact congrArg (g' ++ ·) hg

/-- A run stays within what each of its actions stays within. -/
theorem run_always {R : Backend W → List JournalEntry → Backend W → Prop} [Composes R]
    {actions : List BackendAction} (h : ∀ a ∈ actions, Always R (perform a).run) (b : Backend W) :
    ∃ g, (b.run actions).journal = g ++ b.journal ∧ R b g (b.run actions) := by
  obtain ⟨g, hg, hrun, -⟩ := run_leads (P := fun _ => True) (R := R)
    (fun a ha => .of_always (h a ha) fun _ h => ⟨h, trivial⟩) (b := b) trivial
  exact ⟨g, hg, hrun⟩

end Backend
end Scanout
