import Scanout.Proofs.HeldSurfaces
import Scanout.Proofs.ModesetAttempts

/-!
# A mode-set that fails leaves nothing behind

Claim, record, surface, framebuffer and CRTC are acquired one after another when a mode is set, in
acts that do not know how far the others got. Whichever of them fails, all that was acquired is given
up again: the record is reset, the claims are released, and nothing is outstanding.
-/

namespace Scanout

theorem RenderContext.yields_destroySurface_acquired {W : World} (s : SurfaceId)
    (c : RenderContext W) : Yields (destroySurface s) c fun _ g _ => acquired g = [] := by
  have hnothing : Always (Only (·.acquired? = none)) (destroySurface s : RenderM W Unit) := by
    apply always_destroySurface
    case hset => simp [Only]
    case hremove | hunbind | hdestroy => exact fun _ => only_call fun _ => rfl
  exact (hnothing c).mono fun _ _ _ h => List.filterMap_eq_nil_iff.2 h

/-- The record tells of no mode, and of nothing that setting a mode acquires. -/
structure Output.IsBlank (o : Output) : Prop where
  surface : o.surface = none
  encoder : o.encoder = none
  crtc : o.crtc = none
  mode : o.mode = none
  savedCrtc : o.savedCrtc = none
  flipPending : o.flipPending = false
  cleaningUp : o.cleaningUp = false

namespace Backend

variable {W : World} {b b' : Backend W} {id : OutputId} {o : Output} {connector : ConnectorHandle}
  {request : ModeRequest} {g : List JournalEntry}

/-- The failure is not that a mode could not be set. -/
def OtherFailure (e : BackendError) : Prop := ∀ cause, e ≠ .modeset cause

theorem failsOnly_requireOutput (id : OutputId) :
    FailsOnly OtherFailure (requireOutput id : ExceptT BackendError (BackendM W) Output) := by
  refine .get_bind fun b => ?_
  cases b.output? id with
  | some o => exact .pure o
  | none => exact .throw fun _ => nofun

theorem failsOnly_dispatchCompletions :
    FailsOnly OtherFailure (dispatchCompletions : ExceptT BackendError (BackendM W) Nat) :=
  .bind (.orFail _ fun _ _ => nofun) fun _ => .lift _

theorem failsOnly_now : FailsOnly OtherFailure (now : ExceptT BackendError (BackendM W) Duration) :=
  FailsOnly.lift (call .clock : BackendM W Duration)

theorem failsOnly_drainFlip (id : OutputId) (deadline : Duration) (rounds : Nat) :
    FailsOnly OtherFailure
      (drainFlip id deadline rounds : ExceptT BackendError (BackendM W) Unit) := by
  induction rounds with
  | zero =>
    refine .get_bind fun b => ?_
    split
    · exact .throw fun _ => nofun
    · exact .pure ()
  | succ rounds ih =>
    refine .get_bind fun b => ?_
    split
    · refine .bind failsOnly_now fun time => ?_
      split
      · exact .throw fun _ => nofun
      · refine .bind (.orFail _ fun _ _ => nofun) fun readable => ?_
        cases readable with
        | false => exact ih
        | true => exact .bind (.discard failsOnly_dispatchCompletions) fun _ => ih
    · exact .pure ()

theorem failsOnly_teardownOutput (id : OutputId) :
    FailsOnly OtherFailure (teardownOutput id : ExceptT BackendError (BackendM W) Unit) := by
  refine .bind (failsOnly_requireOutput id) fun o => ?_
  cases o.surface.isNone with
  | true => exact .pure ()
  | false =>
    exact .bind (.lift _) fun _ => .get_bind fun b => .bind failsOnly_now fun start =>
      .bind (failsOnly_drainFlip id _ _) fun _ => .lift _

/-- Nothing is acquired, and the claims of the other outputs stay as they are. -/
structure Sheds (id : OutputId) (b : Backend W) (gained : List JournalEntry) (b' : Backend W) :
    Prop where
  acquired : acquired gained = []
  claims : b'.claims.release id = b.claims.release id

instance : RecordKeeping (Sheds (W := W) id) where
  refl _ := ⟨rfl, rfl⟩
  trans h h' := ⟨by rw [acquired_append, h.acquired, h'.acquired, List.append_nil],
    h'.claims.trans h.claims⟩
  read c h b := ⟨[.call c (W.answer c b.world).1], rfl,
    acquired_of_neutral (List.forall_mem_singleton.2 (h.isNeutral _)), rfl⟩
  told e _ := ⟨[.event e], rfl, rfl, rfl⟩
  kept _ _ _ _ := ⟨rfl, rfl⟩
  slotted _ _ := ⟨rfl, rfl⟩

theorem sheds_destroySurface (s : SurfaceId) :
    Always (Sheds id) (BackendM.inContext (RenderContext.destroySurface s) : BackendM W Unit) :=
  fun b => by
  obtain ⟨g, hg, hnothing⟩ := RenderContext.yields_destroySurface_acquired s b.toRenderContext
  exact ⟨g, hg, hnothing, rfl⟩

theorem sheds_teardownOutput (id : OutputId) :
    Always (Sheds id) (teardownOutput id : ExceptT BackendError (BackendM W) Unit).run :=
  always_teardownOutput (fun _ _ => ⟨[.call _ _], rfl, rfl, rfl⟩) sheds_destroySurface
    (fun b => ⟨[.released id], rfl, rfl, b.claims.release_release id⟩) (fun _ _ => ⟨[], rfl, rfl, rfl⟩)

/-- A failed attempt may have claimed a CRTC, which is released with the other claims. -/
theorem ModesetTried.claims_release {e : ModesetError}
    (h : ModesetTried id connector b (.error e) g b') :
    b'.claims.release id = b.claims.release id := by
  cases h with
  | unclaimed h => rw [h.same.claims]
  | @claimed k _ _ _ _ hk h =>
    have hclaims : b'.claims = (b.claims.claim k.crtc id).2 := by
      cases h with
      | unmade h => exact h.same.claims
      | undone _ _ _ _ _ h => exact h.claims
    rw [hclaims, b.claims.release_of_claim id hk.free]

/-- Nothing is left of what was done for an output: its record is blank, its claims are released, and
of what was acquired nothing is held. -/
structure Unwound (id : OutputId) (b : Backend W) (gained : List JournalEntry) (b' : Backend W) :
    Prop where
  record : ∃ o, b'.output? id = some o ∧ o.IsBlank
  claims : b'.claims = b.claims.release id
  held : outstanding [] gained = []

/-- What was shed before makes no difference. -/
theorem Unwound.after_shedding {b₁ : Backend W} {g' : List JournalEntry} (h : Unwound id b₁ g' b')
    (hshed : Sheds id b g b₁) : Unwound id b (g' ++ g) b' where
  record := h.record
  claims := h.claims.trans hshed.claims
  held := by rw [outstanding_append, outstanding_eq_nil hshed.acquired (by simp), h.held]

/-- The attempt is unwound if it fails. -/
theorem yields_setOrRevert_unwound (ho : b.output? id = some o) (hs : o.surface = none)
    (connector : ConnectorHandle) (request : ModeRequest) :
    Yields (orRelease (failModeset id)
      (orFail BackendError.modeset (tryModeset id connector request).run)).run b
      fun r g b' => ∀ e, r = .error e → Unwound id b g b' := by
  refine (yields_setOrRevert ((yields_tryModeset id connector request b).and
    (yields_tryModeset_lights ho connector request))).mono ?_
  rintro r g b' (⟨rfl, -⟩ | ⟨cause, g₀, b₁, rfl, rfl, ⟨htried, hnothing⟩, hreverted⟩) e he
  · contradiction
  · obtain ⟨o₁, ho₁, hconfigured⟩ := htried.error_record ho
    have hbare : o₁.surface = none := by
      rcases hconfigured with rfl | ⟨k, rfl⟩
      · exact hs
      · exact hs
    refine ⟨⟨_, output?_modify_self hreverted.outputs ho₁, ?_⟩, ?_, ?_⟩
    · exact ⟨hbare, rfl, rfl, rfl, rfl, rfl, rfl⟩
    · exact hreverted.claims.trans htried.claims_release
    · show outstanding [] ([.event (.removed id), .released id] ++ g₀) = []
      rw [outstanding_append, hnothing]
      rfl

/-- If it fails to set the mode after all, whatever was done for the output is unwound. -/
theorem yields_commitMode_unwound (ho : b.output? id = some o) (request : ModeRequest) :
    Yields (commitMode id request).run b fun r g b' =>
      ∀ cause, r = .error (.modeset cause) → Unwound id b g b' := by
  have hdown := (failsOnly_teardownOutput id).yields ((sheds_teardownOutput id b).and
    (yields_teardownOutput (a := .teardownOutput id) rfl b))
  refine yields_commitMode_of_torn ho hdown ?_ ?_
  · rintro e g b₁ b' ⟨-, hother⟩ - cause hr
    exact absurd (Except.error.inj hr) (hother e rfl cause)
  · rintro g b₁ ⟨⟨hshed, htorn⟩, -⟩
    obtain ⟨-, o₁, -, ho₁, -, hs₁⟩ := htorn.surface_none
    refine (yields_setOrRevert_unwound ho₁ hs₁ o.connector request).mono ?_
    intro r g' b' h cause hr
    exact (h _ hr).after_shedding hshed

/-- A mode that cannot be set leaves nothing behind, whichever step fails. The record of its output is
blank, and the output owns no CRTC, while the claims of the others are what they were. Every
surface and framebuffer that was acquired on the way was given up again, and what was given up was
released unless the kernel refused to. -/
theorem modeset_failure_unwinds {cause : ModesetError}
    (hfail : ((commitMode id request).run b).1 = .error (.modeset cause)) :
    let b' := b.after (.commitMode id request)
    ∃ gained o, b'.journal = gained ++ b.journal ∧ b'.output? id = some o ∧
      (o.surface = none ∧ o.encoder = none ∧ o.crtc = none ∧ o.mode = none ∧ o.savedCrtc = none ∧
        o.flipPending = false ∧ o.cleaningUp = false) ∧
      (∀ c, b'.claims.owner c ≠ some id) ∧
      (∀ c, ∀ j ≠ id, b'.claims.owner c = some j ↔ b.claims.owner c = some j) ∧
      outstanding [] gained = [] ∧
      (refused gained = [] → ∀ r ∈ acquired gained, r ∈ released gained) := by
  intro b'
  cases ho : b.output? id with
  | none =>
    rw [run_commitMode_of_unknown ho] at hfail
    cases hfail
  | some o =>
    obtain ⟨gained, hgained, hunwound⟩ := yields_commitMode_unwound ho request
    obtain ⟨⟨o', ho', hblank⟩, hclaims, hnothing⟩ := hunwound cause hfail
    change b'.claims = _ at hclaims
    refine ⟨gained, o', hgained, ho', ?_, fun c => ?_, fun c j hj => ?_, hnothing, ?_⟩
    · exact ⟨hblank.surface, hblank.encoder, hblank.crtc, hblank.mode, hblank.savedCrtc,
        hblank.flipPending, hblank.cleaningUp⟩
    · rw [hclaims]
      exact b.claims.owner_release_self id c
    · rw [hclaims]
      exact b.claims.owner_release_of_ne hj c
    · intro hrefused r hr
      have hgone : r ∈ outstanding [] gained ∨ _ := mem_outstanding_of_acquired hr
      rw [hnothing, hrefused] at hgone
      simpa using hgone

/-- The kernel of `oneMonitor`, which refuses a first page flip. -/
def flipRefused : RenderContext SimulatedDevice.world :=
  { oneMonitor with world := oneMonitor.world.addFault ⟨"page_flip", 0, 1, "busy"⟩ }

/-- When the flip is refused, a surface was created and a framebuffer registered. Both are released. -/
theorem modeset_failure_unwinds_refused_flip :
    let b := (Backend.new flipRefused).run [.scan]
    let b' := b.after (.commitMode ⟨0⟩ .preferred)
    ∃ gained o, b'.journal = gained ++ b.journal ∧ b'.output? ⟨0⟩ = some o ∧ o.surface = none ∧
      (∀ c, b'.claims.owner c ≠ some ⟨0⟩) ∧
      acquired gained = [.framebuffer ⟨100⟩, .surface ⟨1⟩] ∧
      .framebuffer ⟨100⟩ ∈ released gained ∧ .surface ⟨1⟩ ∈ released gained := by
  have hfail : (match ((commitMode ⟨0⟩ .preferred).run
      ((Backend.new flipRefused).run [.scan])).1 with
    | .error (.modeset _) => true
    | _ => false) = true := by decide +kernel
  have hacquired : decide (acquired (JournalEntry.since
      ((Backend.new flipRefused).run [.scan]).journal
      (((Backend.new flipRefused).run [.scan]).after (.commitMode ⟨0⟩ .preferred)).journal).reverse =
        [.framebuffer ⟨100⟩, .surface ⟨1⟩]) = true := by decide +kernel
  have hrefused : decide (refused (JournalEntry.since
      ((Backend.new flipRefused).run [.scan]).journal
      (((Backend.new flipRefused).run [.scan]).after (.commitMode ⟨0⟩ .preferred)).journal).reverse =
        []) = true := by decide +kernel
  generalize (Backend.new flipRefused).run [.scan] = b at *
  split at hfail
  · next cause hfail' =>
    obtain ⟨gained, o, hgained, ho, ⟨hs, -⟩, howner, -, -, hreleased⟩ :=
      modeset_failure_unwinds hfail'
    rw [hgained, JournalEntry.since_append, List.reverse_reverse, decide_eq_true_iff] at hacquired
    rw [hgained, JournalEntry.since_append, List.reverse_reverse, decide_eq_true_iff] at hrefused
    refine ⟨gained, o, hgained, ho, hs, howner, hacquired, ?_, ?_⟩
    · exact hreleased hrefused _ (by simp [hacquired])
    · exact hreleased hrefused _ (by simp [hacquired])
  · contradiction

end Backend
end Scanout
