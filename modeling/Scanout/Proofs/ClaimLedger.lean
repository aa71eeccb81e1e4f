import Scanout.Proofs.ActionStages

/-!
# The journal as a ledger of claims

Every change of the claims is noted, so that the claims after a run are those that its journal
tells of.
-/

namespace Scanout

theorem PutBack.keepsClaims {connector : ConnectorHandle} {claimed : Option CrtcHandle}
    {saved : Option CrtcInfo} {g : List JournalEntry} (h : PutBack connector claimed saved g) :
    ∀ e ∈ g, e.KeepsClaims := by
  cases h <;> simp [JournalEntry.KeepsClaims]

theorem Destroys.keepsClaims {s : SurfaceId} {g : List JournalEntry} (h : Destroys s g) :
    ∀ e ∈ g, e.KeepsClaims := by
  intro e he
  rcases h e he with hquiet | ⟨d, rfl⟩
  · exact hquiet.keepsClaims
  · trivial

theorem FrameTried.keepsClaims {connector : ConnectorHandle} {crtc : CrtcHandle}
    {mode : DisplayMode} {shown : Option FramebufferId} {g : List JournalEntry}
    (h : FrameTried connector crtc mode shown g) : ∀ e ∈ g, e.KeepsClaims := by
  cases h <;> simp [JournalEntry.KeepsClaims]

theorem FlipAttempt.keepsClaims {crtc : CrtcHandle} {shown : Option FramebufferId}
    {g : List JournalEntry} (h : FlipAttempt crtc shown g) : ∀ e ∈ g, e.KeepsClaims := by
  cases h <;> simp [JournalEntry.KeepsClaims]

theorem Amid.keepsClaims {core g : List JournalEntry} (h : Amid core g)
    (hcore : ∀ e ∈ core, e.KeepsClaims) : ∀ e ∈ g, e.KeepsClaims :=
  h.forall_mem hcore fun _ => JournalEntry.IsQuiet.keepsClaims

namespace Backend

variable {W : World} {a : BackendAction} {b b' : Backend W} {g : List JournalEntry}

theorem Claimable.keepsClaims {k : ModesetChoice} (h : Claimable b k g) :
    ∀ e ∈ g, e.KeepsClaims := fun e he => (h.quiet e he).keepsClaims

/-- The claims at the moment after the claim. -/
theorem Claimable.noting_claimed {k : ModesetChoice} (h : Claimable b k g) (id : OutputId) :
    b.claims.noting (.claimed k.crtc id :: g) = (b.claims.claim k.crtc id).2 := by
  rw [CrtcClaims.noting, CrtcClaims.noting_of_keeps h.keepsClaims]
  rfl

theorem SurfaceTried.keepsClaims {id : OutputId} {connector : ConnectorHandle} {crtc : CrtcHandle}
    {saved : Option CrtcInfo} {mode : DisplayMode} {r : Except ModesetError Unit}
    (h : SurfaceTried id connector crtc saved mode b r g b') : ∀ e ∈ g, e.KeepsClaims := by
  cases h with
  | unmade h => exact fun e he => (h.quiet e he).keepsClaims
  | undone _ htried hcore hback hdestroy _ =>
    intro e he
    rw [List.mem_append, List.mem_append] at he
    rcases he with (he | he) | he
    · exact hdestroy.keepsClaims e he
    · exact hback.keepsClaims e he
    · exact hcore.keepsClaims htried.keepsClaims e he
  | shown _ _ htried hcore _ => exact hcore.keepsClaims htried.keepsClaims

theorem SurfaceTried.claims_eq {id : OutputId} {connector : ConnectorHandle} {crtc : CrtcHandle}
    {saved : Option CrtcInfo} {mode : DisplayMode} {r : Except ModesetError Unit}
    (h : SurfaceTried id connector crtc saved mode b r g b') : b'.claims = b.claims := by
  cases h with
  | unmade h => exact h.same.claims
  | undone _ _ _ _ _ h => exact h.claims
  | shown _ _ _ _ h => exact h.claims

theorem ModesetTried.claims_noting {id : OutputId} {connector : ConnectorHandle}
    {r : Except ModesetError Unit} (h : ModesetTried id connector b r g b') :
    b'.claims = b.claims.noting g := by
  cases h with
  | unclaimed h =>
    rw [CrtcClaims.noting_of_keeps fun e he => (h.quiet e he).keepsClaims, h.same.claims]
  | claimed hk h =>
    rw [CrtcClaims.noting_append, CrtcClaims.noting_of_keeps h.keepsClaims, hk.noting_claimed,
      h.claims_eq, claims_configured]

/-- Every change of the claims is noted. -/
theorem Stage.claims_noting (h : Stage a b g b') : b'.claims = b.claims.noting g := by
  have hkept (hb : b'.claims = b.claims) (hg : ∀ e ∈ g, e.KeepsClaims) :
      b'.claims = b.claims.noting g := by
    rw [CrtcClaims.noting_of_keeps hg, hb]
  cases h with
  | quiet h => exact hkept h.same.claims fun e he => (h.quiet e he).keepsClaims
  | retimed _ _ => rfl
  | slotted _ _ _ => rfl
  | read _ _ h =>
    refine hkept h.claims fun e he => ?_
    rcases JournalEntry.mem_told he with ⟨event, rfl⟩ | rfl <;> trivial
  | completed h =>
    refine hkept h.claims fun e he => ?_
    rw [readyEntries_eq] at he
    rcases JournalEntry.mem_told he with ⟨event, rfl⟩ | rfl <;> trivial
  | cleaning _ _ _ => rfl
  | undrained _ _ _ h => exact h.claims
  | released _ _ _ _ hback hdestroy h =>
    rw [h.claims, claims_withdrawn, List.cons_append, CrtcClaims.noting, CrtcClaims.noting_append,
      CrtcClaims.noting_of_keeps hback.keepsClaims, CrtcClaims.noting_of_keeps hdestroy.keepsClaims]
    rfl
  | set _ _ _ h => exact h.claims_noting
  | reverted _ _ _ h h' =>
    rw [h'.claims, claims_reverted, h.claims_noting]
    rfl
  | refused _ _ _ h => exact h.claims
  | flipped _ _ _ _ hflip hcore h => exact hkept h.claims (hcore.keepsClaims hflip.keepsClaims)
  | unflipped _ _ _ _ hflip hcore h => exact hkept h.claims (hcore.keepsClaims hflip.keepsClaims)

theorem Stages.claims_noting (h : Stages a b g b') : b'.claims = b.claims.noting g := by
  induction h with
  | nil => rfl
  | cons h₀ _ ih => rw [ih, h₀.claims_noting, CrtcClaims.noting_append]

end Backend
end Scanout
