import Scanout.Proofs.ChoiceReads
import Scanout.Proofs.CrtcIsolation
import Scanout.Proofs.SurfaceCustody

/-!
# What an attempt to set a mode leaves

An attempt that succeeds leaves a choice that was claimed and a frame that is shown on a new surface;
committing this frame and flipping to it are its only commits. An attempt that fails leaves nothing of
what it acquired.
-/

namespace Scanout

/-- The calls that program a CRTC, the latest first. -/
def commits (g : List JournalEntry) : List JournalEntry := g.filter (·.target?.isSome)

theorem Call.Reads.target?_eq {c : Call} (h : c.Reads) (a : c.Answer) :
    (JournalEntry.call c a).target? = none := by
  cases c with
  | kernel request => cases request <;> first | rfl | exact h.elim
  | gpu _ => rfl
  | clock => rfl

section Commits

variable {core g g' : List JournalEntry}

theorem commits_append (g' g : List JournalEntry) : commits (g' ++ g) = commits g' ++ commits g :=
  List.filter_append g' g

theorem commits_eq_nil (h : ∀ e ∈ g, e.target? = none) : commits g = [] :=
  List.filter_eq_nil_iff.2 fun e he => by simp [h e he]

theorem commits_of_quiet (h : ∀ e ∈ g, e.IsQuiet) : commits g = [] :=
  commits_eq_nil fun e he => (h e he).target?_eq

theorem Amid.commits (h : Amid core g) : commits g = commits core := by
  obtain ⟨before, after, hbefore, hafter, rfl⟩ := h
  rw [commits_append, commits_append, commits_of_quiet hbefore, commits_of_quiet hafter,
    List.append_nil, List.nil_append]

/-- The first frame is committed and flipped to. -/
theorem FrameTried.commits {connector : ConnectorHandle} {crtc : CrtcHandle} {mode : DisplayMode}
    {fb : FramebufferId} (h : FrameTried connector crtc mode (some fb) g) :
    commits g = [.call (.kernel (.pageFlip crtc fb)) (.ok ()),
      .call (.kernel (.setCrtc ⟨crtc, some fb, (0, 0), [connector], some mode⟩)) (.ok ())] := by
  cases h with
  | shown fb => rfl

end Commits

theorem Output.lit_inj {o : Output} {mode : DisplayMode} {s s' : SurfaceId} {fb fb' : FramebufferId}
    (h : o.lit mode s fb = o.lit mode s' fb') : s = s' ∧ fb = fb' := by
  simpa [lit] using congrArg Output.surface h

namespace Backend

variable {W : World} {b b' : Backend W} {id : OutputId} {o : Output} {connector : ConnectorHandle}
  {request : ModeRequest} {g : List JournalEntry}

theorem OnlyChooses.neutral (h : OnlyChooses b g b') : ∀ e ∈ g, e.IsNeutral := by
  intro e he
  rcases h.entries e he with ⟨c, hreads, a, rfl⟩ | ⟨crtc, id, rfl⟩
  · exact hreads.isNeutral a
  · exact ⟨rfl, rfl, rfl⟩

theorem OnlyChooses.commits (h : OnlyChooses b g b') : commits g = [] := by
  refine commits_eq_nil fun e he => ?_
  rcases h.entries e he with ⟨c, hreads, a, rfl⟩ | ⟨crtc, id, rfl⟩
  · exact hreads.target?_eq a
  · rfl

/-- A choice was claimed, and a first frame is shown on a new surface. -/
structure Lights (id : OutputId) (connector : ConnectorHandle) (request : ModeRequest) (o : Output)
    (k : ModesetChoice) (s : SurfaceId) (fb : FramebufferId) (b : Backend W) (g : List JournalEntry)
    (b' : Backend W) : Prop where
  choice : ∃ reads, reads <:+ g ∧ Chosen id connector request b.claims k reads
  commits : commits g = [.call (.kernel (.pageFlip k.crtc fb)) (.ok ()),
    .call (.kernel (.setCrtc ⟨k.crtc, some fb, (0, 0), [connector], some k.mode⟩)) (.ok ())]
  record : b'.output? id = some ((o.configured k).lit k.mode s fb)
  claims : b'.claims = (b.claims.claim k.crtc id).2
  new : s = b.chains.nextSurface
  shown : fb ∈ b'.chains.framebuffersOf s
  custody : b'.toRenderContext.Custody s (b.chains.framebuffersOf s) (outstanding [] g)

/-- An attempt lights the output, or nothing is held of what it acquired. -/
theorem yields_tryModeset_lights (ho : b.output? id = some o) (connector : ConnectorHandle)
    (request : ModeRequest) :
    Yields (tryModeset id connector request).run b fun r g b' =>
      match r with
      | .ok _ => ∃ k s fb, Lights id connector request o k s fb b g b'
      | .error _ => outstanding [] g = [] := by
  refine yields_tryModeset_of_choice ((onlyChooses_chooseAndClaim id connector request b).and
    (yields_chooseAndClaim id connector request b)) ?_ ?_
  · rintro e g b' ⟨honly, -⟩
    exact outstanding_of_neutral honly.neutral
  · rintro k g b₁ ⟨honly, hchosen, hsame⟩
    have ho₁ : ({ b₁ with outputs := b₁.outputs.modify id.slot (·.configured k) } :
        Backend W).output? id = some (o.configured k) :=
      output?_modify_self (b := b₁) (f := (·.configured k)) rfl ((hsame.output? id).trans ho)
    refine ((yields_initSurface id connector k.crtc k.saved k.mode _).and
      (yields_initSurface_custody ho₁ connector k.crtc k.saved k.mode)).mono ?_
    rintro r g' b' ⟨htried, hcustody⟩
    cases htried with
    | unmade _ | undone _ _ _ _ _ _ =>
      rw [outstanding_append, outstanding_of_neutral honly.neutral]
      exact hcustody
    | @shown s fb _ _ _ _ _ htried hcore h =>
      obtain ⟨s', fb', hrecord, hs, hfb, hcustody⟩ := hcustody
      obtain ⟨rfl, rfl⟩ : s = s' ∧ fb = fb' := Output.lit_inj
        (Option.some.inj ((output?_modify_self h.outputs ho₁).symm.trans hrecord))
      refine ⟨k, s, fb, ?_⟩
      exact
        { choice := ⟨g, List.suffix_append g' g, hchosen⟩
          commits := by
            rw [commits_append, honly.commits, hcore.commits, htried.commits, List.append_nil]
          record := hrecord
          claims := h.claims.trans hsame.claims
          new := by rw [hs, ← honly.chains]
          shown := hfb
          custody := by
            rw [outstanding_append, outstanding_of_neutral honly.neutral, ← honly.chains]
            exact hcustody }

end Backend
end Scanout
