import Scanout.Proofs.CalmActs

/-!
# What a choice was read from

Setting a mode begins with reading: the connector, the configuration that drives it now, the handles
of the device, and the encoders one after the other until one serves. `chooseAndClaim` is this part,
which ends with a claim. `Chosen` lists the reads behind a choice in their order and says how the choice
follows from their answers.
-/

namespace Scanout

/-- The configuration that drives a connector was read, or why there is none to go by. -/
inductive SnapshotRead (info : ConnectorInfo) : Option CrtcInfo → List JournalEntry → Prop where
  | undriven (hnone : info.currentEncoder = none) : SnapshotRead info none []
  | unread {encoder cause} (hsome : info.currentEncoder = some encoder) :
      SnapshotRead info none [.call (.kernel (.encoder encoder)) (.error cause)]
  | unfed {encoder source} (hsome : info.currentEncoder = some encoder)
      (hnone : source.crtc = none) :
      SnapshotRead info none [.call (.kernel (.encoder encoder)) (.ok source)]
  | asked {encoder source crtc answer} (hsome : info.currentEncoder = some encoder)
      (hcrtc : source.crtc = some crtc) :
      SnapshotRead info answer.toOption
        [.call (.kernel (.crtc crtc)) answer, .call (.kernel (.encoder encoder)) (.ok source)]

/-- The encoders are asked in their order, up to the first one that can be fed from a free CRTC. -/
inductive FitRead (crtcs : List CrtcHandle) (claims : CrtcClaims) :
    List EncoderHandle → EncoderHandle → CrtcHandle → List JournalEntry → Prop where
  | here {encoder others source crtc} (hfree : source.firstFree crtcs claims = some crtc) :
      FitRead crtcs claims (encoder :: others) encoder crtc
        [.call (.kernel (.encoder encoder)) (.ok source)]
  | unread {first others cause encoder crtc g} (h : FitRead crtcs claims others encoder crtc g) :
      FitRead crtcs claims (first :: others) encoder crtc
        (g ++ [.call (.kernel (.encoder first)) (.error cause)])
  | taken {first others source encoder crtc g} (hnone : source.firstFree crtcs claims = none)
      (h : FitRead crtcs claims others encoder crtc g) :
      FitRead crtcs claims (first :: others) encoder crtc
        (g ++ [.call (.kernel (.encoder first)) (.ok source)])

/-- A choice for a connector, read from a connector that is up, and claimed. -/
inductive Chosen (id : OutputId) (connector : ConnectorHandle) (request : ModeRequest)
    (claims : CrtcClaims) : ModesetChoice → List JournalEntry → Prop where
  | claimed {info saved mode resources encoder crtc g g'} (hlink : info.isConnected = true)
      (hmodes : info.modes.isEmpty = false) (hsaved : SnapshotRead info saved g)
      (hmode : resolveMode info.modes (saved.bind (·.mode)) request = .ok mode)
      (hfit : FitRead resources.crtcs claims info.encoders encoder crtc g') :
      Chosen id connector request claims ⟨info.modes, saved, mode, encoder, crtc⟩
        (.claimed crtc id :: g' ++ .call (.kernel .resources) (.ok resources) :: g ++
          [.call (.kernel (.connector connector)) (.ok info)])

namespace FitRead

variable {crtcs : List CrtcHandle} {claims : CrtcClaims} {encoders : List EncoderHandle}
  {encoder : EncoderHandle} {crtc : CrtcHandle} {g : List JournalEntry}

/-- What was found is one of the encoders, and its mask allows the CRTC, which nobody owned. -/
theorem sound (h : FitRead crtcs claims encoders encoder crtc g) :
    encoder ∈ encoders ∧ claims.owner crtc = none ∧ ∃ source i, crtcs[i]? = some crtc ∧
      source.supportsCrtcIndex i = true ∧ .call (.kernel (.encoder encoder)) (.ok source) ∈ g := by
  induction h with
  | @here encoder others source crtc hfree =>
    obtain ⟨i, hfed, -⟩ := EncoderInfo.feedableFrom_of_firstFree hfree
    exact ⟨List.mem_cons_self, hfed.free, source, i, hfed.listed, hfed.supports, List.mem_cons_self⟩
  | unread _ ih | taken _ _ ih =>
    obtain ⟨hmem, hfree, source, i, hindex, hserves, hread⟩ := ih
    exact ⟨List.mem_cons_of_mem _ hmem, hfree, source, i, hindex, hserves,
      List.mem_append_left _ hread⟩

end FitRead

namespace Chosen

variable {id : OutputId} {connector : ConnectorHandle} {request : ModeRequest} {claims : CrtcClaims}
  {k : ModesetChoice} {g : List JournalEntry}

/-- The CRTC was claimed, and nobody owned it before. -/
theorem unowned (h : Chosen id connector request claims k g) :
    .claimed k.crtc id ∈ g ∧ claims.owner k.crtc = none := by
  cases h with
  | claimed _ _ _ _ hfit => exact ⟨by simp, hfit.sound.2.1⟩

theorem resolves (h : Chosen id connector request claims k g) :
    resolveMode k.modes (k.saved.bind (·.mode)) request = .ok k.mode := by
  cases h with
  | claimed _ _ _ hmode _ => exact hmode

/-- The encoder can be fed from the CRTC, by the masks and the order that were read. -/
theorem fits (h : Chosen id connector request claims k g) : ∃ resources source i,
    .call (.kernel .resources) (.ok resources) ∈ g ∧
      .call (.kernel (.encoder k.encoder)) (.ok source) ∈ g ∧
      resources.crtcs[i]? = some k.crtc ∧ source.supportsCrtcIndex i = true := by
  cases h with
  | claimed _ _ _ _ hfit =>
    obtain ⟨-, -, source, i, hindex, hserves, hread⟩ := hfit.sound
    exact ⟨_, source, i, by simp, by simp [hread], hindex, hserves⟩

/-- The snapshot to go by was read. -/
theorem saved_read {s : CrtcInfo} (h : Chosen id connector request claims k g)
    (hs : k.saved = some s) : ∃ c, .call (.kernel (.crtc c)) (.ok s) ∈ g := by
  cases h with
  | claimed _ _ hsaved _ _ =>
    cases hsaved with
    | undriven _ | unread _ | unfed _ _ => contradiction
    | @asked _ _ crtc answer _ _ =>
      cases answer with
      | error _ => contradiction
      | ok s' =>
        obtain rfl := Option.some.inj hs
        exact ⟨crtc, by simp⟩

end Chosen

namespace Backend

variable {W : World} {b : Backend W} {id : OutputId} {connector : ConnectorHandle}
  {request : ModeRequest}

/-- The first part of setting a mode, up to the claim. -/
def chooseAndClaim (id : OutputId) (connector : ConnectorHandle) (request : ModeRequest) :
    ExceptT ModesetError (BackendM W) ModesetChoice := do
  let info ← orFail .kernel (kernel (.connector connector))
  unless info.isConnected do throw .linkInactive
  if info.modes.isEmpty then throw .noModes
  let saved ← activeCrtc info
  let mode ← orFail .mode (pure (resolveMode info.modes (saved.bind (·.mode)) request))
  let resources ← orFail .kernel (kernel .resources)
  let (encoder, crtc) ← claimCrtc id info resources.crtcs
  return ⟨info.modes, saved, mode, encoder, crtc⟩

/-- Once a choice is claimed, the record is filled in and the surface is set up. -/
theorem tryModeset_eq (id : OutputId) (connector : ConnectorHandle) (request : ModeRequest) :
    tryModeset (W := W) id connector request = (do
      let k ← chooseAndClaim id connector request
      ExceptT.lift (updateOutput id (·.configured k))
      initSurface id connector k.crtc k.saved k.mode) := by
  unfold tryModeset chooseAndClaim
  rw [bind_assoc]
  congr 1
  funext info
  cases info.isConnected with
  | false => rfl
  | true =>
    cases info.modes.isEmpty with
    | true => rfl
    | false =>
      simp only [if_true, Bool.false_eq_true, if_false, bind_assoc, pure_bind]
      rfl

theorem yields_activeCrtc_read {ε : Type} (info : ConnectorInfo) (b : Backend W) :
    Yields (activeCrtc info : ExceptT ε (BackendM W) (Option CrtcInfo)).run b fun r g _ =>
      ∃ saved, r = .ok saved ∧ SnapshotRead info saved g := by
  unfold activeCrtc
  cases hsome : info.currentEncoder with
  | none => exact .pureOk ⟨none, rfl, .undriven hsome⟩
  | some encoder =>
    refine (yields_call (.kernel (.encoder encoder)) b).lift_bind ?_
    rintro answer _ b₁ ⟨rfl, -⟩
    cases answer with
    | error cause => exact .pureOk ⟨none, rfl, .unread hsome⟩
    | ok source =>
      dsimp only
      cases hcrtc : source.crtc with
      | none => exact .pureOk ⟨none, rfl, .unfed hsome hcrtc⟩
      | some crtc =>
        refine (yields_call (.kernel (.crtc crtc)) b₁).lift_bind ?_
        rintro answer _ b₂ ⟨rfl, -⟩
        exact .pureOk ⟨_, rfl, .asked hsome hcrtc⟩

theorem yields_firstFit_read (crtcs : List CrtcHandle) (claims : CrtcClaims)
    (encoders : List EncoderHandle) (b : Backend W) :
    Yields (firstFit crtcs claims encoders) b fun r g _ =>
      ∀ encoder crtc, r = some (encoder, crtc) → FitRead crtcs claims encoders encoder crtc g := by
  induction encoders generalizing b with
  | nil => exact .pure nofun
  | cons first others ih =>
    refine (yields_call (.kernel (.encoder first)) b).bind ?_
    rintro answer _ b₁ ⟨rfl, -⟩
    cases answer with
    | error cause => exact (ih b₁).mono fun _ _ _ h encoder crtc hr => .unread (h encoder crtc hr)
    | ok source =>
      dsimp only
      cases hfree : source.firstFree crtcs claims with
      | none => exact (ih b₁).mono fun _ _ _ h encoder crtc hr => .taken hfree (h encoder crtc hr)
      | some crtc =>
        apply Yields.pure
        rintro _ _ ⟨⟩
        exact .here hfree

theorem yields_claimCrtc_read (id : OutputId) (info : ConnectorInfo) (crtcs : List CrtcHandle)
    (b : Backend W) :
    Yields (claimCrtc id info crtcs).run b fun r g _ =>
      ∀ encoder crtc, r = .ok (encoder, crtc) → ∃ g₀, g = .claimed crtc id :: g₀ ∧
        FitRead crtcs b.claims info.encoders encoder crtc g₀ := by
  have hallocate : Yields (allocateCrtc info crtcs id b.claims) b fun r g _ =>
      ∀ encoder crtc, r.1 = .ok (encoder, crtc) → ∃ g₀, g = .claimed crtc id :: g₀ ∧
        FitRead crtcs b.claims info.encoders encoder crtc g₀ := by
    refine (yields_firstFit_read crtcs b.claims info.encoders b).bind ?_
    intro found g b₁ hfound
    cases found with
    | none => exact .pure nofun
    | some pair =>
      refine ⟨[.claimed pair.2 id], rfl, ?_⟩
      rintro encoder crtc ⟨⟩
      exact ⟨g, rfl, hfound _ _ rfl⟩
  have hclaim : Yields (get >>= fun b => allocateCrtc info crtcs id b.claims >>= fun r =>
      modify (fun b => { b with claims := r.2 }) >>= fun _ => pure r.1) b fun r g _ =>
      ∀ encoder crtc, r = .ok (encoder, crtc) → ∃ g₀, g = .claimed crtc id :: g₀ ∧
        FitRead crtcs b.claims info.encoders encoder crtc g₀ := by
    refine Yields.get_bind (hallocate.bind ?_)
    intro r g b₁ h
    exact ⟨[], rfl, h⟩
  refine (Yields.orFail hclaim).mono ?_
  rintro _ g b₁ ⟨r, rfl, h⟩ encoder crtc hr
  apply h
  cases r with
  | ok pair => exact congrArg Except.ok (Except.ok.inj hr)
  | error _ => contradiction

/-- Everything up to the claim is quiet, and the claim is what a choice changes of the books. -/
theorem yields_chooseAndClaim (id : OutputId) (connector : ConnectorHandle) (request : ModeRequest)
    (b : Backend W) :
    Yields (chooseAndClaim id connector request).run b fun r g b' =>
      match r with
      | .ok k => Chosen id connector request b.claims k g ∧
          SameBooks { b with claims := (b.claims.claim k.crtc id).2 } b'
      | .error _ => Quiet b g b' := by
  refine (yields_quietCall (c := .kernel (.connector connector)) b
    fun _ => trivial).orFail_bindOk ?_ ?_
  · rintro info _ b₁ ⟨rfl, h₁⟩
    cases hlink : info.isConnected with
    | false => exact .throw h₁
    | true =>
      cases hmodes : info.modes.isEmpty with
      | true => exact .throw h₁
      | false =>
        refine ((yields_activeCrtc info b₁).and (yields_activeCrtc_read info b₁)).bindOk ?_ (by simp)
        rintro saved g₂ b₂ ⟨⟨h₂, -⟩, _, ⟨⟩, hsaved⟩
        refine Yields.orFail_bindOk (P := fun r g b' => r = resolveMode info.modes
          (saved.bind (·.mode)) request ∧ g = [] ∧ b' = b₂) (.pure ⟨rfl, rfl, rfl⟩) ?_ ?_
        · rintro mode _ b₂ ⟨hmode, rfl, rfl⟩
          refine (yields_quietCall (c := .kernel .resources) b₂
            fun _ => trivial).orFail_bindOk ?_ ?_
          · rintro resources _ b₃ ⟨rfl, h₃⟩
            have hread := (h₁.trans h₂).trans h₃
            refine ((yields_claimCrtc id info resources.crtcs b₃).and
              (yields_claimCrtc_read id info resources.crtcs b₃)).bindOk ?_ ?_
            · rintro _ _ b₄ ⟨⟨_, ⟨⟩, -⟩ | ⟨encoder, crtc, g₀, ⟨⟩, -, -, rfl, h₄⟩, hfit⟩
              obtain ⟨_, ⟨⟩, hfit⟩ := hfit encoder crtc rfl
              rw [hread.same.claims] at hfit
              have hclaimed := hread.same.mapClaims fun t => (t.claim crtc id).2
              refine .pureOk ⟨?_, hclaimed.trans h₄⟩
              have hclaim : Chosen id connector request b.claims ⟨info.modes, saved, mode, encoder, crtc⟩ _ :=
                .claimed hlink hmodes hsaved hmode.symm hfit
              simpa using hclaim
            · rintro e g₄ b₄ ⟨⟨_, -, h₄⟩ | ⟨_, _, _, ⟨⟩, -⟩, -⟩
              simpa using hread.trans h₄
          · rintro e g₃ b₃ ⟨-, h₃⟩
            simpa using (h₁.trans h₂).trans h₃
        · rintro e _ b₂ ⟨-, rfl, rfl⟩
          simpa using h₁.trans h₂
  · rintro e _ b₁ ⟨rfl, h₁⟩
    exact h₁

theorem always_chooseAndClaim {R : Backend W → List JournalEntry → Backend W → Prop} [Composes R]
    (hread : ∀ c : Call, c.Reads → Always R (call c : BackendM W c.Answer))
    (hnote : ∀ crtc id, Always R (note (.claimed crtc id) : BackendM W Unit))
    (hclaims : ∀ (b : Backend W) (claims : CrtcClaims), R b [] { b with claims := claims })
    (id : OutputId) (connector : ConnectorHandle) (request : ModeRequest) :
    Always R (chooseAndClaim id connector request : ExceptT ModesetError (BackendM W) _).run := by
  refine .bindOk (.orFail (hread (.kernel (.connector connector)) trivial)) fun info => ?_
  cases info.isConnected with
  | false => exact .throw _
  | true =>
    cases info.modes.isEmpty with
    | true => exact .throw _
    | false =>
      exact .bindOk (always_activeCrtc hread info) fun saved => .bindOk (.orFail (.pure _)) fun mode =>
        .bindOk (.orFail (hread (.kernel .resources) trivial)) fun resources =>
          .bindOk (always_claimCrtc hread hnote hclaims id info _) fun _ => .pureOk _

/-- Whatever is gained is read or claims a CRTC, and the context stays as it is. -/
structure OnlyChooses (b : Backend W) (gained : List JournalEntry) (b' : Backend W) : Prop where
  entries : ∀ e ∈ gained, (∃ c : Call, c.Reads ∧ ∃ a, e = .call c a) ∨ ∃ crtc id, e = .claimed crtc id
  handles : b'.handles = b.handles
  chains : b'.chains = b.chains

instance : Composes (OnlyChooses (W := W)) where
  refl _ := ⟨by simp, rfl, rfl⟩
  trans h h' := ⟨fun e he => (List.mem_append.1 he).elim (h'.entries e) (h.entries e),
    h'.handles.trans h.handles, h'.chains.trans h.chains⟩

theorem onlyChooses_chooseAndClaim (id : OutputId) (connector : ConnectorHandle)
    (request : ModeRequest) :
    Always OnlyChooses (chooseAndClaim (W := W) id connector request).run := by
  refine always_chooseAndClaim (fun c h b => ?_) (fun crtc id b => ?_) (fun b claims => ?_) id
    connector request
  · exact ⟨[.call c (W.answer c b.world).1], rfl,
      List.forall_mem_singleton.2 (.inl ⟨c, h, _, rfl⟩), rfl, rfl⟩
  · exact ⟨[.claimed crtc id], rfl, List.forall_mem_singleton.2 (.inr ⟨crtc, id, rfl⟩), rfl, rfl⟩
  · exact ⟨by simp, rfl, rfl⟩

theorem OnlyChooses.keepsTable {b b' : Backend W} {g : List JournalEntry} (h : OnlyChooses b g b') :
    ∀ e ∈ g, e.KeepsTable := by
  intro e he
  rcases h.entries e he with ⟨c, hreads, a, rfl⟩ | ⟨crtc, id, rfl⟩
  · exact (hreads.isStill a).keepsTable
  · exact fun _ => rfl

/-- An attempt to set a mode stops where no choice is made, and otherwise goes on with the surface. -/
theorem yields_tryModeset_of_choice {P : Except ModesetError ModesetChoice → List JournalEntry →
      Backend W → Prop} {Q : Except ModesetError Unit → List JournalEntry → Backend W → Prop}
    (hchoice : Yields (chooseAndClaim id connector request).run b P)
    (hstop : ∀ e g b', P (.error e) g b' → Q (.error e) g b')
    (hset : ∀ k g b₁, P (.ok k) g b₁ →
      Yields (initSurface id connector k.crtc k.saved k.mode).run
        { b₁ with outputs := b₁.outputs.modify id.slot (·.configured k) }
        fun r g' b' => Q r (g' ++ g) b') :
    Yields (tryModeset id connector request).run b Q := by
  rw [tryModeset_eq]
  refine hchoice.bindOk ?_ hstop
  intro k g b₁ h₁
  refine (yields_updateOutput id _ b₁).lift_bind ?_
  rintro _ _ _ ⟨rfl, rfl⟩
  refine (hset k g b₁ h₁).mono ?_
  intro r g' b' h
  rwa [List.append_nil]

end Backend
end Scanout
