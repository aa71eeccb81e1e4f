import Scanout.Proofs.CalmActs

/-!
# What setting a mode settles on

Mode, encoder and CRTC are settled on by what the kernel answers about the connector, its encoders
and the device, by the CRTC table and by the claims, and by nothing else. `KernelAnswers.choice?` is
that function of them, and setting a mode claims and sets what it says.
-/

namespace Scanout

/-- What the kernel answers about connectors, encoders and the device. -/
structure KernelAnswers where
  connector : ConnectorHandle → ConnectorInfo
  encoder : EncoderHandle → EncoderInfo
  resources : ResourceHandles

namespace KernelAnswers

variable (k : KernelAnswers)

/-- The kernel answered so, told the truth about CRTCs and accepted every commit. -/
def Gave (t : CrtcTable) : JournalEntry → Prop
  | .call (.kernel (.connector h)) answer => answer.toOption = some (k.connector h)
  | .call (.kernel (.encoder h)) answer => answer.toOption = some (k.encoder h)
  | .call (.kernel .resources) answer => answer.toOption = some k.resources
  | .call (.kernel (.crtc c)) answer => answer.toOption = some (t.info c)
  | .call (.kernel (.setCrtc _)) answer => answer.isOk = true
  | _ => True

instance (t : CrtcTable) : DecidablePred (k.Gave t)
  | .call (.kernel (.connector _)) _ | .call (.kernel (.encoder _)) _ | .call (.kernel .resources) _
  | .call (.kernel (.crtc _)) _ => inferInstanceAs (Decidable (Except.toOption _ = some _))
  | .call (.kernel (.setCrtc _)) answer => inferInstanceAs (Decidable (answer.isOk = true))
  | .call (.kernel (.addFramebuffer _ _ _)) _ | .call (.kernel (.removeFramebuffer _)) _
  | .call (.kernel (.pageFlip _ _)) _ | .call (.kernel (.wait _)) _ | .call (.kernel .receive) _
  | .call (.gpu _) _ | .call .clock _ | .claimed _ _ | .released _ | .event _ => instDecidableTrue

/-- All entries are as the kernel answers, given the table before them. -/
def GaveAll (t : CrtcTable) (gained : List JournalEntry) : Prop :=
  Each (fun earlier e => k.Gave (t.after earlier) e) gained

instance (t : CrtcTable) : DecidablePred (k.GaveAll t) := fun g => Each.decidable g

/-- The configuration that drives a connector. -/
def snapshot (t : CrtcTable) (info : ConnectorInfo) : Option CrtcInfo :=
  info.currentEncoder.bind fun encoder => (k.encoder encoder).crtc.map t.info

/-- The first encoder that can be fed from a free CRTC, with that CRTC. -/
def fit (crtcs : List CrtcHandle) (claims : CrtcClaims) (encoders : List EncoderHandle) :
    Option (EncoderHandle × CrtcHandle) :=
  encoders.findSome? fun encoder =>
    ((k.encoder encoder).firstFree crtcs claims).map fun crtc => (encoder, crtc)

/-- What setting the mode of a connector settles on, if it comes to a claim. -/
def choice? (t : CrtcTable) (claims : CrtcClaims) (connector : ConnectorHandle)
    (request : ModeRequest) : Option ModesetChoice :=
  let info := k.connector connector
  let saved := k.snapshot t info
  if info.isConnected = true ∧ info.modes.isEmpty = false then
    match resolveMode info.modes (saved.bind (·.mode)) request,
      k.fit k.resources.crtcs claims info.encoders with
    | .ok mode, some (encoder, crtc) => some ⟨info.modes, saved, mode, encoder, crtc⟩
    | _, _ => none
  else none

variable {k} {t t' : CrtcTable} {g g' : List JournalEntry}

theorem gaveAll_append : k.GaveAll t (g' ++ g) ↔ k.GaveAll (t.after g) g' ∧ k.GaveAll t g := by
  simp only [GaveAll, Each.append_iff, CrtcTable.after_append]

theorem GaveAll.granted (h : k.GaveAll t g) : ∀ e ∈ g, e.Granted := by
  intro e he
  obtain ⟨later, earlier, heq⟩ := List.append_of_mem he
  have hgave := Each.iff_forall.1 h later e earlier heq
  unfold JournalEntry.Granted
  split
  · exact hgave
  · trivial

/-- Snapshots are taken from the table. -/
theorem info_of_snapshot {info : ConnectorInfo} {s : CrtcInfo} (h : k.snapshot t info = some s) :
    s = t.info s.handle := by
  obtain ⟨encoder, -, hs⟩ := Option.bind_eq_some_iff.1 h
  obtain ⟨c, -, rfl⟩ := Option.map_eq_some_iff.1 hs
  rw [t.handle_info]

theorem choice?_eq_some_iff {claims : CrtcClaims} {connector : ConnectorHandle}
    {request : ModeRequest} {c : ModesetChoice} :
    k.choice? t claims connector request = some c ↔
      (k.connector connector).isConnected = true ∧ (k.connector connector).modes.isEmpty = false ∧
        resolveMode (k.connector connector).modes
          ((k.snapshot t (k.connector connector)).bind (·.mode)) request = .ok c.mode ∧
        k.fit k.resources.crtcs claims (k.connector connector).encoders =
          some (c.encoder, c.crtc) ∧
        c.modes = (k.connector connector).modes ∧
        c.saved = k.snapshot t (k.connector connector) := by
  obtain ⟨modes, saved, mode, encoder, crtc⟩ := c
  unfold choice?
  dsimp only
  split
  · next h =>
    rw [and_iff_right h.1, and_iff_right h.2]
    cases resolveMode (k.connector connector).modes
        ((k.snapshot t (k.connector connector)).bind (·.mode)) request with
    | error _ => simp
    | ok mode' =>
      cases k.fit k.resources.crtcs claims (k.connector connector).encoders with
      | none => simp
      | some pair =>
        simp only [Option.some.injEq, ModesetChoice.mk.injEq, Except.ok.injEq, Prod.ext_iff]
        constructor
        · rintro ⟨hmodes, hsaved, hmode, hencoder, hcrtc⟩
          exact ⟨hmode, ⟨hencoder, hcrtc⟩, hmodes.symm, hsaved.symm⟩
        · rintro ⟨hmode, ⟨hencoder, hcrtc⟩, hmodes, hsaved⟩
          exact ⟨hmodes.symm, hsaved.symm, hmode, hencoder, hcrtc⟩
  · next h => exact iff_of_false nofun fun hc => h ⟨hc.1, hc.2.1⟩

/-- Tables that agree about the mode of the CRTC that drives the connector lead to the same choice
of mode, encoder and CRTC. -/
theorem choice?_congr (claims : CrtcClaims) (connector : ConnectorHandle) (request : ModeRequest)
    (h : (k.snapshot t' (k.connector connector)).bind (·.mode) =
      (k.snapshot t (k.connector connector)).bind (·.mode)) :
    k.choice? t' claims connector request = (k.choice? t claims connector request).map fun c =>
      { c with saved := k.snapshot t' (k.connector connector) } := by
  unfold choice?
  dsimp only
  rw [h]
  split
  · split <;> rfl
  · rfl

end KernelAnswers

/-- The mode of the output was set as settled on. -/
def Output.Shows (o : Output) (c : ModesetChoice) : Prop :=
  ∃ o₀ s fb, o = ((o₀ : Output).configured c).lit c.mode s fb

namespace Backend

variable {W : World} {α β ε : Type} {k : KernelAnswers} {b b' : Backend W}
  {g g' : List JournalEntry} {t : CrtcTable}

theorem Calm.gaveAll_append (h : Calm b g b') :
    k.GaveAll t (g' ++ g) ↔ k.GaveAll t g' ∧ k.GaveAll t g := by
  rw [KernelAnswers.gaveAll_append, h.table]

/-- The act is calm, and what it answers follows from what the kernel does. -/
def Determined (k : KernelAnswers) (act : BackendM W α) (f : CrtcTable → α) : Prop :=
  ∀ b, Yields act b fun r g b' => Calm b g b' ∧ ∀ t, k.GaveAll t g → r = f t

namespace Determined

theorem pure (a : α) : Determined k (pure a : BackendM W α) fun _ => a := fun b =>
  .pure ⟨Composes.refl b, fun _ _ => rfl⟩

theorem bind {x : BackendM W α} {f : CrtcTable → α} {act : α → BackendM W β}
    {h : α → CrtcTable → β} (hx : Determined k x f) (hact : ∀ a, Determined k (act a) (h a)) :
    Determined k (x >>= act) fun t => h (f t) t := fun b => by
  refine (hx b).bind fun a g b₁ ⟨hcalm, ha⟩ => (hact a b₁).mono fun r g' b' ⟨hcalm', hr⟩ => ?_
  refine ⟨Composes.trans hcalm hcalm', fun t hgave => ?_⟩
  obtain ⟨hgave', hgave⟩ := hcalm.gaveAll_append.1 hgave
  rw [hr t hgave', ha t hgave]

theorem call {c : Call} {f : CrtcTable → c.Answer}
    (hf : ∀ t a, k.Gave t (.call c a) → a = f t)
    (h : ∀ a, (JournalEntry.call c a).IsStill) :
    Determined k (call c : BackendM W c.Answer) f := fun b => by
  refine ⟨[.call c (W.answer c b.world).1], rfl, ⟨by simpa using h _, fun _ => rfl, rfl, rfl⟩, ?_⟩
  exact fun t hgave => hf t _ hgave.1

theorem bindOk {x : ExceptT ε (BackendM W) α} {f : CrtcTable → α}
    {act : α → ExceptT ε (BackendM W) β} {h : α → CrtcTable → Except ε β}
    (hx : Determined k x.run fun t => .ok (f t)) (hact : ∀ a, Determined k (act a).run (h a)) :
    Determined k (x >>= act).run fun t => h (f t) t := fun b => by
  refine (hx b).bindOk ?_ fun e g b₁ ⟨hcalm, hr⟩ => ⟨hcalm, fun t hgave => by cases hr t hgave⟩
  intro a g b₁ ⟨hcalm, ha⟩
  refine (hact a b₁).mono fun r g' b' ⟨hcalm', hr⟩ => ?_
  refine ⟨Composes.trans hcalm hcalm', fun t hgave => ?_⟩
  obtain ⟨hgave', hgave⟩ := hcalm.gaveAll_append.1 hgave
  rw [hr t hgave', Except.ok.inj (ha t hgave)]

theorem pureOk (a : α) : Determined k (Pure.pure a : ExceptT ε (BackendM W) α).run fun _ => .ok a :=
  .pure _

theorem lift {act : BackendM W α} {f : CrtcTable → α} (h : Determined k act f) :
    Determined k (ExceptT.lift act : ExceptT ε (BackendM W) α).run fun t => .ok (f t) := fun b =>
  .lift ((h b).mono fun _ _ _ ⟨hcalm, hr⟩ =>
    ⟨hcalm, fun t hgave => congrArg Except.ok (hr t hgave)⟩)

theorem orFail {δ : Type} {cause : δ → ε} {act : BackendM W (Except δ α)} {f : CrtcTable → α}
    (h : Determined k act fun t => .ok (f t)) :
    Determined k (orFail cause act).run fun t => .ok (f t) := fun b =>
  (Yields.orFail (h b)).mono fun _ _ _ ⟨_, hr₀, hcalm, hr⟩ =>
    ⟨hcalm, fun t hgave => by rw [hr₀, hr t hgave]; rfl⟩

theorem of_eq {act : BackendM W α} {f f' : CrtcTable → α} (h : Determined k act f)
    (hf : ∀ t, f t = f' t) : Determined k act f' := fun b =>
  (h b).mono fun _ _ _ ⟨hcalm, hr⟩ => ⟨hcalm, fun t hgave => (hr t hgave).trans (hf t)⟩

private theorem eq_ok_of_toOption {δ : Type} {r : Except δ α} {a : α}
    (h : r.toOption = some a) : r = .ok a := by
  cases r with
  | ok _ => exact congrArg Except.ok (Option.some.inj h)
  | error _ => contradiction

theorem encoder (h : EncoderHandle) :
    Determined k (kernel (.encoder h) : BackendM W _) fun _ => .ok (k.encoder h) :=
  .call (fun _ _ hgave => eq_ok_of_toOption hgave) fun _ => trivial

theorem connector (h : ConnectorHandle) :
    Determined k (kernel (.connector h) : BackendM W _) fun _ => .ok (k.connector h) :=
  .call (fun _ _ hgave => eq_ok_of_toOption hgave) fun _ => trivial

theorem crtc (c : CrtcHandle) :
    Determined k (kernel (.crtc c) : BackendM W _) fun t => .ok (t.info c) :=
  .call (fun _ _ hgave => eq_ok_of_toOption hgave) fun _ => trivial

theorem resources :
    Determined k (kernel .resources : BackendM W _) fun _ => .ok k.resources :=
  .call (fun _ _ hgave => eq_ok_of_toOption hgave) fun _ => trivial

end Determined

theorem determined_firstFit (crtcs : List CrtcHandle) (claims : CrtcClaims)
    (encoders : List EncoderHandle) :
    Determined k (firstFit crtcs claims encoders : BackendM W _)
      fun _ => k.fit crtcs claims encoders := by
  induction encoders with
  | nil => exact .pure none
  | cons encoder others ih =>
    refine (Determined.bind (h := fun answer _ => ((answer.toOption.bind
      (·.firstFree crtcs claims)).map fun crtc => (encoder, crtc)).or (k.fit crtcs claims others))
      (.encoder encoder) fun answer => ?_).of_eq fun _ => ?_
    · cases answer with
      | error _ => exact ih
      | ok info =>
        dsimp only [Except.toOption, Option.bind_some]
        cases info.firstFree crtcs claims with
        | some crtc => exact .pure _
        | none => exact ih
    · simp only [KernelAnswers.fit, List.findSome?_cons, Except.toOption, Option.bind_some]
      cases (k.encoder encoder).firstFree crtcs claims <;> rfl

theorem determined_activeCrtc (info : ConnectorInfo) :
    Determined k (activeCrtc info : ExceptT ε (BackendM W) _).run
      fun t => .ok (k.snapshot t info) := by
  unfold activeCrtc KernelAnswers.snapshot
  cases info.currentEncoder with
  | none => exact .pureOk none
  | some encoder =>
    refine .bindOk (h := fun answer t => .ok (answer.toOption.bind fun i => i.crtc.map t.info))
      (.lift (.encoder encoder)) fun answer => ?_
    cases answer with
    | error _ => exact .pureOk none
    | ok i =>
      dsimp only
      cases hc : i.crtc with
      | none => exact (Determined.pureOk none).of_eq fun t => by simp [Except.toOption, hc]
      | some c =>
        refine (Determined.bindOk (h := fun answer _ => .ok answer.toOption) (.lift (.crtc c))
          fun answer => .pureOk _).of_eq fun t => by simp [Except.toOption, hc]

/-- A claim is for the encoder and the CRTC that fit first. -/
theorem yields_claimCrtc_fit (k : KernelAnswers) (id : OutputId) (info : ConnectorInfo) (crtcs : List CrtcHandle)
    (b : Backend W) :
    Yields (claimCrtc id info crtcs).run b fun r g _ =>
      ∀ t, k.GaveAll t g → r.toOption = k.fit crtcs b.claims info.encoders := by
  have hfit : Determined k (firstFit crtcs b.claims info.encoders : BackendM W _) _ :=
    determined_firstFit crtcs b.claims info.encoders
  refine (Yields.orFail (P := fun r g _ =>
    ∀ t, k.GaveAll t g → r.toOption = k.fit crtcs b.claims info.encoders) ?_).mono ?_
  · refine Yields.get_bind (Yields.bind ((hfit b).bind
      (Q := fun r g b' => ∀ t, k.GaveAll t g →
        r.1.toOption = k.fit crtcs b.claims info.encoders) ?_) ?_)
    · rintro found g b₁ ⟨-, hfound⟩
      cases found with
      | none => exact .pure fun t hgave => hfound t hgave
      | some pair => exact ⟨[.claimed pair.2 id], rfl, fun t hgave => hfound t hgave.2⟩
    · rintro ⟨r, claims⟩ g b₁ h
      exact ⟨[], rfl, h⟩
  · rintro _ g b' ⟨r, rfl, h⟩ t hgave
    rw [← h t hgave]
    cases r <;> rfl

/-- Setting a mode claimed and set what is settled on, and it succeeded only if there was that. -/
structure SetsChoice (choice : Option ModesetChoice) (id : OutputId) (r : Except ModesetError Unit)
    (g : List JournalEntry) (b' : Backend W) : Prop where
  settled : r = .ok () → choice.isSome
  claimed : ∀ c, choice = some c → .claimed c.crtc id ∈ g
  shown : ∀ c, choice = some c → r = .ok () → ∀ o', b'.output? id = some o' → o'.Shows c

namespace SetsChoice

variable {choice : Option ModesetChoice} {id : OutputId} {r : Except ModesetError Unit}

theorem of_none {e : ModesetError} (h : choice = none) :
    SetsChoice choice id (.error e) g b' := by
  subst h
  refine ⟨fun hok => ?_, fun _ hc => ?_, fun _ hc => ?_⟩
  · contradiction
  · contradiction
  · contradiction

theorem after (h : SetsChoice choice id r g' b') : SetsChoice choice id r (g' ++ g) b' :=
  ⟨h.settled, fun c hc => List.mem_append_left _ (h.claimed c hc), h.shown⟩

end SetsChoice

/-- The second half of setting a mode, which begins with the claim. -/
private theorem yields_claimAndShow_choice (k : KernelAnswers) (id : OutputId) (connector : ConnectorHandle)
    (info : ConnectorInfo) (saved : Option CrtcInfo) (mode : DisplayMode)
    (crtcs : List CrtcHandle) (b : Backend W) :
    Yields (ExceptT.run do
      let (encoder, crtc) ← claimCrtc id info crtcs
      ExceptT.lift (updateOutput id (·.configured ⟨info.modes, saved, mode, encoder, crtc⟩))
      initSurface id connector crtc saved mode : BackendM W (Except ModesetError Unit)) b
      fun r g b' => ∀ t, k.GaveAll t g →
        (r = .ok () → (k.fit crtcs b.claims info.encoders).isSome) ∧
        ∀ encoder crtc, k.fit crtcs b.claims info.encoders = some (encoder, crtc) →
          .claimed crtc id ∈ g ∧ (r = .ok () → ∀ o', b'.output? id = some o' →
            o'.Shows ⟨info.modes, saved, mode, encoder, crtc⟩) := by
  refine ((yields_claimCrtc id info crtcs b).and
    (yields_claimCrtc_fit k id info crtcs b)).bindOk ?_ ?_
  · rintro _ g₁ b₁ ⟨⟨_, ⟨⟩, -⟩ | ⟨encoder, crtc, g₀, ⟨⟩, -, -, rfl, h₁⟩, hfit⟩
    refine (yields_updateOutput id _ b₁).lift_bind ?_
    rintro _ _ _ ⟨rfl, rfl⟩
    refine (yields_initSurface id connector crtc saved mode _).mono ?_
    intro r g b' h t hgave
    rw [List.append_nil, KernelAnswers.gaveAll_append] at hgave
    rw [← hfit t hgave.2]
    refine ⟨fun _ => rfl, fun _ _ hpair => ?_⟩
    obtain ⟨rfl, rfl⟩ := Prod.mk.inj (Option.some.inj hpair)
    refine ⟨by simp, ?_⟩
    rintro rfl o' ho'
    cases h with
    | @shown s fb _ _ _ _ _ _ _ h =>
      rw [output?_modify h.outputs, if_pos rfl] at ho'
      obtain ⟨o₁, ho₁, rfl⟩ := Option.map_eq_some_iff.1 ho'
      rw [output?_modify (b := b₁) rfl, if_pos rfl] at ho₁
      obtain ⟨o, -, rfl⟩ := Option.map_eq_some_iff.1 ho₁
      exact ⟨o, s, fb, rfl⟩
  · intro e g b₁ ⟨_, hfit⟩ t hgave
    rw [← hfit t hgave]
    exact ⟨nofun, nofun⟩

/-- What follows once the connector is read. -/
private theorem yields_settle_choice (k : KernelAnswers) (id : OutputId)
    {connector : ConnectorHandle} {info : ConnectorInfo} (saved : Option CrtcInfo)
    (request : ModeRequest) (b : Backend W) (hlink : info.isConnected = true)
    (hmodes : info.modes.isEmpty = false) :
    Yields (ExceptT.run do
      let mode ← orFail .mode (pure (resolveMode info.modes (saved.bind (·.mode)) request))
      let resources ← orFail .kernel (kernel .resources)
      let (encoder, crtc) ← claimCrtc id info resources.crtcs
      ExceptT.lift (updateOutput id (·.configured ⟨info.modes, saved, mode, encoder, crtc⟩))
      initSurface id connector crtc saved mode : BackendM W (Except ModesetError Unit)) b
      fun r g b' => ∀ t, k.GaveAll t g → k.connector connector = info →
        k.snapshot t info = saved →
          SetsChoice (k.choice? t b.claims connector request) id r g b' := by
  refine Yields.orFail_bindOk (P := fun r g b' =>
    r = resolveMode info.modes (saved.bind (·.mode)) request ∧ g = [] ∧ b' = b)
    (.pure ⟨rfl, rfl, rfl⟩) ?_ ?_
  · rintro mode _ _ ⟨hmode, rfl, rfl⟩
    have hres : Determined k (orFail ModesetError.kernel (kernel .resources) :
        ExceptT ModesetError (BackendM W) _).run _ := .orFail .resources
    refine (hres _).bindOk ?_ fun e g₁ b₁ ⟨_, hr⟩ t hgave => ?_
    · intro resources g₁ b₁ ⟨hcalm, hres⟩
      refine (yields_claimAndShow_choice k id connector info saved mode resources.crtcs b₁).mono
        fun r g₂ b' h t hgave => ?_
      rintro rfl rfl
      rw [List.append_nil, hcalm.gaveAll_append] at hgave
      obtain rfl := Except.ok.inj (hres t hgave.2)
      obtain ⟨hok, hchoice⟩ := h t hgave.1
      rw [hcalm.claims] at hok hchoice
      rw [List.append_nil]
      refine .after ⟨fun hr => ?_, fun c hc => ?_, fun c hc => ?_⟩
      · obtain ⟨⟨encoder, crtc⟩, hfit⟩ := Option.isSome_iff_exists.1 (hok hr)
        exact Option.isSome_iff_exists.2 ⟨⟨_, _, mode, encoder, crtc⟩,
          KernelAnswers.choice?_eq_some_iff.2 ⟨hlink, hmodes, hmode.symm, hfit, rfl, rfl⟩⟩
      · obtain ⟨-, -, -, hfit, -, -⟩ := KernelAnswers.choice?_eq_some_iff.1 hc
        exact (hchoice _ _ hfit).1
      · obtain ⟨-, -, hmode', hfit, hmodes', hsaved⟩ := KernelAnswers.choice?_eq_some_iff.1 hc
        obtain ⟨modes, saved, mode, encoder, crtc⟩ := c
        obtain rfl := Except.ok.inj (hmode.trans hmode')
        subst hmodes' hsaved
        exact (hchoice _ _ hfit).2
    · rw [List.append_nil] at hgave
      cases hr t hgave
  · rintro e _ _ ⟨hmode, rfl, rfl⟩ t -
    rintro rfl rfl
    refine .of_none (Option.eq_none_iff_forall_ne_some.2 fun c hc => ?_)
    simp [KernelAnswers.choice?_eq_some_iff, ← hmode] at hc

/-- Setting a mode claims and sets what the kernel's answers lead to. -/
theorem yields_tryModeset_choice (k : KernelAnswers) (id : OutputId) (connector : ConnectorHandle)
    (request : ModeRequest) (b : Backend W) :
    Yields (tryModeset id connector request).run b fun r g b' => ∀ t, k.GaveAll t g →
      SetsChoice (k.choice? t b.claims connector request) id r g b' := by
  have hinfo : Determined k (orFail ModesetError.kernel (kernel (.connector connector)) :
      ExceptT ModesetError (BackendM W) _).run _ := .orFail (.connector connector)
  refine (hinfo b).bindOk ?_ fun e g b₁ ⟨_, hr⟩ t hgave => by cases hr t hgave
  intro info g₁ b₁ ⟨hcalm₁, hinfo⟩
  cases hlink : info.isConnected with
  | false =>
    refine .throw fun t hgave => .of_none (Option.eq_none_iff_forall_ne_some.2 fun c hc => ?_)
    rw [List.nil_append] at hgave
    simp [← Except.ok.inj (hinfo t hgave), KernelAnswers.choice?_eq_some_iff, hlink] at hc
  | true =>
    cases hmodes : info.modes.isEmpty with
    | true =>
      refine .throw fun t hgave => .of_none (Option.eq_none_iff_forall_ne_some.2 fun c hc => ?_)
      rw [List.nil_append] at hgave
      simp [← Except.ok.inj (hinfo t hgave), KernelAnswers.choice?_eq_some_iff, hmodes] at hc
    | false =>
      have hsaved : Determined k (activeCrtc info : ExceptT ModesetError (BackendM W) _).run _ :=
        determined_activeCrtc info
      refine (hsaved b₁).bindOk ?_ fun e g b₂ ⟨_, hr⟩ t hgave => ?_
      · intro saved g₂ b₂ ⟨hcalm₂, hsaved⟩
        refine (yields_settle_choice k id saved request b₂ hlink hmodes).mono
          fun r g₃ b' h t hgave => ?_
        have hcalm : Calm b (g₂ ++ g₁) b₂ := Composes.trans hcalm₁ hcalm₂
        rw [List.append_assoc, hcalm.gaveAll_append, hcalm₁.gaveAll_append] at hgave
        obtain ⟨hgave₃, hgave₂, hgave₁⟩ := hgave
        rw [← hcalm.claims, List.append_assoc]
        exact (h t hgave₃ (Except.ok.inj (hinfo t hgave₁)).symm
          (Except.ok.inj (hsaved t hgave₂)).symm).after
      · rw [hcalm₁.gaveAll_append] at hgave
        cases hr t hgave.1

end Backend
end Scanout
