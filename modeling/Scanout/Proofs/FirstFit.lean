import Mathlib.Data.Prod.Lex
import Scanout.Proofs.OutputBooks

/-!
# The first CRTC that fits

An encoder and a CRTC fit if the encoder was read, its mask allows the place of the CRTC in the device's
list and nobody owns the CRTC. `Fits` says so of two places, by what the encoders answer when they are
asked one after the other. What is assigned is the first fit, encoders before CRTCs, and encoders
behind it are not asked.
-/

namespace Scanout

/-- The CRTC at place `j` of the device's list is free and can feed the encoder, whose mask has 32
bits. -/
structure EncoderInfo.FeedableFrom (source : EncoderInfo) (crtcs : List CrtcHandle)
    (claims : CrtcClaims) (j : Nat) (crtc : CrtcHandle) : Prop where
  listed : crtcs[j]? = some crtc
  within : j < 32
  allowed : source.possibleCrtcs.toNat.testBit j = true
  free : claims.owner crtc = none

/-- An encoder and what it answered when it was asked for. -/
structure EncoderReading where
  encoder : EncoderHandle
  answer : Except SystemError EncoderInfo

/-- The journal of some readings, the latest one first. -/
def EncoderReading.journal (readings : List EncoderReading) : List JournalEntry :=
  (readings.map fun r => .call (.kernel (.encoder r.encoder)) r.answer).reverse

/-- What some encoders answer if they are asked one after the other. -/
def World.readings (W : World) : List EncoderHandle → W.State → List EncoderReading
  | [], _ => []
  | encoder :: others, w =>
    ⟨encoder, (W.answer (.kernel (.encoder encoder)) w).1⟩ ::
      W.readings others (W.answer (.kernel (.encoder encoder)) w).2

/-- The state of a world once some encoders were asked. -/
def World.asked (W : World) (encoders : List EncoderHandle) (w : W.State) : W.State :=
  encoders.foldl (fun w encoder => (W.answer (.kernel (.encoder encoder)) w).2) w

/-- The answer of an encoder is the one it gives once those before it were asked. -/
theorem World.getElem?_readings (W : World) (encoders : List EncoderHandle) (w : W.State) (i : Nat) :
    (W.readings encoders w)[i]? = encoders[i]?.map fun encoder =>
      ⟨encoder, (W.answer (.kernel (.encoder encoder)) (W.asked (encoders.take i) w)).1⟩ := by
  induction encoders generalizing w i with
  | nil => rfl
  | cons encoder others ih =>
    cases i with
    | zero => rfl
    | succ i => exact ih _ i

/-- The encoder at place `i` was read and can be fed from the free CRTC at place `j`. -/
def Fits (readings : List EncoderReading) (crtcs : List CrtcHandle) (claims : CrtcClaims)
    (i j : Nat) (encoder : EncoderHandle) (crtc : CrtcHandle) : Prop :=
  ∃ source, readings[i]? = some ⟨encoder, .ok source⟩ ∧ source.FeedableFrom crtcs claims j crtc

/-- No fit has an earlier encoder, or the same one with an earlier CRTC. -/
structure FirstFit (readings : List EncoderReading) (crtcs : List CrtcHandle) (claims : CrtcClaims)
    (i j : Nat) (encoder : EncoderHandle) (crtc : CrtcHandle) : Prop where
  fits : Fits readings crtcs claims i j encoder crtc
  first : ∀ i' j' encoder' crtc', Fits readings crtcs claims i' j' encoder' crtc' →
    toLex (i, j) ≤ toLex (i', j')

/-- What a search comes to, with the readings that it took. -/
inductive Sought (readings : List EncoderReading) (crtcs : List CrtcHandle) (claims : CrtcClaims) :
    Option (EncoderHandle × CrtcHandle) → List EncoderReading → Prop where
  | found {i j encoder crtc} (h : FirstFit readings crtcs claims i j encoder crtc) :
      Sought readings crtcs claims (some (encoder, crtc)) (readings.take (i + 1))
  | missing (h : ∀ i j encoder crtc, ¬ Fits readings crtcs claims i j encoder crtc) :
      Sought readings crtcs claims none readings

namespace EncoderInfo

variable {source : EncoderInfo} {crtcs : List CrtcHandle} {claims : CrtcClaims} {j : Nat}
  {crtc : CrtcHandle}

theorem feedableFrom_iff : source.FeedableFrom crtcs claims j crtc ↔
    crtcs[j]? = some crtc ∧ (source.supportsCrtcIndex j && !claims.isClaimed crtc) = true := by
  have hfree : (!claims.isClaimed crtc) = true ↔ claims.owner crtc = none := by
    simp [CrtcClaims.isClaimed]
  rw [Bool.and_eq_true, hfree, supportsCrtcIndex, Bool.and_eq_true, decide_eq_true_iff]
  constructor
  · intro h
    exact ⟨h.listed, ⟨h.within, h.allowed⟩, h.free⟩
  · intro ⟨hlisted, ⟨hwithin, hallowed⟩, hfree⟩
    exact ⟨hlisted, hwithin, hallowed, hfree⟩

theorem FeedableFrom.supports (h : source.FeedableFrom crtcs claims j crtc) :
    source.supportsCrtcIndex j = true := by
  rw [supportsCrtcIndex, Bool.and_eq_true, decide_eq_true_iff]
  exact ⟨h.within, h.allowed⟩

/-- The CRTC that is found stands at the first place that can feed the encoder. -/
theorem feedableFrom_of_firstFree (h : source.firstFree crtcs claims = some crtc) :
    ∃ j, source.FeedableFrom crtcs claims j crtc ∧
      ∀ j' crtc', source.FeedableFrom crtcs claims j' crtc' → j ≤ j' := by
  obtain ⟨⟨c, place⟩, hfound, rfl⟩ := Option.map_eq_some_iff.1 h
  obtain ⟨hserves, j, hj, hplace, hbefore⟩ := List.find?_eq_some_iff_getElem.1 hfound
  rw [List.getElem_zipIdx, Prod.mk.injEq, Nat.zero_add] at hplace
  obtain ⟨rfl, rfl⟩ := hplace
  rw [List.length_zipIdx] at hj
  refine ⟨j, feedableFrom_iff.2 ⟨List.getElem?_eq_getElem hj, hserves⟩, ?_⟩
  intro j' crtc' h'
  obtain ⟨hlisted, hserves'⟩ := feedableFrom_iff.1 h'
  by_contra hlt
  have hnot := hbefore j' (by omega)
  obtain ⟨_, rfl⟩ := List.getElem?_eq_some_iff.1 hlisted
  rw [List.getElem_zipIdx, Nat.zero_add] at hnot
  dsimp only at hnot
  rw [hserves'] at hnot
  contradiction

theorem not_feedableFrom_of_firstFree (h : source.firstFree crtcs claims = none) :
    ¬ source.FeedableFrom crtcs claims j crtc := by
  intro hfed
  obtain ⟨hlisted, hserves⟩ := feedableFrom_iff.1 hfed
  have hnone := List.find?_eq_none.1 (Option.map_eq_none_iff.1 h) (crtc, j)
    (List.mem_zipIdx_iff_getElem?.2 hlisted)
  exact hnone hserves

end EncoderInfo

@[simp]
theorem EncoderReading.journal_cons (r : EncoderReading) (readings : List EncoderReading) :
    journal (r :: readings) = journal readings ++ journal [r] := by
  simp [journal]

section Readings

variable {r : EncoderReading} {readings : List EncoderReading} {crtcs : List CrtcHandle}
  {claims : CrtcClaims} {i j : Nat} {encoder : EncoderHandle} {crtc : CrtcHandle}

theorem fits_zero_iff : Fits (r :: readings) crtcs claims 0 j encoder crtc ↔
    r.encoder = encoder ∧ ∃ source, r.answer = .ok source ∧
      source.FeedableFrom crtcs claims j crtc := by
  obtain ⟨e, answer⟩ := r
  simp only [Fits, List.getElem?_cons_zero, Option.some.injEq, EncoderReading.mk.injEq]
  grind

theorem fits_succ_iff : Fits (r :: readings) crtcs claims (i + 1) j encoder crtc ↔
    Fits readings crtcs claims i j encoder crtc := by
  simp only [Fits, List.getElem?_cons_succ]

/-- A fit of the first encoder is a first fit if no earlier CRTC can feed it. -/
theorem FirstFit.here (h : Fits (r :: readings) crtcs claims 0 j encoder crtc)
    (hfirst : ∀ j' encoder' crtc', Fits (r :: readings) crtcs claims 0 j' encoder' crtc' →
      j ≤ j') : FirstFit (r :: readings) crtcs claims 0 j encoder crtc := by
  refine ⟨h, fun i' j' encoder' crtc' h' => ?_⟩
  rw [Prod.Lex.toLex_le_toLex]
  cases i' with
  | zero => exact .inr ⟨rfl, hfirst _ _ _ h'⟩
  | succ i' => exact .inl (Nat.succ_pos i')

/-- Nothing changes for what follows an encoder that has no fit. -/
theorem FirstFit.behind (h : FirstFit readings crtcs claims i j encoder crtc)
    (hnone : ∀ j encoder crtc, ¬ Fits (r :: readings) crtcs claims 0 j encoder crtc) :
    FirstFit (r :: readings) crtcs claims (i + 1) j encoder crtc := by
  refine ⟨fits_succ_iff.2 h.fits, fun i' j' encoder' crtc' h' => ?_⟩
  cases i' with
  | zero => exact absurd h' (hnone _ _ _)
  | succ i' =>
    have hle := h.first i' j' encoder' crtc' (fits_succ_iff.1 h')
    rw [Prod.Lex.toLex_le_toLex] at hle ⊢
    simpa using hle

theorem Sought.behind {found : Option (EncoderHandle × CrtcHandle)} {taken : List EncoderReading}
    (h : Sought readings crtcs claims found taken)
    (hnone : ∀ j encoder crtc, ¬ Fits (r :: readings) crtcs claims 0 j encoder crtc) :
    Sought (r :: readings) crtcs claims found (r :: taken) := by
  cases h with
  | found h => exact .found (h.behind hnone)
  | missing h =>
    refine .missing fun i j encoder crtc h' => ?_
    cases i with
    | zero => exact hnone _ _ _ h'
    | succ i => exact h _ _ _ _ (fits_succ_iff.1 h')

end Readings

section Runs

variable {W : World}

/-- The search takes the readings up to the first fit; the induction is on the encoders still to be
asked. -/
theorem yields_firstFit_sought (crtcs : List CrtcHandle) (claims : CrtcClaims)
    (encoders : List EncoderHandle) (s : Session W) :
    Yields (firstFit crtcs claims encoders : SessionM W _) s fun found g _ =>
      ∃ taken, Sought (W.readings encoders s.world) crtcs claims found taken ∧
        g = EncoderReading.journal taken := by
  induction encoders generalizing s with
  | nil => exact .pure ⟨[], .missing (by simp [World.readings, Fits]), rfl⟩
  | cons encoder others ih =>
    have hcall : Yields (kernel (.encoder encoder) : SessionM W _) s fun a g s' =>
        (a, s'.world) = W.answer (.kernel (.encoder encoder)) s.world ∧
          g = EncoderReading.journal [⟨encoder, a⟩] := ⟨[_], rfl, rfl, rfl⟩
    refine hcall.bind ?_
    rintro answer _ s' ⟨hanswer, rfl⟩
    have hreadings : W.readings (encoder :: others) s.world =
        ⟨encoder, answer⟩ :: W.readings others s'.world := by
      rw [World.readings, ← hanswer]
    rw [hreadings]
    have hothers (hnone : ∀ j e c, ¬ Fits (⟨encoder, answer⟩ :: W.readings others s'.world) crtcs
        claims 0 j e c) : Yields (firstFit crtcs claims others : SessionM W _) s' fun found g _ =>
          ∃ taken, Sought (⟨encoder, answer⟩ :: W.readings others s'.world) crtcs claims found taken ∧
            g ++ EncoderReading.journal [⟨encoder, answer⟩] = EncoderReading.journal taken := by
      refine (ih s').mono ?_
      rintro found _ _ ⟨taken, hsought, rfl⟩
      exact ⟨_, hsought.behind hnone, (EncoderReading.journal_cons _ _).symm⟩
    cases answer with
    | error _ =>
      refine hothers fun j e c h => ?_
      obtain ⟨-, _, ⟨⟩, -⟩ := fits_zero_iff.1 h
    | ok source =>
      dsimp only
      cases hfree : source.firstFree crtcs claims with
      | none =>
        refine hothers fun j e c h => ?_
        obtain ⟨-, _, ⟨⟩, hfed⟩ := fits_zero_iff.1 h
        exact EncoderInfo.not_feedableFrom_of_firstFree hfree hfed
      | some crtc =>
        obtain ⟨j, hfed, hfirst⟩ := EncoderInfo.feedableFrom_of_firstFree hfree
        refine .pure ⟨_, .found (.here (fits_zero_iff.2 ⟨rfl, source, rfl, hfed⟩) ?_), rfl⟩
        intro j' e c h
        obtain ⟨-, _, ⟨⟩, hfed'⟩ := fits_zero_iff.1 h
        exact hfirst _ _ hfed'

/-- What an allocation comes to, with the claims after it and the entries of its journal. -/
inductive Allocated (connector : ConnectorHandle) (id : OutputId) (readings : List EncoderReading)
    (crtcs : List CrtcHandle) (claims : CrtcClaims) :
    Except AllocationError (EncoderHandle × CrtcHandle) → CrtcClaims → List JournalEntry → Prop where
  | assigned {i j encoder crtc} (h : FirstFit readings crtcs claims i j encoder crtc) :
      Allocated connector id readings crtcs claims (.ok (encoder, crtc)) (claims.claim crtc id).2
        (.claimed crtc id :: EncoderReading.journal (readings.take (i + 1)))
  | refused (h : ∀ i j encoder crtc, ¬ Fits readings crtcs claims i j encoder crtc) :
      Allocated connector id readings crtcs claims (.error (.noCrtcAvailable connector)) claims
        (EncoderReading.journal readings)

section Outcomes

variable {connector : ConnectorHandle} {id : OutputId} {readings : List EncoderReading}
  {crtcs : List CrtcHandle} {claims claims' : CrtcClaims} {g : List JournalEntry}

/-- It succeeds exactly if there is a fit. -/
theorem Allocated.isOk_iff {r : Except AllocationError (EncoderHandle × CrtcHandle)}
    (h : Allocated connector id readings crtcs claims r claims' g) :
    r.isOk = true ↔ ∃ i j encoder crtc, Fits readings crtcs claims i j encoder crtc := by
  cases h with
  | @assigned i j encoder crtc h => exact ⟨fun _ => ⟨i, j, encoder, crtc, h.fits⟩, fun _ => rfl⟩
  | refused h =>
    refine ⟨nofun, ?_⟩
    rintro ⟨i, j, encoder, crtc, hfit⟩
    exact absurd hfit (h i j encoder crtc)

theorem Allocated.firstFit {encoder : EncoderHandle} {crtc : CrtcHandle}
    (h : Allocated connector id readings crtcs claims (.ok (encoder, crtc)) claims' g) :
    ∃ i j, FirstFit readings crtcs claims i j encoder crtc ∧
      claims' = (claims.claim crtc id).2 ∧
        g = .claimed crtc id :: EncoderReading.journal (readings.take (i + 1)) := by
  cases h with
  | assigned h => exact ⟨_, _, h, rfl, rfl⟩

end Outcomes

theorem yields_allocateCrtc (connector : ConnectorInfo) (crtcs : List CrtcHandle) (id : OutputId)
    (claims : CrtcClaims) (s : Session W) :
    Yields (allocateCrtc connector crtcs id claims : SessionM W _) s fun r g _ =>
      Allocated connector.handle id (W.readings connector.encoders s.world) crtcs claims r.1 r.2
        g := by
  refine (yields_firstFit_sought crtcs claims connector.encoders s).bind ?_
  rintro _ _ s' ⟨_, h | h, rfl⟩
  · exact ⟨[_], rfl, .assigned h⟩
  · exact .pure (.refused h)

/-- A CRTC is assigned if and only if there is a fit, and it is the one of the first fit, by the place of
the encoder and then by its own. It is claimed and no other claim changes, and the encoders behind are not
asked. Without a fit all encoders were asked, nothing is claimed, and the error names the connector. -/
theorem allocateCrtc_first_fit (connector : ConnectorInfo) (crtcs : List CrtcHandle) (id : OutputId)
    (claims : CrtcClaims) (s : Session W) :
    let readings := W.readings connector.encoders s.world
    Yields (allocateCrtc connector crtcs id claims : SessionM W _) s fun (r, claims') g _ =>
      (r.isOk = true ↔ ∃ i j encoder crtc, Fits readings crtcs claims i j encoder crtc) ∧
        (∀ encoder crtc, r = .ok (encoder, crtc) → ∃ i j,
          FirstFit readings crtcs claims i j encoder crtc ∧
            (∀ c, claims'.owner c = if c = crtc then some id else claims.owner c) ∧
            g = .claimed crtc id :: EncoderReading.journal (readings.take (i + 1))) ∧
        ∀ cause, r = .error cause → cause = .noCrtcAvailable connector.handle ∧ claims' = claims ∧
          g = EncoderReading.journal readings := by
  intro readings
  refine (yields_allocateCrtc connector crtcs id claims s).mono ?_
  rintro ⟨r, claims'⟩ g _ h
  refine ⟨h.isOk_iff, ?_, ?_⟩
  · rintro encoder crtc rfl
    obtain ⟨i, j, hfirst, rfl, rfl⟩ := h.firstFit
    obtain ⟨source, -, hfed⟩ := hfirst.fits
    exact ⟨i, j, hfirst, claims.owner_claim id hfed.free, rfl⟩
  · rintro cause rfl
    cases h
    exact ⟨rfl, rfl, rfl⟩

end Runs
end Scanout
