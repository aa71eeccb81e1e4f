import Mathlib.Data.List.Nodup
import Mathlib.Data.Nat.Bitwise
import Scanout.SimulatedCard
import Scanout.SimulatedDevice
import Scanout.Proofs.FirstFit

/-!
# The masks of a card's encoders

A card makes the mask of an encoder anew: it lists the CRTCs whose bit the kernel's mask has and sets the
bits of the places whose CRTC is in the list. On a list of at most 32 CRTCs, each listed once, the mask
made anew has the bits of the kernel's mask that stand for a CRTC and no others. So the CRTC that is
assigned on a card is the first free one by the masks of the kernel itself.
-/

namespace Scanout

section Masks

variable {mask : UInt32} {crtcs : List UInt32} {i k : Nat}

theorem toNat_maskBit (hi : i < 32) : (maskBit i).toNat = 2 ^ i := by
  have hlt : 2 ^ i < 2 ^ 32 := Nat.pow_lt_pow_right (by decide) hi
  rw [maskBit, UInt32.toNat_shiftLeft, UInt32.toNat_ofNat_of_lt' (Nat.lt_of_lt_of_le hi (by decide)),
    Nat.mod_eq_of_lt hi, Nat.shiftLeft_eq, UInt32.toNat_one, Nat.one_mul, Nat.mod_eq_of_lt hlt]

theorem testBit_or_maskBit (hi : i < 32) :
    (mask ||| maskBit i).toNat.testBit k = (mask.toNat.testBit k || decide (i = k)) := by
  rw [UInt32.toNat_or, Nat.testBit_or, toNat_maskBit hi, Nat.testBit_two_pow]

theorem and_maskBit_ne_zero_iff (hi : i < 32) :
    mask &&& maskBit i ≠ 0 ↔ mask.toNat.testBit i = true := by
  rw [Ne, ← UInt32.toNat_inj, UInt32.toNat_and, toNat_maskBit hi, Nat.and_two_pow]
  cases mask.toNat.testBit i <;> simp

/-- Setting bits one after the other sets these and leaves the others. -/
theorem testBit_foldl_maskBit {α : Type} (l : List (α × Nat)) (hl : ∀ p ∈ l, p.2 < 32)
    (mask : UInt32) : (l.foldl (fun m p => m ||| maskBit p.2) mask).toNat.testBit k = true ↔
      mask.toNat.testBit k = true ∨ ∃ p ∈ l, p.2 = k := by
  induction l generalizing mask with
  | nil => simp
  | cons p l ih =>
    rw [List.foldl_cons, ih fun q hq => hl q (List.mem_cons_of_mem _ hq),
      testBit_or_maskBit (hl p List.mem_cons_self), Bool.or_eq_true, decide_eq_true_iff, or_assoc]
    simp only [List.mem_cons, exists_eq_or_imp]

/-- A CRTC that is listed once is selected if the mask has the bit of its place. -/
theorem getElem_mem_selectedBy (hnodup : crtcs.Nodup) (hlength : crtcs.length ≤ 32)
    (hi : i < crtcs.length) : crtcs[i] ∈ selectedBy mask crtcs ↔ mask.toNat.testBit i = true := by
  rw [← and_maskBit_ne_zero_iff (by omega)]
  simp only [selectedBy, List.mem_map, List.mem_filter, Prod.exists, decide_eq_true_iff,
    List.mem_zipIdx_iff_getElem?]
  constructor
  · rintro ⟨c, j, ⟨hj, hbit⟩, rfl⟩
    obtain ⟨hj', heq⟩ := List.getElem?_eq_some_iff.1 hj
    rwa [← (List.Nodup.getElem_inj_iff hnodup).1 heq]
  · intro hbit
    exact ⟨crtcs[i], i, ⟨List.getElem?_eq_getElem hi, hbit⟩, rfl⟩

/-- The mask that is made anew has the bits of the given one that stand for a CRTC. -/
theorem testBit_rebuiltMask (hnodup : crtcs.Nodup) (hlength : crtcs.length ≤ 32) :
    (rebuiltMask mask crtcs).toNat.testBit i = true ↔
      i < crtcs.length ∧ mask.toNat.testBit i = true := by
  unfold rebuiltMask
  rw [testBit_foldl_maskBit]
  · simp only [UInt32.toNat_zero, Nat.zero_testBit, Bool.false_eq_true, false_or, List.mem_filter,
      Prod.exists, decide_eq_true_iff, List.mem_zipIdx_iff_getElem?]
    constructor
    · rintro ⟨c, j, ⟨hplace, hmem⟩, rfl⟩
      obtain ⟨hj, rfl⟩ := List.getElem?_eq_some_iff.1 hplace
      exact ⟨hj, (getElem_mem_selectedBy hnodup hlength hj).1 hmem⟩
    · rintro ⟨hi, hbit⟩
      exact ⟨crtcs[i], i, ⟨List.getElem?_eq_getElem hi,
        (getElem_mem_selectedBy hnodup hlength hi).2 hbit⟩, rfl⟩
  · rintro ⟨c, j⟩ hmem
    obtain ⟨hj, -⟩ := List.getElem?_eq_some_iff.1
      (List.mem_zipIdx_iff_getElem?.1 (List.mem_filter.1 hmem).1)
    dsimp only at hj ⊢
    omega

end Masks

/-- Asked for an encoder and then for its resources, a card node gives the kernel's mask of the encoder
and the list of the device's CRTCs. -/
structure CardNode.Tells (N : CardNode) (n : N.State) (encoder : EncoderHandle) (mask : UInt32)
    (crtcs : List CrtcHandle) : Prop where
  valid : encoder.id ≠ 0
  told : ∃ raw n' resources, N.answer (.encoder encoder.id) n = (.ok raw, n') ∧
    (N.answer .resources n').1 = .ok resources ∧ raw.possibleCrtcs = mask ∧
      resources.crtcs = crtcs.map (·.id)

/-- By the kernel's mask the encoder can be fed from the CRTC at place `j` of the device's list. -/
def CardNode.Allows (N : CardNode) (n : N.State) (encoder : EncoderHandle) (crtcs : List CrtcHandle)
    (j : Nat) (crtc : CrtcHandle) : Prop :=
  ∃ mask, N.Tells n encoder mask crtcs ∧ mask.toNat.testBit j = true ∧ crtcs[j]? = some crtc

/-- A world whose kernel is reached through a card node. -/
def World.onCard (W : World) (N : CardNode) : World where
  State := N.State × W.State
  answer
    | .kernel request, (n, w) => ((Card.answer request n).1, (Card.answer request n).2, w)
    | .gpu operation, (n, w) => ((W.answer (.gpu operation) w).1, n, (W.answer (.gpu operation) w).2)
    | .clock, (n, w) => ((W.answer .clock w).1, n, (W.answer .clock w).2)
  patience := W.patience

/-- By the kernel's mask of the encoder at place `i`, asked for after those before it, the encoder can be
fed from the CRTC at place `j`, and nobody owns the CRTC. -/
structure KernelFits (W : World) (N : CardNode) (s : (W.onCard N).State)
    (encoders : List EncoderHandle) (crtcs : List CrtcHandle) (claims : CrtcClaims) (i j : Nat)
    (encoder : EncoderHandle) (crtc : CrtcHandle) : Prop where
  listed : encoders[i]? = some encoder
  allowed : N.Allows ((W.onCard N).asked (encoders.take i) s).1 encoder crtcs j crtc
  free : claims.owner crtc = none

/-- Whenever an encoder is told of, asked for in its turn, the list of CRTCs is this one. -/
def ToldWith (W : World) (N : CardNode) (s : (W.onCard N).State) (encoders : List EncoderHandle)
    (crtcs : List CrtcHandle) : Prop :=
  ∀ i encoder mask listed, encoders[i]? = some encoder →
    N.Tells ((W.onCard N).asked (encoders.take i) s).1 encoder mask listed → listed = crtcs

namespace Card

variable {N : CardNode} {n : N.State} {encoder : EncoderHandle} {info : EncoderInfo} {mask : UInt32}
  {crtcs : List CrtcHandle}

theorem run_requireHandle_bind {α : Type} (id : UInt32) (f : UInt32 → CardM N α) (n : N.State) :
    (requireHandle id >>= f).run n = if id = 0 then (.error nullHandle, n) else (f id).run n := by
  unfold requireHandle
  split <;> rfl

theorem run_ask_bind {α β : Type} (answer : N.State → Except SystemError α × N.State)
    (f : α → CardM N β) (n : N.State) : (ask answer >>= f).run n =
      match answer n with
      | (.ok a, n') => (f a).run n'
      | (.error e, n') => (.error e, n') := by
  change (match answer n with | (a, n') => ExceptT.bindCont f a n') = _
  rcases answer n with ⟨_ | _, n'⟩ <;> rfl

/-- A null handle is refused; otherwise both requests are made unless the first one fails. -/
theorem answer_encoder (encoder : EncoderHandle) (n : N.State) :
    Card.answer (.encoder encoder) n =
      if encoder.id = 0 then (.error nullHandle, n)
      else match N.answer (.encoder encoder.id) n with
        | (.error e, n') => (.error e, n')
        | (.ok raw, n') => match N.answer .resources n' with
          | (.error e, n'') => (.error e, n'')
          | (.ok resources, n'') => (.ok ⟨encoder, (handle? raw.crtc).map (⟨·⟩),
              rebuiltMask raw.possibleCrtcs resources.crtcs⟩, n'') := by
  change (Card.encoder encoder).run n = _
  rw [Card.encoder, run_requireHandle_bind]
  split
  · rfl
  · rw [run_ask_bind]
    rcases N.answer (.encoder encoder.id) n with ⟨_ | raw, n'⟩
    · rfl
    · dsimp only
      rw [rawResources, run_ask_bind]
      rcases N.answer .resources n' with ⟨_ | resources, n''⟩ <;> rfl

/-- What is told about an encoder is passed on, with a mask that is made anew. -/
theorem answer_of_tells (h : N.Tells n encoder mask crtcs) : ∃ info,
    (Card.answer (.encoder encoder) n).1 = .ok info ∧ info.handle = encoder ∧
      info.possibleCrtcs = rebuiltMask mask (crtcs.map (·.id)) := by
  obtain ⟨raw, n', resources, hraw, hresources, rfl, hcrtcs⟩ := h.told
  rw [answer_encoder, if_neg h.valid, hraw]
  dsimp only
  revert hresources
  rcases N.answer .resources n' with ⟨_ | _, n''⟩
  · rintro ⟨⟩
  · rintro ⟨⟩
    exact ⟨_, rfl, rfl, by rw [hcrtcs]⟩

/-- What is passed on about an encoder was told. -/
theorem tells_of_answer (h : (Card.answer (.encoder encoder) n).1 = .ok info) :
    ∃ mask crtcs, N.Tells n encoder mask crtcs := by
  rw [answer_encoder] at h
  split at h
  · contradiction
  · rename_i hvalid
    split at h
    · contradiction
    · rename_i raw n' hraw
      split at h
      · contradiction
      · rename_i resources n'' hresources
        refine ⟨raw.possibleCrtcs, resources.crtcs.map (⟨·⟩), hvalid, raw, n', resources, hraw, ?_,
          rfl, ?_⟩
        · rw [hresources]
        · rw [List.map_map]
          exact (List.map_id _).symm

end Card

/-- On a list of at most 32 CRTCs that names each once, an encoder supports the places that the kernel's
mask allows and that hold a CRTC. -/
theorem CardNode.Tells.supports_iff {N : CardNode} {n : N.State} {encoder : EncoderHandle}
    {mask : UInt32} {crtcs : List CrtcHandle} {info : EncoderInfo} {i : Nat}
    (hnodup : crtcs.Nodup) (hlength : crtcs.length ≤ 32) (h : N.Tells n encoder mask crtcs)
    (hinfo : (Card.answer (.encoder encoder) n).1 = .ok info) :
    info.supportsCrtcIndex i = true ↔ i < crtcs.length ∧ mask.toNat.testBit i = true := by
  obtain ⟨info', hinfo', -, hmask⟩ := Card.answer_of_tells h
  obtain rfl := Except.ok.inj (hinfo.symm.trans hinfo')
  have hids : (crtcs.map (·.id)).Nodup := hnodup.map fun c c' heq => by
    cases c
    exact congrArg CrtcHandle.mk heq
  rw [EncoderInfo.supportsCrtcIndex, hmask, Bool.and_eq_true, decide_eq_true_iff,
    testBit_rebuiltMask hids (by simpa using hlength), List.length_map]
  constructor
  · exact fun h => h.2
  · exact fun h => ⟨by omega, h⟩

section Allocation

variable {W : World} {N : CardNode} {s : (W.onCard N).State} {encoders : List EncoderHandle}
  {crtcs : List CrtcHandle} {claims : CrtcClaims} {i j : Nat} {encoder : EncoderHandle}
  {crtc : CrtcHandle}

/-- The masks made anew and those of the kernel allow the same CRTCs. -/
theorem fits_iff_kernelFits (hnodup : crtcs.Nodup) (hlength : crtcs.length ≤ 32)
    (hlist : ToldWith W N s encoders crtcs) :
    Fits ((W.onCard N).readings encoders s) crtcs claims i j encoder crtc ↔
      KernelFits W N s encoders crtcs claims i j encoder crtc := by
  simp only [Fits, World.getElem?_readings, Option.map_eq_some_iff, EncoderReading.mk.injEq]
  constructor
  · rintro ⟨source, ⟨_, hencoder, rfl, hsource⟩, hfed⟩
    obtain ⟨mask, listed, htells⟩ := Card.tells_of_answer hsource
    obtain rfl := hlist i _ mask listed hencoder htells
    have hallowed := (htells.supports_iff hnodup hlength hsource).1 hfed.supports
    exact ⟨hencoder, ⟨mask, htells, hallowed.2, hfed.listed⟩, hfed.free⟩
  · rintro ⟨hencoder, ⟨mask, htells, hbit, hlisted⟩, hfree⟩
    obtain ⟨source, hsource, -⟩ := Card.answer_of_tells htells
    have hj := (List.getElem?_eq_some_iff.1 hlisted).1
    have hsupports := (htells.supports_iff hnodup hlength hsource).2 ⟨hj, hbit⟩
    rw [EncoderInfo.supportsCrtcIndex, Bool.and_eq_true, decide_eq_true_iff] at hsupports
    exact ⟨source, ⟨encoder, hencoder, rfl, hsource⟩, hlisted, hsupports.1, hsupports.2, hfree⟩

end Allocation

/-- Let the device list at most 32 CRTCs and each once. Then what a card answers about an encoder was told
by its node, it does answer what it is told, and the encoder supports exactly the places that the mask of
the kernel allows and that hold a CRTC. A CRTC is assigned if and only if some encoder can be fed from a
free one by the masks of the kernel, and it is the first of these. -/
theorem masks_agree_with_kernel {N : CardNode} {crtcs : List CrtcHandle} (hnodup : crtcs.Nodup)
    (hlength : crtcs.length ≤ 32) :
    (∀ n encoder info, (Card.answer (N := N) (.encoder encoder) n).1 = .ok info →
        ∃ mask listed, N.Tells n encoder mask listed) ∧
      (∀ n encoder mask, N.Tells n encoder mask crtcs → ∃ info,
        (Card.answer (.encoder encoder) n).1 = .ok info ∧
          ∀ i, info.supportsCrtcIndex i = true ↔ i < crtcs.length ∧ mask.toNat.testBit i = true) ∧
      ∀ (W : World) (connector : ConnectorInfo) (id : OutputId) (claims : CrtcClaims)
        (s : Session (W.onCard N)), ToldWith W N s.world connector.encoders crtcs →
          let fits := KernelFits W N s.world connector.encoders crtcs claims
          Yields (allocateCrtc connector crtcs id claims : SessionM (W.onCard N) _) s fun (r, _) _ _ =>
            (r.isOk = true ↔ ∃ i j encoder crtc, fits i j encoder crtc) ∧
              ∀ encoder crtc, r = .ok (encoder, crtc) → ∃ i j, fits i j encoder crtc ∧
                ∀ i' j' encoder' crtc', fits i' j' encoder' crtc' →
                  toLex (i, j) ≤ toLex (i', j') := by
  refine ⟨fun n encoder info => Card.tells_of_answer, fun n encoder mask htells => ?_, ?_⟩
  · obtain ⟨info, hinfo, -⟩ := Card.answer_of_tells htells
    exact ⟨info, hinfo, fun i => htells.supports_iff hnodup hlength hinfo⟩
  · intro W connector id claims s hlist fits
    have hfits (i j encoder crtc) : Fits ((W.onCard N).readings connector.encoders s.world) crtcs
        claims i j encoder crtc ↔ fits i j encoder crtc := fits_iff_kernelFits hnodup hlength hlist
    refine (yields_allocateCrtc connector crtcs id claims s).mono ?_
    rintro ⟨r, claims'⟩ g _ h
    refine ⟨h.isOk_iff.trans (by simp only [hfits]), ?_⟩
    rintro encoder crtc rfl
    obtain ⟨i, j, hfirst, -, -⟩ := h.firstFit
    exact ⟨i, j, (hfits i j encoder crtc).1 hfirst.fits,
      fun _ _ _ _ h' => hfirst.first _ _ _ _ ((hfits _ _ _ _).2 h')⟩

/-- A card without faults tells of the CRTCs that it has. -/
theorem SimulatedCard.listed_of_tells {d : SimulatedCard} {encoder : EncoderHandle} {mask : UInt32}
    {listed : List CrtcHandle} (hfaults : d.faults = []) (h : node.Tells d encoder mask listed) :
    listed = d.crtcs.map (⟨·.id⟩) := by
  obtain ⟨raw, d', resources, hraw, hresources, -, hlisted⟩ := h.told
  obtain rfl : d.reach (.encoder encoder.id) = d' := by
    simpa [node, answer, takeFault, hfaults, serve] using congrArg Prod.snd hraw
  have hcrtcs : d.crtcs.map (·.id) = resources.crtcs := by
    simpa [node, answer, takeFault, reach, hfaults, serve, Except.toOption] using
      congrArg (fun a => a.toOption.map (·.crtcs)) hresources
  simpa [Function.comp_def] using congrArg (List.map CrtcHandle.mk) (hlisted.symm.trans hcrtcs.symm)

/-- A card with three CRTCs. The first encoder has a bit that stands for none of them. -/
def threeCrtcs : SimulatedCard :=
  { SimulatedCard.empty with
    encoders := [⟨20, 0, 0b1001⟩, ⟨21, 0, 0b110⟩]
    crtcs := [⟨30, 0, 0, 0, none⟩, ⟨31, 0, 0, 0, none⟩, ⟨32, 0, 0, 0, none⟩] }

/-- The first two CRTCs belong to others, so that the last one is assigned, to the second encoder by the mask
of the kernel. -/
theorem masks_agree_on_three_crtcs :
    let W := SimulatedDevice.world
    let N := SimulatedCard.node
    let crtcs : List CrtcHandle := [⟨30⟩, ⟨31⟩, ⟨32⟩]
    let connector : ConnectorInfo := { (default : ConnectorInfo) with encoders := [⟨20⟩, ⟨21⟩] }
    let claims := ((CrtcClaims.empty.claim ⟨30⟩ ⟨0⟩).2.claim ⟨31⟩ ⟨1⟩).2
    let s : Session (W.onCard N) := ⟨(threeCrtcs, (default : SimulatedDevice)), []⟩
    crtcs.Nodup ∧ crtcs.length ≤ 32 ∧ ToldWith W N s.world connector.encoders crtcs ∧
      (∃ info, (Card.answer (N := N) (.encoder ⟨20⟩) threeCrtcs).1 = .ok info ∧
        ∀ i, info.supportsCrtcIndex i = true ↔ i < 3 ∧ Nat.testBit 0b1001 i = true) ∧
      ∃ i j, KernelFits W N s.world connector.encoders crtcs claims i j ⟨21⟩ ⟨32⟩ := by
  intro W N crtcs connector claims s
  have hnodup : crtcs.Nodup := by decide
  have hlength : crtcs.length ≤ 32 := by decide
  have hlist : ToldWith W N s.world connector.encoders crtcs := by
    intro i encoder mask listed hi htells
    match i with
    | 0 => exact SimulatedCard.listed_of_tells rfl htells
    | 1 => exact SimulatedCard.listed_of_tells rfl htells
    | _ + 2 => cases hi
  have hassigned : ((allocateCrtc connector crtcs ⟨2⟩ claims : SessionM (W.onCard N) _).run s).1.1 =
      .ok (⟨21⟩, ⟨32⟩) := by decide +kernel
  obtain ⟨-, hmasks, hallocated⟩ := masks_agree_with_kernel (N := N) hnodup hlength
  refine ⟨hnodup, hlength, hlist, hmasks threeCrtcs ⟨20⟩ 0b1001 ⟨by decide, ?_⟩, ?_⟩
  · exact ⟨⟨20, 0, 0b1001⟩, _, ⟨[], [30, 31, 32]⟩, rfl, rfl, rfl, rfl⟩
  · obtain ⟨_, _, -, hfirst⟩ := hallocated W connector ⟨2⟩ claims s hlist
    obtain ⟨i, j, hfits, -⟩ := hfirst ⟨21⟩ ⟨32⟩ hassigned
    exact ⟨i, j, hfits⟩

end Scanout
