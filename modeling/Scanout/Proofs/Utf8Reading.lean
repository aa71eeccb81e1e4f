import Scanout.Utf8Text

/-!
# Bytes are read as the text they were written for

A character beyond ASCII is a leading byte and continuation bytes. `Announces` says that the leading byte
tells how many bytes follow and admits the first of them, so all of them are taken and add up to the
code point; if they end too soon, what there is of them is one bad character. Hence a text is read back
from its bytes, and one whose bytes were cut is read up to the character that was cut.
-/

namespace Scanout
namespace Utf8

variable {b next : UInt8} {c : Char} {v n : Nat} {others rest : List UInt8} {s : List Char}

/-- The continuation byte with the last six bits of a number. -/
def trail (v : Nat) : UInt8 := UInt8.ofNat (v % 64 + 128)

theorem toNat_ofNat (h : n < 256) : (UInt8.ofNat n).toNat = n := UInt8.toNat_ofNat_of_lt' h

@[simp]
theorem toNat_trail (v : Nat) : (trail v).toNat = v % 64 + 128 := toNat_ofNat (by omega)

theorem isContinuation_trail (v : Nat) : isContinuation (trail v) = true := by
  simp only [isContinuation, Bool.and_eq_true, decide_eq_true_iff, UInt8.le_iff_toNat_le,
    toNat_trail, UInt8.reduceToNat]
  omega

/-- The code point that continuation bytes make of the bits before them. -/
def extended (code : Nat) (bytes : List UInt8) : Nat :=
  bytes.foldl (fun code b => code * 64 + (b.toNat - 0x80)) code

/-- A leading byte announces so many bytes and has these bits of the code point, and it admits the
byte that comes next. -/
structure Announces (b : UInt8) (following bits : Nat) (next : UInt8) : Prop where
  high : ¬ b < 0x80
  lead : ∃ lead, Lead.of? b = some lead ∧ lead.following = following ∧ lead.bits = bits ∧
    lead.low ≤ next ∧ next ≤ lead.high

theorem Announces.of_lead {lead : Lead} (hb : 0x80 ≤ b.toNat) (hlead : Lead.of? b = some lead)
    (hlow : lead.low.toNat ≤ next.toNat) (hhigh : next.toNat ≤ lead.high.toNat) :
    Announces b lead.following lead.bits next := by
  constructor
  · rw [UInt8.not_lt, UInt8.le_iff_toNat_le]
    exact hb
  · exact ⟨lead, hlead, rfl, rfl, UInt8.le_iff_toNat_le.2 hlow, UInt8.le_iff_toNat_le.2 hhigh⟩

theorem Lead.of?_two (h : 0xC2 ≤ b.toNat ∧ b.toNat ≤ 0xDF) :
    Lead.of? b = some ⟨1, b.toNat - 0xC0, 0x80, 0xBF⟩ := by
  simp [Lead.of?, UInt8.le_iff_toNat_le, h]

/-- No shorter form is read for a longer one, and no surrogate. -/
theorem Lead.of?_three (h : 0xE0 ≤ b.toNat ∧ b.toNat ≤ 0xEF) :
    Lead.of? b = some ⟨2, b.toNat - 0xE0, if b.toNat = 0xE0 then 0xA0 else 0x80,
      if b.toNat = 0xED then 0x9F else 0xBF⟩ := by
  by_cases hfirst : b = 0xE0
  · subst hfirst
    rfl
  by_cases hsurrogates : b = 0xED
  · subst hsurrogates
    rfl
  have hfirst' : b.toNat ≠ 0xE0 := fun heq => hfirst (UInt8.toNat_inj.1 heq)
  have hsurrogates' : b.toNat ≠ 0xED := fun heq => hsurrogates (UInt8.toNat_inj.1 heq)
  have hthree : ¬ b.toNat ≤ 0xDF ∧ 0xE1 ≤ b.toNat := by omega
  simp [Lead.of?, UInt8.le_iff_toNat_le, hfirst, hsurrogates, hfirst', hsurrogates', hthree, h]

/-- No shorter form is read for a longer one, and nothing beyond the last code point. -/
theorem Lead.of?_four (h : 0xF0 ≤ b.toNat ∧ b.toNat ≤ 0xF4) :
    Lead.of? b = some ⟨3, b.toNat - 0xF0, if b.toNat = 0xF0 then 0x90 else 0x80,
      if b.toNat = 0xF4 then 0x8F else 0xBF⟩ := by
  by_cases hfirst : b = 0xF0
  · subst hfirst
    rfl
  by_cases hlast : b = 0xF4
  · subst hlast
    rfl
  have hfirst' : b.toNat ≠ 0xF0 := fun heq => hfirst (UInt8.toNat_inj.1 heq)
  have hlast' : b.toNat ≠ 0xF4 := fun heq => hlast (UInt8.toNat_inj.1 heq)
  have hfour : ¬ b.toNat ≤ 0xDF ∧ ¬ b.toNat ≤ 0xEF ∧ 0xF1 ≤ b.toNat ∧ b.toNat ≤ 0xF3 := by omega
  have hthree : b ≠ 0xE0 ∧ b ≠ 0xED := by
    constructor <;> (rintro rfl; simp at hfour)
  simp [Lead.of?, UInt8.le_iff_toNat_le, hfirst, hfirst', hlast', hthree, hfour]

theorem announces_two (hb : b.toNat = v / 64 + 0xC0) (hv : 0x80 ≤ v ∧ v ≤ 0x7FF) :
    Announces b 1 (v / 64) (trail v) := by
  have hlead := Lead.of?_two (b := b) (by omega)
  rw [hb, Nat.add_sub_cancel] at hlead
  refine .of_lead (by omega) hlead ?_ ?_
  all_goals
    simp only [toNat_trail, UInt8.reduceToNat]
    omega

theorem announces_three (hb : b.toNat = v / 4096 + 0xE0) (hv : 0x800 ≤ v ∧ v ≤ 0xFFFF)
    (hsurrogate : v < 0xD800 ∨ 0xDFFF < v) : Announces b 2 (v / 4096) (trail (v / 64)) := by
  have hlead := Lead.of?_three (b := b) (by omega)
  rw [hb, Nat.add_sub_cancel] at hlead
  refine .of_lead (by omega) hlead ?_ ?_
  all_goals
    dsimp only
    split
    all_goals
      simp only [toNat_trail, UInt8.reduceToNat]
      omega

theorem announces_four (hb : b.toNat = v / 262144 + 0xF0) (hv : 0x10000 ≤ v ∧ v ≤ 0x10FFFF) :
    Announces b 3 (v / 262144) (trail (v / 4096)) := by
  have hlead := Lead.of?_four (b := b) (by omega)
  rw [hb, Nat.add_sub_cancel] at hlead
  refine .of_lead (by omega) hlead ?_ ?_
  all_goals
    dsimp only
    split
    all_goals
      simp only [toNat_trail, UInt8.reduceToNat]
      omega

/-- The bytes of a character beyond ASCII, the leading one in front. -/
structure Spelled (c : Char) (b next : UInt8) (others : List UInt8) : Prop where
  announced : ∃ bits, Announces b (others.length + 1) bits next ∧
    extended (bits * 64 + (next.toNat - 0x80)) others = c.toNat
  continued : ∀ x ∈ others, isContinuation x = true

theorem utf8EncodeChar_eq (c : Char) : String.utf8EncodeChar c =
    if c.toNat ≤ 0x7F then [UInt8.ofNat c.toNat]
    else if c.toNat ≤ 0x7FF then [UInt8.ofNat (c.toNat / 64 % 32 + 0xC0), trail c.toNat]
    else if c.toNat ≤ 0xFFFF then
      [UInt8.ofNat (c.toNat / 4096 % 16 + 0xE0), trail (c.toNat / 64), trail c.toNat]
    else [UInt8.ofNat (c.toNat / 262144 % 8 + 0xF0), trail (c.toNat / 4096),
      trail (c.toNat / 64), trail c.toNat] := rfl

theorem exists_spelled (h : 0x80 ≤ c.toNat) :
    ∃ b next others, String.utf8EncodeChar c = b :: next :: others ∧ Spelled c b next others := by
  have hvalid : c.toNat < 0xD800 ∨ 0xDFFF < c.toNat ∧ c.toNat < 0x110000 := c.valid
  rw [utf8EncodeChar_eq, if_neg (by omega)]
  split
  · refine ⟨_, _, _, rfl, ⟨_, announces_two (v := c.toNat) ?_ (by omega), ?_⟩, by simp⟩
    · rw [toNat_ofNat (by omega)]
      omega
    · simp only [extended, List.foldl_nil, toNat_trail]
      omega
  · split
    · refine ⟨_, _, _, rfl, ⟨_, announces_three (v := c.toNat) ?_ (by omega) (by omega), ?_⟩,
        by simp [isContinuation_trail]⟩
      · rw [toNat_ofNat (by omega)]
        omega
      · simp only [extended, List.foldl_cons, List.foldl_nil, toNat_trail]
        omega
    · refine ⟨_, _, _, rfl, ⟨_, announces_four (v := c.toNat) ?_ (by omega), ?_⟩,
        by simp [isContinuation_trail]⟩
      · rw [toNat_ofNat (by omega)]
        omega
      · simp only [extended, List.foldl_cons, List.foldl_nil, toNat_trail]
        omega

theorem takeContinuations_append (h : ∀ x ∈ others, isContinuation x = true) (code : Nat)
    (rest : List UInt8) : takeContinuations others.length code (others ++ rest) =
      (some (Char.ofNat (extended code others)), rest) := by
  induction others generalizing code with
  | nil => rfl
  | cons x others ih =>
    rw [List.length_cons, List.cons_append, takeContinuations, if_pos (h x List.mem_cons_self),
      ih fun y hy => h y (List.mem_cons_of_mem _ hy), extended, extended, List.foldl_cons]

/-- Continuation bytes that end too soon are one bad character. -/
theorem takeContinuations_cut (h : ∀ x ∈ others, isContinuation x = true)
    (hshort : others.length < n) (code : Nat) : takeContinuations n code others = (none, []) := by
  induction others generalizing n code with
  | nil =>
    cases n with
    | zero => exact absurd hshort (Nat.not_lt_zero _)
    | succ n => rw [takeContinuations]
  | cons x others ih =>
    cases n with
    | zero => exact absurd hshort (Nat.not_lt_zero _)
    | succ n =>
      rw [takeContinuations, if_pos (h x List.mem_cons_self)]
      exact ih (fun y hy => h y (List.mem_cons_of_mem _ hy)) (Nat.lt_of_succ_lt_succ hshort) _

theorem Announces.decodeFirst_cons {following bits : Nat} (h : Announces b following bits next)
    (bytes : List UInt8) : decodeFirst b (next :: bytes) =
      takeContinuations (following - 1) (bits * 64 + (next.toNat - 0x80)) bytes := by
  obtain ⟨lead, hlead, rfl, rfl, hlow, hhigh⟩ := h.lead
  simp only [decodeFirst, if_neg h.high, hlead, takeAnnounced, hlow, hhigh, decide_true,
    Bool.and_self, if_true]

theorem Announces.decodeFirst_nil {following bits : Nat} (h : Announces b following bits next) :
    decodeFirst b [] = (none, []) := by
  obtain ⟨lead, hlead, -⟩ := h.lead
  simp only [decodeFirst, if_neg h.high, hlead, takeAnnounced]

theorem Spelled.decode_append (h : Spelled c b next others) (rest : List UInt8) :
    decode (b :: next :: others ++ rest) = some c :: decode rest := by
  obtain ⟨bits, hannounced, hcode⟩ := h.announced
  rw [List.cons_append, List.cons_append, decode_cons, hannounced.decodeFirst_cons,
    Nat.add_sub_cancel, takeContinuations_append h.continued, hcode, Char.ofNat_toNat]

theorem Spelled.decode_cut (h : Spelled c b next others) (hn : n < others.length + 1) :
    decode (b :: (next :: others).take n) = [none] := by
  obtain ⟨bits, hannounced, -⟩ := h.announced
  rw [decode_cons]
  cases n with
  | zero => rw [List.take_zero, hannounced.decodeFirst_nil, decode_nil]
  | succ n =>
    rw [List.take_succ_cons, hannounced.decodeFirst_cons, takeContinuations_cut, decode_nil]
    · exact fun x hx => h.continued x (List.mem_of_mem_take hx)
    · rw [List.length_take]
      omega

theorem utf8EncodeChar_of_ascii (h : c.toNat < 0x80) :
    String.utf8EncodeChar c = [UInt8.ofNat c.toNat] := by
  rw [utf8EncodeChar_eq, if_pos (by omega)]

theorem decode_ascii_cons (h : c.toNat < 0x80) (rest : List UInt8) :
    decode (UInt8.ofNat c.toNat :: rest) = some c :: decode rest := by
  have hlow : UInt8.ofNat c.toNat < 0x80 := by
    rw [UInt8.lt_iff_toNat_lt, toNat_ofNat (by omega)]
    exact h
  rw [decode_cons, decodeFirst, if_pos hlow, toNat_ofNat (by omega), Char.ofNat_toNat]

/-- A character is read back from its bytes, whatever follows. -/
theorem decode_utf8EncodeChar_append (c : Char) (rest : List UInt8) :
    decode (String.utf8EncodeChar c ++ rest) = some c :: decode rest := by
  rcases Nat.lt_or_ge c.toNat 0x80 with h | h
  · rw [utf8EncodeChar_of_ascii h]
    exact decode_ascii_cons h rest
  · obtain ⟨b, next, others, heq, hspelled⟩ := exists_spelled h
    rw [heq]
    exact hspelled.decode_append rest

/-- A character whose last bytes are missing is one bad character. -/
theorem decode_take_utf8EncodeChar (hpos : 0 < n) (hn : n < (String.utf8EncodeChar c).length) :
    decode ((String.utf8EncodeChar c).take n) = [none] := by
  obtain ⟨n, rfl⟩ := Nat.exists_eq_add_of_lt hpos
  rw [Nat.zero_add] at hn ⊢
  rcases Nat.lt_or_ge c.toNat 0x80 with h | h
  · rw [utf8EncodeChar_of_ascii h, List.length_singleton] at hn
    omega
  · obtain ⟨b, next, others, heq, hspelled⟩ := exists_spelled h
    rw [heq, List.length_cons, List.length_cons] at hn
    rw [heq, List.take_succ_cons]
    exact hspelled.decode_cut (by omega)

theorem encode_cons (c : Char) (s : List Char) :
    encode (c :: s) = String.utf8EncodeChar c ++ encode s := rfl

theorem encode_append (s s' : List Char) : encode (s ++ s') = encode s ++ encode s' :=
  List.flatMap_append

/-- A text is read back from its bytes, whatever follows. -/
theorem decodeLossy_encode_append (s : List Char) (rest : List UInt8) :
    decodeLossy (encode s ++ rest) = s ++ decodeLossy rest := by
  induction s with
  | nil => rfl
  | cons c s ih =>
    rw [encode_cons, List.append_assoc, decodeLossy, decode_utf8EncodeChar_append, List.map_cons]
    exact congrArg (c :: ·) ih

theorem decodeLossy_nil : decodeLossy [] = [] := by rw [decodeLossy, decode_nil, List.map_nil]

theorem decodeLossy_encode (s : List Char) : decodeLossy (encode s) = s := by
  simpa [decodeLossy_nil] using decodeLossy_encode_append s []

/-- The first bytes of a character, too few for it. -/
def Stub (bytes : List UInt8) : Prop :=
  ∃ c n, 0 < n ∧ n < (String.utf8EncodeChar c).length ∧ bytes = (String.utf8EncodeChar c).take n

theorem Stub.decodeLossy_eq (h : Stub rest) : decodeLossy rest = ['\uFFFD'] := by
  obtain ⟨c, n, hpos, hn, rfl⟩ := h
  rw [decodeLossy, decode_take_utf8EncodeChar hpos hn]
  rfl

/-- Bytes that are cut are those of the first characters, with a stub if a character was cut. -/
theorem exists_take_encode (s : List Char) (n : Nat) : ∃ kept stub, kept <+: s ∧
    (encode s).take n = encode kept ++ stub ∧
      (stub = [] ∨ Stub stub ∧ (encode kept).length + stub.length = n) := by
  induction s generalizing n with
  | nil => exact ⟨[], [], List.prefix_rfl, by simp [encode], .inl rfl⟩
  | cons c s ih =>
    rw [encode_cons]
    rcases Nat.lt_or_ge n (String.utf8EncodeChar c).length with hn | hn
    · refine ⟨[], (String.utf8EncodeChar c).take n, List.nil_prefix, ?_, ?_⟩
      · rw [List.take_append_of_le_length (Nat.le_of_lt hn)]
        rfl
      · rcases Nat.eq_zero_or_pos n with rfl | hpos
        · exact .inl rfl
        · refine .inr ⟨⟨c, n, hpos, hn, rfl⟩, ?_⟩
          rw [List.length_take, Nat.min_eq_left (Nat.le_of_lt hn)]
          exact Nat.zero_add n
    · obtain ⟨kept, stub, hkept, htake, hstub⟩ := ih (n - (String.utf8EncodeChar c).length)
      refine ⟨c :: kept, stub, List.cons_prefix_cons.2 ⟨rfl, hkept⟩, ?_, ?_⟩
      · rw [List.take_append, List.take_of_length_le hn, htake, encode_cons, List.append_assoc]
      · refine hstub.imp_right fun ⟨h, hlength⟩ => ⟨h, ?_⟩
        rw [encode_cons, List.length_append]
        omega

theorem high_of_mem_utf8EncodeChar (h : 0x80 ≤ c.toNat) :
    ∀ b ∈ String.utf8EncodeChar c, 0x80 ≤ b.toNat := by
  rw [utf8EncodeChar_eq, if_neg (by omega)]
  split
  · rw [List.forall_mem_cons, toNat_ofNat (by omega)]
    simp
  · split
    · rw [List.forall_mem_cons, toNat_ofNat (by omega)]
      simp
    · rw [List.forall_mem_cons, toNat_ofNat (by omega)]
      simp

/-- Only the character zero has a zero byte. -/
theorem zero_mem_utf8EncodeChar_iff : 0 ∈ String.utf8EncodeChar c ↔ c = '\x00' := by
  constructor
  · intro hzero
    rcases Nat.lt_or_ge c.toNat 0x80 with hascii | hhigh
    · rw [utf8EncodeChar_of_ascii hascii, List.mem_singleton, ← UInt8.toNat_inj,
        toNat_ofNat (by omega)] at hzero
      exact Char.toNat_inj.1 hzero.symm
    · have h := high_of_mem_utf8EncodeChar hhigh 0 hzero
      contradiction
  · rintro rfl
    exact List.mem_cons_self

theorem takeWhile_encode (s : List Char) :
    (encode s).takeWhile (· ≠ 0) = encode (s.takeWhile (· ≠ '\x00')) := by
  induction s with
  | nil => rfl
  | cons c s ih =>
    by_cases hc : c = '\x00'
    · subst hc
      rfl
    · have hne : ∀ b ∈ String.utf8EncodeChar c, decide (b ≠ 0) = true := by
        intro b hb
        rw [decide_eq_true_iff]
        rintro rfl
        exact hc (zero_mem_utf8EncodeChar_iff.1 hb)
      rw [encode_cons, List.takeWhile_append_of_pos hne, ih,
        List.takeWhile_cons_of_pos (by simpa using hc), encode_cons]

end Utf8
end Scanout
