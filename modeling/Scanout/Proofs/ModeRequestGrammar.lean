import Mathlib.Data.List.Induction
import Scanout.Proofs.ModeRequestText

/-!
# The grammar of mode requests

`Spells s r` is the written form of requests as a grammar: `preferred`, `current`, or two numerals
parted by an `x`, with or without a third numeral behind an `@`. Reading a text cuts it at the first
`@` and the first `x` instead. Neither letter stands in a numeral, so a text of the grammar is cut where
the grammar has these letters, and a text that is cut into numerals is one of the grammar.
-/

namespace Scanout
namespace ModeRequest

/-- A decimal numeral of one ASCII digit or more, with its value. Zeros may lead. -/
inductive Numeral : List Char → Nat → Prop
  | digit {d : Nat} (hd : d < 10) : Numeral [d.digitChar] d
  | snoc {s : List Char} {n d : Nat} (hs : Numeral s n) (hd : d < 10) :
    Numeral (s ++ [d.digitChar]) (10 * n + d)

/-- The texts of a request. Its numbers fit into 32 bits, so no numeral of a greater value is one. -/
inductive Spells : List Char → ModeRequest → Prop
  | preferred : Spells "preferred".toList .preferred
  | current : Spells "current".toList .current
  | size {w h : List Char} {width height : UInt32} (hw : Numeral w width.toNat)
    (hh : Numeral h height.toNat) : Spells (w ++ 'x' :: h) (.resolution width height none)
  | rate {w h r : List Char} {width height refresh : UInt32} (hw : Numeral w width.toNat)
    (hh : Numeral h height.toNat) (hr : Numeral r refresh.toNat) :
    Spells (w ++ 'x' :: h ++ '@' :: r) (.resolution width height (some refresh))

theorem exists_digitChar {c : Char} (hc : c.isDigit = true) : ∃ d, d < 10 ∧ d.digitChar = c := by
  have hrange : 48 ≤ c.toNat ∧ c.toNat ≤ 57 := by
    simpa [Char.isDigit, UInt32.le_iff_toNat_le] using hc
  apply Exists.intro (c.toNat - 48)
  constructor
  · omega
  · apply Char.toNat_inj.1
    rw [Nat.toNat_digitChar_of_lt_ten (by omega)]
    omega

namespace Numeral

variable {s : List Char} {n : Nat}

theorem ne_nil (h : Numeral s n) : s ≠ [] := by
  cases h <;> simp

theorem isDigit_of_mem (h : Numeral s n) {c : Char} (hc : c ∈ s) : c.isDigit = true := by
  induction h with
  | digit hd => simp_all [Nat.isDigit_digitChar]
  | snoc _ hd ih =>
    rcases List.mem_append.1 hc with hc | hc
    · exact ih hc
    · simp_all [Nat.isDigit_digitChar]

theorem value (h : Numeral s n) : Nat.ofDigitChars 10 s 0 = n := by
  induction h with
  | digit hd => simp [Nat.ofDigitChars_cons_digitChar_of_lt_ten hd]
  | snoc _ hd ih =>
    rw [Nat.ofDigitChars_append, ih, Nat.ofDigitChars_cons_digitChar_of_lt_ten hd]
    simp

theorem notMem (h : Numeral s n) {c : Char} (hc : c.isDigit = false) : c ∉ s := by
  intro hmem
  simp [h.isDigit_of_mem hmem] at hc

/-- Every text of digits is a numeral; the induction takes its last digit off. -/
theorem of_digits (hne : s ≠ []) (hdigits : ∀ c ∈ s, c.isDigit = true) :
    Numeral s (Nat.ofDigitChars 10 s 0) := by
  induction s using List.reverseRecOn with
  | nil => exact absurd rfl hne
  | append_singleton s c ih =>
    obtain ⟨d, hd, rfl⟩ := exists_digitChar (hdigits c (by simp))
    rw [Nat.ofDigitChars_append, Nat.ofDigitChars_cons_digitChar_of_lt_ten hd, Nat.ofDigitChars_nil]
    by_cases hs : s = []
    · subst hs
      simpa using digit hd
    · apply snoc _ hd
      apply ih hs
      intro c hc
      exact hdigits c (List.mem_append_left _ hc)

end Numeral

theorem parseNumber_eq_some_iff {s : List Char} {n : UInt32} :
    parseNumber s = some n ↔ Numeral s n.toNat := by
  constructor
  · intro h
    simp only [parseNumber] at h
    split at h
    · rename_i hdigits
      have hnumeral := Numeral.of_digits hdigits.1 (List.all_eq_true.1 hdigits.2)
      split at h
      · rename_i hsmall
        have hn : UInt32.ofNat (Nat.ofDigitChars 10 s 0) = n := Option.some.inj h
        rwa [← hn, UInt32.toNat_ofNat_of_lt' hsmall]
      · cases h
    · cases h
  · intro h
    have hdigits : s.all Char.isDigit = true := List.all_eq_true.2 fun c => h.isDigit_of_mem
    rw [parseNumber, if_pos ⟨h.ne_nil, hdigits⟩, h.value]
    exact (if_pos n.toNat_lt).trans (congrArg some UInt32.ofNat_toNat)

theorem parseSize_eq_some_iff {s : List Char} {width height : UInt32} :
    parseSize s = some (width, height) ↔
      ∃ w h, s = w ++ 'x' :: h ∧ Numeral w width.toNat ∧ Numeral h height.toNat := by
  constructor
  · intro hs
    simp only [parseSize] at hs
    split at hs
    · cases hs
    · rename_i w h hsplit
      split at hs
      · rename_i hw hh
        cases hs
        exact ⟨w, h, (splitOnce_eq_some_iff.1 hsplit).1, parseNumber_eq_some_iff.1 hw,
          parseNumber_eq_some_iff.1 hh⟩
      · cases hs
  · rintro ⟨w, h, rfl, hw, hh⟩
    have hsplit : splitOnce 'x' (w ++ 'x' :: h) = some (w, h) :=
      splitOnce_eq_some_iff.2 ⟨rfl, hw.notMem (by decide)⟩
    simp only [parseSize, hsplit, parseNumber_eq_some_iff.2 hw, parseNumber_eq_some_iff.2 hh]

/-- A size holds no `@`, so the first one of a request with a rate stands behind its size. -/
theorem at_notMem_size {w h : List Char} {width height : Nat} (hw : Numeral w width)
    (hh : Numeral h height) : '@' ∉ w ++ 'x' :: h := by
  simp [hw.notMem (c := '@') (by decide), hh.notMem (c := '@') (by decide)]

theorem spells_of_parseResolution {s : List Char} {r : ModeRequest}
    (h : parseResolution s = some r) : Spells s r := by
  simp only [parseResolution] at h
  split at h
  · obtain ⟨⟨width, height⟩, hsize, rfl⟩ := Option.map_eq_some_iff.1 h
    obtain ⟨w, h, rfl, hw, hh⟩ := parseSize_eq_some_iff.1 hsize
    exact .size hw hh
  · rename_i size refresh hsplit
    split at h
    · rename_i hr hsize
      cases h
      obtain ⟨w, h, rfl, hw, hh⟩ := parseSize_eq_some_iff.1 hsize
      rw [(splitOnce_eq_some_iff.1 hsplit).1]
      exact .rate hw hh (parseNumber_eq_some_iff.1 hr)
    · cases h

theorem parseResolution_size {w h : List Char} {width height : UInt32}
    (hw : Numeral w width.toNat) (hh : Numeral h height.toNat) :
    parseResolution (w ++ 'x' :: h) = some (.resolution width height none) := by
  have hsplit := splitOnce_eq_none_iff.2 (at_notMem_size hw hh)
  have hsize := parseSize_eq_some_iff.2 ⟨w, h, rfl, hw, hh⟩
  simp only [parseResolution, hsplit, hsize, Option.map_some]

theorem parseResolution_rate {w h r : List Char} {width height refresh : UInt32}
    (hw : Numeral w width.toNat) (hh : Numeral h height.toNat) (hr : Numeral r refresh.toNat) :
    parseResolution (w ++ 'x' :: h ++ '@' :: r) =
      some (.resolution width height (some refresh)) := by
  have hsplit : splitOnce '@' (w ++ 'x' :: h ++ '@' :: r) = some (w ++ 'x' :: h, r) :=
    splitOnce_eq_some_iff.2 ⟨rfl, at_notMem_size hw hh⟩
  have hsize := parseSize_eq_some_iff.2 ⟨w, h, rfl, hw, hh⟩
  simp only [parseResolution, hsplit, hsize, parseNumber_eq_some_iff.2 hr]

theorem parse_of_parseResolution {s : String} {r : ModeRequest}
    (h : parseResolution s.toList = some r) : parse s = .ok r := by
  have hne (word : String) (hword : parseResolution word.toList = none) : s ≠ word := by
    rintro rfl
    simp [hword] at h
  rw [parse, if_neg (hne _ (by decide)), if_neg (hne _ (by decide)), h]

theorem parse_eq_ok_iff {s : String} {r : ModeRequest} : parse s = .ok r ↔ Spells s.toList r := by
  constructor
  · intro h
    simp only [parse] at h
    split at h
    · rename_i hs
      cases h
      exact hs ▸ .preferred
    · split at h
      · rename_i hs
        cases h
        exact hs ▸ .current
      · split at h
        · rename_i hr
          cases h
          exact spells_of_parseResolution hr
        · cases h
  · intro h
    generalize hs : s.toList = text at h
    cases h with
    | preferred => rw [String.toList_inj.1 hs]; rfl
    | current => rw [String.toList_inj.1 hs]; rfl
    | size hw hh => exact parse_of_parseResolution (hs ▸ parseResolution_size hw hh)
    | rate hw hh hr => exact parse_of_parseResolution (hs ▸ parseResolution_rate hw hh hr)

/-- An error names the text that was read, whichever part of it was malformed. -/
theorem text_of_parse_error {s : String} {e : MalformedModeRequest} (h : parse s = .error e) :
    e = ⟨s⟩ := by
  simp only [parse] at h
  split at h
  · cases h
  · split at h
    · cases h
    · split at h <;> cases h
      rfl

/-- Reading accepts the texts of the grammar with the request they stand for, and no other text: it
gives every other text back unchanged. -/
theorem parse_accepts_grammar (s : String) :
    (∀ r, parse s = .ok r ↔ Spells s.toList r) ∧
      ∀ e, parse s = .error e ↔ e = ⟨s⟩ ∧ ∀ r, ¬ Spells s.toList r := by
  constructor
  · intro r
    exact parse_eq_ok_iff
  · intro e
    constructor
    · intro h
      constructor
      · exact text_of_parse_error h
      · intro r hr
        rw [parse_eq_ok_iff.2 hr] at h
        cases h
    · intro ⟨he, hnone⟩
      cases h : parse s with
      | ok r => exact absurd (parse_eq_ok_iff.1 h) (hnone r)
      | error e' => rw [text_of_parse_error h, he]

example : parse "00640x480@4294967295" = .ok (.resolution 640 480 (some 4294967295)) := by decide

example : parse "640x480x60@4294967296" = .error ⟨"640x480x60@4294967296"⟩ := by decide

/-- The grammar is unambiguous. -/
theorem Spells.unique {s : List Char} {r r' : ModeRequest} (h : Spells s r) (h' : Spells s r') :
    r = r' := by
  have hparse (r : ModeRequest) (h : Spells s r) : parse (String.ofList s) = .ok r :=
    parse_eq_ok_iff.2 (by rwa [String.toList_ofList])
  exact Except.ok.inj ((hparse r h).symm.trans (hparse r' h'))

end ModeRequest
end Scanout
