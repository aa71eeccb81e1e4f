import Scanout.ModeRequest

/-!
# Mode requests are read as they were written

The numbers of a request are written without the letters that part them, so the first of these letters
is where it was put.
-/

namespace Scanout
namespace ModeRequest

theorem isDigit_of_mem_numberText {n : UInt32} {c : Char} (h : c ∈ numberText n) : c.isDigit = true :=
  Nat.isDigit_of_mem_toDigits (by omega) (by omega) h

theorem parseNumber_numberText (n : UInt32) : parseNumber (numberText n) = some n := by
  have hdigits : (numberText n).all Char.isDigit = true :=
    List.all_eq_true.2 fun c => isDigit_of_mem_numberText
  have hvalue : Nat.ofDigitChars 10 (numberText n) 0 = n.toNat := Nat.ofDigitChars_ten_toDigits
  rw [parseNumber, if_pos ⟨Nat.toDigits_ne_nil, hdigits⟩, hvalue]
  exact (if_pos n.toNat_lt).trans (congrArg some (UInt32.ofNat_toNat))

theorem not_mem_numberText {c : Char} (hc : c.isDigit = false) (n : UInt32) : c ∉ numberText n :=
  fun h => by simp [isDigit_of_mem_numberText h] at hc

theorem parseSize_numberText (width height : UInt32) :
    parseSize (numberText width ++ 'x' :: numberText height) = some (width, height) := by
  have hsplit : splitOnce 'x' (numberText width ++ 'x' :: numberText height) =
      some (numberText width, numberText height) :=
    splitOnce_eq_some_iff.2 ⟨rfl, not_mem_numberText (by decide) width⟩
  simp only [parseSize, hsplit, parseNumber_numberText]

theorem parseResolution_text (width height : UInt32) (refresh : Option UInt32) :
    parseResolution (text (.resolution width height refresh)).toList =
      some (.resolution width height refresh) := by
  have hsize : '@' ∉ numberText width ++ 'x' :: numberText height := by
    simp [not_mem_numberText]
  cases refresh with
  | none =>
    have hsplit : splitOnce '@' (numberText width ++ 'x' :: numberText height) = none :=
      splitOnce_eq_none_iff.2 hsize
    simp [text, parseResolution, hsplit, parseSize_numberText]
  | some refresh =>
    have hsplit : splitOnce '@' (numberText width ++ 'x' :: numberText height ++
        '@' :: numberText refresh) =
          some (numberText width ++ 'x' :: numberText height, numberText refresh) :=
      splitOnce_eq_some_iff.2 ⟨rfl, hsize⟩
    simp only [text, String.toList_ofList, parseResolution, hsplit, parseNumber_numberText,
      parseSize_numberText]

/-- A request is read back from its text. -/
theorem parse_of_text (r : ModeRequest) : parse r.text = .ok r := by
  cases r with
  | preferred => rfl
  | current => rfl
  | resolution width height refresh =>
    have hx : 'x' ∈ (text (.resolution width height refresh)).toList := by
      cases refresh <;> simp [text]
    have hne {s : String} (hs : 'x' ∉ s.toList) : text (.resolution width height refresh) ≠ s :=
      fun heq => hs (heq ▸ hx)
    rw [parse, if_neg (hne (by decide)), if_neg (hne (by decide)), parseResolution_text]

end ModeRequest
end Scanout
