import Scanout.Proofs.ModeRequestGrammar

/-!
# The written form of mode requests is a normal form

A request has many texts, since zeros may lead its numbers. `unpadded` takes the leading zeros out
of a text, of every number down to its last digit, and knows nothing of requests. What a request is
written as is each of its texts without them, so the texts of one request are those that are written
alike.
-/

namespace Scanout
namespace ModeRequest

/-- A text without the superfluous leading zeros of its numbers: a zero goes if a digit stands
behind it and no digit of its number was kept before it, which is what `inNumber` tells. -/
def unpadded (inNumber : Bool) : List Char → List Char
  | [] => []
  | c :: rest =>
    if !inNumber && c == '0' && rest.head?.any Char.isDigit then unpadded false rest
    else c :: unpadded c.isDigit rest

variable {s rest : List Char} {n d : Nat} {b : Bool} {c : Char} {r r' : ModeRequest}

@[simp]
theorem unpadded_nil : unpadded b [] = [] := rfl

/-- What parts the numbers of a text is kept, and a number may begin behind it. -/
theorem unpadded_of_not_digit (hc : c.isDigit = false) :
    unpadded b (c :: rest) = c :: unpadded false rest := by
  have hne : c ≠ '0' := by
    rintro rfl
    contradiction
  simp [unpadded, hne, hc]

/-- A digit is kept behind another one, if it is not zero, and at the end of its number. -/
theorem unpadded_digit (hd : d < 10)
    (h : b = true ∨ 0 < d ∨ rest.head?.any Char.isDigit = false) :
    unpadded b (d.digitChar :: rest) = d.digitChar :: unpadded true rest := by
  have hdigit : d.digitChar.isDigit = true := by
    simpa [Nat.isDigit_digitChar] using hd
  rcases h with h | h | h
  · simp [unpadded, h, hdigit]
  · have hzero : d.digitChar ≠ '0' := by
      rw [Ne, Nat.digitChar_eq_zero]
      omega
    simp [unpadded, hzero, hdigit]
  · simp [unpadded, h, hdigit]

theorem unpadded_first_digit (hd : d < 10) :
    unpadded false (d.digitChar :: rest) =
      if d = 0 ∧ rest.head?.any Char.isDigit = true then unpadded false rest
      else Nat.toDigits 10 d ++ unpadded true rest := by
  rw [Nat.toDigits_of_lt_base hd, List.singleton_append]
  split
  · rename_i hzero
    obtain ⟨rfl, hrest⟩ := hzero
    simp [unpadded, hrest]
  · rename_i hkept
    apply unpadded_digit hd
    grind

/-- The first digits of a number are kept without their zeros. As long as they are all zeros and a
digit stands behind them, the number is still to begin. -/
theorem unpadded_numeral_append (h : Numeral s n) (rest : List Char) :
    unpadded false (s ++ rest) =
      if n = 0 ∧ rest.head?.any Char.isDigit = true then unpadded false rest
      else Nat.toDigits 10 n ++ unpadded true rest := by
  induction h generalizing rest with
  | digit hd => exact unpadded_first_digit hd
  | @snoc s n d hs hd ih =>
    rw [List.append_assoc, List.singleton_append, ih]
    rcases Nat.eq_zero_or_pos n with rfl | hpos
    · have hbehind : (d.digitChar :: rest).head?.any Char.isDigit = true := by
        simpa [Nat.isDigit_digitChar] using hd
      rw [if_pos ⟨rfl, hbehind⟩, Nat.mul_zero, Nat.zero_add]
      exact unpadded_first_digit hd
    · rw [if_neg (by omega), if_neg (by omega), unpadded_digit hd (.inl rfl),
        ← Nat.toDigits_append_toDigits (by omega) hpos hd, Nat.toDigits_of_lt_base hd,
        List.append_assoc, List.singleton_append]

/-- A number that no digit follows is what its value is written as, once its leading zeros are
gone. -/
theorem unpadded_numeral (h : Numeral s n) (hend : rest.head?.any Char.isDigit = false) :
    unpadded false (s ++ rest) = Nat.toDigits 10 n ++ unpadded true rest := by
  rw [unpadded_numeral_append h, if_neg (by simp [hend])]

theorem unpadded_last_numeral (h : Numeral s n) : unpadded false s = Nat.toDigits 10 n := by
  have hend : ([] : List Char).head?.any Char.isDigit = false := rfl
  simpa using unpadded_numeral h hend

theorem unpadded_numeral_cons (h : Numeral s n) (hc : c.isDigit = false) :
    unpadded false (s ++ c :: rest) = Nat.toDigits 10 n ++ c :: unpadded false rest := by
  rw [unpadded_numeral h (by simpa using hc), unpadded_of_not_digit hc]

/-- A request is written as each of its texts without their superfluous zeros. -/
theorem Spells.unpadded_eq (h : Spells s r) : unpadded false s = r.text.toList := by
  cases h with
  | preferred => decide
  | current => decide
  | size hw hh =>
    rw [unpadded_numeral_cons hw (by decide), unpadded_last_numeral hh, text, String.toList_ofList]
    rfl
  | rate hw hh hr =>
    rw [List.append_assoc, List.cons_append, unpadded_numeral_cons hw (by decide),
      unpadded_numeral_cons hh (by decide), unpadded_last_numeral hr, text, String.toList_ofList,
      List.append_assoc, List.cons_append]
    rfl

theorem text_of_parse {t : String} (h : parse t = .ok r) :
    r.text = String.ofList (unpadded false t.toList) := by
  rw [(parse_eq_ok_iff.1 h).unpadded_eq, String.ofList_toList]

/-- Requests that are written alike are one request, as it is read back from its text. -/
theorem text_injective : Function.Injective text := by
  intro r r' h
  have hparsed : (.ok r : Except MalformedModeRequest ModeRequest) = .ok r' := by
    rw [← parse_of_text r, h, parse_of_text]
  exact Except.ok.inj hparsed

/-- A text that is read as a request, written anew. -/
def rewritten (t : String) : Option String := (parse t).toOption.map text

theorem rewritten_eq_some_iff {t t' : String} :
    rewritten t = some t' ↔ ∃ r, parse t = .ok r ∧ r.text = t' := by
  cases h : parse t <;> simp [rewritten, h, Except.toOption]

/-- What a request is written as is read as the request, and is a normal form of the texts that are
read: it is each of them without the superfluous leading zeros of its numbers, two of them are texts
of one request if and only if they are written alike, and writing anew what was written anew changes
nothing. -/
theorem text_is_normal_form :
    (∀ r, parse (text r) = .ok r) ∧
      (∀ t r, parse t = .ok r → r.text = String.ofList (unpadded false t.toList)) ∧
      (∀ t t' r r', parse t = .ok r → parse t' = .ok r' →
        (r = r' ↔ rewritten t = rewritten t')) ∧
      ∀ t t', rewritten t = some t' → rewritten t' = some t' := by
  refine ⟨parse_of_text, fun t r => text_of_parse, ?same, ?again⟩
  case same =>
    intro t t' r r' h h'
    rw [rewritten_eq_some_iff.2 ⟨r, h, rfl⟩, rewritten_eq_some_iff.2 ⟨r', h', rfl⟩]
    simpa using text_injective.eq_iff.symm
  case again =>
    intro t t' h
    obtain ⟨r, -, rfl⟩ := rewritten_eq_some_iff.1 h
    exact rewritten_eq_some_iff.2 ⟨r, parse_of_text r, rfl⟩

example : unpadded false "00640x0480@000".toList = "640x480@0".toList := by decide

end ModeRequest
end Scanout
