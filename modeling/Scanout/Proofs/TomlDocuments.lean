import Scanout.Proofs.TomlStrings
import Scanout.TomlReader

/-!
# Lines and sections are read as they were written

A line with a key and a value is read as an assignment if the value is read as it was written, which
strings and whole numbers are. A section goes from its header to the next one.
-/

namespace Scanout
namespace TomlText

open Reader

/-! ## Whole numbers -/

section Digits

variable {digits rest : List Char} {n : Nat}

theorem head?_toDigits (hn : 0 < n) : (Nat.toDigits 10 n).head? ≠ some '0' := by
  induction n using Nat.strongRecOn with
  | _ n ih =>
    by_cases hsmall : n < 10
    · have hall : ∀ m < 10, 0 < m → Nat.digitChar m ≠ '0' := by decide
      rw [Nat.toDigits_of_lt_base hsmall]
      simpa using hall n hsmall hn
    · have hhigher := ih (n / 10) (by omega) (by omega)
      obtain ⟨c, cs, heq⟩ := List.exists_cons_of_ne_nil (Nat.toDigits_ne_nil (n := n / 10) (b := 10))
      rw [Nat.toDigits_of_base_le (by omega) (by omega), heq]
      rwa [heq] at hhigher

theorem isDigit_of_mem {c : Char} (h : c ∈ Nat.toDigits 10 n) : c.isDigit = true :=
  Nat.isDigit_of_mem_toDigits (by omega) (by omega) h

/-- A number begins with a digit. -/
theorem isDigit_of_head? {c : Char} (hc : c ∈ (Nat.toDigits 10 n ++ rest).head?) :
    c.isDigit = true := by
  obtain ⟨x, digits, heq⟩ := List.exists_cons_of_ne_nil (Nat.toDigits_ne_nil (n := n) (b := 10))
  rw [heq] at hc
  obtain rfl : x = c := by simpa using hc
  exact isDigit_of_mem (n := n) (heq ▸ List.mem_cons_self)

theorem numberIn_of_digits (h : ∀ c ∈ digits, c.isDigit = true) :
    numberIn 10 digits = Nat.ofDigitChars 10 digits 0 := by
  unfold numberIn Nat.ofDigitChars
  suffices hfrom : ∀ m, digits.foldl (fun n c => 10 * n + (hexValue? c).getD 0) m =
      digits.foldl (fun n c => 10 * n + (c.toNat - '0'.toNat)) m from hfrom 0
  induction digits with
  | nil => exact fun _ => rfl
  | cons c digits ih =>
    intro m
    have hvalue : hexValue? c = some (c.toNat - '0'.toNat) := if_pos (h c List.mem_cons_self)
    rw [List.foldl_cons, List.foldl_cons, hvalue]
    exact ih (fun c' hc' => h c' (List.mem_cons_of_mem _ hc')) _

theorem ne_of_isDigit {c c' : Char} (hc : c.isDigit = true) (hc' : c'.isDigit = false) : c ≠ c' := by
  rintro rfl
  rw [hc] at hc'
  contradiction

theorem wellParted_of_digits (hne : digits ≠ []) (h : ∀ c ∈ digits, c.isDigit = true) :
    wellParted digits = true := by
  induction digits with
  | nil => exact absurd rfl hne
  | cons c rest ih =>
    have hc : c ≠ '_' := ne_of_isDigit (h c List.mem_cons_self) (by decide)
    cases rest with
    | nil => simp [wellParted]
    | cons c' rest =>
      have hc' : c' ≠ '_' := ne_of_isDigit (h c' (by simp)) (by decide)
      have hrest := ih (by simp) fun x hx => h x (List.mem_cons_of_mem _ hx)
      simpa [wellParted, hc, hc'] using hrest

theorem decimalRun_digits (hne : digits ≠ []) (h : ∀ c ∈ digits, c.isDigit = true) :
    decimalRun (digits ++ '\n' :: rest) = some (digits, '\n' :: rest) := by
  have hrun : Reader.takeWhile (fun c => c.isDigit || c == '_') (digits ++ '\n' :: rest) =
      some (digits, '\n' :: rest) := takeWhile_append (fun c hc => by simp [h c hc]) (by simp)
  have hfilter : digits.filter (· ≠ '_') = digits := List.filter_eq_self.2 fun c hc => by
    have hdigit : Char.isDigit '_' = false := by decide
    simpa using ne_of_isDigit (h c hc) hdigit
  refine (bind_of_some hrun).trans ((require_bind (wellParted_of_digits hne h)).trans ?_)
  rw [hfilter]
  rfl

/-- Digits are taken from digits only, and what is left goes on with a digit or the end of the line. -/
theorem digitsWithin_leaves {count least greatest : Nat} {later : List Char}
    (h : ∀ c ∈ digits, c.isDigit = true)
    (hread : digitsWithin count least greatest (digits ++ '\n' :: rest) = some (n, later)) :
    ∃ left, later = left ++ '\n' :: rest ∧ ∀ c ∈ left, c.isDigit = true := by
  cases htake : take count (digits ++ '\n' :: rest) with
  | none =>
    rw [digitsWithin, bind_of_none htake] at hread
    contradiction
  | some r =>
    obtain ⟨run, later'⟩ := r
    rw [digitsWithin, bind_of_some htake] at hread
    obtain ⟨hall, hread⟩ := of_require_bind hread
    obtain ⟨-, hread⟩ := of_require_bind hread
    obtain ⟨rfl, rfl⟩ := Prod.mk.inj (Option.some.inj hread)
    obtain ⟨-, heq⟩ := Option.ite_none_right_eq_some.1 htake
    obtain ⟨rfl, rfl⟩ := Prod.mk.inj (Option.some.inj heq)
    have hcount : count ≤ digits.length := by
      refine Nat.le_of_not_lt fun hlt => ?_
      have hbreak : '\n' ∈ (digits ++ '\n' :: rest).take count := by
        rw [List.take_append, List.mem_append]
        obtain ⟨k, hk⟩ := Nat.exists_eq_add_of_lt hlt
        exact .inr (by simp [hk, Nat.add_assoc])
      exact absurd (List.all_eq_true.1 hall '\n' hbreak) (by decide)
    exact ⟨digits.drop count, List.drop_append_of_le_length hcount,
      fun c hc => h c (List.mem_of_mem_drop hc)⟩

/-- Digits up to the end of a line cannot be followed by what parts the numbers of a date or time. -/
theorem digitsWithin_char_eq_none {α : Type} {count least greatest : Nat} {c : Char}
    {f : Nat → Unit → Reader α} (h : ∀ c ∈ digits, c.isDigit = true) (hc : c.isDigit = false)
    (hbreak : c ≠ '\n') :
    (digitsWithin count least greatest >>= fun n => char c >>= f n) (digits ++ '\n' :: rest) = none := by
  cases hread : digitsWithin count least greatest (digits ++ '\n' :: rest) with
  | none => exact bind_of_none hread
  | some r =>
    obtain ⟨n, later⟩ := r
    obtain ⟨left, rfl, hleft⟩ := digitsWithin_leaves h hread
    refine (bind_of_some hread).trans (bind_of_none (char_of_head? ?_))
    cases left with
    | nil => simpa using Ne.symm hbreak
    | cons c' left => simpa using ne_of_isDigit (hleft c' List.mem_cons_self) hc

theorem dateTime_digits (h : ∀ c ∈ digits, c.isDigit = true) (rest : List Char) :
    dateTime (digits ++ '\n' :: rest) = none := by
  have hdate : date (digits ++ '\n' :: rest) = none := digitsWithin_char_eq_none h (by decide) (by decide)
  have htime : time (digits ++ '\n' :: rest) = none := digitsWithin_char_eq_none h (by decide) (by decide)
  exact (orElse_of_none (bind_of_none hdate)).trans (bind_of_none htime)

theorem decimal_toDigits (hn : n < Nat.pow 2 63) (rest : List Char) :
    decimal false (Nat.toDigits 10 n ++ '\n' :: rest) = some (.integer n, '\n' :: rest) := by
  have hdigits : ∀ c ∈ Nat.toDigits 10 n, c.isDigit = true := fun c => isDigit_of_mem
  have hzero : ((Nat.toDigits 10 n).length = 1 || (Nat.toDigits 10 n).head? ≠ some '0') = true := by
    cases n with
    | zero => rfl
    | succ n => simp [head?_toDigits (Nat.succ_pos n)]
  have hvalue : numberIn 10 (Nat.toDigits 10 n) = n :=
    (numberIn_of_digits hdigits).trans Nat.ofDigitChars_ten_toDigits
  refine (bind_of_some (decimalRun_digits Nat.toDigits_ne_nil hdigits)).trans ?_
  refine (require_bind hzero).trans ?_
  have hpart : optional fraction ('\n' :: rest) = some (none, '\n' :: rest) := rfl
  have hpower : optional exponent ('\n' :: rest) = some (none, '\n' :: rest) := rfl
  refine (bind_of_some hpart).trans ((bind_of_some hpower).trans ?_)
  dsimp only
  rw [hvalue]
  have hrange : (-Int.pow 2 63 ≤ (n : Int) && (n : Int) < Int.pow 2 63) = true := by
    have hint : Int.pow 2 63 = Nat.pow 2 63 := rfl
    simp only [hint, Bool.and_eq_true, decide_eq_true_eq]
    omega
  exact require_bind hrange

theorem basedInteger_toDigits (n : Nat) (rest : List Char) :
    basedInteger (Nat.toDigits 10 n ++ '\n' :: rest) = none := by
  rcases Nat.eq_zero_or_pos n with rfl | hn
  · rfl
  · have hzero := head?_toDigits hn
    obtain ⟨c, digits, heq⟩ := List.exists_cons_of_ne_nil (Nat.toDigits_ne_nil (n := n) (b := 10))
    rw [heq] at hzero ⊢
    exact bind_of_none (char_of_head? (by simpa using hzero))

end Digits

/-! ## What begins with a digit -/

section FirstDigit

variable {s : List Char} {c : Char} (hs : s.head? = some c) (hc : c.isDigit = true)
include hs hc

theorem head?_ne_of_isDigit {c' : Char} (hc' : c'.isDigit = false) : s.head? ≠ some c' :=
  fun heq => ne_of_isDigit hc hc' (Option.some.inj (hs.symm.trans heq))

theorem sign_of_digit : sign s = some (none, s) := by
  have hminus : s.head? ≠ some '-' := head?_ne_of_isDigit hs hc (by decide)
  have hplus : s.head? ≠ some '+' := head?_ne_of_isDigit hs hc (by decide)
  unfold sign
  rw [peek_bind]
  generalize s.head? = x at hminus hplus
  split
  · contradiction
  · contradiction
  · rfl

theorem number_of_digit : number s = (basedInteger <|> decimal false) s := by
  have hi : s.head? ≠ some 'i' := head?_ne_of_isDigit hs hc (by decide)
  have hn : s.head? ≠ some 'n' := head?_ne_of_isDigit hs hc (by decide)
  unfold number
  refine (bind_of_some (sign_of_digit hs hc)).trans ?_
  rw [peek_bind]
  generalize s.head? = x at hi hn
  split
  · contradiction
  · contradiction
  · rfl

theorem value_of_digit (level : Nat) :
    value (level + 1) s = ((do return .dateTime (← dateTime)) <|> number : Reader TomlValue) s := by
  have hdouble : s.head? ≠ some '"' := head?_ne_of_isDigit hs hc (by decide)
  have hsingle : s.head? ≠ some '\'' := head?_ne_of_isDigit hs hc (by decide)
  have hbracket : s.head? ≠ some '[' := head?_ne_of_isDigit hs hc (by decide)
  have hbrace : s.head? ≠ some '\x7b' := head?_ne_of_isDigit hs hc (by decide)
  have ht : s.head? ≠ some 't' := head?_ne_of_isDigit hs hc (by decide)
  have hf : s.head? ≠ some 'f' := head?_ne_of_isDigit hs hc (by decide)
  rw [value, peek_bind]
  generalize s.head? = x at hdouble hsingle hbracket hbrace ht hf
  split
  all_goals first | contradiction | rfl

end FirstDigit

/-! ## Values -/

section Values

variable {rest : List Char} {level n : Nat}

theorem head?_stringForm (s rest : List Char) :
    (stringForm s ++ rest).head? = some '"' ∨ (stringForm s ++ rest).head? = some '\'' := by
  unfold stringForm
  dsimp only
  split_ifs <;> simp [inBasic, inLiteral, inLongBasic, inLongLiteral]

theorem value_stringForm {s : String} (hdouble : rest.head? ≠ some '"')
    (hsingle : rest.head? ≠ some '\'') :
    value (level + 1) (stringForm s.toList ++ rest) = some (.string s, rest) := by
  have hstring := string_stringForm (s := s.toList) hdouble hsingle
  rw [String.ofList_toList] at hstring
  rw [value, peek_bind]
  rcases head?_stringForm s.toList rest with hhead | hhead
  · rw [hhead]
    exact bind_of_some hstring
  · rw [hhead]
    exact bind_of_some hstring

theorem value_toDigits (hn : n < Nat.pow 2 63) (rest : List Char) :
    value (level + 1) (Nat.toDigits 10 n ++ '\n' :: rest) = some (.integer n, '\n' :: rest) := by
  have hdate : dateTime (Nat.toDigits 10 n ++ '\n' :: rest) = none :=
    dateTime_digits (fun c => isDigit_of_mem) rest
  have hdecimal := decimal_toDigits hn rest
  have hbased := basedInteger_toDigits n rest
  obtain ⟨c, hs⟩ : ∃ c, (Nat.toDigits 10 n ++ '\n' :: rest).head? = some c :=
    Option.ne_none_iff_exists'.1 (by simp)
  have hc := isDigit_of_head? hs
  rw [value_of_digit hs hc, orElse_of_none (bind_of_none hdate), number_of_digit hs hc,
    orElse_of_none hbased, hdecimal]

end Values

/-! ## Keys and lines -/

section Lines

variable {s rest : List Char}

theorem keyForm_of_bare (hs : s ≠ []) (hbare : s.all isBareKeyCharacter = true) : keyForm s = s :=
  if_pos ⟨hs, hbare⟩

/-- The next part of a key, if there is one. -/
def dottedPart : Reader (Option String) := do
  match ← peek with
  | some '.' => do char '.'; some <$> keyPart
  | _ => return none

theorem key_eq : key = (do
    let first ← keyPart
    let more ← readMany dottedPart
    require (more.length + 1 < keyLimit)
    return ((first :: more).dropLast, (first :: more).getLast?.getD first)) := rfl

theorem dottedPart_other (hdot : s.head? ≠ some '.') : dottedPart s = some (none, s) := by
  unfold dottedPart
  rw [peek_bind]
  generalize s.head? = x at hdot
  split
  · contradiction
  · rfl

/-- A key is read from its first part and the further ones. -/
theorem key_of_parts {first : String} {more : List String} {later : List Char}
    (hfirst : keyPart s = some (first, later)) (hmore : Items dottedPart later more rest)
    (hfew : more.length + 1 < keyLimit) :
    key s = some (((first :: more).dropLast, (first :: more).getLast?.getD first), rest) := by
  rw [key_eq, bind_of_some hfirst, bind_of_some hmore.readMany]
  exact require_bind (decide_eq_true hfew)

/-- A key of one part, with the blanks after it. -/
theorem key_keyForm {name : String} {gap : List Char} (hgap : ∀ c ∈ gap, isBlank c = true)
    (hrest : ∀ c ∈ rest.head?, isBareKeyCharacter c = false ∧ isBlank c = false)
    (hdot : rest.head? ≠ some '.') :
    key (keyForm name.toList ++ (gap ++ rest)) = some (([], name), rest) := by
  have hpart : keyPart (keyForm name.toList ++ (gap ++ rest)) = some (name, rest) := by
    rw [keyPart_keyForm hgap hrest, String.ofList_toList]
  exact key_of_parts hpart (.nil (dottedPart_other hdot)) (by decide)

/-- A key of two parts. -/
theorem key_keyForm_keyForm {first second : String}
    (hrest : ∀ c ∈ rest.head?, isBareKeyCharacter c = false ∧ isBlank c = false)
    (hdot : rest.head? ≠ some '.') :
    key (keyForm first.toList ++ '.' :: (keyForm second.toList ++ rest)) =
      some (([first], second), rest) := by
  have hpart {name : String} {rest : List Char}
      (hrest : ∀ c ∈ rest.head?, isBareKeyCharacter c = false ∧ isBlank c = false) :
      keyPart (keyForm name.toList ++ rest) = some (name, rest) := by
    have h := keyPart_keyForm (s := name.toList) (List.forall_mem_nil _) hrest
    rwa [String.ofList_toList] at h
  have hsecond : dottedPart ('.' :: (keyForm second.toList ++ rest)) = some (some second, rest) :=
    map_of_some (hpart hrest)
  have hshorter : rest.length < ('.' :: (keyForm second.toList ++ rest)).length := by
    simp only [List.length_cons, List.length_append]
    omega
  refine key_of_parts (hpart (by simp [isBlank, isBareKeyCharacter, Char.isAlphanum]))
    (.cons hsecond hshorter (.nil (dottedPart_other hdot))) ?_
  exact show 1 + 1 < keyLimit by decide

/-- The next line of assignments, if it holds one. -/
def line : Reader (Option (List TomlAssignment)) := do
  blanks
  match ← peek with
  | none | some '[' => return none
  | some '#' | some '\n' | some '\r' => do endOfLine; return some []
  | some _ => do
    let a ← assignment (value nestingLimit)
    endOfLine
    return some [a]

theorem assignments_eq : assignments = (do return (← readMany line).flatten) := rfl

theorem line_of_bare {c : Char} (hs : s.head? = some c) (hc : isBareKeyCharacter c = true) :
    line s = (do
      let a ← assignment (value nestingLimit)
      endOfLine
      return some [a] : Reader _) s := by
  have hblank : blanks s = some ((), s) := blanks_none fun c' hc' => Bool.eq_false_iff.2 fun hblank => by
    obtain rfl : c = c' := Option.some.inj (hs.symm.trans hc')
    rw [isBareKeyCharacter_of_blank hblank] at hc
    contradiction
  have hne {x : Char} (hx : isBareKeyCharacter x = false) : s.head? ≠ some x := by
    rw [hs]
    rintro ⟨⟩
    rw [hc] at hx
    contradiction
  have hbracket : s.head? ≠ some '[' := hne (by decide)
  have hcomment : s.head? ≠ some '#' := hne (by decide)
  have hnewline : s.head? ≠ some '\n' := hne (by decide)
  have hreturn : s.head? ≠ some '\r' := hne (by decide)
  have hsome : s.head? ≠ none := by simp [hs]
  refine (bind_of_some hblank).trans ?_
  rw [peek_bind]
  generalize s.head? = x at hsome hbracket hcomment hnewline hreturn
  split
  all_goals first | contradiction | rfl

/-- A line with a bare key, an equals sign and a value. -/
theorem line_assignment {name : String} {written : List Char} {v : TomlValue}
    (hname : name.toList ≠ []) (hbare : name.toList.all isBareKeyCharacter = true)
    (hwritten : ∀ c ∈ (written ++ '\n' :: rest).head?, isBlank c = false)
    (hvalue : value nestingLimit (written ++ '\n' :: rest) = some (v, '\n' :: rest)) :
    line (name.toList ++ ([' '] ++ '=' :: ([' '] ++ (written ++ '\n' :: rest)))) =
      some (some [⟨[], name, v⟩], rest) := by
  have hkey : key (keyForm name.toList ++ ([' '] ++ '=' :: ([' '] ++ (written ++ '\n' :: rest)))) =
      some (([], name), '=' :: ([' '] ++ (written ++ '\n' :: rest))) :=
    key_keyForm (by simp [isBlank]) (by simp [isBlank, isBareKeyCharacter, Char.isAlphanum]) (by simp)
  rw [keyForm_of_bare hname hbare] at hkey
  have hblanks : blanks ([' '] ++ (written ++ '\n' :: rest)) = some ((), written ++ '\n' :: rest) :=
    blanks_run (by simp [isBlank]) hwritten
  have hassignment : assignment (value nestingLimit)
      (name.toList ++ ([' '] ++ '=' :: ([' '] ++ (written ++ '\n' :: rest)))) =
        some (⟨[], name, v⟩, '\n' :: rest) :=
    (bind_of_some hkey).trans
      (char_bind.trans ((bind_of_some hblanks).trans (bind_of_some hvalue)))
  have hend : endOfLine ('\n' :: rest) = some ((), rest) := rfl
  obtain ⟨c, t, heq⟩ := List.exists_cons_of_ne_nil hname
  have hc : isBareKeyCharacter c = true :=
    List.all_eq_true.1 hbare c (heq ▸ List.mem_cons_self)
  rw [line_of_bare (by rw [heq]; rfl) hc]
  exact (bind_of_some hassignment).trans (bind_of_some hend)

/-- The lines up to the next header, with an empty one before it, or up to the end. -/
inductive Lines : List Char → List TomlAssignment → List Char → Prop where
  | ended : Lines [] [] []
  | header (rest : List Char) : Lines ('\n' :: '[' :: rest) [] ('[' :: rest)
  | cons {s s' a as rest} (h : line s = some (some [a], s')) (hs : s'.length < s.length)
      (hlines : Lines s' as rest) : Lines s (a :: as) rest

theorem Lines.length_le {as : List TomlAssignment} (h : Lines s as rest) :
    rest.length ≤ s.length := by
  induction h with
  | ended => exact Nat.le_refl _
  | header rest => exact Nat.le_succ _
  | cons _ hs _ ih => exact Nat.le_trans ih (Nat.le_of_lt hs)

/-- A line is put before others. -/
theorem Lines.assignment {name : String} {written : List Char} {v : TomlValue}
    {as : List TomlAssignment} {rest' : List Char} (hname : name.toList ≠ [])
    (hbare : name.toList.all isBareKeyCharacter = true)
    (hwritten : ∀ c ∈ (written ++ '\n' :: rest).head?, isBlank c = false)
    (hvalue : value nestingLimit (written ++ '\n' :: rest) = some (v, '\n' :: rest))
    (h : Lines rest as rest') :
    Lines (name.toList ++ " = ".toList ++ written ++ ['\n'] ++ rest) (⟨[], name, v⟩ :: as) rest' := by
  have htext : name.toList ++ " = ".toList ++ written ++ ['\n'] ++ rest =
      name.toList ++ ([' '] ++ '=' :: ([' '] ++ (written ++ '\n' :: rest))) := by
    rw [show " = ".toList = [' ', '=', ' '] from rfl]
    simp
  rw [htext]
  refine .cons (line_assignment hname hbare hwritten hvalue) ?_ h
  simp only [List.length_append, List.length_cons]
  omega

theorem Lines.assignments {as : List TomlAssignment} (h : Lines s as rest) :
    assignments s = some (as, rest) := by
  suffices hitems : ∃ lines, Items line s lines rest ∧ lines.flatten = as by
    obtain ⟨lines, hitems, rfl⟩ := hitems
    rw [assignments_eq]
    exact bind_of_some hitems.readMany
  induction h with
  | ended => exact ⟨[], .nil rfl, rfl⟩
  | header rest => exact ⟨[[]], .cons rfl (by simp) (.nil rfl), rfl⟩
  | cons h hs _ ih =>
    obtain ⟨lines, hitems, rfl⟩ := ih
    exact ⟨_ :: lines, .cons h hs hitems, rfl⟩

end Lines

/-! ## Sections -/

section Sections

variable {rest : List Char} {as : List TomlAssignment}

/-- A header in single brackets with what follows its line. -/
def underHeader (header body : List Char) : List Char := '[' :: (header ++ ']' :: '\n' :: body)

/-- A header with a key that is read as it was written, and the lines under it. -/
theorem section?_header {header body : List Char} {path : List String} {k : String}
    (hhead : (header ++ ']' :: '\n' :: body).head? ≠ some '[')
    (hkey : key (header ++ ']' :: '\n' :: body) = some ((path, k), ']' :: '\n' :: body))
    (h : Lines body as rest) : section? (underHeader header body) =
      some (some ⟨false, path, k, as⟩, rest) := by
  have hend : endOfLine ('\n' :: body) = some ((), body) := rfl
  unfold section? underHeader
  rw [peek_bind]
  refine char_bind.trans ?_
  rw [peek_bind]
  dsimp only
  rw [decide_eq_false hhead]
  simp only [hhead, if_false]
  refine (bind_of_some hkey).trans (char_bind.trans ?_)
  exact (bind_of_some hend).trans (bind_of_some h.assignments)

/-- A document is its lines up to the first header and its sections. -/
theorem document_of_lines {text : List Char} {sections : List TomlSection}
    (hmark : text.head? ≠ some '\ufeff') (hlines : Lines text as rest)
    (hsections : Items section? rest sections []) :
    readAll document text = some ⟨as, sections⟩ := by
  have hstart : (char '\ufeff' <|> pure ()) text = some ((), text) :=
    orElse_of_none (char_of_head? hmark)
  have hread : document text = some (⟨as, sections⟩, []) :=
    (bind_of_some hstart).trans
      ((bind_of_some hlines.assignments).trans (bind_of_some hsections.readMany))
  rw [readAll, hread]

end Sections
end TomlText

namespace TomlEntries

variable {front entries inner : TomlEntries} {p k : String} {as : List TomlAssignment}

theorem find?_append_self (hp : front.find? p = none) (v : TomlValue) :
    find? p (front ++ [(p, v)]) = some v := by
  have h : front.lookup p = none := hp
  rw [find?, List.lookup_append, h]
  simp

theorem replace_append_self (hp : front.find? p = none) (v v' : TomlValue) :
    replace p v' (front ++ [(p, v)]) = front ++ [(p, v')] := by
  have hne : ∀ e ∈ front, e.1 ≠ p := fun e he heq => by
    simpa [heq] using List.lookup_eq_none_iff.1 hp e he
  have hsame : front.map (fun e => if e.1 = p then (p, v') else e) = front :=
    (List.map_congr_left fun e he => if_neg (hne e he)).trans (List.map_id front)
  rw [replace, List.map_append, hsame]
  simp

/-- The first section of a table that nothing has mentioned before. -/
theorem addSection_first (hp : front.find? p = none) (has : addValues .header as [] = some inner) :
    addSection front ⟨false, [p], k, as⟩ =
      some (front ++ [(p, .table .implied [(k, .table .header inner)])]) := by
  have hnone : find? k [] = none := rfl
  simp [addSection, within, hp, open?, has, hnone]

/-- A further section of a table that only headers have mentioned before. -/
theorem addSection_next (hp : front.find? p = none) (hk : entries.find? k = none)
    (has : addValues .header as [] = some inner) :
    addSection (front ++ [(p, .table .implied entries)]) ⟨false, [p], k, as⟩ =
      some (front ++ [(p, .table .implied (entries ++ [(k, .table .header inner)]))]) := by
  simp [addSection, within, find?_append_self hp, canEnter, open?, hk, has, replace_append_self hp]

end TomlEntries
end Scanout
