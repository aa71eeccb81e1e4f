import Mathlib.Tactic.SplitIfs
import Scanout.Proofs.TextReading
import Scanout.TomlWriter

/-!
# Strings and keys are read as they were written

Whatever form a string is written in, reading gives it back, as long as no quote follows it. The same
holds of keys, which are written bare if they can be.
-/

namespace Scanout
namespace TomlText

open Reader

variable {c : Char} {s rest : List Char}

theorem isTextCharacter_of_plain (hplain : needsEscape c = false) (hbreak : c ≠ '\n') :
    isTextCharacter c = true := by
  simp only [needsEscape, isTextCharacter, Bool.or_eq_false_iff, Bool.and_eq_false_iff,
    decide_eq_false_iff_not, bne_eq_false_iff_eq] at hplain ⊢
  grind

/-- The digits of an escape give the number of the character back. -/
theorem hexNumber?_numberEscape (h : needsEscape c = true) :
    hexNumber? ((numberEscape c).drop 2) = some c.toNat := by
  have hsmall : c.toNat < 128 := by
    simp only [needsEscape, Bool.or_eq_true, Bool.and_eq_true, decide_eq_true_eq] at h
    omega
  have hall : ∀ n < 128, hexNumber? [upperHexDigit (n / 4096 % 16), upperHexDigit (n / 256 % 16),
      upperHexDigit (n / 16 % 16), upperHexDigit (n % 16)] = some n := by decide +kernel
  exact hall _ hsmall

theorem escape_numberEscape (h : needsEscape c = true) :
    escape ((numberEscape c).tail ++ rest) = some (c, rest) := by
  change scalar 4 ((numberEscape c).drop 2 ++ rest) = _
  unfold scalar
  have htake : take 4 ((numberEscape c).drop 2 ++ rest) = some ((numberEscape c).drop 2, rest) := rfl
  refine (bind_of_some htake).trans ?_
  rw [hexNumber?_numberEscape h]
  have hvalid : decide c.toNat.isValidChar = true := decide_eq_true c.valid
  refine (require_bind hvalid).trans ?_
  rw [Char.ofNat_toNat]
  rfl

/-- A character is written as it is or as an escape that reads back as the character. -/
theorem escaped_eq (c : Char) : escaped c = [c] ∧ needsEscape c = false ∧ c ≠ '\\' ∨
    ∃ x e, escaped c = '\\' :: x :: e ∧ x ∈ ['b', 't', 'f', 'r', '\\', 'u'] ∧
      ∀ rest, escape (x :: e ++ rest) = some (c, rest) := by
  unfold escaped
  split_ifs with hb ht hf hr hslash hescape
  · exact .inr ⟨'b', [], rfl, by simp, fun rest => by subst hb; rfl⟩
  · exact .inr ⟨'t', [], rfl, by simp, fun rest => by subst ht; rfl⟩
  · exact .inr ⟨'f', [], rfl, by simp, fun rest => by subst hf; rfl⟩
  · exact .inr ⟨'r', [], rfl, by simp, fun rest => by subst hr; rfl⟩
  · exact .inr ⟨'\\', [], rfl, by simp, fun rest => by subst hslash; rfl⟩
  · exact .inr ⟨'u', _, rfl, by simp, fun rest => escape_numberEscape hescape⟩
  · exact .inl ⟨rfl, by simpa using hescape, hslash⟩

/-! ## Double quotes -/

theorem basicPiece_of_escape {x : Char} {e : List Char}
    (h : escape (x :: e ++ rest) = some (c, rest)) :
    basicPiece ('\\' :: x :: e ++ rest) = some (some c, rest) := map_of_some h

theorem basicPiece_other (hquote : s.head? ≠ some '"') (hslash : s.head? ≠ some '\\') :
    basicPiece s = (some <$> satisfying isTextCharacter : Reader (Option Char)) s := by
  unfold basicPiece
  rw [peek_bind]
  generalize s.head? = x at hquote hslash
  split
  · contradiction
  · contradiction
  · rfl

/-- A character as it is written between double quotes. -/
def basicForm (c : Char) : List Char :=
  if c = '"' then ['\\', '"'] else if c = '\n' then ['\\', 'n'] else escaped c

theorem head?_basicForm (c : Char) : ∃ x e, basicForm c = x :: e ∧ x ≠ '"' := by
  unfold basicForm
  split_ifs with hquote hbreak
  · exact ⟨_, _, rfl, by decide⟩
  · exact ⟨_, _, rfl, by decide⟩
  · rcases escaped_eq c with ⟨heq, -⟩ | ⟨x, e, heq, -⟩
    · exact ⟨c, [], heq, hquote⟩
    · exact ⟨_, _, heq, by decide⟩

/-- A character between double quotes is read back, whatever follows. -/
theorem basicPiece_basicForm (c : Char) (rest : List Char) :
    basicPiece (basicForm c ++ rest) = some (some c, rest) := by
  unfold basicForm
  split_ifs with hquote hbreak
  · subst hquote
    rfl
  · subst hbreak
    rfl
  · rcases escaped_eq c with ⟨heq, hplain, hslash⟩ | ⟨x, e, heq, -, hescape⟩
    · rw [heq, List.singleton_append, basicPiece_other (by simpa using hquote) (by simpa using hslash)]
      exact map_of_some (satisfying_cons (isTextCharacter_of_plain hplain hbreak))
    · rw [heq]
      exact basicPiece_of_escape (hescape rest)

theorem basicString_inBasic (s rest : List Char) :
    basicString (inBasic s ++ rest) = some (s, rest) := by
  have hitems : Items basicPiece (basicBody s ++ '"' :: rest) s ('"' :: rest) :=
    .flatMap (fun c _ => by obtain ⟨x, e, heq, -⟩ := head?_basicForm c; simp [heq])
      (fun c _ => basicPiece_basicForm c) rfl
  unfold basicString
  rw [inBasic, List.cons_append, List.cons_append, List.append_assoc]
  refine char_bind.trans ((bind_of_some hitems.readMany).trans ?_)
  exact char_bind

/-! ## Single quotes -/

/-- A line without single quotes can stand between them. -/
theorem literalString_inLiteral (hplain : ∀ c ∈ s, needsEscape c = false) (hbreak : '\n' ∉ s)
    (hquote : '\'' ∉ s) (rest : List Char) : literalString (inLiteral s ++ rest) = some (s, rest) := by
  have htext : ∀ c ∈ s, (isTextCharacter c && c != '\'') = true := fun c hc => by
    have hne : c ≠ '\'' := fun heq => hquote (heq ▸ hc)
    simp [isTextCharacter_of_plain (hplain c hc) fun heq => hbreak (heq ▸ hc), hne]
  have hrun : Reader.takeWhile (fun c => isTextCharacter c && c != '\'') (s ++ '\'' :: rest) =
      some (s, '\'' :: rest) := takeWhile_append htext (by simp)
  unfold literalString
  rw [inLiteral, List.cons_append, List.cons_append, List.append_assoc]
  exact char_bind.trans ((bind_of_some hrun).trans char_bind)

/-! ## Three quotes -/

section ThreeQuotes

variable {quote : Char} {piece : Reader (Option (List Char))} {text w p : List Char} {n : Nat}

/-- The text is read as pieces of the string up to the quotes that close it, of which one or two more
may belong to the string. -/
def ReadsUpTo (quote : Char) (piece : Reader (Option (List Char))) (text s rest : List Char) : Prop :=
  ∃ parts last, Items piece text parts (List.replicate (last + 3) quote ++ rest) ∧ last ≤ 2 ∧
    parts.flatten ++ List.replicate last quote = s

/-- Quotes are left to `innerQuotes`. -/
def LeavesQuotes (quote : Char) (piece : Reader (Option (List Char))) : Prop :=
  ∀ s, s.head? = some quote → piece s = innerQuotes quote s

theorem takeWhile_quotes (hrest : rest.head? ≠ some quote) :
    Reader.takeWhile (· == quote) (List.replicate n quote ++ rest) =
      some (List.replicate n quote, rest) := by
  refine takeWhile_append (fun c hc => by simp [List.eq_of_mem_replicate hc]) fun c hc => ?_
  simpa using fun heq : c = quote => hrest (heq ▸ hc)

/-- A run of one or two quotes is inside of a string, and a longer one closes it. -/
theorem innerQuotes_run (hrest : rest.head? ≠ some quote) :
    innerQuotes quote (List.replicate n quote ++ rest) =
      if n < 3 then some (some (List.replicate n quote), rest)
      else some (none, List.replicate n quote ++ rest) := by
  have hrun : (List.replicate n quote ++ rest).takeWhile (· == quote) = List.replicate n quote :=
    congrArg Prod.fst (Option.some.inj (takeWhile_quotes hrest))
  unfold innerQuotes
  simp only [hrun, List.length_replicate]
  rw [List.drop_append_of_le_length (by simp)]
  simp

theorem ReadsUpTo.closing (hpiece : LeavesQuotes quote piece) (hn : n ≤ 2) (hrest : rest.head? ≠ some quote) :
    ReadsUpTo quote piece (List.replicate (n + 3) quote ++ rest) (List.replicate n quote) rest := by
  refine ⟨[], n, .nil ?_, hn, rfl⟩
  rw [hpiece _ rfl, innerQuotes_run hrest, if_neg (by omega)]

theorem ReadsUpTo.cons (h : ReadsUpTo quote piece text s rest) (hw : w ≠ [])
    (hpiece : piece (w ++ text) = some (some p, text)) :
    ReadsUpTo quote piece (w ++ text) (p ++ s) rest := by
  obtain ⟨parts, last, hitems, hlast, rfl⟩ := h
  refine ⟨p :: parts, last, .cons hpiece ?_ hitems, hlast, ?_⟩
  · have hpos := List.length_pos_iff.2 hw
    simp only [List.length_append]
    omega
  · simp

/-- A run of quotes that does not close the string is a piece of it. -/
theorem ReadsUpTo.pending (h : ReadsUpTo quote piece text s rest) (hpiece : LeavesQuotes quote piece)
    (hn : n ≤ 2) (hhead : text.head? ≠ some quote) :
    ReadsUpTo quote piece (List.replicate n quote ++ text) (List.replicate n quote ++ s) rest := by
  cases n with
  | zero => exact h
  | succ n =>
    refine h.cons (by simp) ?_
    rw [hpiece _ rfl, innerQuotes_run hhead, if_pos (by omega)]

theorem closingQuotes_run (hn : n ≤ 2) (hrest : rest.head? ≠ some quote) :
    closingQuotes quote (List.replicate (n + 3) quote ++ rest) =
      some (List.replicate n quote, rest) := by
  refine (bind_of_some (takeWhile_quotes hrest)).trans ?_
  refine (require_bind ?_).trans ?_
  · simpa using hn
  · rw [List.drop_replicate]
    rfl

theorem lineBreak_of_head? (hnewline : s.head? ≠ some '\n') (hreturn : s.head? ≠ some '\r') :
    lineBreak s = none := by
  unfold lineBreak
  rw [orElse_of_none (char_of_head? hnewline), bind_of_none (char_of_head? hreturn)]

/-- A line break is put after the opening quotes of a string with line breaks, and does not count. -/
theorem longString_of_reads (hreads : ReadsUpTo quote piece text s rest)
    (hrest : rest.head? ≠ some quote)
    (hhead : '\n' ∉ s → text.head? ≠ some '\n' ∧ text.head? ≠ some '\r') :
    longString quote piece ([quote, quote, quote] ++ openingBreak s ++ text) = some (s, rest) := by
  have hopening : (lineBreak <|> pure ()) (openingBreak s ++ text) = some ((), text) := by
    unfold openingBreak
    split
    next => rfl
    next hbreak => exact orElse_of_none (lineBreak_of_head? (hhead hbreak).1 (hhead hbreak).2)
  obtain ⟨parts, last, hitems, hlast, rfl⟩ := hreads
  rw [List.append_assoc]
  refine (bind_of_some (exactly_append _ _)).trans ((bind_of_some hopening).trans ?_)
  refine (bind_of_some hitems.readMany).trans ?_
  exact bind_of_some (closingQuotes_run hlast hrest)

end ThreeQuotes

theorem leavesQuotes_longBasicPiece : LeavesQuotes '"' longBasicPiece := fun s h => by
  unfold longBasicPiece
  rw [peek_bind, h]
  rfl

theorem leavesQuotes_longLiteralPiece : LeavesQuotes '\'' longLiteralPiece := fun s h => by
  unfold longLiteralPiece
  rw [peek_bind, h]
  rfl

theorem longBasicPiece_of_escape {x : Char} {e : List Char} (hblank : isBlank x = false)
    (hnewline : x ≠ '\n') (hreturn : x ≠ '\r') (h : escape (x :: e ++ rest) = some (c, rest)) :
    longBasicPiece ('\\' :: x :: e ++ rest) = some (some [c], rest) := by
  have hskip : skippedBreak (x :: e ++ rest) = none := by
    have hblanks : blanks (x :: e ++ rest) = some ((), x :: e ++ rest) := by
      simp [blanks, discard, Functor.discard, Functor.mapConst, StateT.map,
        Reader.takeWhile, hblank]
    exact (bind_of_some hblanks).trans
      (bind_of_none (lineBreak_of_head? (by simpa using hnewline) (by simpa using hreturn)))
  refine (orElse_of_none (bind_of_none hskip)).trans ?_
  exact bind_of_some h

theorem longBasicPiece_other (hquote : s.head? ≠ some '"') (hslash : s.head? ≠ some '\\')
    (hnewline : s.head? ≠ some '\n') (hreturn : s.head? ≠ some '\r') :
    longBasicPiece s = (do return some [← satisfying isTextCharacter] : Reader _) s := by
  unfold longBasicPiece
  rw [peek_bind]
  generalize s.head? = x at hquote hslash hnewline hreturn
  split <;> first | contradiction | rfl

theorem longLiteralPiece_other (hquote : s.head? ≠ some '\'') (hnewline : s.head? ≠ some '\n')
    (hreturn : s.head? ≠ some '\r') :
    longLiteralPiece s = (do return some [← satisfying isTextCharacter] : Reader _) s := by
  unfold longLiteralPiece
  rw [peek_bind]
  generalize s.head? = x at hquote hnewline hreturn
  split <;> first | contradiction | rfl

theorem ne_return_of_plain (hplain : needsEscape c = false) : c ≠ '\r' := by
  rintro rfl
  contradiction

/-- What a character is written as begins with no quote and no line break. -/
theorem head?_escaped (hquote : c ≠ '"') (hbreak : c ≠ '\n') : ∃ x e, escaped c = x :: e ∧ x ≠ '"' ∧
    x ≠ '\n' ∧ x ≠ '\r' := by
  rcases escaped_eq c with ⟨heq, hplain, -⟩ | ⟨x, e, heq, -⟩
  · exact ⟨c, [], heq, hquote, hbreak, ne_return_of_plain hplain⟩
  · exact ⟨'\\', x :: e, heq, by decide, by decide, by decide⟩

theorem longBasicPiece_escaped (hquote : c ≠ '"') (hbreak : c ≠ '\n') (rest : List Char) :
    longBasicPiece (escaped c ++ rest) = some (some [c], rest) := by
  rcases escaped_eq c with ⟨heq, hplain, hslash⟩ | ⟨x, e, heq, hx, hescape⟩
  · have hreturn := ne_return_of_plain hplain
    rw [heq, List.singleton_append, longBasicPiece_other (by simpa using hquote)
      (by simpa using hslash) (by simpa using hbreak) (by simpa using hreturn)]
    exact bind_of_some (satisfying_cons (isTextCharacter_of_plain hplain hbreak))
  · have hletter : isBlank x = false ∧ x ≠ '\n' ∧ x ≠ '\r' := by
      simp only [List.mem_cons, List.not_mem_nil, or_false] at hx
      rcases hx with rfl | rfl | rfl | rfl | rfl | rfl <;> decide
    rw [heq]
    exact longBasicPiece_of_escape hletter.1 hletter.2.1 hletter.2.2 (hescape rest)

/-- With `n` quotes written before, the inside of a string in three double quotes is read to its end. -/
theorem readsUpTo_longBasicBody {n : Nat} (hn : n ≤ 2) (hrest : rest.head? ≠ some '"') :
    ReadsUpTo '"' longBasicPiece
      (List.replicate n '"' ++ (longBasicBody n s ++ (List.replicate 3 '"' ++ rest)))
      (List.replicate n '"' ++ s) rest := by
  have hminds := leavesQuotes_longBasicPiece
  induction s generalizing n with
  | nil =>
    rw [longBasicBody, List.nil_append, ← List.append_assoc, List.replicate_append_replicate,
      List.append_nil]
    exact .closing hminds hn hrest
  | cons c s ih =>
    unfold longBasicBody
    split_ifs with hquote hfew hbreak
    · subst hquote
      have h := ih (n := n + 1) (by omega)
      rwa [List.replicate_succ', List.append_assoc, List.append_assoc] at h
    · subst hquote
      refine .pending (.cons (w := ['\\', '"']) (p := ['"']) (ih (n := 0) (by omega)) (by simp) ?_)
        hminds hn (by simp)
      exact longBasicPiece_of_escape (by decide) (by decide) (by decide) rfl
    · subst hbreak
      exact .pending (.cons (w := ['\n']) (p := ['\n']) (ih (n := 0) (by omega)) (by simp) rfl)
        hminds hn (by simp)
    · obtain ⟨x, e, heq, hx, -⟩ := head?_escaped hquote hbreak
      rw [List.append_assoc]
      refine .pending (.cons (p := [c]) (ih (n := 0) (by omega)) (by simp [heq]) ?_) hminds hn
        (by simpa [heq] using hx)
      exact longBasicPiece_escaped hquote hbreak _

/-- A text without long runs of single quotes stands between three of them as it is. -/
theorem readsUpTo_literal {n : Nat} (hplain : ∀ c ∈ s, needsEscape c = false)
    (hrun : longestRun '\'' n s < 3) (hrest : rest.head? ≠ some '\'') :
    ReadsUpTo '\'' longLiteralPiece
      (List.replicate n '\'' ++ (s ++ (List.replicate 3 '\'' ++ rest)))
      (List.replicate n '\'' ++ s) rest := by
  have hminds := leavesQuotes_longLiteralPiece
  induction s generalizing n with
  | nil =>
    have hn : n ≤ 2 := Nat.le_of_lt_succ (by simpa [longestRun] using hrun)
    rw [List.nil_append, ← List.append_assoc, List.replicate_append_replicate, List.append_nil]
    exact .closing hminds hn hrest
  | cons c s ih =>
    have hrest' := fun c' hc' => hplain c' (List.mem_cons_of_mem _ hc')
    unfold longestRun at hrun
    split_ifs at hrun with hquote
    · subst hquote
      have h := ih (n := n + 1) hrest' hrun
      rwa [List.replicate_succ', List.append_assoc, List.append_assoc] at h
    · have hn : n ≤ 2 := by omega
      refine .pending (.cons (w := [c]) (p := [c]) (ih (n := 0) hrest' (by omega)) (by simp) ?_)
        hminds hn (by simpa using hquote)
      by_cases hbreak : c = '\n'
      · subst hbreak
        rfl
      · have hc := hplain c List.mem_cons_self
        have hreturn := ne_return_of_plain hc
        rw [List.singleton_append, longLiteralPiece_other (by simpa using hquote)
          (by simpa using hbreak) (by simpa using hreturn)]
        exact bind_of_some (satisfying_cons (isTextCharacter_of_plain hc hbreak))

theorem longString_inLongBasic (hrest : rest.head? ≠ some '"') :
    longString '"' longBasicPiece (inLongBasic s ++ rest) = some (s, rest) := by
  have hreads := readsUpTo_longBasicBody (s := s) (n := 0) (by omega) hrest
  have hlong := longString_of_reads hreads hrest fun hbreak => ?_
  · simpa [inLongBasic] using hlong
  · cases s with
    | nil => simp [longBasicBody]
    | cons c s =>
      by_cases hquote : c = '"'
      · simp [longBasicBody, hquote]
      · have hc : c ≠ '\n' := fun heq => hbreak (heq ▸ List.mem_cons_self)
        obtain ⟨x, e, heq, -, hx⟩ := head?_escaped hquote hc
        simpa [longBasicBody, hquote, hc, heq] using hx

theorem longString_inLongLiteral (hplain : ∀ c ∈ s, needsEscape c = false)
    (hrun : longestRun '\'' 0 s < 3) (hrest : rest.head? ≠ some '\'') :
    longString '\'' longLiteralPiece (inLongLiteral s ++ rest) = some (s, rest) := by
  have hreads := readsUpTo_literal hplain hrun hrest
  have hlong := longString_of_reads hreads hrest fun hbreak => ?_
  · simpa [inLongLiteral] using hlong
  · cases s with
    | nil => simp
    | cons c s =>
      have hc : c ≠ '\n' := fun heq => hbreak (heq ▸ List.mem_cons_self)
      simpa using ⟨hc, ne_return_of_plain (hplain c List.mem_cons_self)⟩

/-! ## The form that is chosen -/

theorem longString_eq_none {quote : Char} {piece : Reader (Option (List Char))}
    (h : ∀ rest, s ≠ [quote, quote, quote] ++ rest) : longString quote piece s = none :=
  bind_of_none (exactly_eq_none h)

/-- Double quotes around one line are not taken for three. -/
theorem longString_inBasic {piece : Reader (Option (List Char))} (hquote : rest.head? ≠ some '"') :
    longString '"' piece (inBasic s ++ rest) = none := by
  refine longString_eq_none fun rest' heq => ?_
  cases s with
  | nil => simp_all [inBasic, basicBody]
  | cons c s =>
    obtain ⟨x, e, hform, hx⟩ := head?_basicForm c
    rw [inBasic, show basicBody (c :: s) = basicForm c ++ basicBody s from rfl, hform] at heq
    have hsecond := congrArg (·[1]?) heq
    simp only [List.cons_append, List.getElem?_cons_succ, List.getElem?_cons_zero] at hsecond
    exact hx (Option.some.inj hsecond)

theorem longString_inLiteral {piece : Reader (Option (List Char))} (hs : '\'' ∉ s)
    (hquote : rest.head? ≠ some '\'') : longString '\'' piece (inLiteral s ++ rest) = none := by
  refine longString_eq_none fun rest' heq => ?_
  cases s with
  | nil => simp_all [inLiteral]
  | cons c s => simp_all [inLiteral]

theorem plain_of_any (h : (!s.any needsEscape) = true) : ∀ c ∈ s, needsEscape c = false := by
  simpa using h

/-- Whatever form a string is written in, it is read back if no quote follows. -/
theorem string_stringForm (hdouble : rest.head? ≠ some '"') (hsingle : rest.head? ≠ some '\'') :
    string (stringForm s ++ rest) = some (String.ofList s, rest) := by
  refine map_of_some ?_
  have hlong (t : List Char) : longString '"' longBasicPiece ('\'' :: t) = none :=
    longString_eq_none (by simp)
  have hshort (t : List Char) : basicString ('\'' :: t) = none := rfl
  unfold stringForm
  dsimp only
  split_ifs with hbasic hliteral hlongBasic hlongLiteral
  · exact (orElse_of_none (longString_inBasic hdouble)).trans
      (orElse_of_some (basicString_inBasic s rest))
  · obtain ⟨hplain, hbreak, hs⟩ := hliteral
    refine (orElse_of_none (hlong _)).trans ((orElse_of_none (hshort _)).trans ?_)
    exact (orElse_of_none (longString_inLiteral hs hsingle)).trans
      (literalString_inLiteral (plain_of_any hplain) hbreak hs rest)
  · exact orElse_of_some (longString_inLongBasic hdouble)
  · obtain ⟨hplain, hrun⟩ := hlongLiteral
    refine (orElse_of_none (hlong _)).trans ((orElse_of_none (hshort _)).trans ?_)
    exact orElse_of_some (longString_inLongLiteral (plain_of_any hplain) hrun hsingle)
  · exact orElse_of_some (longString_inLongBasic hdouble)
  · exact (orElse_of_none (longString_inBasic hdouble)).trans
      (orElse_of_some (basicString_inBasic s rest))

/-! ## Keys -/

theorem blanks_run {gap : List Char} (hgap : ∀ c ∈ gap, isBlank c = true)
    (hrest : ∀ c ∈ rest.head?, isBlank c = false) : blanks (gap ++ rest) = some ((), rest) :=
  bind_of_some (f := fun _ => pure ()) (takeWhile_append hgap hrest)

theorem blanks_none (hs : ∀ c ∈ s.head?, isBlank c = false) : blanks s = some ((), s) :=
  blanks_run (List.forall_mem_nil _) hs

theorem isBareKeyCharacter_of_blank (h : isBlank c = true) : isBareKeyCharacter c = false := by
  obtain rfl | rfl : c = ' ' ∨ c = '\t' := by simpa [isBlank] using h
  · decide
  · decide

theorem keyPart_bare (hs : s ≠ []) (hbare : ∀ c ∈ s, isBareKeyCharacter c = true)
    (hrest : ∀ c ∈ rest.head?, isBareKeyCharacter c = false) :
    keyPart (s ++ rest) = (do blanks; pure (String.ofList s) : Reader String) rest := by
  have hrun : Reader.takeWhile isBareKeyCharacter (s ++ rest) = some (s, rest) :=
    takeWhile_append hbare hrest
  obtain ⟨c, t, rfl⟩ := List.exists_cons_of_ne_nil hs
  have hc := hbare c List.mem_cons_self
  have hstart : blanks (c :: t ++ rest) = some ((), c :: t ++ rest) := by
    refine blanks_none fun c' hc' => ?_
    obtain rfl : c = c' := by simpa using hc'
    refine Bool.eq_false_iff.2 fun hblank => ?_
    rw [isBareKeyCharacter_of_blank hblank] at hc
    contradiction
  unfold keyPart
  refine (bind_of_some hstart).trans ?_
  rw [peek_bind]
  have hdouble : (c :: t ++ rest).head? ≠ some '"' := by
    rintro ⟨⟩
    contradiction
  have hsingle : (c :: t ++ rest).head? ≠ some '\'' := by
    rintro ⟨⟩
    contradiction
  generalize (c :: t ++ rest).head? = x at hdouble hsingle
  split
  · contradiction
  · contradiction
  · exact (bind_of_some hrun).trans (require_bind rfl)

/-- A key is read with the blanks after it. -/
theorem keyPart_keyForm {gap : List Char} (hgap : ∀ c ∈ gap, isBlank c = true)
    (hrest : ∀ c ∈ rest.head?, isBareKeyCharacter c = false ∧ isBlank c = false) :
    keyPart (keyForm s ++ (gap ++ rest)) = some (String.ofList s, rest) := by
  have hend : (do blanks; pure (String.ofList s) : Reader String) (gap ++ rest) =
      some (String.ofList s, rest) := bind_of_some (blanks_run hgap fun c hc => (hrest c hc).2)
  have hdouble : keyPart (inBasic s ++ (gap ++ rest)) = some (String.ofList s, rest) := by
    refine (bind_of_some (blanks_none (by simp [inBasic, isBlank]))).trans ?_
    rw [peek_bind]
    exact (bind_of_some (basicString_inBasic s _)).trans hend
  unfold keyForm
  dsimp only
  split_ifs with hbare hbasic hliteral
  · refine (keyPart_bare hbare.1 (by simpa using hbare.2) fun c hc => ?_).trans hend
    cases gap with
    | nil => exact (hrest c hc).1
    | cons x gap =>
      obtain rfl : x = c := by simpa using hc
      exact isBareKeyCharacter_of_blank (hgap x List.mem_cons_self)
  · exact hdouble
  · obtain ⟨hplain, hbreak, hs⟩ := hliteral
    refine (bind_of_some (blanks_none (by simp [inLiteral, isBlank]))).trans ?_
    rw [peek_bind]
    exact (bind_of_some (literalString_inLiteral (plain_of_any hplain) hbreak hs _)).trans hend
  · exact hdouble

end TomlText
end Scanout
