/-!
# Mode requests

What a user may ask of an output: the mode the display prefers, the mode it is already
driven with, or a resolution with or without a refresh rate. A request is written
`preferred`, `current`, `<width>x<height>` or `<width>x<height>@<refresh>` with decimal
numbers below `2 ^ 32`; `ModeRequest.parse` reads that form and `ModeRequest.text` writes it.
-/

namespace Scanout

/-- How the mode of an output is chosen when the output is set up. -/
inductive ModeRequest
  /-- The first mode of the list, which is the one the display prefers. -/
  | preferred
  /-- The mode the output was already driven with. -/
  | current
  /-- The first mode of this size, and of this refresh rate if one is given. -/
  | resolution (width height : UInt32) (refresh : Option UInt32)
  deriving DecidableEq, Inhabited

structure MalformedModeRequest where
  text : String
  deriving DecidableEq

namespace ModeRequest

/-- The two sides of the first `c`, or nothing if there is none. -/
def splitOnce (c : Char) : List Char → Option (List Char × List Char)
  | [] => none
  | x :: rest =>
    if x = c then some ([], rest)
    else (splitOnce c rest).map fun (before, after) => (x :: before, after)

theorem splitOnce_eq_none_iff {c : Char} {s : List Char} : splitOnce c s = none ↔ c ∉ s := by
  induction s with
  | nil => simp [splitOnce]
  | cons x rest ih =>
    by_cases h : x = c
    · simp [splitOnce, h]
    · simp [splitOnce, h, ih, Ne.symm h]

theorem splitOnce_eq_some_iff {c : Char} {s before after : List Char} :
    splitOnce c s = some (before, after) ↔ s = before ++ c :: after ∧ c ∉ before := by
  induction s generalizing before with
  | nil => simp [splitOnce]
  | cons x rest ih =>
    by_cases h : x = c
    · subst h
      cases before with
      | nil => simp [splitOnce]
      | cons y ys => simp [splitOnce]; grind
    · cases before with
      | nil => simp [splitOnce, h]
      | cons y ys =>
        simp only [splitOnce, h, if_false, Option.map_eq_some_iff, Prod.exists, Prod.mk.injEq,
          List.cons.injEq, List.cons_append, List.mem_cons]
        constructor
        · rintro ⟨b, a, hs, ⟨rfl, rfl⟩, rfl⟩
          obtain ⟨rfl, hb⟩ := ih.1 hs
          exact ⟨⟨rfl, rfl⟩, by simp [Ne.symm h, hb]⟩
        · rintro ⟨⟨rfl, rfl⟩, hb⟩
          exact ⟨ys, after, ih.2 ⟨rfl, fun hm => hb (.inr hm)⟩, ⟨rfl, rfl⟩, rfl⟩

/-- Reads a number of one or more ASCII digits that fits into 32 bits. -/
def parseNumber (digits : List Char) : Option UInt32 :=
  if digits ≠ [] ∧ digits.all Char.isDigit then
    let value := Nat.ofDigitChars 10 digits 0
    if value < Nat.pow 2 32 then some (UInt32.ofNat value) else none
  else none

def parseSize (s : List Char) : Option (UInt32 × UInt32) :=
  match splitOnce 'x' s with
  | none => none
  | some (width, height) =>
    match parseNumber width, parseNumber height with
    | some width, some height => some (width, height)
    | _, _ => none

def parseResolution (s : List Char) : Option ModeRequest :=
  match splitOnce '@' s with
  | none => (parseSize s).map fun (width, height) => .resolution width height none
  | some (size, refresh) =>
    match parseNumber refresh, parseSize size with
    | some refresh, some (width, height) => some (.resolution width height (some refresh))
    | _, _ => none

/-- Reads a request; a text of no other form is given back in the error. -/
def parse (s : String) : Except MalformedModeRequest ModeRequest :=
  if s = "preferred" then .ok .preferred
  else if s = "current" then .ok .current
  else match parseResolution s.toList with
    | some request => .ok request
    | none => .error ⟨s⟩

def numberText (n : UInt32) : List Char := Nat.toDigits 10 n.toNat

def text : ModeRequest → String
  | .preferred => "preferred"
  | .current => "current"
  | .resolution width height none =>
    String.ofList (numberText width ++ 'x' :: numberText height)
  | .resolution width height (some refresh) =>
    String.ofList (numberText width ++ 'x' :: numberText height ++ '@' :: numberText refresh)

end ModeRequest
end Scanout
