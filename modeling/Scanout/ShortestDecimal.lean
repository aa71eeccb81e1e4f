/-!
# The shortest decimal of a binary fraction

A floating-point number stands for all reals that round to it. Its decimal text has the
fewest digits that still name one of those reals, and of the candidates with that many
digits the one nearest to the number; of two equally near ones the greater counts. It is
written positionally with a point, or, where that would take many zeros, with a power of ten.
-/

namespace Scanout

/-- A binary fraction `mantissa * 2 ^ exponent` with the reals that round to it: they reach
half a unit up and half a unit down, but only a quarter of a unit down where the numbers
below lie twice as dense. An even mantissa takes the ends in. -/
structure BinaryFraction where
  mantissa : Nat
  exponent : Int
  denserBelow : Bool

structure DecimalFraction where
  digits : Nat
  exponent : Int

namespace BinaryFraction

/-- The factor by which to multiply the numerator for a power of a base. -/
def above (base : Nat) (e : Int) : Nat := Nat.pow base e.toNat

/-- The factor by which to multiply the denominator for a power of a base. -/
def below (base : Nat) (e : Int) : Nat := Nat.pow base (-e).toNat

/-- The power of ten that the first digit of `num / den` counts. -/
def decimalExponent (num den : Nat) : Int :=
  if den ≤ num then ((Nat.toDigits 10 (num / den)).length : Int) - 1
  else -((Nat.toDigits 10 ((den - 1) / num)).length : Int)

/-- Of the multiples of `10 ^ k` next to the number, the nearest that rounds to it. -/
def nearestOnGrid (f : BinaryFraction) (k : Int) : Option DecimalFraction :=
  let scale := above 2 (f.exponent - 2) * below 10 k
  let unit := below 2 (f.exponent - 2) * above 10 k
  let value := 4 * f.mantissa * scale
  let least := (4 * f.mantissa - if f.denserBelow then 1 else 2) * scale
  let greatest := (4 * f.mantissa + 2) * scale
  let inside (x : Nat) : Bool :=
    if f.mantissa % 2 = 0 then least ≤ x && x ≤ greatest else least < x && x < greatest
  let lower := value / unit
  let upper := lower + 1
  match inside (lower * unit), inside (upper * unit) with
  | true, true =>
    if value - lower * unit < upper * unit - value then some ⟨lower, k⟩ else some ⟨upper, k⟩
  | true, false => some ⟨lower, k⟩
  | false, true => some ⟨upper, k⟩
  | false, false => none

/-- The shortest decimal of a positive number, for which 17 digits always suffice. -/
def shortest (f : BinaryFraction) : DecimalFraction :=
  let num := f.mantissa * above 2 f.exponent
  let den := below 2 f.exponent
  let first := decimalExponent num den
  let grids := (List.range 18).map fun (n : Nat) => first - (n : Int)
  (grids.findSome? f.nearestOnGrid).getD ⟨0, 0⟩

end BinaryFraction

/-- Positional text with a point, and at least one digit on each side of it. -/
def DecimalFraction.text (d : DecimalFraction) : String :=
  let digits := Nat.toDigits 10 d.digits
  if 0 ≤ d.exponent then
    String.ofList (digits ++ List.replicate d.exponent.toNat '0') ++ ".0"
  else
    let places := (-d.exponent).toNat
    let padded := List.replicate (places + 1 - digits.length) '0' ++ digits
    let whole := padded.take (padded.length - places)
    let rest := ((padded.drop (padded.length - places)).reverse.dropWhile (· == '0')).reverse
    String.ofList whole ++ "." ++ if rest = [] then "0" else String.ofList rest

/-- The power of ten that the first digit counts. -/
def DecimalFraction.magnitude (d : DecimalFraction) : Int :=
  d.exponent + (Nat.toDigits 10 d.digits).length - 1

/-- The digits as a number from one up to ten, with the power of ten that it is multiplied by. -/
def DecimalFraction.scientificText (d : DecimalFraction) : String :=
  let digits := ((Nat.toDigits 10 d.digits).reverse.dropWhile (· == '0')).reverse
  let point := if digits.length ≤ 1 then "" else "."
  String.ofList (digits.take 1) ++ point ++ String.ofList (digits.drop 1) ++ "e" ++
    toString d.magnitude

/-- Positional text from a ten-thousandth up to 10 ^ 16, and scientific text outside of that. -/
def DecimalFraction.shortText (d : DecimalFraction) : String :=
  if -4 ≤ d.magnitude ∧ d.magnitude < 16 then d.text else d.scientificText

/-- The text of a floating-point number given by its bits, the lowest `fractionBits` of which
are the fraction and the next `exponentBits` the exponent. -/
def floatBitsText (write : DecimalFraction → String) (fractionBits exponentBits bits : Nat) :
    String :=
  let fraction := bits % Nat.pow 2 fractionBits
  let exponent := bits / Nat.pow 2 fractionBits % Nat.pow 2 exponentBits
  let negative := bits / Nat.pow 2 (fractionBits + exponentBits) % 2 = 1
  let sign := if negative then "-" else ""
  let bias : Int := Nat.pow 2 (exponentBits - 1) - 1 + fractionBits
  if exponent = Nat.pow 2 exponentBits - 1 then
    if fraction = 0 then sign ++ "inf" else "NaN"
  else if exponent = 0 then
    if fraction = 0 then sign ++ "0.0"
    else sign ++ write (BinaryFraction.shortest ⟨fraction, 1 - bias, false⟩)
  else
    sign ++ write (BinaryFraction.shortest ⟨Nat.pow 2 fractionBits + fraction, exponent - bias,
      fraction = 0 ∧ 1 < exponent⟩)

/-- A double-precision number in decimal, written positionally. -/
def floatText (x : Float) : String := floatBitsText (·.text) 52 11 x.toBits.toNat

/-- A single-precision number in decimal, written in the shorter way. -/
def float32Text (x : Float32) : String := floatBitsText (·.shortText) 23 8 x.toBits.toNat

end Scanout
