/-!
# Lengths of time

A length of time is a whole number of nanoseconds. Its text names the largest unit
of `s`, `ms`, `µs` and `ns` that the length fills at least once, and gives the rest
as a decimal fraction without superfluous zeros.

Lengths are not bounded here, so a reading of the clock and a length always have a sum. A clock
that keeps its seconds in 64 bits has none where the sum would not fit, and adding them stops the
program there, before anything is waited for. A configured length never gets there: its milliseconds
fit in 64 bits, and it takes nearly `2 ^ 63` seconds.
-/

namespace Scanout

/-- A length of time, or a reading of the monotonic clock counted from its start. It is not bounded:
that a sum may not fit the clock is left out. -/
structure Duration where
  nanoseconds : Nat
  deriving DecidableEq, Inhabited

namespace Duration

def ofMilliseconds (ms : Nat) : Duration := ⟨ms * 1000000⟩

def ofSecondsAndNanos (s n : Nat) : Duration := ⟨s * 1000000000 + n⟩

def zero : Duration := ⟨0⟩

/-- Whole milliseconds, rounded down. -/
def milliseconds (d : Duration) : Nat := d.nanoseconds / 1000000

instance : Add Duration := ⟨fun a b => ⟨a.nanoseconds + b.nanoseconds⟩⟩

/-- The time from `b` to `a`, and nothing if `b` is the later one. -/
instance : Sub Duration := ⟨fun a b => ⟨a.nanoseconds - b.nanoseconds⟩⟩

instance : LE Duration := ⟨fun a b => a.nanoseconds ≤ b.nanoseconds⟩

instance (a b : Duration) : Decidable (a ≤ b) := Nat.decLe a.nanoseconds b.nanoseconds

/-- The digits of `n` after the point, `width` places wide, without the zeros at their end. -/
def fractionDigits (width n : Nat) : List Char :=
  let digits := Nat.toDigits 10 n
  let padded := List.replicate (width - digits.length) '0' ++ digits
  (padded.reverse.dropWhile (· == '0')).reverse

/-- `n / 10 ^ width` as a decimal with a unit. -/
def decimalWithUnit (n width : Nat) (unit : String) : String :=
  let whole := toString (n / Nat.pow 10 width)
  let rest := n % Nat.pow 10 width
  if rest = 0 then whole ++ unit
  else whole ++ "." ++ String.ofList (fractionDigits width rest) ++ unit

/-- The length in words, such as `1.5s`, `20ms`, `1.001µs` or `0ns`. -/
def text (d : Duration) : String :=
  let n := d.nanoseconds
  if n ≥ 1000000000 then decimalWithUnit n 9 "s"
  else if n ≥ 1000000 then decimalWithUnit n 6 "ms"
  else if n ≥ 1000 then decimalWithUnit n 3 "µs"
  else decimalWithUnit n 0 "ns"

end Duration
end Scanout
