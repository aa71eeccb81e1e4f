import Scanout.TomlString
import Scanout.TomlValue

/-!
# Numbers, dates and times of TOML documents

Digits may be parted by single underscores. Whole numbers have 64 bits and a sign, and those
out of range are refused, as is a fraction that is too large, but not one that is too far
below zero. Dates have to exist in the calendar; a minute may have a leap second.
-/

namespace Scanout
namespace TomlText

open Reader

/-- Whether digits are parted by single underscores only. -/
def wellParted : List Char → Bool
  | [] => false
  | ['_'] => false
  | '_' :: _ => false
  | [_] => true
  | _ :: '_' :: rest => wellParted rest
  | _ :: rest => wellParted rest

/-- Digits of a class with underscores between them, which are left out. -/
def digitRun (isDigit : Char → Bool) : Reader (List Char) := do
  let run ← takeWhile fun c => isDigit c || c == '_'
  require (wellParted run)
  return run.filter (· ≠ '_')

def decimalRun : Reader (List Char) := digitRun Char.isDigit

/-- The number that digits make in a base. -/
def numberIn (base : Nat) (digits : List Char) : Nat :=
  digits.foldl (fun n c => base * n + (hexValue? c).getD 0) 0

/-- A whole number in its range. -/
def integer (n : Int) : Reader TomlValue := do
  require (-Int.pow 2 63 ≤ n && n < Int.pow 2 63)
  return .integer n

/-- A whole number in another base than ten, which is named by a letter after a zero. -/
def basedInteger : Reader TomlValue := do
  char '0'
  let (base, isDigit) ← match ← next with
    | 'x' => pure (16, fun c : Char => (hexValue? c).isSome)
    | 'o' => pure (8, fun c : Char => '0' ≤ c && c ≤ '7')
    | 'b' => pure (2, fun c : Char => c == '0' || c == '1')
    | _ => failure
  integer (numberIn base (← digitRun isDigit))

/-- `±digits * 10 ^ exponent` as a floating-point number. Beyond a few hundred places the result
is infinite or zero whatever the digits are. -/
def decimalFloat (negative : Bool) (digits : Nat) (exponent : Int) : Float :=
  let places := (Nat.toDigits 10 digits).length + exponent
  let size : Float :=
    if digits = 0 ∨ places < -330 then 0
    else if 310 < places then 1 / 0
    else Float.ofScientific digits (exponent < 0) exponent.natAbs
  if negative then -size else size

/-- A floating-point number that is not infinite by overflow. -/
def finite (x : Float) : Reader TomlValue := do
  require (x != 1 / 0)
  return .float x

/-- A sign: whether it is a minus, if there is one. -/
def sign : Reader (Option Bool) := do
  match ← peek with
  | some '-' => do discard next; return some true
  | some '+' => do discard next; return some false
  | _ => return none

def fraction : Reader (List Char) := do
  char '.'
  decimalRun

def exponent : Reader Int := do
  discard (satisfying fun c => c == 'e' || c == 'E')
  let negative := (← sign).getD false
  let n := numberIn 10 (← decimalRun)
  return if negative then -n else n

/-- A decimal number. Its whole part has no superfluous zeros. -/
def decimal (negative : Bool) : Reader TomlValue := do
  let whole ← decimalRun
  require (whole.length = 1 || whole.head? ≠ some '0')
  let part ← optional fraction
  let power ← optional exponent
  match part, power with
  | none, none =>
    let n : Int := numberIn 10 whole
    integer (if negative then -n else n)
  | part, power =>
    let part := part.getD []
    finite (decimalFloat negative (numberIn 10 (whole ++ part)) (power.getD 0 - part.length))

def number : Reader TomlValue := do
  let s ← sign
  let negative := s.getD false
  match ← peek with
  | some 'i' => do exactly "inf".toList; return .float (if negative then -(1 / 0) else 1 / 0)
  | some 'n' => do exactly "nan".toList; return .float (0 / 0)
  | _ => if s.isNone then basedInteger <|> decimal negative else decimal negative

/-- A number of just so many digits in a range. -/
def digitsWithin (count least greatest : Nat) : Reader Nat := do
  let digits ← take count
  require (digits.all Char.isDigit)
  let n := numberIn 10 digits
  require (least ≤ n && n ≤ greatest)
  return n

def daysOfMonth (year month : Nat) : Nat :=
  if month = 2 then
    if year % 4 = 0 ∧ (year % 100 ≠ 0 ∨ year % 400 = 0) then 29 else 28
  else if month = 4 ∨ month = 6 ∨ month = 9 ∨ month = 11 then 30 else 31

def date : Reader TomlDate := do
  let year ← digitsWithin 4 0 9999
  char '-'
  let month ← digitsWithin 2 1 12
  char '-'
  let day ← digitsWithin 2 1 (daysOfMonth year month)
  return ⟨year, month, day⟩

/-- The fraction of a second in nanoseconds; further digits are dropped. -/
def nanoseconds : Reader Nat := do
  char '.'
  let digits ← takeWhile Char.isDigit
  require (!digits.isEmpty)
  return numberIn 10 ((digits ++ List.replicate 9 '0').take 9)

def time : Reader TomlTime := do
  let hour ← digitsWithin 2 0 23
  char ':'
  let minute ← digitsWithin 2 0 59
  char ':'
  let second ← digitsWithin 2 0 60
  let nanosecond ← optional nanoseconds
  return ⟨hour, minute, second, nanosecond.getD 0⟩

def offset : Reader TomlOffset := do
  match ← next with
  | 'Z' | 'z' => return .utc
  | '+' => return .minutes (← distance)
  | '-' => return .minutes (-(← distance))
  | _ => failure
where
  distance : Reader Int := do
    let hour ← digitsWithin 2 0 23
    char ':'
    let minute ← digitsWithin 2 0 59
    return hour * 60 + minute

def dateTime : Reader TomlDateTime :=
  (do
    let d ← date
    let rest ← optional do
      discard (satisfying fun c => c == 'T' || c == 't' || c == ' ')
      let t ← time
      return (t, ← optional offset)
    match rest with
    | some (t, offset) => return .dateTime d t offset
    | none => return .date d) <|>
  (do return .time (← time))

end TomlText
end Scanout
