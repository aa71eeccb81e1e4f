import Scanout.QuotedText
import Scanout.ShortestDecimal

/-!
# Values of TOML documents

A document is a table of named values. A table remembers how it came about, because that
decides what may still be added to it: a table in braces and one with a header of its own
are complete, while one that is only implied by longer names can be added to.
-/

namespace Scanout

structure TomlDate where
  year : Nat
  month : Nat
  day : Nat
  deriving DecidableEq, Inhabited

structure TomlTime where
  hour : Nat
  minute : Nat
  second : Nat
  nanosecond : Nat
  deriving DecidableEq, Inhabited

/-- The distance of a local time from universal time. -/
inductive TomlOffset
  | utc
  | minutes (ahead : Int)
  deriving DecidableEq, Inhabited

inductive TomlDateTime
  | date (d : TomlDate)
  | time (t : TomlTime)
  | dateTime (d : TomlDate) (t : TomlTime) (offset : Option TomlOffset)
  deriving DecidableEq, Inhabited

/-- How a table came about. -/
inductive TomlTableKind
  | braces
  | header
  | implied
  | dotted
  deriving DecidableEq, Inhabited

/-- How an array came about: in brackets, or by headers with double brackets. -/
inductive TomlArrayKind
  | brackets
  | headers
  deriving DecidableEq, Inhabited

inductive TomlValue
  | string (s : String)
  | integer (n : Int)
  | float (x : Float)
  | boolean (b : Bool)
  | dateTime (d : TomlDateTime)
  | array (kind : TomlArrayKind) (elements : List TomlValue)
  | table (kind : TomlTableKind) (entries : List (String × TomlValue))
  deriving Inhabited

/-- The named values of a table, in the order they came in. -/
abbrev TomlEntries := List (String × TomlValue)

/-- A number with leading zeros. -/
def paddedNumber (width n : Nat) : String :=
  let digits := Nat.toDigits 10 n
  String.ofList (List.replicate (width - digits.length) '0' ++ digits)

def TomlDate.text (d : TomlDate) : String :=
  paddedNumber 4 d.year ++ "-" ++ paddedNumber 2 d.month ++ "-" ++ paddedNumber 2 d.day

/-- A time of day; its fraction is written without superfluous zeros. -/
def TomlTime.text (t : TomlTime) : String :=
  let fraction := ((paddedNumber 9 t.nanosecond).toList.reverse.dropWhile (· == '0')).reverse
  paddedNumber 2 t.hour ++ ":" ++ paddedNumber 2 t.minute ++ ":" ++ paddedNumber 2 t.second ++
    if fraction = [] then "" else "." ++ String.ofList fraction

def TomlOffset.text : TomlOffset → String
  | utc => "Z"
  | minutes ahead =>
    (if ahead < 0 then "-" else "+") ++ paddedNumber 2 (ahead.natAbs / 60) ++ ":" ++
      paddedNumber 2 (ahead.natAbs % 60)

def TomlDateTime.text : TomlDateTime → String
  | date d => d.text
  | time t => t.text
  | dateTime d t offset => d.text ++ "T" ++ t.text ++ (offset.map (·.text)).getD ""

/-- A value as messages mention it. A date or time counts as a map, for want of a kind of its
own. -/
def TomlValue.description : TomlValue → String
  | string s => "string " ++ quoted s
  | integer n => "integer `" ++ toString n ++ "`"
  | float x => "floating point `" ++ floatText x ++ "`"
  | boolean b => "boolean `" ++ (if b then "true" else "false") ++ "`"
  | dateTime _ => "map"
  | array _ _ => "sequence"
  | table _ _ => "map"

end Scanout
