import Scanout.TomlString

/-!
# Writing TOML strings and keys

A string is written in the plainest form that can hold it: in double quotes without escapes,
in single quotes, in three quotes of either kind, and only then with escapes. Tabs are
written as escapes wherever there are escapes.
-/

namespace Scanout
namespace TomlText

/-- The length of the longest run of a character, given the length of the run before. -/
def longestRun (c : Char) (run : Nat) : List Char → Nat
  | [] => run
  | x :: s => if x = c then longestRun c (run + 1) s else max run (longestRun c 0 s)

/-- Whether a character can only be written as an escape. -/
def needsEscape (c : Char) : Bool :=
  (c.toNat < 0x20 && c != '\t' && c != '\n') || c.toNat = 0x7F

def upperHexDigit (n : Nat) : Char := (Nat.digitChar n).toUpper

/-- The escape of a character by its number, in four digits. -/
def numberEscape (c : Char) : List Char :=
  let n := c.toNat
  ['\\', 'u', upperHexDigit (n / 4096 % 16), upperHexDigit (n / 256 % 16),
    upperHexDigit (n / 16 % 16), upperHexDigit (n % 16)]

/-- A character other than quotes and line breaks inside double quotes. -/
def escaped (c : Char) : List Char :=
  if c = '\x08' then ['\\', 'b']
  else if c = '\t' then ['\\', 't']
  else if c = '\x0c' then ['\\', 'f']
  else if c = '\r' then ['\\', 'r']
  else if c = '\\' then ['\\', '\\']
  else if needsEscape c then numberEscape c
  else [c]

def basicBody (s : List Char) : List Char :=
  s.flatMap fun c => if c = '"' then ['\\', '"'] else if c = '\n' then ['\\', 'n'] else escaped c

/-- The inside of a string in three double quotes, where the third quote of a run is an escape.
`quotes` tells how many have just been written. -/
def longBasicBody (quotes : Nat) : List Char → List Char
  | [] => []
  | c :: s =>
    if c = '"' then
      if quotes < 2 then '"' :: longBasicBody (quotes + 1) s
      else '\\' :: '"' :: longBasicBody 0 s
    else if c = '\n' then '\n' :: longBasicBody 0 s
    else escaped c ++ longBasicBody 0 s

def inBasic (s : List Char) : List Char := '"' :: basicBody s ++ ['"']

def inLiteral (s : List Char) : List Char := '\'' :: s ++ ['\'']

/-- The line break that follows the opening quotes of a string with line breaks. -/
def openingBreak (s : List Char) : List Char := if '\n' ∈ s then ['\n'] else []

def inLongBasic (s : List Char) : List Char :=
  ['"', '"', '"'] ++ openingBreak s ++ longBasicBody 0 s ++ ['"', '"', '"']

def inLongLiteral (s : List Char) : List Char :=
  ['\'', '\'', '\''] ++ openingBreak s ++ s ++ ['\'', '\'', '\'']

def stringForm (s : List Char) : List Char :=
  let plain := !s.any needsEscape
  let oneLine := '\n' ∉ s
  if plain ∧ oneLine ∧ '\\' ∉ s ∧ '"' ∉ s then inBasic s
  else if plain ∧ oneLine ∧ '\'' ∉ s then inLiteral s
  else if plain ∧ '\\' ∉ s ∧ longestRun '"' 0 s < 3 then inLongBasic s
  else if plain ∧ longestRun '\'' 0 s < 3 then inLongLiteral s
  else if oneLine then inBasic s
  else inLongBasic s

def keyForm (s : List Char) : List Char :=
  let plain := !s.any needsEscape
  let oneLine := '\n' ∉ s
  if s ≠ [] ∧ s.all isBareKeyCharacter then s
  else if plain ∧ oneLine ∧ '\\' ∉ s ∧ '"' ∉ s then inBasic s
  else if plain ∧ oneLine ∧ '\'' ∉ s then inLiteral s
  else inBasic s

end TomlText
end Scanout
