import Scanout.TextReader

/-!
# Strings and keys of TOML documents

A string stands in one or three quotes of either kind. In double quotes a backslash begins
an escape; in three quotes the string may have line breaks, of which one right after the
opening quotes does not count, and one or two quotes that do not close it.
-/

namespace Scanout
namespace TomlText

open Reader

def isBlank (c : Char) : Bool := c == ' ' || c == '\t'

/-- Whether a character may stand in comments and strings as it is. -/
def isTextCharacter (c : Char) : Bool := c == '\t' || (0x20 ≤ c.toNat && c.toNat ≠ 0x7F)

def isBareKeyCharacter (c : Char) : Bool := c.isAlphanum || c == '-' || c == '_'

def blanks : Reader Unit := do discard (takeWhile isBlank)

/-- A line break, with or without a carriage return before it. -/
def lineBreak : Reader Unit := char '\n' <|> (do char '\r'; char '\n')

def comment : Reader Unit := do
  char '#'
  discard (takeWhile isTextCharacter)

def hexValue? (c : Char) : Option Nat :=
  if c.isDigit then some (c.toNat - '0'.toNat)
  else if 'a' ≤ c ∧ c ≤ 'f' then some (c.toNat - 'a'.toNat + 10)
  else if 'A' ≤ c ∧ c ≤ 'F' then some (c.toNat - 'A'.toNat + 10)
  else none

def hexNumber? (digits : List Char) : Option Nat :=
  digits.foldlM (fun n c => (hexValue? c).map (16 * n + ·)) 0

def take (n : Nat) : Reader (List Char) := fun s =>
  if (s.take n).length = n then some (s.take n, s.drop n) else none

/-- The character whose number is given by some hexadecimal digits. -/
def scalar (digits : Nat) : Reader Char := do
  let some n := hexNumber? (← take digits) | failure
  require (decide n.isValidChar)
  return Char.ofNat n

/-- What stands after the backslash of an escape. -/
def escape : Reader Char := do
  match ← next with
  | 'b' => return '\x08'
  | 't' => return '\t'
  | 'n' => return '\n'
  | 'f' => return '\x0c'
  | 'r' => return '\r'
  | '"' => return '"'
  | '\\' => return '\\'
  | 'u' => scalar 4
  | 'U' => scalar 8
  | _ => failure

/-- A line break after a backslash, which is skipped with all blanks and line breaks around. -/
def skippedBreak : Reader Unit := do
  blanks
  lineBreak
  discard (readMany do
    match ← peek with
    | some ' ' | some '\t' => some <$> blanks
    | some '\n' | some '\r' => (some <$> lineBreak) <|> pure none
    | _ => pure none)

/-- The next character of a string in double quotes. -/
def basicPiece : Reader (Option Char) := do
  match ← peek with
  | some '"' => return none
  | some '\\' => do discard next; some <$> escape
  | _ => some <$> satisfying isTextCharacter

def basicString : Reader (List Char) := do
  char '"'
  let s ← readMany basicPiece
  char '"'
  return s

def literalString : Reader (List Char) := do
  char '\''
  let s ← takeWhile fun c => isTextCharacter c && c != '\''
  char '\''
  return s

/-- A run of quotes, unless it closes a string in three quotes. -/
def innerQuotes (quote : Char) : Reader (Option (List Char)) := fun s =>
  let run := s.takeWhile (· == quote)
  if run.length < 3 then some (some run, s.drop run.length) else some (none, s)

/-- The three quotes that close a string, after at most two that belong to it. -/
def closingQuotes (quote : Char) : Reader (List Char) := do
  let run ← takeWhile (· == quote)
  require (3 ≤ run.length && run.length ≤ 5)
  return run.drop 3

/-- The next part of a string in three double quotes. -/
def longBasicPiece : Reader (Option (List Char)) := do
  match ← peek with
  | some '"' => innerQuotes '"'
  | some '\\' => do
    discard next
    (do skippedBreak; return some []) <|> (do return some [← escape])
  | some '\n' | some '\r' => do lineBreak; return some ['\n']
  | _ => do return some [← satisfying isTextCharacter]

/-- The next part of a string in three single quotes. -/
def longLiteralPiece : Reader (Option (List Char)) := do
  match ← peek with
  | some '\'' => innerQuotes '\''
  | some '\n' | some '\r' => do lineBreak; return some ['\n']
  | _ => do return some [← satisfying isTextCharacter]

/-- A string in three quotes. -/
def longString (quote : Char) (piece : Reader (Option (List Char))) : Reader (List Char) := do
  exactly [quote, quote, quote]
  lineBreak <|> pure ()
  let parts ← readMany piece
  let last ← closingQuotes quote
  return parts.flatten ++ last

def string : Reader String :=
  String.ofList <$> (longString '"' longBasicPiece <|> basicString <|>
    longString '\'' longLiteralPiece <|> literalString)

def keyPart : Reader String := do
  blanks
  let part ← match ← peek with
    | some '"' => basicString
    | some '\'' => literalString
    | _ => do
      let bare ← takeWhile isBareKeyCharacter
      require (!bare.isEmpty)
      pure bare
  blanks
  return String.ofList part

/-- The number of parts that a key must not reach. -/
def keyLimit : Nat := 80

/-- A key: its parts before the last, and the last. -/
def key : Reader (List String × String) := do
  let first ← keyPart
  let more ← readMany do
    match ← peek with
    | some '.' => do char '.'; some <$> keyPart
    | _ => return none
  require (more.length + 1 < keyLimit)
  let parts := first :: more
  return (parts.dropLast, parts.getLast?.getD first)

end TomlText
end Scanout
