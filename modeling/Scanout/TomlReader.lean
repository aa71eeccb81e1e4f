import Scanout.TomlNumber
import Scanout.TomlTable

/-!
# Reading TOML documents

`TomlEntries.ofText?` reads the table that a document describes. Arrays and tables in braces
may be nested, but not endlessly: the level of nesting goes down by one with each bracket,
and nothing is read at level zero.
-/

namespace Scanout
namespace TomlText

open Reader

/-- The level of nesting that values begin at. -/
def nestingLimit : Nat := 80

/-- What may stand between the parts of an array: blanks, line breaks and comments. -/
def padding : Reader Unit := do
  discard (readMany do
    match ← peek with
    | some ' ' | some '\t' => some <$> blanks
    | some '\n' | some '\r' => some <$> lineBreak
    | some '#' => some <$> comment
    | _ => return none)

/-- The values of an array, given how to read one. -/
def arrayElements (value : Reader TomlValue) : Reader (List TomlValue) := do
  char '['
  padding
  let elements ← readMany do
    if (← peek) = some ']' then return none
    let v ← value
    padding
    match ← peek with
    | some ',' => do char ','; padding
    | c => require (c = some ']')
    return some v
  char ']'
  return elements

/-- A key with its value, given how to read one. -/
def assignment (value : Reader TomlValue) : Reader TomlAssignment := do
  let (path, key) ← key
  char '='
  blanks
  return ⟨path, key, ← value⟩

/-- The assignments of a table in braces, given how to read a value. No comma may stand after the
last of them. -/
def braceAssignments (value : Reader TomlValue) : Reader (List TomlAssignment) := do
  char '\x7b'
  blanks
  let assignments ← readMany do
    if (← peek) = some '\x7d' then return none
    let a ← assignment value
    blanks
    match ← peek with
    | some ',' => do
      char ','
      blanks
      require ((← peek) ≠ some '\x7d')
    | c => require (c = some '\x7d')
    return some a
  char '\x7d'
  return assignments

def value : Nat → Reader TomlValue
  | 0 => failure
  | level + 1 => do
    match ← peek with
    | some '"' | some '\'' => return .string (← string)
    | some '[' => do
      require (0 < level)
      return .array .brackets (← arrayElements (value level))
    | some '\x7b' => do
      require (0 < level)
      let assignments ← braceAssignments (value level)
      match TomlEntries.addValues .braces assignments [] with
      | some entries => return .table .braces entries
      | none => failure
    | some 't' => do exactly "true".toList; return .boolean true
    | some 'f' => do exactly "false".toList; return .boolean false
    | _ => (do return .dateTime (← dateTime)) <|> number

/-- The end of a line: blanks, perhaps a comment, and a line break or the end of the text. -/
def endOfLine : Reader Unit := do
  blanks
  comment <|> pure ()
  match ← peek with
  | none => pure ()
  | some _ => lineBreak

/-- The assignments up to the next header. -/
def assignments : Reader (List TomlAssignment) := do
  let lines ← readMany do
    blanks
    match ← peek with
    | none | some '[' => return none
    | some '#' | some '\n' | some '\r' => do endOfLine; return some []
    | some _ => do
      let a ← assignment (value nestingLimit)
      endOfLine
      return some [a]
  return lines.flatten

/-- A header with what stands under it. -/
def section? : Reader (Option TomlSection) := do
  match ← peek with
  | none => return none
  | some _ =>
    char '['
    let isArray := (← peek) = some '['
    if isArray then char '['
    let (path, key) ← key
    char ']'
    if isArray then char ']'
    endOfLine
    return some ⟨isArray, path, key, ← assignments⟩

/-- A document, which may begin with a byte order mark. -/
def document : Reader TomlDocument := do
  char '\ufeff' <|> pure ()
  let first ← assignments
  return ⟨first, ← readMany section?⟩

end TomlText

/-- The table that a text describes, if the text is a TOML document. -/
def TomlEntries.ofText? (text : String) : Option TomlEntries :=
  (Reader.readAll TomlText.document text.toList).bind TomlDocument.entries

end Scanout
