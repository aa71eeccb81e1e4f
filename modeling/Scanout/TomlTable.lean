import Scanout.TomlValue

/-!
# Putting tables together

The lines of a document name places in nested tables. `TomlEntries.within` goes down to the
table at the end of a path, and makes the tables on the way that do not exist yet. What a
path must not go through, and what must not be defined twice, is refused with `none`.
-/

namespace Scanout
namespace TomlEntries

/-- The value of the first entry of a name. -/
def find? (key : String) (es : TomlEntries) : Option TomlValue := es.lookup key

/-- Puts another value under a name that is there. -/
def replace (key : String) (v : TomlValue) (es : TomlEntries) : TomlEntries :=
  es.map fun e => if e.1 = key then (key, v) else e

def remove (key : String) (es : TomlEntries) : TomlEntries := es.filter (·.1 ≠ key)

def append (key : String) (v : TomlValue) (es : TomlEntries) : Option TomlEntries :=
  match es.find? key with
  | none => some (es ++ [(key, v)])
  | some _ => none

/-- Whether a table can still be entered: one in braces never, and by a dotted key only one
without a header. -/
def canEnter (dotted : Bool) : TomlTableKind → Bool
  | .braces => false
  | .header => !dotted
  | .implied | .dotted => true

/-- Changes the entries of the table at a path. Of an array of tables the path goes through the
last one. -/
def within (dotted : Bool) :
    List String → (TomlTableKind → TomlEntries → Option TomlEntries) → TomlTableKind → TomlEntries →
      Option TomlEntries
  | [], change, kind, es => change kind es
  | key :: path, change, _, es =>
    match es.find? key with
    | none => do
      let kind : TomlTableKind := if dotted then .dotted else .implied
      let inner ← within dotted path change kind []
      return es ++ [(key, .table kind inner)]
    | some (.table kind inner) =>
      if canEnter dotted kind then do
        let inner ← within dotted path change kind inner
        return es.replace key (.table kind inner)
      else none
    | some (.array .headers elements) =>
      match elements.getLast? with
      | some (.table kind inner) => do
        let inner ← within dotted path change kind inner
        return es.replace key (.array .headers (elements.dropLast ++ [.table kind inner]))
      | _ => none
    | some _ => none

/-- Adds the value of a key, given the parts of the key before the last. Dotted keys only ever
add to tables made by dotted keys. -/
def addValue (path : List String) (key : String) (v : TomlValue) (kind : TomlTableKind)
    (es : TomlEntries) : Option TomlEntries :=
  within true path
    (fun kind es => if kind = .dotted ↔ path = [] then none else es.append key v) kind es

/-- Takes the table that a header opens out of its place: one that is only implied keeps its
entries, and any other has been opened before. -/
def open? (key : String) (es : TomlEntries) : Option (TomlEntries × TomlEntries) :=
  match es.find? key with
  | none => some ([], es)
  | some (.table .implied inner) => some (inner, es.remove key)
  | some _ => none

/-- Adds a table to the array of a name, which begins with it if it is new. -/
def push (key : String) (es : TomlEntries) (inner : TomlEntries) : Option TomlEntries :=
  match es.find? key with
  | none => some (es ++ [(key, .array .headers [.table .header inner])])
  | some (.array .headers elements) =>
    some (es.replace key (.array .headers (elements ++ [.table .header inner])))
  | some _ => none

end TomlEntries

/-- A key with its value: the parts of the key before the last, the last, and the value. -/
structure TomlAssignment where
  path : List String
  key : String
  value : TomlValue
  deriving Inhabited

/-- A part of a document under a header. -/
structure TomlSection where
  /-- Whether the header has double brackets. -/
  isArray : Bool
  path : List String
  key : String
  assignments : List TomlAssignment
  deriving Inhabited

/-- A document: what comes before the first header, and the sections. -/
structure TomlDocument where
  assignments : List TomlAssignment
  sections : List TomlSection
  deriving Inhabited

namespace TomlEntries

/-- Adds assignments in their order to a table. -/
def addValues (kind : TomlTableKind) (assignments : List TomlAssignment) (es : TomlEntries) :
    Option TomlEntries :=
  assignments.foldlM (fun es a => es.addValue a.path a.key a.value kind) es

/-- Adds a section. A table that was implied by earlier headers moves to the end. -/
def addSection (root : TomlEntries) (s : TomlSection) : Option TomlEntries :=
  within false s.path (fun _ es =>
    if s.isArray then do
      let inner ← addValues .header s.assignments []
      es.push s.key inner
    else do
      let (inner, es) ← es.open? s.key
      let inner ← addValues .header s.assignments inner
      return es ++ [(s.key, .table .header inner)]) .header root

end TomlEntries

/-- The table that a document describes, if it describes one. -/
def TomlDocument.entries (d : TomlDocument) : Option TomlEntries := do
  let root ← TomlEntries.addValues .header d.assignments []
  d.sections.foldlM TomlEntries.addSection root

end Scanout
