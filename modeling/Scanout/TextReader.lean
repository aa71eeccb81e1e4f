/-!
# Reading a text from its beginning

A reader takes what it reads off the beginning of a text and leaves the rest; if the text
does not begin as it should, it reads nothing. `readMany` repeats a reader for as long as
it finds another item. Every item has to take something, so there cannot be more items than
characters: the text that is read also bounds the number of items.
-/

namespace Scanout

/-- Reads a value from the beginning of a text. -/
abbrev Reader := StateT (List Char) Option

namespace Reader

variable {α β : Type}

/-- The next character, which stays where it is; nothing at the end of the text. -/
def peek : Reader (Option Char) := fun s => some (s.head?, s)

def next : Reader Char
  | [] => none
  | c :: s => some (c, s)

def char (c : Char) : Reader Unit
  | [] => none
  | x :: s => if x = c then some ((), s) else none

/-- Takes the characters of a certain text. -/
def exactly : List Char → Reader Unit
  | [] => pure ()
  | c :: cs => do char c; exactly cs

/-- Takes all characters up to the first that is not of a class. -/
def takeWhile (p : Char → Bool) : Reader (List Char) := fun s => some (s.takeWhile p, s.dropWhile p)

/-- Takes one character of a class. -/
def satisfying (p : Char → Bool) : Reader Char
  | [] => none
  | c :: s => if p c then some (c, s) else none

/-- Takes nothing, but refuses to go on unless a condition holds. -/
def require (condition : Bool) : Reader Unit := if condition then pure () else failure

/-- Reads items until there is none, but no more than a list is long. -/
def readWithin (item : Reader (Option α)) (bound s : List Char) : Option (List α × List Char) :=
  match item s, bound with
  | none, _ => none
  | some (none, rest), _ => some ([], rest)
  | some (some _, _), [] => none
  | some (some a, rest), _ :: bound =>
    (readWithin item bound rest).map fun (more, rest) => (a :: more, rest)

/-- Reads items until there is none. -/
def readMany (item : Reader (Option α)) : Reader (List α) := fun s => readWithin item s s

def readAll (r : Reader α) (s : List Char) : Option α :=
  match r s with
  | some (a, []) => some a
  | _ => none

theorem bind_of_some {r : Reader α} {f : α → Reader β} {s rest : List Char} {a : α}
    (h : r s = some (a, rest)) : (r >>= f) s = f a rest := by
  simp [bind, StateT.bind, h]

theorem bind_of_none {r : Reader α} {f : α → Reader β} {s : List Char} (h : r s = none) :
    (r >>= f) s = none := by
  simp [bind, StateT.bind, h]

@[simp] theorem char_cons (c : Char) (s : List Char) : char c (c :: s) = some ((), s) := by
  simp [char]

end Reader
end Scanout
