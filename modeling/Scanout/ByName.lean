/-!
# Entries by name

A list of named entries in ascending order of the names, each name at most once. Names are
compared code point by code point, which is also the order of their UTF-8 bytes.
-/

namespace Scanout

/-- Entries by name, in ascending order of their names. -/
abbrev ByName (α : Type) := List (String × α)

namespace ByName

variable {α : Type}

/-- Puts something under a name, in place of what is there. -/
def put (name : String) (a : α) : ByName α → ByName α
  | [] => [(name, a)]
  | (n, b) :: rest =>
    if name = n then (n, a) :: rest
    else if name < n then (name, a) :: (n, b) :: rest
    else (n, b) :: put name a rest

def forget (name : String) (l : ByName α) : ByName α := l.filter (·.1 ≠ name)

/-- The entries of a list; of two with one name the later counts. -/
def ofList (l : List (String × α)) : ByName α := l.foldl (fun sorted (n, a) => put n a sorted) []

theorem lookup_put_self (name : String) (a : α) (l : ByName α) :
    (put name a l).lookup name = some a := by
  induction l with
  | nil => simp [put]
  | cons e rest ih =>
    obtain ⟨n, b⟩ := e
    unfold put
    split
    · next h => simp [h]
    · split
      · simp
      · next h _ => simpa [List.lookup_cons, beq_eq_false_iff_ne.mpr h] using ih

theorem lookup_put_of_ne {name other : String} (h : other ≠ name) (a : α) (l : ByName α) :
    (put name a l).lookup other = l.lookup other := by
  induction l with
  | nil => simp [put, List.lookup_cons, beq_eq_false_iff_ne.mpr h]
  | cons e rest ih =>
    obtain ⟨n, b⟩ := e
    unfold put
    split
    · next hn => subst hn; simp [List.lookup_cons, beq_eq_false_iff_ne.mpr h]
    · split
      · rw [List.lookup_cons, beq_eq_false_iff_ne.mpr h]
      · rw [List.lookup_cons, List.lookup_cons, ih]

end ByName
end Scanout
