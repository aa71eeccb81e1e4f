import Scanout.TextReader

/-!
# Reading what was written

A reader that is given what was written, followed by some rest, should give back what it was written
for and leave the rest. Where a text ends is often told by what follows, so statements about a reader
say what must not follow. `Items` speaks of the items that a repeated reader finds in a text.
-/

namespace Scanout
namespace Reader

variable {α β : Type}

section Steps

variable {r r' : Reader α} {s rest : List Char} {a : α}

theorem orElse_of_some (h : r s = some (a, rest)) : (r <|> r') s = some (a, rest) := by
  change (r s <|> r' s) = _
  rw [h]
  rfl

theorem orElse_of_none (h : r s = none) : (r <|> r') s = r' s := by
  change (r s <|> r' s) = _
  rw [h]
  rfl

theorem map_of_some {f : α → β} (h : r s = some (a, rest)) : (f <$> r) s = some (f a, rest) := by
  simp [Functor.map, StateT.map, h]

theorem peek_bind {f : Option Char → Reader α} : (peek >>= f) s = f s.head? s := rfl

theorem char_bind {f : Unit → Reader α} {c : Char} : (char c >>= f) (c :: s) = f () s :=
  bind_of_some (char_cons c s)

/-- What begins with another character is not taken. -/
theorem char_of_head? {c : Char} (h : s.head? ≠ some c) : char c s = none := by
  cases s with
  | nil => rfl
  | cons x s => simpa [char] using h

theorem require_bind {f : Unit → Reader α} {p : Bool} (h : p = true) :
    (require p >>= f) s = f () s := by
  rw [h]
  rfl

/-- What is read after a condition is read if the condition holds. -/
theorem of_require_bind {f : Unit → Reader α} {p : Bool}
    (h : (require p >>= f) s = some (a, rest)) : p = true ∧ f () s = some (a, rest) := by
  cases p with
  | true => exact ⟨rfl, h⟩
  | false => contradiction

theorem exactly_append (cs s : List Char) : exactly cs (cs ++ s) = some ((), s) := by
  induction cs with
  | nil => rfl
  | cons c cs ih => exact char_bind.trans ih

theorem exactly_eq_none {cs : List Char} (h : ∀ rest, s ≠ cs ++ rest) : exactly cs s = none := by
  induction cs generalizing s with
  | nil => exact absurd rfl (h s)
  | cons c cs ih =>
    by_cases hhead : s.head? = some c
    · obtain ⟨s, rfl⟩ : ∃ s', s = c :: s' := List.head?_eq_some_iff.1 hhead
      exact char_bind.trans (ih fun rest heq => h rest (congrArg (c :: ·) heq))
    · exact bind_of_none (char_of_head? hhead)

/-- A run of a class is taken as a whole if what follows is not of the class. -/
theorem takeWhile_append {p : Char → Bool} {run : List Char} (hrun : ∀ c ∈ run, p c = true)
    (hrest : ∀ c ∈ rest.head?, p c = false) : takeWhile p (run ++ rest) = some (run, rest) := by
  have hnone : rest.takeWhile p = [] ∧ rest.dropWhile p = rest := by
    cases rest with
    | nil => exact ⟨rfl, rfl⟩
    | cons c rest => simp [List.takeWhile, List.dropWhile, hrest c rfl]
  rw [takeWhile, List.takeWhile_append_of_pos hrun, List.dropWhile_append_of_pos hrun, hnone.1,
    hnone.2, List.append_nil]

theorem satisfying_cons {p : Char → Bool} {c : Char} (h : p c = true) :
    satisfying p (c :: s) = some (c, s) := by
  simp [satisfying, h]

end Steps

/-- The items that a reader finds in a text one after the other until there is none. -/
inductive Items (item : Reader (Option α)) : List Char → List α → List Char → Prop where
  | nil {s rest} (h : item s = some (none, rest)) : Items item s [] rest
  | cons {s s' rest a l} (h : item s = some (some a, s')) (hs : s'.length < s.length)
      (hitems : Items item s' l rest) : Items item s (a :: l) rest

namespace Items

variable {item : Reader (Option α)} {s rest : List Char} {l : List α}

/-- Items that are there are read, for each of them takes something of the text. -/
theorem readMany (h : Items item s l rest) : readMany item s = some (l, rest) := by
  suffices hwithin : ∀ bound : List Char, s.length ≤ bound.length →
      readWithin item bound s = some (l, rest) from hwithin s (Nat.le_refl _)
  induction h with
  | nil h =>
    intro bound _
    unfold readWithin
    rw [h]
  | @cons s s' rest a l h hs _ ih =>
    intro bound hbound
    cases bound with
    | nil => exact absurd hs (by simp_all)
    | cons c bound =>
      unfold readWithin
      rw [h]
      dsimp only
      rw [ih bound (by simp only [List.length_cons] at hbound; omega)]
      rfl

/-- Items that are written one by one are found one by one. -/
theorem flatMap {write : α → List Char} (hne : ∀ a ∈ l, write a ≠ [])
    (hread : ∀ a ∈ l, ∀ rest, item (write a ++ rest) = some (some a, rest)) {rest' : List Char}
    (hend : item rest = some (none, rest')) : Items item (l.flatMap write ++ rest) l rest' := by
  induction l with
  | nil => exact .nil hend
  | cons a l ih =>
    rw [List.flatMap_cons, List.append_assoc]
    refine .cons (hread a List.mem_cons_self _) ?_ (ih (fun a' ha' => hne a' (.tail _ ha'))
      fun a' ha' => hread a' (.tail _ ha'))
    have hpos := List.length_pos_iff.2 (hne a List.mem_cons_self)
    simp only [List.length_append]
    omega

end Items
end Reader
end Scanout
