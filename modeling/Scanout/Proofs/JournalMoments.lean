import Scanout.Proofs.OutputBooks

/-!
# What held when an entry was made

An entry of a journal belongs to a moment, which is told by the entries before it. `Each`
states something of every entry at its moment. Since claims and their release are noted, the
claims at a moment can be told from the claims that there were at the beginning.
-/

namespace Scanout

/-- Every entry has a property, given the entries before it. -/
def Each (P : List JournalEntry → JournalEntry → Prop) : List JournalEntry → Prop
  | [] => True
  | e :: earlier => P earlier e ∧ Each P earlier

namespace Each

variable {P Q : List JournalEntry → JournalEntry → Prop} {g g' : List JournalEntry}

@[simp] theorem nil : Each P [] := trivial

theorem append_iff :
    Each P (g' ++ g) ↔ Each (fun earlier e => P (earlier ++ g) e) g' ∧ Each P g := by
  induction g' with
  | nil => simp
  | cons e g' ih => simp only [List.cons_append, Each, ih, and_assoc]

theorem imp (h : ∀ earlier e, P earlier e → Q earlier e) (hP : Each P g) : Each Q g := by
  induction g with
  | nil => trivial
  | cons e g ih => exact ⟨h _ _ hP.1, ih hP.2⟩

/-- The property holds wherever the entries are split. -/
theorem iff_forall :
    Each P g ↔ ∀ later e earlier, g = later ++ e :: earlier → P earlier e := by
  constructor
  · rintro hP later e earlier rfl
    exact (append_iff.1 hP).2.1
  · intro h
    induction g with
    | nil => trivial
    | cons e g ih =>
      refine ⟨h [] e g rfl, ih fun later e' earlier heq => ?_⟩
      exact h (e :: later) e' earlier (by rw [heq, List.cons_append])

instance decidable [∀ earlier e, Decidable (P earlier e)] :
    (g : List JournalEntry) → Decidable (Each P g)
  | [] => .isTrue trivial
  | _ :: earlier => @instDecidableAnd _ _ _ (decidable earlier)

end Each

/-- The entries of a call that is followed by events. -/
theorem JournalEntry.mem_told {events : List OutputEvent} {c : Call} {answer : c.Answer}
    {e : JournalEntry} (h : e ∈ events.map .event ++ [.call c answer]) :
    (∃ event, e = .event event) ∨ e = .call c answer := by
  rcases List.mem_append.1 h with h | h
  · obtain ⟨event, -, rfl⟩ := List.mem_map.1 h
    exact .inl ⟨event, rfl⟩
  · exact .inr (List.mem_singleton.1 h)

/-- The entry is neither a claim nor a release of claims. -/
def JournalEntry.KeepsClaims : JournalEntry → Prop
  | .call _ _ | .event _ => True
  | .claimed _ _ | .released _ => False

theorem JournalEntry.IsQuiet.keepsClaims {e : JournalEntry} (h : e.IsQuiet) : e.KeepsClaims := by
  cases e with
  | call _ _ | event _ => trivial
  | claimed _ _ => exact h
  | released _ => exact h

namespace CrtcClaims

def note (t : CrtcClaims) : JournalEntry → CrtcClaims
  | .claimed crtc id => (t.claim crtc id).2
  | .released id => t.release id
  | .call _ _ | .event _ => t

def noting (t : CrtcClaims) : List JournalEntry → CrtcClaims
  | [] => t
  | e :: earlier => (t.noting earlier).note e

variable {t : CrtcClaims} {g g' : List JournalEntry}

theorem noting_append : t.noting (g' ++ g) = (t.noting g).noting g' := by
  induction g' with
  | nil => rfl
  | cons e g' ih => rw [List.cons_append, noting, ih, noting]

theorem noting_of_keeps (h : ∀ e ∈ g, e.KeepsClaims) : t.noting g = t := by
  induction g with
  | nil => rfl
  | cons e g ih =>
    rw [noting, ih fun e' he' => h e' (List.mem_cons_of_mem _ he')]
    have he := h e (by simp)
    cases e with
    | call _ _ | event _ => rfl
    | claimed _ _ => exact he.elim
    | released _ => exact he.elim

end CrtcClaims

/-- While claims are kept, a property that speaks of the claims at its moment speaks of those at
the beginning. -/
theorem Each.of_keeps {P : CrtcClaims → JournalEntry → Prop} {t : CrtcClaims}
    {g : List JournalEntry} (h : ∀ e ∈ g, e.KeepsClaims) (hP : ∀ e ∈ g, P t e) :
    Each (fun earlier e => P (t.noting earlier) e) g := by
  rw [Each.iff_forall]
  rintro later e earlier rfl
  rw [CrtcClaims.noting_of_keeps fun e' he' => h e' (by simp [he'])]
  exact hP e (by simp)

end Scanout
