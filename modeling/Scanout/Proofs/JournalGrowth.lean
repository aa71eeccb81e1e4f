import Scanout.Backend

/-!
# What an act adds to the journal

Acts in a session only ever add to its journal. `Yields` speaks of the entries that an act
adds together with its result and the state it ends in, and has a rule for each way in which
acts are put together. Entries are listed as the journal lists them, the latest first.
-/

namespace Scanout

theorem eq_ok_of_isOk {ε : Type} {r : Except ε Unit} (h : r.isOk = true) : r = .ok () := by
  cases r with
  | ok _ => rfl
  | error _ => contradiction

/-- States that carry the journal of a session. -/
class Journaled (σ : Type) where
  journal : σ → List JournalEntry

instance {W : World} : Journaled (Session W) := ⟨fun s => s.journal⟩

instance {W : World} : Journaled (RenderContext W) := ⟨fun c => c.journal⟩

instance {W : World} : Journaled (Backend W) := ⟨fun b => b.journal⟩

/-- Run from `s`, the act only adds to the journal, and `Q` holds of its result, of the entries
it adds and of the state it ends in. -/
def Yields {σ α : Type} [Journaled σ] (act : StateM σ α) (s : σ)
    (Q : α → List JournalEntry → σ → Prop) : Prop :=
  ∃ gained, Journaled.journal (act s).2 = gained ++ Journaled.journal s ∧
    Q (act s).1 gained (act s).2

namespace Yields

variable {σ α β δ ε : Type} [Journaled σ] {s : σ}

theorem mono {act : StateM σ α} {P Q : α → List JournalEntry → σ → Prop} (h : Yields act s P)
    (hPQ : ∀ a g s', P a g s' → Q a g s') : Yields act s Q := by
  obtain ⟨g, hg, hP⟩ := h
  exact ⟨g, hg, hPQ _ _ _ hP⟩

/-- Entries are told apart from those before by their number, so two accounts of one act can be
taken together. -/
protected theorem and {act : StateM σ α} {P Q : α → List JournalEntry → σ → Prop}
    (hP : Yields act s P) (hQ : Yields act s Q) :
    Yields act s fun a g s' => P a g s' ∧ Q a g s' := by
  obtain ⟨g, hg, hP⟩ := hP
  obtain ⟨g', hg', hQ⟩ := hQ
  obtain rfl : g = g' := List.append_cancel_right (hg.symm.trans hg')
  exact ⟨g, hg, hP, hQ⟩

/-- What holds at the end holds of the state that the act ends in. -/
theorem result {act : StateM σ α} {P : α → List JournalEntry → σ → Prop} (h : Yields act s P) :
    Yields act s fun a g s' => P a g s' ∧ s' = (act s).2 := by
  obtain ⟨g, hg, hP⟩ := h
  exact ⟨g, hg, hP, rfl⟩

/-- An act that leaves the state as it is adds nothing. -/
theorem of_idle {act : StateM σ α} {a : α} {Q : α → List JournalEntry → σ → Prop}
    (hact : act s = (a, s)) (h : Q a [] s) : Yields act s Q := by
  unfold Yields
  rw [hact]
  exact ⟨[], rfl, h⟩

protected theorem pure {a : α} {Q : α → List JournalEntry → σ → Prop} (h : Q a [] s) :
    Yields (pure a : StateM σ α) s Q := ⟨[], rfl, h⟩

protected theorem bind {x : StateM σ α} {f : α → StateM σ β}
    {P : α → List JournalEntry → σ → Prop} {Q : β → List JournalEntry → σ → Prop}
    (hx : Yields x s P)
    (hf : ∀ a g s', P a g s' → Yields (f a) s' fun r g' s'' => Q r (g' ++ g) s'') :
    Yields (x >>= f) s Q := by
  obtain ⟨g, hg, hP⟩ := hx
  obtain ⟨g', hg', hQ⟩ := hf _ _ _ hP
  refine ⟨g' ++ g, ?_, hQ⟩
  rw [List.append_assoc, ← hg]
  exact hg'

/-- The first two of three acts may be taken together. -/
protected theorem assoc {γ : Type} {x : StateM σ α} {f : α → StateM σ β} {f' : β → StateM σ γ}
    {Q : γ → List JournalEntry → σ → Prop} (h : Yields ((x >>= f) >>= f') s Q) :
    Yields (x >>= fun a => f a >>= f') s Q := by
  rwa [← bind_assoc]

protected theorem discard {act : StateM σ α} {Q : Unit → List JournalEntry → σ → Prop}
    (h : Yields act s fun _ g s' => Q () g s') : Yields (discard act) s Q := h

/-- Reading the state is for free. -/
theorem get_bind {f : σ → StateM σ α} {Q : α → List JournalEntry → σ → Prop}
    (h : Yields (f s) s Q) : Yields (get >>= f) s Q := h

/-- A failure of the first act is the failure of both; otherwise the second one follows. -/
theorem bindOk {x : ExceptT ε (StateM σ) α} {f : α → ExceptT ε (StateM σ) β}
    {P : Except ε α → List JournalEntry → σ → Prop}
    {Q : Except ε β → List JournalEntry → σ → Prop} (hx : Yields x.run s P)
    (hok : ∀ a g s', P (.ok a) g s' → Yields (f a).run s' fun r g' s'' => Q r (g' ++ g) s'')
    (herr : ∀ e g s', P (.error e) g s' → Q (.error e) g s') : Yields (x >>= f).run s Q := by
  change Yields (x.run >>= ExceptT.bindCont f) s Q
  refine Yields.bind hx fun r g s' hP => ?_
  cases r with
  | ok a => exact hok a g s' hP
  | error e => exact .pure (herr e g s' hP)

theorem getOk_bind {f : σ → ExceptT ε (StateM σ) α} {Q : Except ε α → List JournalEntry → σ → Prop}
    (h : Yields (f s).run s Q) : Yields (get >>= f : ExceptT ε (StateM σ) α).run s Q := h

theorem pureOk {a : α} {Q : Except ε α → List JournalEntry → σ → Prop} (h : Q (.ok a) [] s) :
    Yields (pure a : ExceptT ε (StateM σ) α).run s Q := ⟨[], rfl, h⟩

protected theorem throw {e : ε} {Q : Except ε α → List JournalEntry → σ → Prop}
    (h : Q (.error e) [] s) : Yields (throw e : ExceptT ε (StateM σ) α).run s Q := ⟨[], rfl, h⟩

protected theorem lift {act : StateM σ α} {Q : Except ε α → List JournalEntry → σ → Prop}
    (h : Yields act s fun a g s' => Q (.ok a) g s') :
    Yields (ExceptT.lift act : ExceptT ε (StateM σ) α).run s Q := by
  obtain ⟨g, hg, hQ⟩ := h
  exact ⟨g, hg, hQ⟩

/-- What cannot fail is simply followed by the second act. -/
theorem lift_bind {act : StateM σ α} {f : α → ExceptT ε (StateM σ) β}
    {P : α → List JournalEntry → σ → Prop} {Q : Except ε β → List JournalEntry → σ → Prop}
    (hact : Yields act s P)
    (hf : ∀ a g s', P a g s' → Yields (f a).run s' fun r g' s'' => Q r (g' ++ g) s'') :
    Yields (ExceptT.lift act >>= f).run s Q :=
  (Yields.lift (Q := fun r g s' => ∃ a, r = .ok a ∧ P a g s')
    (hact.mono fun a _ _ h => ⟨a, rfl, h⟩)).bindOk
    (fun _ _ _ ⟨_, hr, h⟩ => Except.ok.inj hr ▸ hf _ _ _ h) (by simp)

protected theorem discardOk {act : ExceptT ε (StateM σ) α}
    {P : Except ε α → List JournalEntry → σ → Prop} (h : Yields act.run s P) :
    Yields (discard act).run s fun r g s' => ∃ r₀, r = r₀.map (fun _ => ()) ∧ P r₀ g s' := by
  change Yields (ExceptT.map (fun _ => ()) act).run s _
  unfold ExceptT.map
  refine Yields.bind h fun r g s' hP => ?_
  cases r <;> exact .pure ⟨_, rfl, hP⟩

/-- The answer is passed on, with its failure turned into one's own. -/
protected theorem orFail {cause : δ → ε} {act : StateM σ (Except δ α)}
    {P : Except δ α → List JournalEntry → σ → Prop} (h : Yields act s P) :
    Yields (orFail cause act).run s fun r g s' => ∃ r₀, r = r₀.mapError cause ∧ P r₀ g s' := by
  change Yields (act >>= fun r => _) s _
  refine Yields.bind h fun r g s' hP => ?_
  cases r <;> exact .pure ⟨_, rfl, hP⟩

/-- A failure is passed on with a cause of one's own; otherwise the second act follows. -/
theorem orFail_bindOk {cause : δ → ε} {act : StateM σ (Except δ α)}
    {f : α → ExceptT ε (StateM σ) β} {P : Except δ α → List JournalEntry → σ → Prop}
    {Q : Except ε β → List JournalEntry → σ → Prop} (hact : Yields act s P)
    (hok : ∀ a g s', P (.ok a) g s' → Yields (f a).run s' fun r g' s'' => Q r (g' ++ g) s'')
    (herr : ∀ e g s', P (.error e) g s' → Q (.error (cause e)) g s') :
    Yields (orFail cause act >>= f).run s Q := by
  refine (Yields.orFail hact).bindOk ?_ ?_
  · rintro a g s' ⟨_ | _, ⟨⟩, h⟩
    exact hok a g s' h
  · rintro _ g s' ⟨e | _, ⟨⟩, h⟩
    exact herr e g s' h

/-- What is done on failure follows the failed act. -/
protected theorem orRelease {release : StateM σ Unit} {act : ExceptT ε (StateM σ) α}
    {P Q : Except ε α → List JournalEntry → σ → Prop} (hact : Yields act.run s P)
    (hok : ∀ a g s', P (.ok a) g s' → Q (.ok a) g s')
    (herr : ∀ e g s', P (.error e) g s' →
      Yields release s' fun _ g' s'' => Q (.error e) (g' ++ g) s'') :
    Yields (orRelease release act).run s Q := by
  refine Yields.bind (x := act.run) (Q := Q) hact fun r g s' hP => ?_
  cases r with
  | ok a => exact .pure (hok a g s' hP)
  | error e => exact .bind (herr e g s' hP) fun _ _ _ hQ => .pure hQ

/-- What each act keeps of the state and of the entries since the beginning, the acts keep. -/
protected theorem forM {f : α → StateM σ Unit} {P : List JournalEntry → σ → Prop}
    (h : ∀ a s g₀, P g₀ s → Yields (f a) s fun _ g s' => P (g ++ g₀) s') (l : List α)
    {p : List JournalEntry} (hs : P p s) : Yields (l.forM f) s fun _ g s' => P (g ++ p) s' := by
  induction l generalizing s p with
  | nil => exact .pure hs
  | cons a l ih =>
    refine (h a s p hs).bind fun _ g s' hs' => (ih hs').mono ?_
    intro _ g' s'' hs''
    rwa [List.append_assoc]

end Yields

/-- A relation of states, given the entries in between, that holds of acts in sequence if it holds
of each of them. -/
class Composes {σ : Type} [Journaled σ] (R : σ → List JournalEntry → σ → Prop) : Prop where
  refl : ∀ s, R s [] s
  trans : ∀ {s g s' g' s''}, R s g s' → R s' g' s'' → R s (g' ++ g) s''

/-- The act stays within the relation, whatever state it begins in and whatever it answers. -/
def Always {σ α : Type} [Journaled σ] (R : σ → List JournalEntry → σ → Prop)
    (act : StateM σ α) : Prop :=
  ∀ s, Yields act s fun _ g s' => R s g s'

namespace Always

variable {σ α β δ ε : Type} [Journaled σ] {R : σ → List JournalEntry → σ → Prop} [Composes R]

omit [Composes R] in
theorem imp {R' : σ → List JournalEntry → σ → Prop} {act : StateM σ α} (h : Always R act)
    (hR : ∀ s g s', R s g s' → R' s g s') : Always R' act := fun s =>
  (h s).mono fun _ g s' => hR s g s'

protected theorem pure (a : α) : Always R (pure a : StateM σ α) := fun s => .pure (Composes.refl s)

protected theorem bind {x : StateM σ α} {f : α → StateM σ β} (hx : Always R x)
    (hf : ∀ a, Always R (f a)) : Always R (x >>= f) := fun s =>
  (hx s).bind fun a _ s' h => (hf a s').mono fun _ _ _ h' => Composes.trans h h'

omit [Composes R] in
protected theorem discard {act : StateM σ α} (h : Always R act) : Always R (discard act) := h

omit [Composes R] in
theorem get_bind {f : σ → StateM σ α} (h : ∀ s, Yields (f s) s fun _ g s' => R s g s') :
    Always R (get >>= f) := h

protected theorem throw (e : ε) : Always R (throw e : ExceptT ε (StateM σ) α).run :=
  fun s => .throw (Composes.refl s)

protected theorem pureOk (a : α) : Always R (pure a : ExceptT ε (StateM σ) α).run :=
  fun s => .pureOk (Composes.refl s)

theorem bindOk {x : ExceptT ε (StateM σ) α} {f : α → ExceptT ε (StateM σ) β}
    (hx : Always R x.run) (hf : ∀ a, Always R (f a).run) : Always R (x >>= f).run := fun s =>
  (hx s).bindOk (fun a _ s' h => (hf a s').mono fun _ _ _ h' => Composes.trans h h')
    fun _ _ _ h => h

omit [Composes R] in
protected theorem lift {act : StateM σ α} (h : Always R act) :
    Always R (ExceptT.lift act : ExceptT ε (StateM σ) α).run := fun s => .lift (h s)

omit [Composes R] in
protected theorem orFail {cause : δ → ε} {act : StateM σ (Except δ α)} (h : Always R act) :
    Always R (orFail cause act).run := fun s => (Yields.orFail (h s)).mono fun _ _ _ ⟨_, _, h'⟩ => h'

omit [Composes R] in
protected theorem discardOk {act : ExceptT ε (StateM σ) α} (h : Always R act.run) :
    Always R (discard act).run := fun s =>
  (Yields.discardOk (h s)).mono fun _ _ _ ⟨_, _, h'⟩ => h'

protected theorem orRelease {release : StateM σ Unit} {act : ExceptT ε (StateM σ) α}
    (hr : Always R release) (h : Always R act.run) : Always R (orRelease release act).run :=
  fun s => (h s).orRelease (fun _ _ _ h' => h') fun _ _ s' h' =>
    (hr s').mono fun _ _ _ h'' => Composes.trans h' h''

protected theorem forM {f : α → StateM σ Unit} (h : ∀ a, Always R (f a)) (l : List α) :
    Always R (l.forM f) := by
  induction l with
  | nil => exact .pure ()
  | cons a l ih => exact .bind (h a) fun _ => ih

end Always

/-- The relation of acts that make entries with a property only. -/
def Only {σ : Type} (P : JournalEntry → Prop) (_ : σ) (gained : List JournalEntry) (_ : σ) : Prop :=
  ∀ e ∈ gained, P e

instance {σ : Type} [Journaled σ] {P : JournalEntry → Prop} : Composes (@Only σ P) where
  refl _ := by simp [Only]
  trans h h' e he := (List.mem_append.1 he).elim (h' e) (h e)

/-- From a state with `P` the act stays within the relation and leads to a state with `Q`, whatever
it answers. -/
def Leads {σ α : Type} [Journaled σ] (P : σ → Prop) (R : σ → List JournalEntry → σ → Prop)
    (Q : σ → Prop) (act : StateM σ α) : Prop :=
  ∀ s, P s → Yields act s fun _ g s' => R s g s' ∧ Q s'

namespace Leads

variable {σ α β δ ε : Type} [Journaled σ] {R : σ → List JournalEntry → σ → Prop} [Composes R]
  {P P' Q : σ → Prop}

omit [Composes R] in
/-- A relation that carries the property along need not be told where it leads to. -/
theorem of_always {R' : σ → List JournalEntry → σ → Prop} {act : StateM σ α}
    (h : Always R' act) (hR : ∀ {s g s'}, P s → R' s g s' → R s g s' ∧ Q s') : Leads P R Q act :=
  fun s hs => (h s).mono fun _ _ _ => hR hs

protected theorem pure (a : α) : Leads P R P (pure a : StateM σ α) :=
  fun s hs => .pure ⟨Composes.refl s, hs⟩

protected theorem pureOk (a : α) : Leads P R P (pure a : ExceptT ε (StateM σ) α).run :=
  fun s hs => .pureOk ⟨Composes.refl s, hs⟩

protected theorem throw (e : ε) (hPQ : ∀ s, P s → Q s) :
    Leads P R Q (throw e : ExceptT ε (StateM σ) α).run :=
  fun s hs => .throw ⟨Composes.refl s, hPQ s hs⟩

protected theorem bind {x : StateM σ α} {f : α → StateM σ β} (hx : Leads P R P' x)
    (hf : ∀ a, Leads P' R Q (f a)) : Leads P R Q (x >>= f) := fun s hs =>
  (hx s hs).bind fun a _ s' h => (hf a s' h.2).mono fun _ _ _ h' =>
    ⟨Composes.trans h.1 h'.1, h'.2⟩

theorem bindOk {x : ExceptT ε (StateM σ) α} {f : α → ExceptT ε (StateM σ) β}
    (hx : Leads P R P' x.run) (hf : ∀ a, Leads P' R Q (f a).run) (herr : ∀ s, P' s → Q s) :
    Leads P R Q (x >>= f).run := fun s hs =>
  (hx s hs).bindOk (fun a _ s' h => (hf a s' h.2).mono fun _ _ _ h' =>
    ⟨Composes.trans h.1 h'.1, h'.2⟩) fun _ _ s' h => ⟨h.1, herr s' h.2⟩

omit [Composes R] in
protected theorem lift {act : StateM σ α} (h : Leads P R Q act) :
    Leads P R Q (ExceptT.lift act : ExceptT ε (StateM σ) α).run := fun s hs => .lift (h s hs)

omit [Composes R] in
protected theorem orFail {cause : δ → ε} {act : StateM σ (Except δ α)} (h : Leads P R Q act) :
    Leads P R Q (orFail cause act).run := fun s hs =>
  (Yields.orFail (h s hs)).mono fun _ _ _ ⟨_, _, h'⟩ => h'

protected theorem orRelease {release : StateM σ Unit} {act : ExceptT ε (StateM σ) α}
    (hr : Leads Q R Q release) (h : Leads P R Q act.run) : Leads P R Q (orRelease release act).run :=
  fun s hs => (h s hs).orRelease (fun _ _ _ h' => h') fun _ _ s' h' =>
    (hr s' h'.2).mono fun _ _ _ h'' => ⟨Composes.trans h'.1 h''.1, h''.2⟩

protected theorem forM {f : α → StateM σ Unit} (h : ∀ a, Leads P R P (f a)) (l : List α) :
    Leads P R P (l.forM f) := by
  induction l with
  | nil => exact .pure ()
  | cons a l ih => exact .bind (h a) fun _ => ih

end Leads
end Scanout
