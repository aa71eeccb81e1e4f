import Scanout.Proofs.CalmActs

/-!
# Framebuffers and the CRTCs that show them

A framebuffer that is removed must not be shown. What is shown is told by a ledger of the kernel:
the CRTC table, and the ids that were ever in use. `Sound` relates the ledger to the surfaces that
the outputs hold and to the buffers registered for them. Snapshots matter as well, since a CRTC may
be made to show again what it showed when the snapshot was taken.
-/

namespace Scanout

/-- What drives the CRTCs, and the framebuffer ids that are or were in use. -/
structure Ledger where
  table : CrtcTable
  ids : List FramebufferId

/-- The id that was given to a framebuffer. -/
def JournalEntry.newId? : JournalEntry → Option FramebufferId
  | .call (.kernel (.addFramebuffer _ _ _)) answer => answer.toOption
  | _ => none

/-- The id of a framebuffer that was to be removed. -/
def JournalEntry.removedId? : JournalEntry → Option FramebufferId
  | .call (.kernel (.removeFramebuffer fb)) _ => some fb
  | _ => none

namespace Ledger

def note (l : Ledger) (e : JournalEntry) : Ledger where
  table := l.table.note e
  ids := e.newId?.toList ++ l.ids

def after (l : Ledger) : List JournalEntry → Ledger
  | [] => l
  | e :: earlier => (l.after earlier).note e

/-- The kernel tells the truth about its CRTCs, gives no id twice, and lets a CRTC be switched off. -/
def Honest (l : Ledger) : JournalEntry → Prop
  | .call (.kernel (.crtc c)) answer => ∀ info ∈ answer.toOption, info = l.table.info c
  | .call (.kernel (.addFramebuffer _ _ _)) answer => ∀ fb ∈ answer.toOption, fb ∉ l.ids
  | .call (.kernel (.setCrtc commit)) answer => commit = .switchOff commit.crtc → answer.isOk = true
  | _ => True

/-- No CRTC shows the framebuffer, if one is removed. -/
def Spares (l : Ledger) : JournalEntry → Prop
  | .call (.kernel (.removeFramebuffer fb)) _ => ∀ c, (l.table.info c).framebuffer ≠ some fb
  | _ => True

/-- The kernel answered honestly all the time. -/
def AllHonest (l : Ledger) (gained : List JournalEntry) : Prop :=
  Each (fun earlier e => (l.after earlier).Honest e) gained

/-- No framebuffer was removed while a CRTC showed it. -/
def AllSpared (l : Ledger) (gained : List JournalEntry) : Prop :=
  Each (fun earlier e => (l.after earlier).Spares e) gained

instance (l : Ledger) : DecidablePred l.Honest
  | .call (.kernel (.crtc c)) answer =>
    inferInstanceAs (Decidable (∀ info ∈ answer.toOption, info = l.table.info c))
  | .call (.kernel (.addFramebuffer _ _ _)) answer =>
    inferInstanceAs (Decidable (∀ fb ∈ answer.toOption, fb ∉ l.ids))
  | .call (.kernel (.setCrtc commit)) answer =>
    inferInstanceAs (Decidable (commit = .switchOff commit.crtc → answer.isOk = true))
  | .call (.kernel .resources) _ | .call (.kernel (.connector _)) _ | .call (.kernel (.encoder _)) _
  | .call (.kernel (.removeFramebuffer _)) _ | .call (.kernel (.pageFlip _ _)) _
  | .call (.kernel (.wait _)) _ | .call (.kernel .receive) _ | .call (.gpu _) _ | .call .clock _
  | .claimed _ _ | .released _ | .event _ => instDecidableTrue

instance (l : Ledger) : DecidablePred l.AllHonest := fun g => Each.decidable g

variable {l : Ledger} {g g' : List JournalEntry}

theorem after_append : l.after (g' ++ g) = (l.after g).after g' := by
  induction g' with
  | nil => rfl
  | cons e g' ih => rw [List.cons_append, after, ih, after]

theorem table_after (l : Ledger) (g : List JournalEntry) : (l.after g).table = l.table.after g := by
  induction g with
  | nil => rfl
  | cons e g ih =>
    rw [after, CrtcTable.after, ← ih]
    rfl

theorem allHonest_append : l.AllHonest (g' ++ g) ↔ (l.after g).AllHonest g' ∧ l.AllHonest g := by
  simp only [AllHonest, Each.append_iff, after_append]

theorem allSpared_append : l.AllSpared (g' ++ g) ↔ (l.after g).AllSpared g' ∧ l.AllSpared g := by
  simp only [AllSpared, Each.append_iff, after_append]

theorem AllHonest.grantsOff (h : l.AllHonest g) : ∀ e ∈ g, e.GrantsOff := by
  intro e he
  obtain ⟨later, earlier, heq⟩ := List.append_of_mem he
  have hhonest := Each.iff_forall.1 h later e earlier heq
  unfold JournalEntry.GrantsOff
  split
  · exact hhonest
  · trivial

end Ledger

/-- The entry changes nothing in the ledger and removes no framebuffer. -/
def JournalEntry.KeepsLedger (e : JournalEntry) : Prop := ∀ l : Ledger, l.note e = l ∧ l.Spares e

/-- The entry removes one of the framebuffers. -/
def JournalEntry.Removes (framebuffers : List FramebufferId) (e : JournalEntry) : Prop :=
  ∃ fb ∈ framebuffers, ∃ answer, e = .call (.kernel (.removeFramebuffer fb)) answer

namespace Ledger

variable {l : Ledger} {g : List JournalEntry}

/-- What is shown nowhere may be removed. -/
theorem after_of_removes {framebuffers : List FramebufferId}
    (h : ∀ e ∈ g, e.KeepsLedger ∨ e.Removes framebuffers)
    (hdark : ∀ fb ∈ framebuffers, ∀ c, (l.table.info c).framebuffer ≠ some fb) :
    l.after g = l ∧ l.AllSpared g := by
  induction g with
  | nil => exact ⟨rfl, trivial⟩
  | cons e g ih =>
    obtain ⟨hafter, hspared⟩ := ih fun e' he' => h e' (List.mem_cons_of_mem _ he')
    rw [after, AllSpared, Each, hafter]
    rcases h e (by simp) with hkeeps | ⟨fb, hfb, answer, rfl⟩
    · exact ⟨(hkeeps l).1, (hkeeps l).2, hspared⟩
    · exact ⟨rfl, hdark fb hfb, hspared⟩

theorem after_of_keeps (h : ∀ e ∈ g, e.KeepsLedger) : l.after g = l ∧ l.AllSpared g := by
  have hnothing : ∀ fb ∈ ([] : List FramebufferId), ∀ c, (l.table.info c).framebuffer ≠ some fb := by
    intro fb hfb
    contradiction
  exact after_of_removes (fun e he => .inl (h e he)) hnothing

/-- While nothing changes, every answer is about the same ledger. -/
theorem AllHonest.of_mem (hhonest : l.AllHonest g) (h : ∀ e ∈ g, e.KeepsLedger) {e : JournalEntry}
    (he : e ∈ g) : l.Honest e := by
  obtain ⟨later, earlier, rfl⟩ := List.append_of_mem he
  have hearlier : l.after earlier = l := (after_of_keeps fun e' he' => h e' (by simp [he'])).1
  exact hearlier ▸ Each.iff_forall.1 hhonest later e earlier rfl

end Ledger

theorem JournalEntry.IsStill.keepsLedger {e : JournalEntry} (h : e.IsStill) : e.KeepsLedger := by
  intro l
  constructor
  · have hid : e.newId? = none := by
      unfold newId?
      split
      · exact h.elim
      · rfl
    rw [Ledger.note, h.keepsTable, hid]
    rfl
  · unfold Ledger.Spares
    split
    · exact h.elim
    · trivial

theorem PutBack.spared {connector : ConnectorHandle} {claimed : Option CrtcHandle}
    {saved : Option CrtcInfo} {g : List JournalEntry} (h : PutBack connector claimed saved g)
    (l : Ledger) : l.AllSpared g ∧ (l.after g).ids = l.ids := by
  cases h <;> exact ⟨by simp [Ledger.AllSpared, Each, Ledger.Spares], rfl⟩

/-- The snapshot, if there is one, is what drives its CRTC. -/
def Recent (saved : Option CrtcInfo) (l : Ledger) : Prop :=
  ∀ s, saved = some s → s = l.table.info s.handle

/-- A snapshot that was just read is recent. -/
theorem Recent.of_read {l : Ledger} {saved : Option CrtcInfo} {g : List JournalEntry}
    (h : ∀ e ∈ g, e.KeepsLedger) (hhonest : l.AllHonest g)
    (hsaved : ∀ s, saved = some s → ∃ c, .call (.kernel (.crtc c)) (.ok s) ∈ g) :
    Recent saved l := by
  intro s hs
  obtain ⟨c, hc⟩ := hsaved s hs
  have hinfo : s = l.table.info c := hhonest.of_mem h hc s rfl
  have hhandle : s.handle = c := by rw [hinfo, l.table.handle_info]
  rw [hhandle]
  exact hinfo

/-- The surfaces that the outputs hold, and the swap chains behind them. -/
structure Stock where
  held : OutputId → Option Holding
  chains : SwapChains

namespace Stock

/-- An output holds something else, or nothing any more. -/
def put (x : Stock) (id : OutputId) (h : Option Holding) (chains : SwapChains) : Stock where
  held j := if j = id then h else x.held j
  chains := chains

/-- A CRTC shows the framebuffer, or some snapshot would make it do so again. -/
def Shows (x : Stock) (t : CrtcTable) (c : CrtcHandle) (fb : FramebufferId) : Prop :=
  (t.info c).framebuffer = some fb ∨ ∃ id h s, x.held id = some h ∧ h.saved = some s ∧
    s.handle = c ∧ s.framebuffer = some fb

/-- Buffers are registered only for surfaces that are held, and they are shown only on the CRTCs of
those who hold them. -/
structure Sound (x : Stock) (l : Ledger) : Prop where
  known : ∀ e ∈ x.chains.registered, e.2 ∈ l.ids
  single : ∀ e ∈ x.chains.registered, ∀ e' ∈ x.chains.registered, e.2 = e'.2 →
    e.1.surface = e'.1.surface
  owned : ∀ e ∈ x.chains.registered, ∃ id h, x.held id = some h ∧ h.surface = e.1.surface
  alive : ∀ id h, x.held id = some h → h.surface ∈ x.chains.alive
  numbered : ∀ id h, x.held id = some h → h.surface.number ≤ x.chains.created
  apart : ∀ id id' h h', x.held id = some h → x.held id' = some h' → h.surface = h'.surface →
    id = id'
  driven : ∀ id h, x.held id = some h → h.crtc.isSome
  shown : ∀ c fb, x.Shows l.table c fb → fb ∈ l.ids
  placed : ∀ c, ∀ e ∈ x.chains.registered, x.Shows l.table c e.2 →
    ∃ id h, x.held id = some h ∧ h.surface = e.1.surface ∧ h.crtc = some c
  /-- A snapshot is older than the surface that is held with it. -/
  older : ∀ id h s, x.held id = some h → h.saved = some s → ∀ e ∈ x.chains.registered,
    e.1.surface = h.surface → s.framebuffer ≠ some e.2

variable {x : Stock} {l l' : Ledger} {chains : SwapChains} {id j : OutputId} {h h' : Holding}

theorem held_put_some :
    (x.put id (some h) chains).held j = some h' ↔ j = id ∧ h = h' ∨ j ≠ id ∧ x.held j = some h' := by
  by_cases hj : j = id <;> simp [put, hj]

theorem held_put_none :
    (x.put id none chains).held j = some h' ↔ j ≠ id ∧ x.held j = some h' := by
  by_cases hj : j = id <;> simp [put, hj]

theorem put_put_none {h : Option Holding} {chains' : SwapChains} (hid : x.held id = none) :
    (x.put id h chains).put id none chains' = ⟨x.held, chains'⟩ := by
  have hheld : ((x.put id h chains).put id none chains').held = x.held := by
    funext j
    by_cases hj : j = id <;> simp [put, hj, hid]
  exact congrArg (Stock.mk · chains') hheld

namespace Sound

theorem empty (hl : ∀ c fb, (l.table.info c).framebuffer = some fb → fb ∈ l.ids) :
    (Stock.mk (fun _ => none) .empty).Sound l := by
  have hbuffer {e : BufferSlot × FramebufferId} : e ∉ SwapChains.empty.registered :=
    List.not_mem_nil
  have hheld {h : Holding} : none ≠ some h := (Option.some_ne_none h).symm
  exact
    { known := fun _ he => absurd he hbuffer
      single := fun _ he => absurd he hbuffer
      owned := fun _ he => absurd he hbuffer
      alive := fun _ _ hk => absurd hk hheld
      numbered := fun _ _ hk => absurd hk hheld
      apart := fun _ _ _ _ hk => absurd hk hheld
      driven := fun _ _ hk => absurd hk hheld
      shown := fun c fb hs => hs.elim (hl c fb) fun ⟨_, _, _, hk, _⟩ => absurd hk hheld
      placed := fun _ _ he => absurd he hbuffer
      older := fun _ _ _ hk => absurd hk hheld }

/-- It does not matter which buffers are taken out. -/
theorem of_locked (hx : x.Sound l) (locked : List BufferSlot) :
    Sound { x with chains := { x.chains with locked } } l where
  known := hx.known
  single := hx.single
  owned := hx.owned
  alive := hx.alive
  numbered := hx.numbered
  apart := hx.apart
  driven := hx.driven
  shown := hx.shown
  placed := hx.placed
  older := hx.older

/-- Nothing new is shown but what is registered, on the CRTC of its holder. -/
theorem of_shows (hx : x.Sound l) (hids : ∀ fb ∈ l.ids, fb ∈ l'.ids)
    (hshows : ∀ c fb, x.Shows l'.table c fb → x.Shows l.table c fb ∨
      ∃ e ∈ x.chains.registered, e.2 = fb ∧
        ∃ id h, x.held id = some h ∧ h.surface = e.1.surface ∧ h.crtc = some c) : x.Sound l' where
  known e he := hids _ (hx.known e he)
  single := hx.single
  owned := hx.owned
  alive := hx.alive
  numbered := hx.numbered
  apart := hx.apart
  driven := hx.driven
  shown c fb h := by
    rcases hshows c fb h with hold | ⟨e, he, rfl, -⟩
    · exact hids _ (hx.shown c fb hold)
    · exact hids _ (hx.known e he)
  placed c e he h := by
    rcases hshows c e.2 h with hold | ⟨e', he', hfb, id, k, hheld, hsurface, hc⟩
    · exact hx.placed c e he hold
    · exact ⟨id, k, hheld, hsurface.trans (hx.single e' he' e he hfb), hc⟩
  older := hx.older

/-- A framebuffer that is new is shown nowhere. -/
theorem not_shows (hx : x.Sound l) {fb : FramebufferId} (hnew : fb ∉ l.ids) (c : CrtcHandle) :
    ¬x.Shows l.table c fb := fun h => hnew (hx.shown c fb h)

theorem attach (hx : x.Sound l) {buffer : BufferSlot} {fb : FramebufferId} (hnew : fb ∉ l.ids)
    (hheld : ∃ id h, x.held id = some h ∧ h.surface = buffer.surface) :
    Sound { x with chains := x.chains.attach buffer fb } { l with ids := fb :: l.ids } := by
  have hmem {e : BufferSlot × FramebufferId} : e ∈ (x.chains.attach buffer fb).registered ↔
      e = (buffer, fb) ∨ e ∈ x.chains.registered := SwapChains.mem_insert
  have hknown : ∀ e ∈ x.chains.registered, e.2 ≠ fb := by
    rintro e he rfl
    exact hnew (hx.known e he)
  exact
    { known := by
        intro e he
        rcases hmem.1 he with rfl | he
        · exact List.mem_cons_self
        · exact List.mem_cons_of_mem _ (hx.known e he)
      single := by
        intro e he e' he' hfb
        rcases hmem.1 he with rfl | he <;> rcases hmem.1 he' with rfl | he'
        · rfl
        · exact absurd hfb.symm (hknown e' he')
        · exact absurd hfb (hknown e he)
        · exact hx.single e he e' he' hfb
      owned := by
        intro e he
        rcases hmem.1 he with rfl | he
        · exact hheld
        · exact hx.owned e he
      alive := hx.alive
      numbered := hx.numbered
      apart := hx.apart
      driven := hx.driven
      shown := fun c fb' h => List.mem_cons_of_mem _ (hx.shown c fb' h)
      placed := by
        intro c e he h
        rcases hmem.1 he with rfl | he
        · exact absurd h (hx.not_shows hnew c)
        · exact hx.placed c e he h
      older := by
        intro id k s hk hs e he hsurface hfb
        rcases hmem.1 he with rfl | he
        · exact hx.not_shows hnew s.handle (.inr ⟨id, k, s, hk, hs, rfl, hfb⟩)
        · exact hx.older id k s hk hs e he hsurface hfb }

/-- An output takes hold of the next surface, with a snapshot of what drives its CRTC now. -/
theorem hold (hx : x.Sound l) (hid : x.held id = none) (hsurface : h.surface = x.chains.nextSurface)
    (hcrtc : h.crtc.isSome) (hsaved : Recent h.saved l) :
    (x.put id (some h) x.chains.create).Sound l := by
  have hkept {j k} (hk : x.held j = some k) :
      (x.put id (some h) x.chains.create).held j = some k := by
    refine held_put_some.2 (.inr ⟨?_, hk⟩)
    rintro rfl
    rw [hid] at hk
    contradiction
  have hnext {j k} (hk : x.held j = some k) : k.surface ≠ h.surface := by
    intro heq
    have hle := hx.numbered j k hk
    rw [heq, hsurface] at hle
    exact absurd hle (Nat.not_succ_le_self _)
  have hshows {c fb} (hs : (x.put id (some h) x.chains.create).Shows l.table c fb) :
      x.Shows l.table c fb := by
    rcases hs with hs | ⟨j, k, s, hk, hs, hc, hfb⟩
    · exact .inl hs
    · rcases held_put_some.1 hk with ⟨rfl, rfl⟩ | ⟨-, hk⟩
      · left
        rw [← hc, ← hsaved s hs, hfb]
      · exact .inr ⟨j, k, s, hk, hs, hc, hfb⟩
  exact
    { known := hx.known
      single := hx.single
      owned := by
        intro e he
        obtain ⟨j, k, hk, hsurf⟩ := hx.owned e he
        exact ⟨j, k, hkept hk, hsurf⟩
      alive := by
        intro j k hk
        rcases held_put_some.1 hk with ⟨rfl, rfl⟩ | ⟨-, hk⟩
        · simp [put, SwapChains.create, hsurface]
        · simp [put, SwapChains.create, hx.alive j k hk]
      numbered := by
        intro j k hk
        rcases held_put_some.1 hk with ⟨rfl, rfl⟩ | ⟨-, hk⟩
        · rw [hsurface]
          exact Nat.le_refl _
        · exact Nat.le_succ_of_le (hx.numbered j k hk)
      apart := by
        intro i j k k' hk hk' heq
        rcases held_put_some.1 hk with ⟨rfl, rfl⟩ | ⟨-, hold⟩ <;>
          rcases held_put_some.1 hk' with ⟨rfl, rfl⟩ | ⟨-, hold'⟩
        · rfl
        · exact absurd heq.symm (hnext hold')
        · exact absurd heq (hnext hold)
        · exact hx.apart i j k k' hold hold' heq
      driven := by
        intro j k hk
        rcases held_put_some.1 hk with ⟨rfl, rfl⟩ | ⟨-, hk⟩
        · exact hcrtc
        · exact hx.driven j k hk
      shown := fun c fb hs => hx.shown c fb (hshows hs)
      placed := by
        intro c e he hs
        obtain ⟨j, k, hk, hsurf, hc⟩ := hx.placed c e he (hshows hs)
        exact ⟨j, k, hkept hk, hsurf, hc⟩
      older := by
        intro j k s hk hs e he hsurf
        rcases held_put_some.1 hk with ⟨rfl, rfl⟩ | ⟨-, hk⟩
        · obtain ⟨i, k', hk', hsurf'⟩ := hx.owned e he
          exact absurd (hsurf'.trans hsurf) (hnext hk')
        · exact hx.older j k s hk hs e he hsurf }

/-- An output lets go of its surface, whose buffers are no longer registered. -/
theorem drop (hx : x.Sound l) (hheld : x.held id = some h) :
    (x.put id none (x.chains.destroy h.surface).2).Sound l := by
  have hmem {e : BufferSlot × FramebufferId} :
      e ∈ (x.chains.destroy h.surface).2.registered ↔
        e ∈ x.chains.registered ∧ e.1.surface ≠ h.surface := by
    simp [SwapChains.destroy, SwapChains.free]
  have hkept {j k} (hk : x.held j = some k) (hne : k.surface ≠ h.surface) :
      (x.put id none (x.chains.destroy h.surface).2).held j = some k := by
    refine held_put_none.2 ⟨?_, hk⟩
    rintro rfl
    obtain rfl := Option.some.inj (hheld.symm.trans hk)
    exact hne rfl
  have hshows {c fb} (hs : (x.put id none (x.chains.destroy h.surface).2).Shows l.table c fb) :
      x.Shows l.table c fb := by
    rcases hs with hs | ⟨j, k, s, hk, hs, hc, hfb⟩
    · exact .inl hs
    · exact .inr ⟨j, k, s, (held_put_none.1 hk).2, hs, hc, hfb⟩
  exact
    { known := fun e he => hx.known e (hmem.1 he).1
      single := fun e he e' he' => hx.single e (hmem.1 he).1 e' (hmem.1 he').1
      owned := by
        intro e he
        obtain ⟨he, hne⟩ := hmem.1 he
        obtain ⟨j, k, hk, hsurf⟩ := hx.owned e he
        exact ⟨j, k, hkept hk (hsurf ▸ hne), hsurf⟩
      alive := by
        intro j k hk
        obtain ⟨hj, hk⟩ := held_put_none.1 hk
        have hne : k.surface ≠ h.surface := fun heq => hj (hx.apart j id k h hk hheld heq)
        simpa [put, SwapChains.destroy, SwapChains.free, hne] using hx.alive j k hk
      numbered := fun j k hk => hx.numbered j k (held_put_none.1 hk).2
      apart := fun i j k k' hk hk' =>
        hx.apart i j k k' (held_put_none.1 hk).2 (held_put_none.1 hk').2
      driven := fun j k hk => hx.driven j k (held_put_none.1 hk).2
      shown := fun c fb hs => hx.shown c fb (hshows hs)
      placed := by
        intro c e he hs
        obtain ⟨he, hne⟩ := hmem.1 he
        obtain ⟨j, k, hk, hsurf, hc⟩ := hx.placed c e he (hshows hs)
        exact ⟨j, k, hkept hk (hsurf ▸ hne), hsurf, hc⟩
      older := fun j k s hk hs e he =>
        hx.older j k s (held_put_none.1 hk).2 hs e (hmem.1 he).1 }

/-- The commits of a release: what is registered for the surface is shown no longer, since only the CRTC
of its holder could show it. -/
theorem putBack (hx : x.Sound l) (hheld : x.held id = some h) {connector : ConnectorHandle}
    {g : List JournalEntry} (hback : PutBack connector h.crtc h.saved g)
    (hhonest : l.AllHonest g) :
    l.AllSpared g ∧ x.Sound (l.after g) ∧ ∀ e ∈ x.chains.registered, e.1.surface = h.surface →
      ∀ c, ((l.after g).table.info c).framebuffer ≠ some e.2 := by
  obtain ⟨hspared, hids⟩ := hback.spared l
  obtain ⟨claimed, hclaimed⟩ := Option.isSome_iff_exists.1 (hx.driven id h hheld)
  rw [hclaimed] at hback
  obtain ⟨restored, htable, hrestored, -⟩ := hback.after_eq hhonest.grantsOff l.table
  rw [← Ledger.table_after] at htable
  have hsaved : ∀ s, restored = some s → h.saved = some s := by
    intro s hs
    rcases hrestored with hnone | hfilter
    · rw [hnone] at hs
      contradiction
    · exact (Option.filter_eq_some_iff.1 (hfilter.symm.trans hs)).1
  have hshows {c fb} (hs : ((l.after g).table.info c).framebuffer = some fb) :
      x.Shows l.table c fb := by
    rw [htable] at hs
    rcases @CrtcTable.info_putBack l.table c claimed restored with
      ⟨s, hs', hhandle, hinfo⟩ | ⟨-, hinfo⟩
    · rw [hinfo] at hs
      exact .inr ⟨id, h, s, hheld, hsaved s hs', hhandle, hs⟩
    · rw [hinfo] at hs
      split at hs
      · contradiction
      · exact .inl hs
  refine ⟨hspared, hx.of_shows (by simp [hids]) fun c fb hs => .inl ?_, ?_⟩
  · rcases hs with hs | hs
    · exact hshows hs
    · exact .inr hs
  · intro e he hsurf c hs
    obtain ⟨j, k, hk, hsurf', hc⟩ := hx.placed c e he (hshows hs)
    obtain rfl : j = id := hx.apart j id k h hk hheld (hsurf'.trans hsurf)
    obtain rfl := Option.some.inj (hk.symm.trans hheld)
    obtain rfl := Option.some.inj (hc.symm.trans hclaimed)
    rw [htable] at hs
    rcases @CrtcTable.info_putBack l.table c c restored with
      ⟨s, hs', -, hinfo⟩ | ⟨-, hinfo⟩
    · rw [hinfo] at hs
      exact hx.older j k s hheld (hsaved s hs') e he hsurf hs
    · rw [hinfo, if_pos rfl] at hs
      contradiction

end Sound

/-- Whatever an honest kernel answers, the stock stays sound, and no framebuffer is removed that a
CRTC shows. No buffer stays taken out. -/
structure Keeps (x : Stock) (gained : List JournalEntry) (x' : Stock) : Prop where
  locked : x'.chains.locked = x.chains.locked
  sound : ∀ l, x.Sound l → l.AllHonest gained → l.AllSpared gained ∧ x'.Sound (l.after gained)

namespace Keeps

variable {x' x'' : Stock} {g g' : List JournalEntry}

theorem of_keepsLedger (h : ∀ e ∈ g, e.KeepsLedger) : x.Keeps g x where
  locked := rfl
  sound l hx _ := by
    obtain ⟨hafter, hspared⟩ := @Ledger.after_of_keeps l g h
    rw [hafter]
    exact ⟨hspared, hx⟩

theorem trans (h : x.Keeps g x') (h' : x'.Keeps g' x'') : x.Keeps (g' ++ g) x'' where
  locked := h'.locked.trans h.locked
  sound l hx hhonest := by
    rw [Ledger.allHonest_append] at hhonest
    obtain ⟨hspared, hx'⟩ := h.sound l hx hhonest.2
    obtain ⟨hspared', hx''⟩ := h'.sound _ hx' hhonest.1
    rw [Ledger.allSpared_append, Ledger.after_append]
    exact ⟨⟨hspared', hspared⟩, hx''⟩

/-- A buffer of a surface that is held gets a new framebuffer. -/
theorem register {buffer : BufferSlot} {geometry : BufferGeometry} {depth bpp : UInt32}
    {fb : FramebufferId} (hheld : ∃ id h, x.held id = some h ∧ h.surface = buffer.surface)
    (hg : ∀ e ∈ g, e.KeepsLedger) :
    x.Keeps (g ++ [.call (.kernel (.addFramebuffer geometry depth bpp)) (.ok fb)])
      { x with chains := x.chains.attach buffer fb } where
  locked := rfl
  sound l hx hhonest := by
    rw [Ledger.allHonest_append] at hhonest
    have hnew : fb ∉ l.ids := hhonest.2.1 fb rfl
    have hadded : l.after [.call (.kernel (.addFramebuffer geometry depth bpp)) (.ok fb)] =
        { l with ids := fb :: l.ids } := rfl
    obtain ⟨hafter, hspared⟩ := @Ledger.after_of_keeps { l with ids := fb :: l.ids } g hg
    rw [Ledger.allSpared_append, Ledger.after_append, hadded, hafter]
    exact ⟨⟨hspared, trivial, trivial⟩, hx.attach hnew hheld⟩

/-- A buffer of a surface that is held may be taken out for a while. -/
theorem whileLocked {held : OutputId → Option Holding} {buffer : BufferSlot}
    {chains' : SwapChains} {g₀ : List JournalEntry}
    (hheld : ∃ id h, held id = some h ∧ h.surface = buffer.surface)
    (hlock : ∀ e ∈ g₀, e.KeepsLedger)
    (hkeeps : (Stock.mk held (chains.lock buffer)).Keeps g ⟨held, chains'⟩)
    (hunlock : ∀ e ∈ g', e.KeepsLedger ∨ e.Removes (chains'.unlock buffer).1) :
    (Stock.mk held chains).Keeps (g' ++ (g ++ g₀)) ⟨held, (chains'.unlock buffer).2⟩ where
  locked := by
    have hlocked : chains'.locked = buffer :: chains.locked := hkeeps.locked
    rw [SwapChains.locked_unlock, hlocked, List.erase_cons_head]
  sound l hx hhonest := by
    have hx₁ : (Stock.mk held (chains.lock buffer)).Sound l := hx.of_locked _
    obtain ⟨hsame, hspared₀⟩ := @Ledger.after_of_keeps l g₀ hlock
    have hlocked : l.after (g ++ g₀) = l.after g := by rw [Ledger.after_append, hsame]
    rw [Ledger.allHonest_append, Ledger.allHonest_append, hsame] at hhonest
    obtain ⟨hspared, hx₂⟩ := hkeeps.sound l hx₁ hhonest.2.1
    have hunlocked : chains'.unlock buffer =
        ([], { chains' with locked := chains'.locked.erase buffer }) := by
      obtain ⟨id, h, hh, hsurface⟩ := hheld
      exact if_pos (.inl (hsurface ▸ hx₂.alive id h hh))
    rw [hunlocked] at hunlock ⊢
    obtain ⟨hafter, hspared'⟩ := Ledger.after_of_removes (l := l.after g) hunlock nofun
    rw [Ledger.allSpared_append, Ledger.allSpared_append, hsame, hlocked, Ledger.after_append,
      hlocked, hafter]
    exact ⟨⟨hspared', hspared, hspared₀⟩, hx₂.of_locked _⟩

/-- A new framebuffer may be removed at once. -/
theorem retract {geometry : BufferGeometry} {depth bpp : UInt32} {fb : FramebufferId}
    (hg : ∀ e ∈ g, e.KeepsLedger ∨ e.Removes [fb]) :
    x.Keeps (g ++ [.call (.kernel (.addFramebuffer geometry depth bpp)) (.ok fb)]) x where
  locked := rfl
  sound l hx hhonest := by
    rw [Ledger.allHonest_append] at hhonest
    have hnew : fb ∉ l.ids := hhonest.2.1 fb rfl
    have hdark : ∀ fb' ∈ [fb], ∀ c, (l.table.info c).framebuffer ≠ some fb' := by
      intro fb' hfb c hshown
      obtain rfl := List.mem_singleton.1 hfb
      exact hx.not_shows hnew c (.inl hshown)
    obtain ⟨hafter, hspared⟩ := Ledger.after_of_removes (l := { l with ids := fb :: l.ids }) hg hdark
    have hadded : l.after [.call (.kernel (.addFramebuffer geometry depth bpp)) (.ok fb)] =
        { l with ids := fb :: l.ids } := rfl
    rw [Ledger.allSpared_append, Ledger.after_append, hadded, hafter]
    refine ⟨⟨hspared, trivial, trivial⟩, hx.of_shows (fun _ => List.mem_cons_of_mem _) ?_⟩
    exact fun _ _ => .inl

/-- What is registered for a surface is shown on the CRTC of its holder. -/
theorem commit {e : BufferSlot × FramebufferId} (he : e ∈ x.chains.registered)
    (hheld : x.held id = some h) (hsurface : h.surface = e.1.surface) {c : CrtcHandle}
    (hc : h.crtc = some c) {commit : CrtcCommit} (hcommit : commit.crtc = c)
    (hfb : commit.framebuffer = some e.2) (answer : Except SystemError Unit) :
    x.Keeps [.call (.kernel (.setCrtc commit)) answer] x where
  locked := rfl
  sound l hx _ := by
    refine ⟨⟨trivial, trivial⟩, hx.of_shows ?_ ?_⟩
    · intro fb hfb
      exact hfb
    · intro d fb hs
      cases answer with
      | error _ => exact .inl hs
      | ok _ =>
        rcases hs with hs | hs
        · have hinfo : ((l.table.set commit.result).info d).framebuffer = some fb := hs
          rw [CrtcTable.info_set] at hinfo
          split at hinfo
          · next hd =>
            have hsame : e.2 = fb := Option.some.inj (hfb.symm.trans hinfo)
            exact .inr ⟨e, he, hsame, id, h, hheld, hsurface, hc.trans (hcommit ▸ hd ▸ rfl)⟩
          · exact .inl (.inl hinfo)
        · exact .inl (.inr hs)

/-- What was registered for a surface may be removed once the snapshot is back. -/
theorem release (hheld : x.held id = some h) {connector : ConnectorHandle}
    (hback : PutBack connector h.crtc h.saved g)
    (hremoves : ∀ e ∈ g', e.KeepsLedger ∨ e.Removes (x.chains.destroy h.surface).1) :
    x.Keeps (g' ++ g) (x.put id none (x.chains.destroy h.surface).2) where
  locked := rfl
  sound l hx hhonest := by
    rw [Ledger.allHonest_append] at hhonest
    obtain ⟨hspared, hx', hdark⟩ := hx.putBack hheld hback hhonest.2
    have hgone : ∀ fb ∈ (x.chains.destroy h.surface).1, ∀ c,
        ((l.after g).table.info c).framebuffer ≠ some fb := by
      intro fb hfb
      obtain ⟨e, he, rfl⟩ := List.mem_map.1 hfb
      obtain ⟨he, hsurface⟩ := List.mem_filter.1 he
      exact hdark e he (of_decide_eq_true hsurface)
    obtain ⟨hafter, hspared'⟩ := Ledger.after_of_removes hremoves hgone
    rw [Ledger.allSpared_append, Ledger.after_append, hafter]
    exact ⟨⟨hspared', hspared⟩, hx'.drop hheld⟩

end Keeps

/-- What `Keeps` says, provided that the snapshot is recent to begin with. -/
structure KeepsRecent (saved : Option CrtcInfo) (x : Stock) (gained : List JournalEntry)
    (x' : Stock) : Prop where
  locked : x'.chains.locked = x.chains.locked
  sound : ∀ l, Recent saved l → x.Sound l → l.AllHonest gained →
    l.AllSpared gained ∧ x'.Sound (l.after gained)

variable {x' : Stock} {g g' : List JournalEntry}

/-- An output takes hold of a surface that was created, and goes on from there. -/
theorem KeepsRecent.of_hold (hid : x.held id = none) (hsurface : h.surface = x.chains.nextSurface)
    (hcrtc : h.crtc.isSome) (hg : ∀ e ∈ g, e.KeepsLedger)
    (hkeeps : (x.put id (some h) x.chains.create).Keeps g' x') :
    KeepsRecent h.saved x (g' ++ g) x' where
  locked := hkeeps.locked
  sound l hrecent hx hhonest := by
    have hstart : (x.put id (some h) x.chains.create).Keeps g (x.put id (some h) x.chains.create) :=
      .of_keepsLedger hg
    exact (hstart.trans hkeeps).sound l (hx.hold hid hsurface hcrtc hrecent) hhonest

/-- The snapshot was read before, and nothing was done since. -/
theorem KeepsRecent.after_read {saved : Option CrtcInfo} (hg : ∀ e ∈ g, e.KeepsLedger)
    (hsaved : ∀ s, saved = some s → ∃ c, .call (.kernel (.crtc c)) (.ok s) ∈ g)
    (h : KeepsRecent saved x g' x') : x.Keeps (g' ++ g) x' where
  locked := h.locked
  sound l hx hhonest := by
    obtain ⟨hafter, hspared⟩ := @Ledger.after_of_keeps l g hg
    rw [Ledger.allHonest_append, hafter] at hhonest
    have hrecent : Recent saved l := .of_read hg hhonest.2 hsaved
    obtain ⟨hspared', hx'⟩ := h.sound l hrecent hx hhonest.1
    rw [Ledger.allSpared_append, hafter, Ledger.after_append, hafter]
    exact ⟨⟨hspared', hspared⟩, hx'⟩

end Stock
end Scanout
