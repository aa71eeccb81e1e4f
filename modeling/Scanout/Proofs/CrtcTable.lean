import Scanout.Proofs.OutputSetup

/-!
# The CRTC table of the kernel

What drives every CRTC is known from what drove it in the beginning and from the commits that the
kernel accepted since. Only showing a first frame and putting a snapshot back commit anything, and
the table after either can be told.
-/

namespace Scanout

/-- The configuration of a CRTC that is off. -/
def CrtcInfo.off (c : CrtcHandle) : CrtcInfo := ⟨c, none, (0, 0), none⟩

/-- The configurations of all CRTCs, each under its handle. -/
@[ext]
structure CrtcTable where
  info : CrtcHandle → CrtcInfo
  handle_info : ∀ c, (info c).handle = c

namespace CrtcTable

/-- The table of a device all of whose CRTCs are off. -/
def dark : CrtcTable := ⟨.off, fun _ => rfl⟩

def set (t : CrtcTable) (new : CrtcInfo) : CrtcTable where
  info c := if c = new.handle then new else t.info c
  handle_info c := by
    split
    · next hc => exact hc.symm
    · exact t.handle_info c

def note (t : CrtcTable) : JournalEntry → CrtcTable
  | .call (.kernel (.setCrtc commit)) (.ok _) => t.set commit.result
  | _ => t

/-- The table after some entries. -/
def after (t : CrtcTable) : List JournalEntry → CrtcTable
  | [] => t
  | e :: earlier => (t.after earlier).note e

/-- The table after a snapshot was put back, if there was one to put back, and the claimed CRTC was
switched off unless it has the snapshot. -/
def putBack (t : CrtcTable) (claimed : CrtcHandle) : Option CrtcInfo → CrtcTable
  | none => t.set (.off claimed)
  | some s => if s.handle = claimed then t.set s else (t.set s).set (.off claimed)

variable {t : CrtcTable} {c claimed : CrtcHandle} {g g' : List JournalEntry}

theorem info_set (new : CrtcInfo) :
    (t.set new).info c = if c = new.handle then new else t.info c := rfl

theorem after_append : t.after (g' ++ g) = (t.after g).after g' := by
  induction g' with
  | nil => rfl
  | cons e g' ih => rw [List.cons_append, after, ih, after]

theorem info_putBack (restored : Option CrtcInfo) :
    (∃ s, restored = some s ∧ s.handle = c ∧ (t.putBack claimed restored).info c = s) ∨
      (∀ s, restored = some s → s.handle ≠ c) ∧
        (t.putBack claimed restored).info c = if c = claimed then .off claimed else t.info c := by
  cases restored with
  | none => exact .inr ⟨nofun, rfl⟩
  | some s =>
    by_cases hs : s.handle = claimed
    · rw [putBack, if_pos hs, info_set]
      by_cases hc : c = s.handle
      · exact .inl ⟨s, rfl, hc.symm, if_pos hc⟩
      · refine .inr ⟨fun _ hs' => Option.some.inj hs' ▸ Ne.symm hc, ?_⟩
        rw [if_neg hc, if_neg (hs ▸ hc)]
    · rw [putBack, if_neg hs, info_set, info_set]
      by_cases hc : c = s.handle
      · refine .inl ⟨s, rfl, hc.symm, ?_⟩
        exact (if_neg (show c ≠ claimed from hc ▸ hs)).trans (if_pos hc)
      · refine .inr ⟨fun _ hs' => Option.some.inj hs' ▸ Ne.symm hc, ?_⟩
        rw [if_neg hc]
        rfl

end CrtcTable

def JournalEntry.KeepsTable (e : JournalEntry) : Prop := ∀ t : CrtcTable, t.note e = t

theorem JournalEntry.IsQuiet.keepsTable {e : JournalEntry} (h : e.IsQuiet) : e.KeepsTable := by
  intro t
  unfold CrtcTable.note
  split
  · exact h.elim
  · rfl

/-- The kernel accepted the commit, if the entry is one. -/
def JournalEntry.Granted : JournalEntry → Prop
  | .call (.kernel (.setCrtc _)) answer => answer.isOk = true
  | _ => True

/-- The kernel accepted the commit if it switches a CRTC off. -/
def JournalEntry.GrantsOff : JournalEntry → Prop
  | .call (.kernel (.setCrtc commit)) answer => commit = .switchOff commit.crtc → answer.isOk = true
  | _ => True

instance : DecidablePred JournalEntry.Granted := fun e => by
  unfold JournalEntry.Granted
  split <;> infer_instance

instance : DecidablePred JournalEntry.GrantsOff := fun e => by
  unfold JournalEntry.GrantsOff
  split <;> infer_instance

theorem JournalEntry.Granted.grantsOff {e : JournalEntry} (h : e.Granted) : e.GrantsOff := by
  unfold JournalEntry.GrantsOff
  split
  · exact fun _ => h
  · trivial

theorem JournalEntry.GrantsOff.eq_ok {c : CrtcHandle} {answer : Except SystemError Unit}
    (h : GrantsOff (.call (.kernel (.setCrtc (.switchOff c))) answer)) : answer = .ok () := by
  cases answer with
  | ok _ => rfl
  | error _ => simp [GrantsOff, CrtcCommit.switchOff, Except.isOk, Except.toBool] at h

theorem JournalEntry.not_granted_error (commit : CrtcCommit) (cause : SystemError) :
    ¬Granted (.call (.kernel (.setCrtc commit)) (.error cause)) := nofun

section Tables

variable {t : CrtcTable} {core g : List JournalEntry} {connector : ConnectorHandle}
  {c : CrtcHandle} {saved : Option CrtcInfo}

theorem CrtcTable.after_of_keeps (h : ∀ e ∈ g, e.KeepsTable) : t.after g = t := by
  induction g with
  | nil => rfl
  | cons e g ih =>
    rw [after, ih fun e' he' => h e' (List.mem_cons_of_mem _ he')]
    exact h e (by simp) t

theorem Amid.table (h : Amid core g) : t.after g = t.after core := by
  obtain ⟨before, after, hbefore, hafter, rfl⟩ := h
  rw [CrtcTable.after_append, CrtcTable.after_append,
    CrtcTable.after_of_keeps fun e he => (hbefore e he).keepsTable,
    CrtcTable.after_of_keeps fun e he => (hafter e he).keepsTable]

theorem Destroys.keepsTable {s : SurfaceId} (h : Destroys s g) : ∀ e ∈ g, e.KeepsTable := by
  intro e he
  rcases h e he with hquiet | ⟨d, rfl⟩
  · exact hquiet.keepsTable
  · exact fun _ => rfl

theorem FlipAttempt.keepsTable {shown : Option FramebufferId} (h : FlipAttempt c shown g) :
    ∀ e ∈ g, e.KeepsTable := by
  cases h <;> simp [JournalEntry.KeepsTable, CrtcTable.note]

/-- Whatever became of the snapshot, the claimed CRTC has the snapshot or is off. -/
theorem PutBack.after_eq (h : PutBack connector (some c) saved g)
    (hoff : ∀ e ∈ g, e.GrantsOff) (t : CrtcTable) :
    ∃ restored, t.after g = t.putBack c restored ∧
      (restored = none ∨ restored = saved.filter (·.mode.isSome)) ∧
      ((∀ e ∈ g, e.Granted) → restored = saved.filter (·.mode.isSome)) := by
  cases h with
  | nothing _ hc | refused _ hc => contradiction
  | off hs hc =>
    obtain rfl := Option.some.inj hc
    obtain rfl := (hoff _ List.mem_cons_self).eq_ok
    exact ⟨none, rfl, .inl rfl, fun _ => hs.symm⟩
  | @restored s hs hc =>
    obtain rfl : c = s.handle := by simpa using hc
    exact ⟨some s, by rw [CrtcTable.putBack, if_pos rfl]; rfl, .inr hs.symm, fun _ => hs.symm⟩
  | @moved s _ _ hs hc hne =>
    obtain rfl := Option.some.inj hc
    obtain rfl := (hoff _ List.mem_cons_self).eq_ok
    exact ⟨some s, by rw [CrtcTable.putBack, if_neg (Ne.symm hne)]; rfl, .inr hs.symm,
      fun _ => hs.symm⟩
  | refusedOff _ hc =>
    obtain rfl := Option.some.inj hc
    obtain rfl := (hoff _ List.mem_cons_self).eq_ok
    refine ⟨none, rfl, .inl rfl, fun hok => ?_⟩
    exact absurd (hok _ (List.mem_cons_of_mem _ List.mem_cons_self)) (JournalEntry.not_granted_error _ _)

end Tables
end Scanout
