import Scanout.ModeSelection
import Scanout.Proofs.ModeRequestGrammar

/-!
# The first mode that satisfies a request

`ModeRequest.Satisfied` says which modes satisfy a request. The mode that is chosen is the first one of
the list that does, and `ModeRequest.Unsatisfied` tells why there is none: a request for the mode in use
fails for reasons of its own, any other one because no mode of the list satisfies it.
-/

namespace Scanout
namespace ModeRequest

/-- The mode satisfies the request, given the mode in use before. Sizes are compared as numbers of 32
bits although those of modes have 16. -/
inductive Satisfied (previous : Option DisplayMode) : ModeRequest → DisplayMode → Prop
  | preferred (mode : DisplayMode) : Satisfied previous .preferred mode
  | current {mode : DisplayMode} (h : previous = some mode) : Satisfied previous .current mode
  | resolution {mode : DisplayMode} {width height : UInt32} {refresh : Option UInt32}
    (hwidth : mode.hdisplay.toNat = width.toNat) (hheight : mode.vdisplay.toNat = height.toNat)
    (hrefresh : ∀ rate, refresh = some rate → mode.vrefresh = rate) :
    Satisfied previous (.resolution width height refresh) mode

/-- The mode at place `i` satisfies the request, and none before it does. -/
structure FirstSatisfied (previous : Option DisplayMode) (r : ModeRequest)
    (modes : List DisplayMode) (i : Fin modes.length) : Prop where
  satisfied : r.Satisfied previous (modes.get i)
  first : ∀ j < i, ¬ r.Satisfied previous (modes.get j)

/-- Why none of the modes is chosen. -/
inductive Unsatisfied (previous : Option DisplayMode) (modes : List DisplayMode) :
    ModeRequest → ModeSelectionError → Prop
  | unused (h : previous = none) : Unsatisfied previous modes .current .noPreviousMode
  | missing {mode : DisplayMode} (h : previous = some mode) (hmissing : mode ∉ modes) :
    Unsatisfied previous modes .current .currentModeMissing
  | unmatched {r : ModeRequest} (hr : r ≠ .current)
    (h : ∀ mode ∈ modes, ¬ r.Satisfied previous mode) :
    Unsatisfied previous modes r (.noMatchingMode r)

variable {previous : Option DisplayMode} {modes : List DisplayMode} {mode : DisplayMode}
  {r : ModeRequest} {e : ModeSelectionError} {request : String}

theorem size_eq_iff {width height : UInt32} : mode.size = (width, height) ↔
    mode.hdisplay.toNat = width.toNat ∧ mode.vdisplay.toNat = height.toNat := by
  rw [DisplayMode.size, Prod.mk.injEq, ← UInt32.toNat_inj, ← UInt32.toNat_inj,
    UInt16.toNat_toUInt32, UInt16.toNat_toUInt32]

theorem accepts_iff : r.accepts previous mode = true ↔ r.Satisfied previous mode := by
  cases r with
  | preferred => exact ⟨fun _ => .preferred mode, fun _ => rfl⟩
  | current =>
    rw [accepts, beq_iff_eq]
    constructor
    · exact .current
    · rintro ⟨⟩
      assumption
  | resolution width height refresh =>
    rw [accepts, Bool.and_eq_true, beq_iff_eq, size_eq_iff, Option.all_eq_true]
    constructor
    · intro ⟨⟨hwidth, hheight⟩, hrefresh⟩
      exact .resolution hwidth hheight fun rate hrate => beq_iff_eq.1 (hrefresh rate hrate)
    · rintro ⟨⟩
      rename_i hwidth hheight hrefresh
      exact ⟨⟨hwidth, hheight⟩, fun rate hrate => beq_iff_eq.2 (hrefresh rate hrate)⟩

/-- Modes are at most 65535 wide and high. -/
theorem not_satisfied_of_large {width height : UInt32} {refresh : Option UInt32}
    (h : 65535 < width.toNat ∨ 65535 < height.toNat) :
    ¬ (resolution width height refresh).Satisfied previous mode := by
  rintro ⟨⟩
  rename_i hwidth hheight _
  have hw := mode.hdisplay.toNat_lt
  have hh := mode.vdisplay.toNat_lt
  omega

theorem findFinIdx?_accepts_eq_some_iff {i : Fin modes.length} :
    modes.findFinIdx? (r.accepts previous) = some i ↔ r.FirstSatisfied previous modes i := by
  simp only [List.findFinIdx?_eq_some_iff, accepts_iff]
  exact ⟨fun ⟨h, hfirst⟩ => ⟨h, hfirst⟩, fun ⟨h, hfirst⟩ => ⟨h, hfirst⟩⟩

theorem findFinIdx?_accepts_eq_none_iff :
    modes.findFinIdx? (r.accepts previous) = none ↔ ∀ mode ∈ modes, ¬ r.Satisfied previous mode := by
  simp only [List.findFinIdx?_eq_none_iff, accepts_iff]

theorem resolveModeIndex_eq_ok_iff {i : Fin modes.length} :
    resolveModeIndex modes previous r = .ok i ↔ r.FirstSatisfied previous modes i := by
  rw [← findFinIdx?_accepts_eq_some_iff]
  unfold resolveModeIndex
  split
  · rename_i h
    obtain ⟨rfl, rfl⟩ := h
    have hnone : modes.findFinIdx? (current.accepts none) = none :=
      findFinIdx?_accepts_eq_none_iff.2 fun mode _ => by rintro ⟨⟩; contradiction
    simp [hnone]
  · cases modes.findFinIdx? (r.accepts previous) with
    | some j => simp
    | none =>
      dsimp only
      split <;> simp

/-- The mode in use is not satisfied by a list if and only if the list lacks it. -/
theorem forall_not_satisfied_current_iff :
    (∀ m ∈ modes, ¬ current.Satisfied (some mode) m) ↔ mode ∉ modes := by
  constructor
  · intro h hmem
    exact h mode hmem (.current rfl)
  · rintro hmissing m hm ⟨⟩
    rename_i heq
    exact hmissing (Option.some.inj heq ▸ hm)

theorem unsatisfied_of_resolveModeIndex (h : resolveModeIndex modes previous r = .error e) :
    Unsatisfied previous modes r e := by
  unfold resolveModeIndex at h
  split at h
  · rename_i hunused
    obtain ⟨rfl, rfl⟩ := hunused
    cases h
    exact .unused rfl
  · rename_i hused
    split at h
    · contradiction
    · rename_i hnone
      rw [findFinIdx?_accepts_eq_none_iff] at hnone
      split at h
      · rename_i hcurrent
        subst hcurrent
        obtain ⟨mode, rfl⟩ := Option.ne_none_iff_exists'.1 fun hnone => hused ⟨rfl, hnone⟩
        cases h
        exact .missing rfl (forall_not_satisfied_current_iff.1 hnone)
      · rename_i hcurrent
        cases h
        exact .unmatched hcurrent hnone

theorem resolveModeIndex_eq_error_iff :
    resolveModeIndex modes previous r = .error e ↔ Unsatisfied previous modes r e := by
  constructor
  · exact unsatisfied_of_resolveModeIndex
  · intro h
    unfold resolveModeIndex
    cases h with
    | unused h => rw [if_pos ⟨rfl, h⟩]
    | missing h hmissing =>
      subst h
      have hnone := findFinIdx?_accepts_eq_none_iff.2 (forall_not_satisfied_current_iff.2 hmissing)
      rw [if_neg (by simp), hnone]
      rfl
    | unmatched hr h =>
      rw [if_neg fun h => hr h.1, findFinIdx?_accepts_eq_none_iff.2 h]
      exact if_neg hr

end ModeRequest

open ModeRequest

variable {modes : List DisplayMode} {previous : Option DisplayMode} {request : String}

/-- Any text of a request is resolved as the request. -/
theorem selectModeIndex_of_spells {r : ModeRequest} (h : Spells request.toList r) :
    selectModeIndex modes previous request = resolveModeIndex modes previous r := by
  rw [selectModeIndex, parse_eq_ok_iff.2 h]

theorem selectModeIndex_of_not_spells (h : ∀ r, ¬ Spells request.toList r) :
    selectModeIndex modes previous request = .error (.invalidRequest ⟨request⟩) := by
  cases hparse : ModeRequest.parse request with
  | ok r => exact absurd (parse_eq_ok_iff.1 hparse) (h r)
  | error cause => rw [selectModeIndex, hparse, text_of_parse_error hparse]

theorem selectModeIndex_eq_ok_iff {i : Fin modes.length} :
    selectModeIndex modes previous request = .ok i ↔
      ∃ r, Spells request.toList r ∧ r.FirstSatisfied previous modes i := by
  constructor
  · intro h
    by_cases hspells : ∃ r, Spells request.toList r
    · obtain ⟨r, hr⟩ := hspells
      rw [selectModeIndex_of_spells hr] at h
      exact ⟨r, hr, resolveModeIndex_eq_ok_iff.1 h⟩
    · rw [selectModeIndex_of_not_spells (not_exists.1 hspells)] at h
      contradiction
  · rintro ⟨r, hr, h⟩
    rw [selectModeIndex_of_spells hr, resolveModeIndex_eq_ok_iff.2 h]

/-- An error tells that the text is malformed, or why none of the modes is chosen. -/
theorem selectModeIndex_eq_error_iff {e : ModeSelectionError} :
    selectModeIndex modes previous request = .error e ↔
      (e = .invalidRequest ⟨request⟩ ∧ ∀ r, ¬ Spells request.toList r) ∨
        ∃ r, Spells request.toList r ∧ Unsatisfied previous modes r e := by
  by_cases hspells : ∃ r, Spells request.toList r
  · obtain ⟨r, hr⟩ := hspells
    rw [selectModeIndex_of_spells hr, resolveModeIndex_eq_error_iff]
    constructor
    · exact fun h => .inr ⟨r, hr, h⟩
    · rintro (⟨-, hnone⟩ | ⟨r', hr', h⟩)
      · exact absurd hr (hnone r)
      · rwa [hr.unique hr']
  · rw [not_exists] at hspells
    rw [selectModeIndex_of_not_spells hspells, Except.error.injEq]
    constructor
    · rintro rfl
      exact .inl ⟨rfl, hspells⟩
    · rintro (⟨h, -⟩ | ⟨r, hr, -⟩)
      · exact h.symm
      · exact absurd hr (hspells r)

/-- The mode that is chosen is the first one that satisfies the request. A text that is no request
is given back; the mode in use is asked for in vain if there was none, whatever the list, or if the list
lacks it; and any other request fails if no mode of the list satisfies it, as sizes above 65535 do. -/
theorem selectMode_first_match (modes : List DisplayMode) (previous : Option DisplayMode)
    (request : String) :
    let selected := selectModeIndex modes previous request
    selectMode modes previous request = selected.map modes.get ∧
      (∀ i, selected = .ok i ↔ ∃ r, Spells request.toList r ∧ r.FirstSatisfied previous modes i) ∧
      (∀ cause, selected = .error (.invalidRequest cause) ↔
        cause = ⟨request⟩ ∧ ∀ r, ¬ Spells request.toList r) ∧
      (selected = .error .noPreviousMode ↔ Spells request.toList .current ∧ previous = none) ∧
      (selected = .error .currentModeMissing ↔
        Spells request.toList .current ∧ ∃ mode, previous = some mode ∧ mode ∉ modes) ∧
      (∀ r, selected = .error (.noMatchingMode r) ↔ Spells request.toList r ∧ r ≠ .current ∧
        ∀ mode ∈ modes, ¬ r.Satisfied previous mode) ∧
      ∀ width height refresh, 65535 < width.toNat ∨ 65535 < height.toNat →
        Spells request.toList (.resolution width height refresh) →
          selected = .error (.noMatchingMode (.resolution width height refresh)) := by
  intro selected
  refine ⟨rfl, fun _ => selectModeIndex_eq_ok_iff, fun cause => ?invalid, ?unused, ?missing,
    fun r => ?unmatched, fun width height refresh hlarge hr => ?large⟩
  case invalid =>
    rw [selectModeIndex_eq_error_iff]
    constructor
    · rintro (⟨h, hnone⟩ | ⟨r, -, ⟨⟩⟩)
      exact ⟨ModeSelectionError.invalidRequest.inj h, hnone⟩
    · rintro ⟨rfl, hnone⟩
      exact .inl ⟨rfl, hnone⟩
  case unused =>
    rw [selectModeIndex_eq_error_iff]
    constructor
    · rintro (⟨⟨⟩, -⟩ | ⟨_, hr, ⟨h⟩⟩)
      exact ⟨hr, h⟩
    · rintro ⟨hr, h⟩
      exact .inr ⟨_, hr, .unused h⟩
  case missing =>
    rw [selectModeIndex_eq_error_iff]
    constructor
    · rintro (⟨⟨⟩, -⟩ | ⟨_, hr, ⟨⟩⟩)
      rename_i mode h hmissing
      exact ⟨hr, mode, h, hmissing⟩
    · rintro ⟨hr, mode, h, hmissing⟩
      exact .inr ⟨_, hr, .missing h hmissing⟩
  case unmatched =>
    rw [selectModeIndex_eq_error_iff]
    constructor
    · rintro (⟨⟨⟩, -⟩ | ⟨_, hr, ⟨⟩⟩)
      rename_i hcurrent h
      exact ⟨hr, hcurrent, h⟩
    · rintro ⟨hr, hcurrent, h⟩
      exact .inr ⟨r, hr, .unmatched hcurrent h⟩
  case large =>
    exact selectModeIndex_eq_error_iff.2
      (.inr ⟨_, hr, .unmatched (by simp) fun _ _ => not_satisfied_of_large hlarge⟩)

end Scanout
