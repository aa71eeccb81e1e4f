import Mathlib.Data.List.Sort
import Scanout.Proofs.ConfigRoundTrip
import Scanout.Proofs.ModeRequestGrammar
import Scanout.Proofs.TomlTrees

/-!
# The settings that a document states

What a table of settings says is told here by its keys alone, not by how it is read: each setting has
what the value of its key stands for, and the default if the key is missing. So it can depend neither
on the order of the keys nor on further ones, which `SameSettings` says of two tables.
-/

namespace Scanout

/-- A setting has what its value stands for, or the default if there is none. -/
def Settled {α : Type} (standsFor : TomlValue → α → Prop) (otherwise : α) :
    Option TomlValue → α → Prop
  | none, a => a = otherwise
  | some v, a => standsFor v a

namespace TomlValue

def IsPath (v : TomlValue) (path : String) : Prop := v = .string path

def IsMilliseconds (v : TomlValue) (n : UInt64) : Prop := v = .integer n.toNat

/-- A mode request is a text of the grammar. -/
def IsModeRequest (v : TomlValue) (r : ModeRequest) : Prop :=
  ∃ s, v = .string s ∧ ModeRequest.Spells s.toList r

/-- An output is a table, with or without a mode. -/
def IsOutput (v : TomlValue) (mode : Option ModeRequest) : Prop :=
  ∃ (kind : TomlTableKind) (es : TomlEntries), v = .table kind es ∧
    Option.Rel IsModeRequest (es.find? "mode") mode

/-- The outputs are a table with a table for each of them. -/
def IsOutputs (v : TomlValue) (outputs : ByName (Option ModeRequest)) : Prop :=
  ∃ (kind : TomlTableKind) (es : TomlEntries), v = .table kind es ∧ outputs.Ascending ∧
    ∀ name, Option.Rel IsOutput (es.find? name) (outputs.lookup name)

end TomlValue

/-- A configuration has what a table says, and is the default one in all else. -/
@[mk_iff]
structure Config.Overlays (c : Config) (es : TomlEntries) : Prop where
  device : Settled TomlValue.IsPath default.device (es.find? "device") c.device
  mode : Settled TomlValue.IsModeRequest default.mode (es.find? "mode") c.mode
  flipDrainTimeoutMs : Settled TomlValue.IsMilliseconds default.flipDrainTimeoutMs
    (es.find? "flip_drain_timeout_ms") c.flipDrainTimeoutMs
  scanIntervalMs : Settled TomlValue.IsMilliseconds default.scanIntervalMs
    (es.find? "scan_interval_ms") c.scanIntervalMs
  outputs : Settled TomlValue.IsOutputs default.outputs (es.find? "outputs") c.outputs

namespace TomlEntries

/-- The entries of the table under a key, if there is one. -/
def table? (key : String) (es : TomlEntries) : Option TomlEntries :=
  match es.find? key with
  | some (.table _ inner) => some inner
  | _ => none

/-- The mode in the table of an output, if it has one. -/
def outputMode? (es : TomlEntries) (name : String) : Option TomlValue := do
  let outputs ← es.table? "outputs"
  let output ← outputs.table? name
  output.find? "mode"

/-- If anything is said of the outputs, it is a table of tables. -/
def OutputsInTables (es : TomlEntries) : Prop :=
  ∀ v ∈ es.find? "outputs", ∃ (kind : TomlTableKind) (outputs : TomlEntries),
    v = .table kind outputs ∧ ∀ e ∈ outputs, ∃ kind output, e.2 = .table kind output

/-- Every known key that is there has a value of its type. -/
structure WellTyped (es : TomlEntries) : Prop where
  device : ∀ v ∈ es.find? "device", ∃ s, v = .string s
  mode : ∀ v ∈ es.find? "mode", ∃ r, v.IsModeRequest r
  flipDrainTimeoutMs : ∀ v ∈ es.find? "flip_drain_timeout_ms", ∃ n : Nat, v = .integer n
  scanIntervalMs : ∀ v ∈ es.find? "scan_interval_ms", ∃ n : Nat, v = .integer n
  outputs : ∀ name, ∀ v ∈ es.outputMode? name, ∃ r, v.IsModeRequest r

/-- Each known entry of either table is in the other one as well, with a value that says the same,
wherever it stands and whatever stands beside it. -/
def SameEntries (known : String → Prop) (same : String → TomlValue → TomlValue → Prop)
    (es es' : TomlEntries) : Prop :=
  (∀ e ∈ es, known e.1 → ∃ e' ∈ es', e'.1 = e.1 ∧ same e.1 e.2 e'.2) ∧
    ∀ e' ∈ es', known e'.1 → ∃ e ∈ es, e.1 = e'.1 ∧ same e.1 e.2 e'.2

/-- Two values are tables, whichever way they came about, that say the same. -/
def SameTables (same : TomlEntries → TomlEntries → Prop) (v v' : TomlValue) : Prop :=
  ∃ (kind kind' : TomlTableKind) (es es' : TomlEntries),
    v = .table kind es ∧ v' = .table kind' es' ∧ same es es'

def SameOutput : TomlValue → TomlValue → Prop :=
  SameTables (SameEntries (· = "mode") fun _ v v' => v = v')

def SameOutputs : TomlValue → TomlValue → Prop :=
  SameTables (SameEntries (fun _ => True) fun _ => SameOutput)

def settingKeys : List String :=
  ["device", "mode", "flip_drain_timeout_ms", "scan_interval_ms", "outputs"]

/-- Two tables say the same, but for the order of their entries and for keys that mean nothing, in
the tables of the outputs too. -/
def SameSettings (es es' : TomlEntries) : Prop :=
  SameEntries (· ∈ settingKeys)
    (fun key v v' => if key = "outputs" then SameOutputs v v' else v = v') es es'

end TomlEntries

/-! ## Settings and their values -/

section Settled

variable {α : Type} {P Q : TomlValue → α → Prop} {R : TomlValue → TomlValue → Prop}
  {otherwise a a' : α} {o o' : Option TomlValue}

theorem Settled.mono (h : Settled P otherwise o a) (hvalue : ∀ v ∈ o, P v a → Q v a) :
    Settled Q otherwise o a := by
  cases o with
  | none => exact h
  | some v => exact hvalue v rfl h

theorem Settled.unique (hvalue : ∀ v, P v a → P v a' → a = a') (h : Settled P otherwise o a)
    (h' : Settled P otherwise o a') : a = a' := by
  cases o with
  | none => exact h.trans h'.symm
  | some v => exact hvalue v h h'

theorem Settled.of_mem {v : TomlValue} (h : Settled P otherwise o a) (hv : v ∈ o) : P v a := by
  rwa [Option.mem_def.1 hv] at h

/-- A setting is not what one value alone stands for if that value is not there, provided that the
default is something else too. -/
theorem Settled.ne_iff {a₀ : α} {v₀ : TomlValue} (h : Settled P otherwise o a)
    (hother : otherwise ≠ a₀) (hvalue : ∀ v, P v a → (a = a₀ ↔ v = v₀)) :
    a ≠ a₀ ↔ o ≠ some v₀ := by
  cases o with
  | none =>
    obtain rfl : a = otherwise := h
    simpa using hother
  | some v => simpa using not_congr (hvalue v h)

theorem settled_congr (h : Option.Rel R o o')
    (hvalue : ∀ v ∈ o, ∀ v' ∈ o', R v v' → (P v a ↔ P v' a)) :
    Settled P otherwise o a ↔ Settled P otherwise o' a := by
  cases h with
  | none => rfl
  | some h => exact hvalue _ rfl _ rfl h

theorem rel_congr {b : Option α} (h : Option.Rel R o o')
    (hvalue : ∀ v ∈ o, ∀ v' ∈ o', R v v' → ∀ a, P v a ↔ P v' a) :
    Option.Rel P o b ↔ Option.Rel P o' b := by
  cases h with
  | none => rfl
  | some h =>
    cases b with
    | none => exact ⟨nofun, nofun⟩
    | some a =>
      have hiff := hvalue _ rfl _ rfl h a
      exact ⟨fun (.some h) => .some (hiff.1 h), fun (.some h) => .some (hiff.2 h)⟩

theorem rel_unique {b b' : Option α} (hvalue : ∀ v ∈ o, ∀ a a', P v a → P v a' → a = a')
    (h : Option.Rel P o b) (h' : Option.Rel P o b') : b = b' := by
  cases h with
  | none => cases h'; rfl
  | some h => cases h' with | some h' => rw [hvalue _ rfl _ _ h h']

theorem exists_of_rel {b : Option α} {v : TomlValue} (h : Option.Rel P o b) (hv : v ∈ o) :
    ∃ a, b = some a ∧ P v a := by
  cases h with
  | none => cases hv
  | some h =>
    obtain rfl := Option.some.inj hv
    exact ⟨_, rfl, h⟩

theorem eq_none_of_rel {b : Option α} (h : Option.Rel P none b) : b = none := by
  cases h
  rfl

/-- One setting comes before another one, which has a default. -/
theorem settled_or {b : Option α} (h : Option.Rel P o b) (h' : Settled P otherwise o' a) :
    Settled P otherwise (o.or o') (b.getD a) := by
  cases h with
  | none => exact h'
  | some h => exact h

end Settled

/-- Outputs are told apart by what is under their names. -/
theorem ByName.Ascending.ext {α : Type} {l l' : ByName α} (h : l.Ascending) (h' : l'.Ascending)
    (hlookup : ∀ name, l.lookup name = l'.lookup name) : l = l' := by
  have hkeys {l : ByName α} (h : l.Ascending) : (l.map Prod.fst).Nodup :=
    List.pairwise_map.2 (h.imp String.ne_of_lt)
  have hmem {l : ByName α} (h : l.Ascending) (e : String × α) : e ∈ l ↔ l.lookup e.1 = some e.2 :=
    ⟨lookup_of_mem (hkeys h), mem_of_lookup⟩
  have : Std.Irrefl fun e e' : String × α => e.1 < e'.1 := ⟨fun e => String.lt_irrefl e.1⟩
  have : Std.Antisymm fun e e' : String × α => e.1 < e'.1 :=
    ⟨fun e e' hlt hgt => absurd hgt (String.lt_asymm hlt)⟩
  exact List.Pairwise.eq_of_mem_iff h h' fun e => by rw [hmem h, hmem h', hlookup]

namespace TomlValue

variable {v : TomlValue} {kind : TomlTableKind} {es : TomlEntries}

theorem isOutput_table {mode : Option ModeRequest} : (TomlValue.table kind es).IsOutput mode ↔
    Option.Rel IsModeRequest (es.find? "mode") mode := by
  constructor
  · rintro ⟨_, _, heq, h⟩
    obtain ⟨-, rfl⟩ := TomlValue.table.inj heq
    exact h
  · exact fun h => ⟨kind, es, rfl, h⟩

theorem isOutputs_table {outputs : ByName (Option ModeRequest)} :
    (TomlValue.table kind es).IsOutputs outputs ↔
      outputs.Ascending ∧ ∀ name, Option.Rel IsOutput (es.find? name) (outputs.lookup name) := by
  constructor
  · rintro ⟨_, _, heq, h⟩
    obtain ⟨-, rfl⟩ := TomlValue.table.inj heq
    exact h
  · exact fun h => ⟨kind, es, rfl, h⟩

theorem IsMilliseconds.unique {n n' : UInt64} (h : v.IsMilliseconds n) (h' : v.IsMilliseconds n') :
    n = n' := by
  have heq := TomlValue.integer.inj (h.symm.trans h')
  exact UInt64.toNat_inj.1 (by omega)

theorem IsModeRequest.unique {r r' : ModeRequest} (h : v.IsModeRequest r) (h' : v.IsModeRequest r') :
    r = r' := by
  obtain ⟨s, rfl, hs⟩ := h
  obtain ⟨s', heq, hs'⟩ := h'
  obtain rfl := TomlValue.string.inj heq
  exact hs.unique hs'

theorem IsOutput.unique {mode mode' : Option ModeRequest} (h : v.IsOutput mode)
    (h' : v.IsOutput mode') : mode = mode' := by
  obtain ⟨kind, es, rfl, hmode⟩ := h
  exact rel_unique (P := IsModeRequest) (fun _ _ _ _ => IsModeRequest.unique) hmode (isOutput_table.1 h')

theorem IsOutputs.unique {outputs outputs' : ByName (Option ModeRequest)} (h : v.IsOutputs outputs)
    (h' : v.IsOutputs outputs') : outputs = outputs' := by
  obtain ⟨kind, es, rfl, hascending, houtputs⟩ := h
  obtain ⟨hascending', houtputs'⟩ := isOutputs_table.1 h'
  refine hascending.ext hascending' fun name => ?_
  exact rel_unique (P := IsOutput) (fun _ _ _ _ => IsOutput.unique) (houtputs name) (houtputs' name)

end TomlValue

/-- A table says everything that there is to a configuration. -/
theorem Config.Overlays.unique {c c' : Config} {es : TomlEntries} (h : c.Overlays es)
    (h' : c'.Overlays es) : c = c' := by
  have hpath {path path' : String} (v : TomlValue) (h : v.IsPath path) (h' : v.IsPath path') :
      path = path' := TomlValue.string.inj (h.symm.trans h')
  obtain ⟨device, mode, drain, scan, outputs⟩ := c
  obtain ⟨device', mode', drain', scan', outputs'⟩ := c'
  obtain rfl : device = device' := h.device.unique hpath h'.device
  obtain rfl : mode = mode' := h.mode.unique (fun _ => TomlValue.IsModeRequest.unique) h'.mode
  obtain rfl : drain = drain' :=
    h.flipDrainTimeoutMs.unique (fun _ => TomlValue.IsMilliseconds.unique) h'.flipDrainTimeoutMs
  obtain rfl : scan = scan' :=
    h.scanIntervalMs.unique (fun _ => TomlValue.IsMilliseconds.unique) h'.scanIntervalMs
  obtain rfl : outputs = outputs' :=
    h.outputs.unique (fun _ => TomlValue.IsOutputs.unique) h'.outputs
  rfl

/-! ## What is stated -/

namespace TomlEntries

variable {es outputs output : TomlEntries} {kind kind' : TomlTableKind} {name : String} {v : TomlValue}

theorem outputMode?_eq (houtputs : es.find? "outputs" = some (.table kind outputs))
    (houtput : outputs.find? name = some (.table kind' output)) :
    es.outputMode? name = output.find? "mode" := by
  simp [outputMode?, table?, houtputs, houtput]

end TomlEntries

namespace Config.Overlays

variable {c : Config} {es : TomlEntries}

/-- The configuration has the modes that are stated of outputs. -/
theorem outputMode (h : c.Overlays es) (htables : es.OutputsInTables) (name : String) :
    Option.Rel TomlValue.IsModeRequest (es.outputMode? name) (c.outputs.lookup name).join := by
  cases hv : es.find? "outputs" with
  | none =>
    have houtputs := h.outputs
    rw [hv] at houtputs
    have hmode : es.outputMode? name = none := by
      simp [TomlEntries.outputMode?, TomlEntries.table?, hv]
    rw [hmode, show c.outputs = [] from houtputs]
    exact .none
  | some v =>
    obtain ⟨kind, outputs, rfl, htables⟩ := htables v hv
    have hname := (TomlValue.isOutputs_table.1 (h.outputs.of_mem hv)).2 name
    cases houtput : outputs.find? name with
    | none =>
      have hmode : es.outputMode? name = none := by
        simp [TomlEntries.outputMode?, TomlEntries.table?, hv, houtput]
      rw [houtput] at hname
      rw [hmode, eq_none_of_rel hname]
      exact .none
    | some v' =>
      obtain ⟨kind', output, rfl⟩ := htables (name, v') (mem_of_lookup houtput)
      obtain ⟨mode, hlookup, hmode⟩ := exists_of_rel hname houtput
      rw [TomlEntries.outputMode?_eq hv houtput, hlookup]
      exact TomlValue.isOutput_table.1 hmode

/-- What is stated is of its type. -/
theorem wellTyped (h : c.Overlays es) (htables : es.OutputsInTables) : es.WellTyped where
  device _ hv := ⟨c.device, h.device.of_mem hv⟩
  mode _ hv := ⟨c.mode, h.mode.of_mem hv⟩
  flipDrainTimeoutMs _ hv := ⟨c.flipDrainTimeoutMs.toNat, h.flipDrainTimeoutMs.of_mem hv⟩
  scanIntervalMs _ hv := ⟨c.scanIntervalMs.toNat, h.scanIntervalMs.of_mem hv⟩
  outputs name _ hv := by
    obtain ⟨r, -, hr⟩ := exists_of_rel (h.outputMode htables name) hv
    exact ⟨r, hr⟩

/-- Waits have a length and the device a path unless the table takes it from them. -/
theorem usable_iff (h : c.Overlays es) :
    c.flipDrainTimeoutMs ≠ 0 ∧ c.scanIntervalMs ≠ 0 ∧ c.device ≠ "" ↔
      es.find? "flip_drain_timeout_ms" ≠ some (.integer 0) ∧
        es.find? "scan_interval_ms" ≠ some (.integer 0) ∧ es.find? "device" ≠ some (.string "") := by
  have hzero {n : UInt64} (v : TomlValue) (hv : v.IsMilliseconds n) : n = 0 ↔ v = .integer 0 := by
    rw [hv, TomlValue.integer.injEq, ← UInt64.toNat_inj]
    exact Int.natCast_eq_zero.symm
  have hempty (v : TomlValue) (hv : v.IsPath c.device) : c.device = "" ↔ v = .string "" := by
    rw [hv, TomlValue.string.injEq]
  exact and_congr (h.flipDrainTimeoutMs.ne_iff (by decide) hzero) <|
    and_congr (h.scanIntervalMs.ne_iff (by decide) hzero) (h.device.ne_iff (by decide) hempty)

/-- The mode of an output is its own, or else the one of the document, or else the preferred one. -/
theorem modeFor (h : c.Overlays es) (htables : es.OutputsInTables) (name : String) :
    Settled TomlValue.IsModeRequest .preferred ((es.outputMode? name).or (es.find? "mode"))
      (c.modeFor name) := by
  have hmode : c.modeFor name = (c.outputs.lookup name).join.getD c.mode := by
    unfold Config.modeFor
    rcases c.outputs.lookup name with _ | _ | _ <;> rfl
  rw [hmode]
  exact settled_or (h.outputMode htables name) h.mode

end Config.Overlays

/-! ## Tables that say the same -/

namespace TomlEntries

variable {es es' : TomlEntries} {known : String → Prop}
  {same : String → TomlValue → TomlValue → Prop} {key : String}

/-- What is known is found alike. -/
theorem SameEntries.find? (h : SameEntries known same es es') (hes' : es'.WellFormed)
    (hkey : known key) : Option.Rel (same key) (es.find? key) (es'.find? key) := by
  cases hv : es.find? key with
  | some v =>
    obtain ⟨⟨key', v'⟩, hmem, rfl, hsame⟩ := h.1 (key, v) (mem_of_lookup hv) hkey
    have hv' : es'.find? key' = some v' := lookup_of_mem hes'.keys hmem
    exact hv' ▸ .some hsame
  | none =>
    cases hv' : es'.find? key with
    | none => exact .none
    | some v' =>
      obtain ⟨⟨key', v⟩, hmem, rfl, -⟩ := h.2 (key, v') (mem_of_lookup hv') hkey
      exact absurd (List.mem_map_of_mem hmem) (find?_eq_none_iff.1 hv)

theorem SameOutput.isOutput_iff {v v' : TomlValue} {mode : Option ModeRequest} (h : SameOutput v v')
    (hv' : v'.WellFormed) : v.IsOutput mode ↔ v'.IsOutput mode := by
  obtain ⟨kind, kind', es, es', rfl, rfl, hsame⟩ := h
  rw [TomlValue.isOutput_table, TomlValue.isOutput_table]
  exact rel_congr (hsame.find? hv'.entries rfl) fun _ _ _ _ heq _ => by rw [heq]

theorem SameOutputs.isOutputs_iff {v v' : TomlValue} {outputs : ByName (Option ModeRequest)}
    (h : SameOutputs v v') (hv' : v'.WellFormed) : v.IsOutputs outputs ↔ v'.IsOutputs outputs := by
  obtain ⟨kind, kind', es, es', rfl, rfl, hsame⟩ := h
  rw [TomlValue.isOutputs_table, TomlValue.isOutputs_table]
  refine and_congr_right fun _ => forall_congr' fun name => ?_
  exact rel_congr (hsame.find? hv'.entries trivial) fun _ _ v' hfound hsame _ =>
    hsame.isOutput_iff (hv'.entries.find? hfound)

/-- Tables that say the same make the same configuration. -/
theorem SameSettings.overlays_iff {c : Config} (h : SameSettings es es') (hes' : es'.WellFormed) :
    c.Overlays es ↔ c.Overlays es' := by
  have hvalue {key : String} (hkey : key ∈ settingKeys) (hother : key ≠ "outputs") {α : Type}
      (P : TomlValue → α → Prop) (otherwise a : α) :
      Settled P otherwise (es.find? key) a ↔ Settled P otherwise (es'.find? key) a :=
    settled_congr (h.find? hes' hkey) fun v _ v' _ hsame => by rw [if_neg hother] at hsame; rw [hsame]
  have houtputs : Settled TomlValue.IsOutputs Config.default.outputs (es.find? "outputs") c.outputs ↔
      Settled TomlValue.IsOutputs Config.default.outputs (es'.find? "outputs") c.outputs :=
    settled_congr (h.find? hes' (by decide)) fun v _ v' hfound hsame =>
      SameOutputs.isOutputs_iff (by rwa [if_pos rfl] at hsame) (hes'.find? hfound)
  rw [Config.overlays_iff, Config.overlays_iff]
  exact and_congr (hvalue (by decide) (by decide) _ _ _) <|
    and_congr (hvalue (by decide) (by decide) _ _ _) <|
      and_congr (hvalue (by decide) (by decide) _ _ _) <|
        and_congr (hvalue (by decide) (by decide) _ _ _) houtputs

theorem SameSettings.outputsInTables (h : SameSettings es es') : es'.OutputsInTables := by
  intro v' hv'
  obtain ⟨⟨key, v⟩, -, rfl, hsame⟩ := h.2 ("outputs", v') (mem_of_lookup hv')
    (show "outputs" ∈ settingKeys by decide)
  rw [if_pos rfl] at hsame
  obtain ⟨_, kind', _, outputs, -, rfl, houtputs⟩ := hsame
  refine ⟨kind', outputs, rfl, fun e' he' => ?_⟩
  obtain ⟨_, -, -, _, kind, _, output, -, heq, -⟩ := houtputs.2 e' he' trivial
  exact ⟨kind, output, heq⟩

end TomlEntries
end Scanout
