import Mathlib
import Scanout.Proofs.StatedSettings

/-!
# A configuration is the defaults with a document laid over them

Entries are read one after the other. Since no key is there twice, what a table comes to at a key is
what the entry of that key says, and it can be read if each of its known entries can. So a document is
read if its settings are of their types, and the configuration is the one that they state.
-/

namespace Scanout

/-! ## Reading entry by entry -/

section Folding

variable {σ α ε : Type} {step : σ → String × TomlValue → Except ε σ} {es : TomlEntries} {s s' : σ}

/-- What a state has under a key changes with the entry of that key and with no other. -/
theorem settled_of_foldlM (get : σ → α) (read : TomlValue → Except ε α) (key : String)
    (hstep : ∀ s e s', step s e = .ok s' →
      if e.1 = key then read e.2 = .ok (get s') else get s' = get s)
    (hkeys : (es.map Prod.fst).Nodup) (h : es.foldlM step s = .ok s') :
    Settled (fun v a => read v = .ok a) (get s) (es.find? key) (get s') := by
  induction es generalizing s with
  | nil =>
    obtain rfl := Except.ok.inj h
    rfl
  | cons e es ih =>
    obtain ⟨k, v⟩ := e
    rw [List.foldlM_cons] at h
    obtain ⟨s₁, hfirst, hrest⟩ := Config.bind_eq_ok h
    obtain ⟨hnew, hkeys⟩ := List.nodup_cons.1 hkeys
    have hrest := ih hkeys hrest
    have hfirst := hstep s (k, v) s₁ hfirst
    rw [TomlEntries.find?_cons]
    by_cases hkey : key = k
    · rw [TomlEntries.find?_eq_none_iff.2 (hkey ▸ hnew)] at hrest
      rw [if_pos hkey]
      rw [if_pos hkey.symm, ← show get s' = get s₁ from hrest] at hfirst
      exact hfirst
    · rw [if_neg (Ne.symm hkey)] at hfirst
      rwa [if_neg hkey, ← hfirst]

theorem exists_foldlM (hstep : ∀ e ∈ es, ∀ s, ∃ s', step s e = .ok s') (s : σ) :
    ∃ s', es.foldlM step s = .ok s' := by
  induction es generalizing s with
  | nil => exact ⟨s, rfl⟩
  | cons e es ih =>
    obtain ⟨s₁, hfirst⟩ := hstep e List.mem_cons_self s
    obtain ⟨s', hrest⟩ := ih (fun e' he' => hstep e' (.tail _ he')) s₁
    exact ⟨s', by rw [List.foldlM_cons, hfirst]; exact hrest⟩

theorem map_some_eq_ok_iff {x : Except ε α} {b : Option α} :
    some <$> x = .ok b ↔ ∃ a, x = .ok a ∧ b = some a := by
  cases x <;> simp [eq_comm]

/-- What is optional is there if its value is. -/
theorem rel_of_settled (read : TomlValue → Except ε α) {R : TomlValue → α → Prop}
    {o : Option TomlValue} {b : Option α} (hread : ∀ v ∈ o, ∀ a, read v = .ok a → R v a)
    (h : Settled (fun v b => some <$> read v = .ok b) none o b) : Option.Rel R o b := by
  cases o with
  | none => exact h ▸ .none
  | some v =>
    obtain ⟨a, ha, rfl⟩ := map_some_eq_ok_iff.1 h
    exact .some (hread v rfl a ha)

end Folding

/-! ## Reading values -/

namespace TomlValue

variable {v : TomlValue} {kind : TomlTableKind} {es : TomlEntries}

theorem path?_eq_ok_iff {path : String} : v.path? = .ok path ↔ v.IsPath path := by
  unfold path? IsPath
  split <;> simp_all

theorem milliseconds?_integer {n : Nat} (hv : (TomlValue.integer n).WellFormed) :
    (TomlValue.integer n).milliseconds? = .ok (UInt64.ofNat n) ∧ (UInt64.ofNat n).toNat = n := by
  have hsmall : n < UInt64.size := by
    cases hv with
    | integer _ hgreatest => exact Nat.lt_trans (Int.ofNat_lt.1 hgreatest) (by decide)
  have hpositive : ¬ (n : Int) < 0 := by omega
  refine ⟨?_, UInt64.toNat_ofNat_of_lt' hsmall⟩
  rw [milliseconds?, if_neg hpositive, Int.toNat_natCast]

theorem milliseconds?_eq_ok_iff {n : UInt64} (hv : v.WellFormed) :
    v.milliseconds? = .ok n ↔ v.IsMilliseconds n := by
  constructor
  · intro h
    unfold milliseconds? at h
    split at h
    · next m =>
      split at h
      · cases h
      · next hpositive =>
        obtain ⟨k, rfl⟩ := Int.eq_ofNat_of_zero_le (Int.not_lt.1 hpositive)
        rw [Int.toNat_natCast] at h
        obtain rfl := Except.ok.inj h
        exact congrArg TomlValue.integer (congrArg Int.ofNat (milliseconds?_integer hv).2).symm
    · cases h
  · rintro rfl
    exact Config.milliseconds?_toNat n

theorem modeRequest?_eq_ok_iff {r : ModeRequest} : v.modeRequest? = .ok r ↔ v.IsModeRequest r := by
  unfold modeRequest? IsModeRequest
  split
  · next s =>
    simp only [TomlValue.string.injEq, exists_eq_left', ← ModeRequest.parse_eq_ok_iff]
    split <;> simp_all
  · simp_all

theorem isOutput_of_output? {mode : Option ModeRequest} (hes : es.WellFormed)
    (h : (TomlValue.table kind es).output? = .ok mode) : (TomlValue.table kind es).IsOutput mode := by
  refine isOutput_table.2 (rel_of_settled _ (fun _ _ _ => modeRequest?_eq_ok_iff.1) ?_)
  refine settled_of_foldlM id _ "mode" ?_ hes.keys h
  rintro mode ⟨key, v⟩ mode' h
  dsimp only at h ⊢
  split
  · next hkey => rwa [if_pos hkey] at h
  · next hkey =>
    rw [if_neg hkey] at h
    exact (Except.ok.inj h).symm

theorem exists_output? (hes : es.WellFormed) (hmode : ∀ v ∈ es.find? "mode", ∃ r, v.IsModeRequest r) :
    ∃ mode, (TomlValue.table kind es).output? = .ok mode := by
  refine exists_foldlM (fun ⟨key, v⟩ he mode => ?_) none
  dsimp only
  split
  · next hkey =>
    obtain ⟨r, hr⟩ := hmode v (lookup_of_mem hes.keys (hkey ▸ he))
    exact ⟨some r, map_some_eq_ok_iff.2 ⟨r, modeRequest?_eq_ok_iff.2 hr, rfl⟩⟩
  · exact ⟨mode, rfl⟩

theorem isOutputs_of_outputs? {outputs : ByName (Option ModeRequest)} (hes : es.WellFormed)
    (htables : ∀ e ∈ es, ∃ kind inner, e.2 = .table kind inner)
    (h : (TomlValue.table kind es).outputs? = .ok outputs) :
    (TomlValue.table kind es).IsOutputs outputs := by
  refine isOutputs_table.2 ⟨Config.ascending_of_outputs? h, fun name => ?_⟩
  refine rel_of_settled output? (fun v hv mode hmode => ?_) ?_
  · obtain ⟨kind', inner, rfl⟩ := htables (name, v) (mem_of_lookup hv)
    exact isOutput_of_output? (hes.find? hv).entries hmode
  · refine settled_of_foldlM (fun outputs => outputs.lookup name) _ name ?_ hes.keys h
    rintro outputs ⟨key, v⟩ outputs' h
    obtain ⟨mode, hmode, h⟩ := Config.bind_eq_ok h
    obtain rfl := Except.ok.inj h
    dsimp only
    split
    · next hkey =>
      subst hkey
      rw [ByName.lookup_put_self]
      exact map_some_eq_ok_iff.2 ⟨mode, hmode, rfl⟩
    · next hkey => exact ByName.lookup_put_of_ne (Ne.symm hkey) mode outputs

theorem exists_outputs? (houtputs : ∀ e ∈ es, ∃ mode, e.2.output? = .ok mode) :
    ∃ outputs, (TomlValue.table kind es).outputs? = .ok outputs := by
  refine exists_foldlM (fun ⟨name, v⟩ he outputs => ?_) []
  obtain ⟨mode, hmode⟩ := houtputs _ he
  exact ⟨ByName.put name mode outputs, by dsimp only at hmode ⊢; rw [hmode]; rfl⟩

end TomlValue

/-! ## Laying entries over the defaults -/

namespace Config

variable {c c' : Config} {key : String} {v : TomlValue} {es : TomlEntries}

/-- An entry puts its value in the place of its key and leaves all else as it is. -/
structure Takes (c : Config) (key : String) (v : TomlValue) (c' : Config) : Prop where
  device : if key = "device" then v.path? = .ok c'.device else c'.device = c.device
  mode : if key = "mode" then v.modeRequest? = .ok c'.mode else c'.mode = c.mode
  flipDrainTimeoutMs : if key = "flip_drain_timeout_ms" then
    v.milliseconds? = .ok c'.flipDrainTimeoutMs else c'.flipDrainTimeoutMs = c.flipDrainTimeoutMs
  scanIntervalMs : if key = "scan_interval_ms" then
    v.milliseconds? = .ok c'.scanIntervalMs else c'.scanIntervalMs = c.scanIntervalMs
  outputs : if key = "outputs" then v.outputs? = .ok c'.outputs else c'.outputs = c.outputs

theorem takes_of_overlay (h : c.overlay key v = .ok c') : c.Takes key v c' := by
  unfold overlay at h
  split at h
  case h_6 hdevice hmode hdrain hscan houtputs =>
    obtain rfl := Except.ok.inj h
    exact ⟨(if_neg hdevice).mpr rfl, (if_neg hmode).mpr rfl, (if_neg hdrain).mpr rfl,
      (if_neg hscan).mpr rfl, (if_neg houtputs).mpr rfl⟩
  all_goals
    obtain ⟨a, ha, h⟩ := bind_eq_ok h
    obtain rfl := Except.ok.inj h
    constructor <;> simp [ha]

/-- What is found under a key of the entries is what is got of the configuration. -/
theorem settled_of_ofEntries {α : Type} (get : Config → α)
    (read : TomlValue → Except ConfigValueError α)
    (htakes : ∀ {c key' v c'}, Takes c key' v c' →
      if key' = key then read v = .ok (get c') else get c' = get c)
    (hes : es.WellFormed) (h : ofEntries es = .ok c) :
    Settled (fun v a => read v = .ok a) (get default) (es.find? key) (get c) :=
  settled_of_foldlM get read key (fun _ _ _ h => htakes (takes_of_overlay h)) hes.keys h

theorem overlays_of_ofEntries (hes : es.WellFormed) (htables : es.OutputsInTables)
    (h : ofEntries es = .ok c) : c.Overlays es where
  device := (settled_of_ofEntries Config.device TomlValue.path? (·.device) hes h).mono
    fun _ _ => TomlValue.path?_eq_ok_iff.1
  mode := (settled_of_ofEntries Config.mode TomlValue.modeRequest? (·.mode) hes h).mono
    fun _ _ => TomlValue.modeRequest?_eq_ok_iff.1
  flipDrainTimeoutMs := by
    have hread := settled_of_ofEntries Config.flipDrainTimeoutMs TomlValue.milliseconds?
      (·.flipDrainTimeoutMs) hes h
    exact hread.mono fun _ hv => (TomlValue.milliseconds?_eq_ok_iff (hes.find? hv)).1
  scanIntervalMs := by
    have hread := settled_of_ofEntries Config.scanIntervalMs TomlValue.milliseconds?
      (·.scanIntervalMs) hes h
    exact hread.mono fun _ hv => (TomlValue.milliseconds?_eq_ok_iff (hes.find? hv)).1
  outputs := by
    refine (settled_of_ofEntries Config.outputs TomlValue.outputs? (·.outputs) hes h).mono
      fun v hv houtputs => ?_
    obtain ⟨kind, inner, rfl, hinner⟩ := htables v hv
    exact TomlValue.isOutputs_of_outputs? (hes.find? hv).entries hinner houtputs

theorem exists_bind_pure {α β ε : Type} {x : Except ε α} {f : α → β} (h : ∃ a, x = .ok a) :
    ∃ b, (do return f (← x) : Except ε β) = .ok b := by
  obtain ⟨a, rfl⟩ := h
  exact ⟨f a, rfl⟩

/-- An entry is taken if its value is of the type of its key. -/
theorem exists_overlay (hes : es.WellFormed) (htables : es.OutputsInTables) (htyped : es.WellTyped)
    (hv : es.find? key = some v) (c : Config) : ∃ c', c.overlay key v = .ok c' := by
  unfold overlay
  split
  case h_1 =>
    obtain ⟨path, hpath⟩ := htyped.device v hv
    exact exists_bind_pure ⟨path, TomlValue.path?_eq_ok_iff.2 hpath⟩
  case h_2 =>
    obtain ⟨r, hr⟩ := htyped.mode v hv
    exact exists_bind_pure ⟨r, TomlValue.modeRequest?_eq_ok_iff.2 hr⟩
  case h_3 =>
    obtain ⟨n, rfl⟩ := htyped.flipDrainTimeoutMs v hv
    exact exists_bind_pure ⟨_, (TomlValue.milliseconds?_integer (hes.find? hv)).1⟩
  case h_4 =>
    obtain ⟨n, rfl⟩ := htyped.scanIntervalMs v hv
    exact exists_bind_pure ⟨_, (TomlValue.milliseconds?_integer (hes.find? hv)).1⟩
  case h_5 =>
    obtain ⟨kind, outputs, rfl, houtputs⟩ := htables v hv
    have houtputsWell := (hes.find? hv).entries
    refine exists_bind_pure (TomlValue.exists_outputs? fun ⟨name, v⟩ he => ?_)
    obtain ⟨kind', output, rfl⟩ := houtputs _ he
    have hname := lookup_of_mem houtputsWell.keys he
    have hmode := htyped.outputs name
    rw [TomlEntries.outputMode?_eq hv hname] at hmode
    exact TomlValue.exists_output? (houtputsWell.find? hname).entries hmode
  case h_6 => exact ⟨c, rfl⟩

theorem exists_ofEntries (hes : es.WellFormed) (htables : es.OutputsInTables) (htyped : es.WellTyped) :
    ∃ c, ofEntries es = .ok c :=
  exists_foldlM (fun _ he c => exists_overlay hes htables htyped (lookup_of_mem hes.keys he) c) default

theorem ofEntries_eq_ok_iff (hes : es.WellFormed) (htables : es.OutputsInTables) :
    ofEntries es = .ok c ↔ c.Overlays es := by
  constructor
  · exact overlays_of_ofEntries hes htables
  · intro h
    obtain ⟨c', hc'⟩ := exists_ofEntries hes htables (h.wellTyped htables)
    rw [hc', (overlays_of_ofEntries hes htables hc').unique h]

theorem validate_eq_ok_iff : c.validate = .ok () ↔
    c.flipDrainTimeoutMs ≠ 0 ∧ c.scanIntervalMs ≠ 0 ∧ c.device ≠ "" := by
  unfold validate
  split_ifs <;> simp_all

theorem ofText_eq_ok_iff {text : String} (hread : TomlEntries.ofText? text = some es) :
    ofText text = .ok c ↔ ofEntries es = .ok c ∧ c.validate = .ok () := by
  unfold ofText
  rw [hread]
  dsimp only
  cases ofEntries es with
  | error _ => simp
  | ok c' =>
    rw [Except.ok.injEq]
    dsimp only
    constructor
    · intro h
      split at h
      · cases h
      · next hvalid => exact Except.ok.inj h ▸ ⟨rfl, hvalid⟩
    · rintro ⟨rfl, hvalid⟩
      rw [hvalid]

/-- A text is read as the configuration that its table states, if that one is fit for use. -/
theorem ofText_eq_ok_iff_overlays {text : String} (hread : TomlEntries.ofText? text = some es)
    (htables : es.OutputsInTables) : ofText text = .ok c ↔
      c.Overlays es ∧ c.flipDrainTimeoutMs ≠ 0 ∧ c.scanIntervalMs ≠ 0 ∧ c.device ≠ "" := by
  rw [ofText_eq_ok_iff hread, validate_eq_ok_iff,
    ofEntries_eq_ok_iff (TomlEntries.wellFormed_of_ofText? hread) htables]

/-- Let a document say nothing of outputs, or have a table of tables for them. It is read if and only if
every known key that is there has a value of its type, neither wait is zero and the device is not empty.
Then the configuration has what the document says and the defaults in all else, and the mode of an
output is its own, or else that of the document, or else the preferred one. Neither other keys nor the
order of the keys make a difference. -/
theorem ofText_overlays_defaults {text : String} {es : TomlEntries}
    (hread : TomlEntries.ofText? text = some es) (htables : es.OutputsInTables) :
    ((∃ c, ofText text = .ok c) ↔ es.WellTyped ∧
      es.find? "flip_drain_timeout_ms" ≠ some (.integer 0) ∧
      es.find? "scan_interval_ms" ≠ some (.integer 0) ∧ es.find? "device" ≠ some (.string "")) ∧
    (∀ c, ofText text = .ok c → c.Overlays es ∧ ∀ name,
      Settled TomlValue.IsModeRequest .preferred ((es.outputMode? name).or (es.find? "mode"))
        (c.modeFor name)) ∧
    ∀ text' es', TomlEntries.ofText? text' = some es' → es.SameSettings es' →
      ∀ c, ofText text' = .ok c ↔ ofText text = .ok c := by
  have hok (c : Config) := ofText_eq_ok_iff_overlays (c := c) hread htables
  refine ⟨?_, fun c hc => ?_, fun text' es' hread' hsame c => ?_⟩
  · constructor
    · rintro ⟨c, hc⟩
      obtain ⟨hoverlays, husable⟩ := (hok c).1 hc
      exact ⟨hoverlays.wellTyped htables, hoverlays.usable_iff.1 husable⟩
    · rintro ⟨htyped, husable⟩
      have hes := TomlEntries.wellFormed_of_ofText? hread
      obtain ⟨c, hc⟩ := exists_ofEntries hes htables htyped
      have hoverlays := overlays_of_ofEntries hes htables hc
      exact ⟨c, (hok c).2 ⟨hoverlays, hoverlays.usable_iff.2 husable⟩⟩
  · have hoverlays := ((hok c).1 hc).1
    exact ⟨hoverlays, hoverlays.modeFor htables⟩
  · rw [ofText_eq_ok_iff_overlays hread' hsame.outputsInTables, hok,
      hsame.overlays_iff (TomlEntries.wellFormed_of_ofText? hread')]

/-- A document with sections, further keys and an output without a mode. -/
def laptop : String :=
  "scale = 2\nmode = \"1920x1080\"\n\n[outputs.eDP-1]\n\n" ++
    "[outputs.HDMI-A-1]\ncolour = \"deep\"\nmode = \"current\"\n"

def laptopEntries : TomlEntries :=
  [("scale", .integer 2), ("mode", .string "1920x1080"),
    ("outputs", .table .implied [("eDP-1", .table .header []),
      ("HDMI-A-1", .table .header [("colour", .string "deep"), ("mode", .string "current")])])]

/-- The same settings in braces and in another order, without the further keys. -/
def laptopInBraces : String :=
  "outputs = \x7bHDMI-A-1.mode = \"current\", eDP-1 = \x7b\x7d\x7d\nmode = \"1920x1080\"\n"

def laptopInBracesEntries : TomlEntries :=
  [("outputs", .table .braces [("HDMI-A-1", .table .dotted [("mode", .string "current")]),
      ("eDP-1", .table .braces [])]), ("mode", .string "1920x1080")]

theorem ofText?_laptop : TomlEntries.ofText? laptop = some laptopEntries := by cbv

theorem ofText?_laptopInBraces : TomlEntries.ofText? laptopInBraces = some laptopInBracesEntries := by
  cbv

theorem laptop_outputsInTables : laptopEntries.OutputsInTables := by
  intro v hv
  obtain rfl := Option.some.inj hv
  exact ⟨_, _, rfl, by simp⟩

theorem laptop_sameSettings : laptopEntries.SameSettings laptopInBracesEntries := by
  have hplain : TomlEntries.SameOutput (.table .header []) (.table .braces []) :=
    ⟨_, _, _, _, rfl, rfl, by simp [TomlEntries.SameEntries]⟩
  have hbeside : TomlEntries.SameOutput
      (.table .header [("colour", .string "deep"), ("mode", .string "current")])
      (.table .dotted [("mode", .string "current")]) :=
    ⟨_, _, _, _, rfl, rfl, by simp [TomlEntries.SameEntries]⟩
  have houtputs : TomlEntries.SameOutputs
      (.table .implied [("eDP-1", .table .header []),
        ("HDMI-A-1", .table .header [("colour", .string "deep"), ("mode", .string "current")])])
      (.table .braces [("HDMI-A-1", .table .dotted [("mode", .string "current")]),
        ("eDP-1", .table .braces [])]) :=
    ⟨_, _, _, _, rfl, rfl, by simp [TomlEntries.SameEntries, hplain, hbeside]⟩
  simp [TomlEntries.SameSettings, TomlEntries.SameEntries, laptopEntries, laptopInBracesEntries,
    TomlEntries.settingKeys, houtputs]

/-- The configuration that either document is read as. -/
def laptopConfig : Config where
  device := "/dev/dri/card0"
  mode := .resolution 1920 1080 none
  flipDrainTimeoutMs := 1000
  scanIntervalMs := 2000
  outputs := [("HDMI-A-1", some .current), ("eDP-1", none)]

theorem ofEntries_laptopEntries : ofEntries laptopEntries = .ok laptopConfig := by
  have hpanel : ModeRequest.parse "1920x1080" = .ok (.resolution 1920 1080 none) := by decide
  have hbeside : ModeRequest.parse "current" = .ok .current := by decide
  simp only [ofEntries, laptopEntries, overlay, TomlValue.modeRequest?, TomlValue.outputs?,
    TomlValue.output?, List.foldlM_cons, List.foldlM_nil, hpanel, hbeside]
  rfl

theorem ofText_overlays_laptop :
    TomlEntries.ofText? laptop = some laptopEntries ∧ laptopEntries.OutputsInTables ∧
      laptopEntries.WellTyped ∧ ofText laptop = .ok laptopConfig ∧
      laptopConfig.Overlays laptopEntries ∧
      (∀ name, Settled TomlValue.IsModeRequest .preferred
        ((laptopEntries.outputMode? name).or (laptopEntries.find? "mode"))
        (laptopConfig.modeFor name)) ∧
      TomlEntries.ofText? laptopInBraces = some laptopInBracesEntries ∧
      laptopEntries.SameSettings laptopInBracesEntries ∧
      ofText laptopInBraces = .ok laptopConfig := by
  obtain ⟨hread, hoverlays, hsame⟩ :=
    ofText_overlays_defaults ofText?_laptop laptop_outputsInTables
  have hlaptop : ofText laptop = .ok laptopConfig :=
    (ofText_eq_ok_iff ofText?_laptop).2 ⟨ofEntries_laptopEntries, rfl⟩
  exact ⟨ofText?_laptop, laptop_outputsInTables, (hread.1 ⟨_, hlaptop⟩).1, hlaptop,
    (hoverlays _ hlaptop).1, (hoverlays _ hlaptop).2, ofText?_laptopInBraces, laptop_sameSettings,
    (hsame _ _ ofText?_laptopInBraces laptop_sameSettings _).2 hlaptop⟩

end Config
end Scanout
