import Scanout.ConfigReader
import Scanout.ConfigWriter
import Scanout.Proofs.ModeRequestText
import Scanout.Proofs.TomlDocuments

/-!
# A configuration is read as it was written

What is written of a configuration is a document of lines and sections, from which the table of its
settings is put together again. Laid over the defaults, the table gives the configuration back. This
needs the names of the outputs to ascend, as they do in every configuration that was read.
-/

namespace Scanout

namespace ByName

variable {α : Type} {l : ByName α} {name : String} {a : α}

/-- The names ascend, so that each is there once. -/
def Ascending (l : ByName α) : Prop := l.Pairwise fun e e' => e.1 < e'.1

/-- A name after all others is put at the end. -/
theorem put_of_greater (h : ∀ e ∈ l, e.1 < name) : put name a l = l ++ [(name, a)] := by
  induction l with
  | nil => rfl
  | cons e l ih =>
    obtain ⟨n, b⟩ := e
    have hn : n < name := h (n, b) List.mem_cons_self
    have hne : name ≠ n := fun heq => String.lt_irrefl n (heq ▸ hn)
    rw [put, if_neg hne, if_neg (String.lt_asymm hn), ih fun e he => h e (List.mem_cons_of_mem _ he)]
    rfl

theorem mem_of_mem_put {e : String × α} (h : e ∈ put name a l) : e = (name, a) ∨ e ∈ l := by
  induction l with
  | nil => exact .inl (List.mem_singleton.1 h)
  | cons e' l ih =>
    obtain ⟨n, b⟩ := e'
    unfold put at h
    split_ifs at h with heq hlt
    · exact (List.mem_cons.1 h).imp (heq ▸ ·) (List.mem_cons_of_mem _)
    · exact List.mem_cons.1 h
    · rcases List.mem_cons.1 h with rfl | h
      · exact .inr List.mem_cons_self
      · exact (ih h).imp_right (List.mem_cons_of_mem _)

theorem Ascending.put (h : l.Ascending) (name : String) (a : α) : (l.put name a).Ascending := by
  induction l with
  | nil => exact List.pairwise_singleton _ _
  | cons e l ih =>
    obtain ⟨n, b⟩ := e
    obtain ⟨hn, hl⟩ := List.pairwise_cons.1 h
    unfold ByName.put
    split_ifs with heq hlt
    · exact List.pairwise_cons.2 ⟨hn, hl⟩
    · refine List.pairwise_cons.2 ⟨fun e he => ?_, h⟩
      rcases List.mem_cons.1 he with rfl | he
      · exact hlt
      · exact String.lt_trans hlt (hn e he)
    · refine List.pairwise_cons.2 ⟨fun e he => ?_, ih hl⟩
      rcases mem_of_mem_put he with rfl | he
      · exact Std.lt_of_le_of_ne (String.not_lt.1 hlt) (Ne.symm heq)
      · exact hn e he

/-- The entries of any list ascend once they are put in order. -/
theorem ascending_ofList (l : List (String × α)) : (ofList l).Ascending := by
  suffices hfrom : ∀ sorted : ByName α, sorted.Ascending →
      Ascending (l.foldl (fun sorted e => put e.1 e.2 sorted) sorted) from hfrom [] List.Pairwise.nil
  induction l with
  | nil => exact fun _ h => h
  | cons e l ih => exact fun _ h => ih _ (h.put e.1 e.2)

end ByName

namespace Config

open TomlText Reader

/-! ## The document -/

section Document

variable {rest rest' : List Char} {as : List TomlAssignment} {name s : String}

/-- The assignment of an output's section, if its mode is given. -/
def modeAssignments : Option ModeRequest → List TomlAssignment
  | some request => [⟨[], "mode", .string request.text⟩]
  | none => []

theorem lines_stringLine (hname : name.toList ≠ []) (hbare : name.toList.all isBareKeyCharacter = true)
    (h : Lines rest as rest') :
    Lines (stringLine name s ++ rest) (⟨[], name, .string s⟩ :: as) rest' := by
  have hvalue : value nestingLimit (stringForm s.toList ++ '\n' :: rest) =
      some (.string s, '\n' :: rest) := value_stringForm (by simp) (by simp)
  have hblank : ∀ c ∈ (stringForm s.toList ++ '\n' :: rest).head?, isBlank c = false := by
    rcases head?_stringForm s.toList ('\n' :: rest) with hhead | hhead <;> simp [hhead, isBlank]
  exact h.assignment hname hbare hblank hvalue

theorem lines_numberLine {n : UInt64} (hname : name.toList ≠ [])
    (hbare : name.toList.all isBareKeyCharacter = true) (hn : n.toNat ≤ greatestInteger)
    (h : Lines rest as rest') :
    Lines (numberLine name n ++ rest) (⟨[], name, .integer n.toNat⟩ :: as) rest' := by
  have hsmall : n.toNat < Nat.pow 2 63 := Nat.lt_of_le_of_lt hn (by decide)
  have hblank : ∀ c ∈ (Nat.toDigits 10 n.toNat ++ '\n' :: rest).head?, isBlank c = false := by
    intro c hc
    have hdigit := isDigit_of_head? hc
    have hspace : c ≠ ' ' := ne_of_isDigit hdigit (by decide)
    have htab : c ≠ '\t' := ne_of_isDigit hdigit (by decide)
    simp [isBlank, hspace, htab]
  exact h.assignment hname hbare hblank (value_toDigits hsmall rest)

/-- The section of an output. -/
def sectionOf (o : String × Option ModeRequest) : TomlSection :=
  ⟨false, ["outputs"], o.1, modeAssignments o.2⟩

/-- The section that says that there are no outputs. -/
def noOutputs : TomlSection := ⟨false, [], "outputs", []⟩

def sectionsOf : ByName (Option ModeRequest) → List TomlSection
  | [] => [noOutputs]
  | outputs => outputs.map sectionOf

theorem keyForm_outputs : keyForm "outputs".toList = "outputs".toList :=
  keyForm_of_bare (by simp) (by decide)

/-- The line with the mode of an output, if it is given. -/
def modeLine : Option ModeRequest → List Char
  | some request => stringLine "mode" request.text
  | none => []

theorem outputSection_eq (name : String) (mode : Option ModeRequest) :
    outputSection name mode =
      '\n' :: underHeader ("outputs".toList ++ '.' :: keyForm name.toList) (modeLine mode) := by
  have hopening : "\n[outputs.".toList = '\n' :: '[' :: ("outputs".toList ++ ['.']) := rfl
  have hclosing : "]\n".toList = [']', '\n'] := rfl
  have hmode : outputSection name mode =
      "\n[outputs.".toList ++ keyForm name.toList ++ "]\n".toList ++ modeLine mode := by
    cases mode <;> rfl
  rw [hmode, hopening, hclosing]
  generalize "outputs".toList = outputs
  simp only [underHeader, List.append_assoc, List.cons_append, List.nil_append]

theorem lines_modeLine (h : Lines rest [] rest') (mode : Option ModeRequest) :
    Lines (modeLine mode ++ rest) (modeAssignments mode) rest' := by
  cases mode with
  | none => exact h
  | some request => exact lines_stringLine (by simp) (by decide) h

theorem section?_output {body : List Char} (h : Lines body as rest) : section?
      (underHeader ("outputs".toList ++ '.' :: keyForm name.toList) body) =
    some (some ⟨false, ["outputs"], name, as⟩, rest) := by
  refine section?_header (by simp) ?_ h
  have hkey : key (keyForm "outputs".toList ++ '.' :: (keyForm name.toList ++ ']' :: '\n' :: body)) =
      some ((["outputs"], name), ']' :: '\n' :: body) :=
    key_keyForm_keyForm (by simp [isBareKeyCharacter, isBlank, Char.isAlphanum]) (by simp)
  rw [keyForm_outputs] at hkey
  simpa using hkey

/-- The sections of the outputs follow each other. -/
theorem sections_read (outputs : ByName (Option ModeRequest)) :
    ∃ rest, Lines (outputs.flatMap fun (name, mode) => outputSection name mode) [] rest ∧
      Items section? rest (outputs.map sectionOf) [] := by
  induction outputs with
  | nil => exact ⟨[], .ended, .nil rfl⟩
  | cons o outputs ih =>
    obtain ⟨name, mode⟩ := o
    obtain ⟨rest, hlines, hitems⟩ := ih
    have hbody := lines_modeLine hlines mode
    have hshorter := hbody.length_le
    have htext : (((name, mode) :: outputs).flatMap fun (name, mode) => outputSection name mode) =
        '\n' :: underHeader ("outputs".toList ++ '.' :: keyForm name.toList)
          (modeLine mode ++ outputs.flatMap fun (name, mode) => outputSection name mode) := by
      rw [List.flatMap_cons]
      dsimp only
      rw [outputSection_eq]
      simp only [underHeader, List.append_assoc, List.cons_append]
    rw [htext]
    refine ⟨_, .header _, .cons (section?_output hbody) ?_ hitems⟩
    simp only [List.length_cons, List.length_append] at hshorter ⊢
    omega

theorem outputSections_read (outputs : ByName (Option ModeRequest)) :
    ∃ rest, Lines (outputSections outputs) [] rest ∧ Items section? rest (sectionsOf outputs) [] := by
  cases outputs with
  | nil =>
    have htext : outputSections [] = '\n' :: underHeader "outputs".toList [] := rfl
    have hkey : key (keyForm "outputs".toList ++ ([] ++ [']', '\n'])) =
        some (([], "outputs"), [']', '\n']) :=
      key_keyForm (by simp) (by simp [isBareKeyCharacter, isBlank, Char.isAlphanum]) (by simp)
    rw [keyForm_outputs] at hkey
    rw [htext]
    exact ⟨_, .header _, .cons (section?_header (by simp) hkey .ended) (by simp) (.nil rfl)⟩
  | cons o outputs => exact sections_read (o :: outputs)

theorem document_read {c : Config} (hdrain : c.flipDrainTimeoutMs.toNat ≤ greatestInteger)
    (hscan : c.scanIntervalMs.toNat ≤ greatestInteger) :
    readAll document (stringLine "device" c.device ++ stringLine "mode" c.mode.text ++
      numberLine "flip_drain_timeout_ms" c.flipDrainTimeoutMs ++
      numberLine "scan_interval_ms" c.scanIntervalMs ++ outputSections c.outputs) =
    some ⟨[⟨[], "device", .string c.device⟩, ⟨[], "mode", .string c.mode.text⟩,
      ⟨[], "flip_drain_timeout_ms", .integer c.flipDrainTimeoutMs.toNat⟩,
      ⟨[], "scan_interval_ms", .integer c.scanIntervalMs.toNat⟩], sectionsOf c.outputs⟩ := by
  obtain ⟨rest, hlines, hsections⟩ := outputSections_read c.outputs
  refine document_of_lines (by simp [stringLine]) ?_ hsections
  simp only [List.append_assoc]
  refine lines_stringLine (by simp) (by decide) (lines_stringLine (by simp) (by decide) ?_)
  exact lines_numberLine (by simp) (by decide) hdrain (lines_numberLine (by simp) (by decide) hscan hlines)

end Document

/-! ## The table -/

section Table

variable {front : TomlEntries} {outputs written : ByName (Option ModeRequest)}

def modeEntries : Option ModeRequest → TomlEntries
  | some request => [("mode", .string request.text)]
  | none => []

/-- The table of an output under its name. -/
def outputEntry (o : String × Option ModeRequest) : String × TomlValue :=
  (o.1, .table .header (modeEntries o.2))

def outputsTable : ByName (Option ModeRequest) → TomlValue
  | [] => .table .header []
  | outputs => .table .implied (outputs.map outputEntry)

/-- The settings that are no outputs. -/
def settings (c : Config) : TomlEntries :=
  [("device", .string c.device), ("mode", .string c.mode.text),
    ("flip_drain_timeout_ms", .integer c.flipDrainTimeoutMs.toNat),
    ("scan_interval_ms", .integer c.scanIntervalMs.toNat)]

theorem addValues_modeAssignments (mode : Option ModeRequest) :
    TomlEntries.addValues .header (modeAssignments mode) [] = some (modeEntries mode) := by
  cases mode <;> rfl

theorem find?_outputEntry {name : String} (h : ∀ o ∈ written, o.1 < name) :
    TomlEntries.find? name (written.map outputEntry) = none := by
  refine List.lookup_eq_none_iff.2 fun e he => ?_
  obtain ⟨o, ho, rfl⟩ := List.mem_map.1 he
  exact bne_iff_ne.2 fun heq => String.lt_irrefl o.1 (heq ▸ h o ho)

/-- The sections of further outputs are added to the table of those before them. -/
theorem sections_added (hfront : front.find? "outputs" = none) :
    ∀ outputs written : ByName (Option ModeRequest), ByName.Ascending (written ++ outputs) →
      (outputs.map sectionOf).foldlM TomlEntries.addSection
          (front ++ [("outputs", .table .implied (written.map outputEntry))]) =
        some (front ++ [("outputs", .table .implied ((written ++ outputs).map outputEntry))]) := by
  intro outputs
  induction outputs with
  | nil => simp
  | cons o outputs ih =>
    intro written h
    have hname : ∀ o' ∈ written, o'.1 < o.1 := fun o' ho' =>
      (List.pairwise_append.1 h).2.2 o' ho' o List.mem_cons_self
    have hadd : TomlEntries.addSection
        (front ++ [("outputs", .table .implied (written.map outputEntry))]) (sectionOf o) =
          some (front ++ [("outputs", .table .implied ((written ++ [o]).map outputEntry))]) := by
      rw [List.map_append]
      exact TomlEntries.addSection_next hfront (find?_outputEntry hname) (addValues_modeAssignments o.2)
    have hrest := ih (written ++ [o]) (by simpa using h)
    rw [List.map_cons, List.foldlM_cons, hadd]
    simpa using hrest

theorem outputs_added (hfront : front.find? "outputs" = none) (h : outputs.Ascending) :
    (sectionsOf outputs).foldlM TomlEntries.addSection front =
      some (front ++ [("outputs", outputsTable outputs)]) := by
  cases outputs with
  | nil => simp [sectionsOf, noOutputs, outputsTable, TomlEntries.addSection, TomlEntries.within,
      TomlEntries.open?, hfront, TomlEntries.addValues]
  | cons o outputs =>
    have hadd : TomlEntries.addSection front (sectionOf o) =
        some (front ++ [("outputs", .table .implied ([o].map outputEntry))]) :=
      TomlEntries.addSection_first hfront (addValues_modeAssignments o.2)
    have hrest := sections_added hfront outputs [o] h
    rw [sectionsOf, List.map_cons, List.foldlM_cons, hadd]
    · exact hrest
    · simp

end Table

/-! ## The configuration -/

section Reading

variable {c : Config} {outputs written : ByName (Option ModeRequest)}

theorem output?_table (mode : Option ModeRequest) :
    TomlValue.output? (.table .header (modeEntries mode)) = .ok mode := by
  cases mode with
  | none => rfl
  | some request =>
    have hread : TomlValue.modeRequest? (.string request.text) = .ok request := by
      rw [TomlValue.modeRequest?, ModeRequest.parse_of_text]
    rw [modeEntries, TomlValue.output?, List.foldlM_cons]
    dsimp only
    rw [if_pos rfl, hread]
    rfl

/-- The outputs of a table are those it was made of, as their names ascend. -/
theorem outputs_read : ∀ outputs written : ByName (Option ModeRequest),
    ByName.Ascending (written ++ outputs) →
      (outputs.map outputEntry).foldlM (fun outputs (name, v) => do
          return ByName.put name (← TomlValue.output? v) outputs) written =
        (.ok (written ++ outputs) : Except ConfigValueError (ByName (Option ModeRequest))) := by
  intro outputs
  induction outputs with
  | nil => simp [pure, Except.pure]
  | cons o outputs ih =>
    obtain ⟨name, mode⟩ := o
    intro written h
    have hname : ∀ e ∈ written, e.1 < name := fun e he =>
      (List.pairwise_append.1 h).2.2 e he (name, mode) List.mem_cons_self
    have hput := ByName.put_of_greater (a := mode) hname
    have hrest := ih (written ++ [(name, mode)]) (by simpa using h)
    rw [List.map_cons, List.foldlM_cons]
    simp only [outputEntry, output?_table]
    simpa [hput, bind, Except.bind, pure, Except.pure] using hrest

theorem outputs?_outputsTable (h : outputs.Ascending) :
    (outputsTable outputs).outputs? = .ok outputs := by
  cases outputs with
  | nil => rfl
  | cons o outputs => exact outputs_read (o :: outputs) [] h

theorem milliseconds?_toNat (n : UInt64) : TomlValue.milliseconds? (.integer n.toNat) = .ok n := by
  have hpositive : ¬ (n.toNat : Int) < 0 := by omega
  rw [TomlValue.milliseconds?, if_neg hpositive, Int.toNat_natCast, UInt64.ofNat_toNat]

/-- Laid over the defaults, the settings and outputs of a configuration leave none of them. -/
theorem ofEntries_settings (h : c.outputs.Ascending) :
    ofEntries (settings c ++ [("outputs", outputsTable c.outputs)]) = .ok c := by
  simp [ofEntries, settings, overlay, TomlValue.path?, TomlValue.modeRequest?,
    ModeRequest.parse_of_text, milliseconds?_toNat, outputs?_outputsTable h, bind, Except.bind, pure,
    Except.pure]

/-- The document of a configuration describes the table of its settings. -/
theorem ofText?_text {text : String} (htext : c.text? = some text) (h : c.outputs.Ascending) :
    TomlEntries.ofText? text = some (settings c ++ [("outputs", outputsTable c.outputs)]) := by
  obtain ⟨⟨hdrain, hscan⟩, htext⟩ := Option.ite_none_right_eq_some.1 htext
  obtain rfl := Option.some.inj htext
  rw [TomlEntries.ofText?, String.toList_ofList, document_read hdrain hscan]
  have hsettings : TomlEntries.addValues .header
      [⟨[], "device", .string c.device⟩, ⟨[], "mode", .string c.mode.text⟩,
        ⟨[], "flip_drain_timeout_ms", .integer c.flipDrainTimeoutMs.toNat⟩,
        ⟨[], "scan_interval_ms", .integer c.scanIntervalMs.toNat⟩] [] = some (settings c) := rfl
  rw [Option.bind_some, TomlDocument.entries, hsettings]
  exact outputs_added rfl h

theorem ofText_of_text? {text : String} (hvalid : c.validate = .ok ()) (houtputs : c.outputs.Ascending)
    (htext : c.text? = some text) : ofText text = .ok c := by
  simp only [ofText, ofText?_text htext houtputs, ofEntries_settings houtputs, hvalid]

/-- A valid configuration that a document can hold has a text, and that text is read as the
configuration it was written from. -/
theorem ofText_of_text (c : Config) (hvalid : c.validate = .ok ()) (houtputs : c.outputs.Ascending)
    (hdrain : c.flipDrainTimeoutMs.toNat ≤ greatestInteger)
    (hscan : c.scanIntervalMs.toNat ≤ greatestInteger) :
    ∃ text, c.text? = some text ∧ ofText text = .ok c := by
  obtain ⟨text, htext⟩ : ∃ text, c.text? = some text := ⟨_, if_pos ⟨hdrain, hscan⟩⟩
  exact ⟨text, htext, ofText_of_text? hvalid houtputs htext⟩

/-- A device and outputs with quotes, line breaks, dots and nothing in their names. -/
def unwieldy : Config where
  device := "/dev/\"dri\"/it\'s\n\\card"
  mode := .resolution 1920 1080 (some 60)
  flipDrainTimeoutMs := 9223372036854775807
  scanIntervalMs := 1
  outputs := .ofList [("HDMI-A-1", none), ("", some .current), ("a.b", some .preferred),
    ("'\"\\\x07\n", some (.resolution 0 4294967295 none)), ("\"\"\"", none)]

theorem ofText_of_text_unwieldy :
    unwieldy.validate = .ok () ∧ unwieldy.outputs.Ascending ∧
      unwieldy.flipDrainTimeoutMs.toNat ≤ greatestInteger ∧
      unwieldy.scanIntervalMs.toNat ≤ greatestInteger ∧
      ∃ text, unwieldy.text? = some text ∧ ofText text = .ok unwieldy :=
  have hvalid : unwieldy.validate = .ok () := rfl
  have houtputs : unwieldy.outputs.Ascending := ByName.ascending_ofList _
  have hdrain : unwieldy.flipDrainTimeoutMs.toNat ≤ greatestInteger := by decide
  have hscan : unwieldy.scanIntervalMs.toNat ≤ greatestInteger := by decide
  ⟨hvalid, houtputs, hdrain, hscan, ofText_of_text unwieldy hvalid houtputs hdrain hscan⟩

end Reading

/-! ## What is read can be written -/

section Rereading

variable {c c' : Config}

theorem bind_eq_ok {α β ε : Type} {x : Except ε α} {f : α → Except ε β} {b : β}
    (h : (x >>= f) = .ok b) : ∃ a, x = .ok a ∧ f a = .ok b := by
  cases x with
  | error _ => cases h
  | ok a => exact ⟨a, rfl, h⟩

/-- The names of the outputs ascend in whatever is read. -/
theorem ascending_of_outputs? {v : TomlValue} {outputs : ByName (Option ModeRequest)}
    (h : v.outputs? = .ok outputs) : outputs.Ascending := by
  cases v with
  | table kind entries =>
    suffices hfrom : ∀ sorted : ByName (Option ModeRequest), sorted.Ascending →
        entries.foldlM (fun outputs (name, v) => do
          return ByName.put name (← TomlValue.output? v) outputs) sorted =
            (.ok outputs : Except ConfigValueError _) → outputs.Ascending from
      hfrom [] List.Pairwise.nil h
    clear h
    induction entries with
    | nil => exact fun sorted hsorted h => Except.ok.inj h ▸ hsorted
    | cons e entries ih =>
      intro sorted hsorted h
      rw [List.foldlM_cons] at h
      obtain ⟨sorted', hput, hrest⟩ := bind_eq_ok h
      obtain ⟨mode, -, hput⟩ := bind_eq_ok hput
      exact ih sorted' (Except.ok.inj hput ▸ hsorted.put e.1 mode) hrest
  | string _ | integer _ | float _ | boolean _ | dateTime _ | array _ _ => cases h

theorem ascending_overlay {name : String} {v : TomlValue} (hc : c.outputs.Ascending)
    (h : c.overlay name v = .ok c') : c'.outputs.Ascending := by
  unfold overlay at h
  split at h
  case h_5 =>
    obtain ⟨outputs, houtputs, h⟩ := bind_eq_ok h
    exact Except.ok.inj h ▸ ascending_of_outputs? houtputs
  case h_6 => exact Except.ok.inj h ▸ hc
  all_goals
    obtain ⟨_, -, h⟩ := bind_eq_ok h
    exact Except.ok.inj h ▸ hc

theorem ascending_ofEntries {entries : TomlEntries} (h : ofEntries entries = .ok c) :
    c.outputs.Ascending := by
  unfold ofEntries at h
  have hdefault : default.outputs.Ascending := List.Pairwise.nil
  generalize default = c₀ at h hdefault
  induction entries generalizing c₀ with
  | nil => exact Except.ok.inj h ▸ hdefault
  | cons e entries ih =>
    rw [List.foldlM_cons] at h
    obtain ⟨c₁, hfirst, hrest⟩ := bind_eq_ok h
    exact ih c₁ hrest (ascending_overlay hdefault hfirst)

/-- What was read of a text is read again of what is written of it. -/
theorem reread {text again : String} (h : ofText text = .ok c) (hagain : c.text? = some again) :
    ofText again = .ok c := by
  unfold ofText at h
  split at h
  · cases h
  · split at h
    · cases h
    next c' hentries =>
      split at h
      · cases h
      next hvalid =>
        obtain rfl := Except.ok.inj h
        exact ofText_of_text? hvalid (ascending_ofEntries hentries) hagain

end Rereading

end Config
end Scanout
