import Mathlib.Data.List.Nodup
import Scanout.TomlReader
import Scanout.Proofs.TextReading

/-!
# Tables that are read are well-formed

However the lines of a document are put together, no table of it names a key twice, and whole numbers
stay in the range of 64 bits with a sign. A reader of values is followed part by part: `Gives` says what
holds of all that a reader gives.
-/

namespace Scanout

section Lookup

variable {β : Type} {l : List (String × β)} {key : String} {b : β}

theorem mem_of_lookup (h : l.lookup key = some b) : (key, b) ∈ l := by
  obtain ⟨_, _, rfl, -⟩ := List.lookup_eq_some_iff.1 h
  simp

theorem lookup_eq_none_iff_notMem : l.lookup key = none ↔ key ∉ l.map Prod.fst := by
  rw [List.lookup_eq_none_iff]
  constructor
  · intro h hkey
    obtain ⟨e, he, rfl⟩ := List.mem_map.1 hkey
    simpa using h e he
  · intro h e he
    exact bne_iff_ne.2 fun heq => h (List.mem_map.2 ⟨e, he, heq.symm⟩)

/-- Where no key is there twice, every entry is the one that its key leads to. -/
theorem lookup_of_mem (hkeys : (l.map Prod.fst).Nodup) (h : (key, b) ∈ l) : l.lookup key = some b := by
  cases hb : l.lookup key with
  | none => exact absurd (List.mem_map_of_mem h) (lookup_eq_none_iff_notMem.1 hb)
  | some b' =>
    have heq := List.inj_on_of_nodup_map hkeys (mem_of_lookup hb) h rfl
    rw [(Prod.mk.inj heq).2]

end Lookup

/-- No table in a value names a key twice, and no whole number is out of range. -/
inductive TomlValue.WellFormed : TomlValue → Prop
  | string (s : String) : WellFormed (.string s)
  | integer {n : Int} (hleast : -Int.pow 2 63 ≤ n) (hgreatest : n < Int.pow 2 63) :
      WellFormed (.integer n)
  | float (x : Float) : WellFormed (.float x)
  | boolean (b : Bool) : WellFormed (.boolean b)
  | dateTime (d : TomlDateTime) : WellFormed (.dateTime d)
  | array {kind elements} (h : ∀ v ∈ elements, v.WellFormed) : WellFormed (.array kind elements)
  | table {kind entries} (hkeys : (entries.map Prod.fst).Nodup)
      (hvalues : ∀ e ∈ entries, e.2.WellFormed) : WellFormed (.table kind entries)

/-- Each key is there once, and the values are well-formed. -/
structure TomlEntries.WellFormed (es : TomlEntries) : Prop where
  keys : (es.map Prod.fst).Nodup
  values : ∀ e ∈ es, e.2.WellFormed

def TomlAssignment.WellFormed (a : TomlAssignment) : Prop := a.value.WellFormed

def TomlSection.WellFormed (s : TomlSection) : Prop := ∀ a ∈ s.assignments, a.WellFormed

structure TomlDocument.WellFormed (d : TomlDocument) : Prop where
  assignments : ∀ a ∈ d.assignments, a.WellFormed
  sections : ∀ s ∈ d.sections, s.WellFormed

/-! ## Putting tables together -/

theorem TomlValue.WellFormed.entries {kind : TomlTableKind} {es : TomlEntries}
    (h : (TomlValue.table kind es).WellFormed) : es.WellFormed := by
  cases h with
  | table hkeys hvalues => exact ⟨hkeys, hvalues⟩

theorem TomlValue.WellFormed.of_mem {kind : TomlArrayKind} {elements : List TomlValue} {v : TomlValue}
    (h : (TomlValue.array kind elements).WellFormed) (hv : v ∈ elements) : v.WellFormed := by
  cases h with
  | array h => exact h v hv

namespace TomlEntries

variable {es es' inner : TomlEntries} {key : String} {v : TomlValue}

theorem WellFormed.table (h : es.WellFormed) (kind : TomlTableKind) :
    (TomlValue.table kind es).WellFormed :=
  .table h.keys h.values

theorem wellFormed_nil : WellFormed [] where
  keys := List.nodup_nil
  values _ he := absurd he List.not_mem_nil

theorem find?_cons {k : String} :
    find? key ((k, v) :: es) = if key = k then some v else find? key es := by
  by_cases hkey : key = k
  · simp [find?, hkey]
  · simp [find?, List.lookup_cons, beq_eq_false_iff_ne.2 hkey, hkey]

theorem find?_eq_none_iff : es.find? key = none ↔ key ∉ es.map Prod.fst := lookup_eq_none_iff_notMem

theorem WellFormed.find? (h : es.WellFormed) (hv : es.find? key = some v) : v.WellFormed :=
  h.values (key, v) (mem_of_lookup hv)

/-- A value under a new key is added. -/
theorem WellFormed.concat (h : es.WellFormed) (hkey : key ∉ es.map Prod.fst) (hv : v.WellFormed) :
    WellFormed (es ++ [(key, v)]) where
  keys := by
    rw [List.map_append, List.nodup_append]
    refine ⟨h.keys, List.pairwise_singleton _ _, ?_⟩
    rintro k hk k' hk' rfl
    obtain rfl : k = key := List.mem_singleton.1 hk'
    exact hkey hk
  values e he := by
    rcases List.mem_append.1 he with he | he
    · exact h.values e he
    · exact List.mem_singleton.1 he ▸ hv

theorem WellFormed.append (h : es.WellFormed) (hv : v.WellFormed)
    (hes' : es.append key v = some es') : es'.WellFormed := by
  unfold TomlEntries.append at hes'
  split at hes'
  · next hkey => exact Option.some.inj hes' ▸ h.concat (find?_eq_none_iff.1 hkey) hv
  · cases hes'

theorem map_fst_replace (key : String) (v : TomlValue) (es : TomlEntries) :
    (es.replace key v).map Prod.fst = es.map Prod.fst := by
  rw [replace, List.map_map]
  refine List.map_congr_left fun e _ => ?_
  by_cases he : e.1 = key <;> simp [he]

theorem WellFormed.replace (h : es.WellFormed) (hv : v.WellFormed) :
    (es.replace key v).WellFormed where
  keys := map_fst_replace key v es ▸ h.keys
  values e he := by
    obtain ⟨e', he', rfl⟩ := List.mem_map.1 he
    split
    · exact hv
    · exact h.values e' he'

theorem WellFormed.remove (h : es.WellFormed) (key : String) : (es.remove key).WellFormed where
  keys := h.keys.sublist (List.filter_sublist.map _)
  values e he := h.values e (List.mem_filter.1 he).1

/-- What a change at the end of a path keeps well-formed stays so as a whole. -/
theorem WellFormed.within {dotted : Bool} {path : List String}
    {change : TomlTableKind → TomlEntries → Option TomlEntries} {kind : TomlTableKind}
    (hchange : ∀ kind es es', es.WellFormed → change kind es = some es' → es'.WellFormed)
    (h : es.WellFormed) (hes' : within dotted path change kind es = some es') : es'.WellFormed := by
  induction path generalizing kind es es' with
  | nil => exact hchange kind es es' h hes'
  | cons key path ih =>
    unfold TomlEntries.within at hes'
    split at hes'
    · next hkey =>
      obtain ⟨inner, hinner, hes'⟩ := Option.bind_eq_some_iff.1 hes'
      have hnew : key ∉ es.map Prod.fst := find?_eq_none_iff.1 hkey
      exact Option.some.inj hes' ▸ h.concat hnew ((ih wellFormed_nil hinner).table _)
    · next hkey =>
      split at hes'
      · obtain ⟨inner, hinner, hes'⟩ := Option.bind_eq_some_iff.1 hes'
        exact Option.some.inj hes' ▸ h.replace ((ih (h.find? hkey).entries hinner).table _)
      · cases hes'
    · next elements hkey =>
      split at hes'
      · next hlast =>
        have helements := h.find? hkey
        have hlast := helements.of_mem (List.mem_of_getLast? hlast)
        obtain ⟨inner, hinner, hes'⟩ := Option.bind_eq_some_iff.1 hes'
        refine Option.some.inj hes' ▸ h.replace (.array fun v hv => ?_)
        rcases List.mem_append.1 hv with hv | hv
        · exact helements.of_mem (List.dropLast_subset _ hv)
        · exact List.mem_singleton.1 hv ▸ (ih hlast.entries hinner).table _
      · cases hes'
    · cases hes'

theorem WellFormed.addValue {path : List String} {kind : TomlTableKind} (h : es.WellFormed)
    (hv : v.WellFormed) (hes' : es.addValue path key v kind = some es') : es'.WellFormed := by
  refine h.within (fun kind es es' h hes' => ?_) hes'
  split at hes'
  · cases hes'
  · exact h.append hv hes'

theorem WellFormed.addValues {kind : TomlTableKind} {as : List TomlAssignment} (h : es.WellFormed)
    (has : ∀ a ∈ as, a.WellFormed) (hes' : addValues kind as es = some es') : es'.WellFormed := by
  unfold TomlEntries.addValues at hes'
  induction as generalizing es with
  | nil => exact Option.some.inj hes' ▸ h
  | cons a as ih =>
    obtain ⟨es₁, hfirst, hrest⟩ := Option.bind_eq_some_iff.1 hes'
    exact ih (h.addValue (has a List.mem_cons_self) hfirst) (fun a' ha' => has a' (.tail _ ha')) hrest

/-- A table that is opened is taken out of its place. -/
theorem WellFormed.open? (h : es.WellFormed) (hopen : es.open? key = some (inner, es')) :
    inner.WellFormed ∧ es'.WellFormed ∧ key ∉ es'.map Prod.fst := by
  unfold TomlEntries.open? at hopen
  split at hopen
  · next hkey =>
    obtain ⟨rfl, rfl⟩ := Prod.mk.inj (Option.some.inj hopen)
    exact ⟨wellFormed_nil, h, find?_eq_none_iff.1 hkey⟩
  · next hkey =>
    obtain ⟨rfl, rfl⟩ := Prod.mk.inj (Option.some.inj hopen)
    exact ⟨(h.find? hkey).entries, h.remove key, by simp [TomlEntries.remove]⟩
  · cases hopen

theorem WellFormed.push (h : es.WellFormed) (hinner : inner.WellFormed)
    (hes' : es.push key inner = some es') : es'.WellFormed := by
  have hone : ∀ v ∈ [TomlValue.table .header inner], v.WellFormed := by
    simpa using hinner.table .header
  unfold TomlEntries.push at hes'
  split at hes'
  · next hkey => exact Option.some.inj hes' ▸ h.concat (find?_eq_none_iff.1 hkey) (.array hone)
  · next hkey =>
    refine Option.some.inj hes' ▸ h.replace (.array fun v hv => ?_)
    rcases List.mem_append.1 hv with hv | hv
    · exact (h.find? hkey).of_mem hv
    · exact hone v hv
  · cases hes'

theorem WellFormed.addSection {s : TomlSection} (h : es.WellFormed) (hs : s.WellFormed)
    (hes' : es.addSection s = some es') : es'.WellFormed := by
  refine h.within (fun kind es es' h hes' => ?_) hes'
  dsimp only at hes'
  split at hes'
  · obtain ⟨inner, hinner, hes'⟩ := Option.bind_eq_some_iff.1 hes'
    exact h.push (wellFormed_nil.addValues hs hinner) hes'
  · obtain ⟨⟨opened, others⟩, hopen, hes'⟩ := Option.bind_eq_some_iff.1 hes'
    obtain ⟨inner, hinner, hes'⟩ := Option.bind_eq_some_iff.1 hes'
    obtain ⟨hopened, hothers, hkey⟩ := h.open? hopen
    exact Option.some.inj hes' ▸ hothers.concat hkey ((hopened.addValues hs hinner).table _)

end TomlEntries

theorem TomlDocument.WellFormed.entries {d : TomlDocument} {es : TomlEntries} (h : d.WellFormed)
    (hes : d.entries = some es) : es.WellFormed := by
  obtain ⟨root, hvalues, hes⟩ := Option.bind_eq_some_iff.1 hes
  have hroot : root.WellFormed := TomlEntries.wellFormed_nil.addValues h.assignments hvalues
  have hsections := h.sections
  clear hvalues
  generalize d.sections = sections at hsections hes
  induction sections generalizing root with
  | nil => exact Option.some.inj hes ▸ hroot
  | cons s sections ih =>
    obtain ⟨next, hfirst, hrest⟩ := Option.bind_eq_some_iff.1 hes
    exact ih next (hroot.addSection (hsections s List.mem_cons_self) hfirst)
      (fun s' hs' => hsections s' (.tail _ hs')) hrest

/-! ## What holds of all that is read -/

namespace Reader

variable {α β : Type} {p : α → Prop} {r r' : Reader α}

/-- Whatever a reader gives has a property. -/
def Gives (p : α → Prop) (r : Reader α) : Prop := ∀ s a rest, r s = some (a, rest) → p a

namespace Gives

theorem pure {a : α} (ha : p a) : Gives p (Pure.pure a) := by
  intro s a' rest h
  obtain ⟨rfl, -⟩ := Prod.mk.inj (Option.some.inj h)
  exact ha

theorem bind {q : β → Prop} {r : Reader β} {f : β → Reader α} (hr : Gives q r)
    (hf : ∀ b, q b → Gives p (f b)) : Gives p (r >>= f) := by
  intro s a rest h
  cases hb : r s with
  | none =>
    rw [bind_of_none hb] at h
    cases h
  | some read =>
    obtain ⟨b, later⟩ := read
    rw [bind_of_some hb] at h
    exact hf b (hr s b later hb) later a rest h

/-- It may not matter what was read first. -/
theorem bind_any {r : Reader β} {f : β → Reader α} (hf : ∀ b, Gives p (f b)) : Gives p (r >>= f) :=
  bind (q := fun _ => True) (fun _ _ _ _ => trivial) fun b _ => hf b

theorem orElse (hr : Gives p r) (hr' : Gives p r') : Gives p (r <|> r') := by
  intro s a rest h
  cases hs : r s with
  | none =>
    rw [orElse_of_none hs] at h
    exact hr' s a rest h
  | some read =>
    obtain ⟨b, later⟩ := read
    rw [orElse_of_some hs] at h
    obtain ⟨rfl, -⟩ := Prod.mk.inj (Option.some.inj h)
    exact hr s b later hs

theorem failure : Gives p (Alternative.failure : Reader α) := nofun

/-- What is read after a condition is read only if the condition holds. -/
theorem require_bind {condition : Bool} {f : Unit → Reader α}
    (hf : condition = true → Gives p (f ())) : Gives p (require condition >>= f) := by
  intro s a rest h
  obtain ⟨hcondition, h⟩ := of_require_bind h
  exact hf hcondition s a rest h

/-- Items have a property one by one. -/
theorem readMany {item : Reader (Option α)} (hitem : Gives (fun found => ∀ a ∈ found, p a) item) :
    Gives (fun found => ∀ a ∈ found, p a) (readMany item) := by
  suffices hwithin : ∀ bound s found rest, readWithin item bound s = some (found, rest) →
      ∀ a ∈ found, p a from fun s found rest h => hwithin s s found rest h
  intro bound
  induction bound with
  | nil =>
    intro s found rest h
    unfold readWithin at h
    split at h <;> simp_all
  | cons c bound ih =>
    intro s found rest h
    unfold readWithin at h
    split at h
    · cases h
    · simp_all
    · contradiction
    · next a later c' bound' hread hbound =>
      obtain ⟨⟨more, rest'⟩, hmore, heq⟩ := Option.map_eq_some_iff.1 h
      obtain ⟨rfl, -⟩ := Prod.mk.inj heq
      obtain ⟨-, rfl⟩ := List.cons.inj hbound
      intro a' ha'
      rcases List.mem_cons.1 ha' with rfl | ha'
      · exact hitem s (some a') later hread a' rfl
      · exact ih later more rest' hmore a' ha'

end Gives
end Reader

/-! ## Values and documents -/

namespace TomlText

open Reader

theorem gives_integer (n : Int) : Gives TomlValue.WellFormed (integer n) := by
  refine .require_bind fun hrange => .pure ?_
  rw [Bool.and_eq_true, decide_eq_true_eq, decide_eq_true_eq] at hrange
  exact .integer hrange.1 hrange.2

theorem gives_finite (x : Float) : Gives TomlValue.WellFormed (finite x) :=
  .require_bind fun _ => .pure (.float x)

theorem gives_basedInteger : Gives TomlValue.WellFormed basedInteger := by
  refine .bind_any fun _ => .bind_any fun c => ?_
  split
  all_goals exact .bind_any fun _ => .bind_any fun _ => gives_integer _

theorem gives_decimal (negative : Bool) : Gives TomlValue.WellFormed (decimal negative) := by
  refine .bind_any fun whole => .bind_any fun _ => .bind_any fun part => .bind_any fun power => ?_
  split
  · exact gives_integer _
  · exact gives_finite _

theorem gives_number : Gives TomlValue.WellFormed number := by
  refine .bind_any fun sign => .bind_any fun c => ?_
  split
  · exact .bind_any fun _ => .pure (.float _)
  · exact .bind_any fun _ => .pure (.float _)
  · split
    · exact gives_basedInteger.orElse (gives_decimal _)
    · exact gives_decimal _

theorem gives_arrayElements {value : Reader TomlValue} (h : Gives TomlValue.WellFormed value) :
    Gives (fun elements => ∀ v ∈ elements, v.WellFormed) (arrayElements value) := by
  refine .bind_any fun _ => .bind_any fun _ => .bind (.readMany ?_) fun elements helements =>
    .bind_any fun _ => .pure helements
  refine .bind_any fun c => ?_
  split
  · exact .pure nofun
  · refine .bind h fun v hv => .bind_any fun _ => .bind_any fun c => ?_
    have hfound : ∀ v' ∈ some v, v'.WellFormed := by simpa using hv
    split
    · exact .bind_any fun _ => .bind_any fun _ => .pure hfound
    · exact .bind_any fun _ => .pure hfound

theorem gives_assignment {value : Reader TomlValue} (h : Gives TomlValue.WellFormed value) :
    Gives TomlAssignment.WellFormed (assignment value) :=
  .bind_any fun _ => .bind_any fun _ => .bind_any fun _ => .bind h fun _ hv => .pure hv

theorem gives_braceAssignments {value : Reader TomlValue} (h : Gives TomlValue.WellFormed value) :
    Gives (fun as => ∀ a ∈ as, a.WellFormed) (braceAssignments value) := by
  refine .bind_any fun _ => .bind_any fun _ => .bind (.readMany ?_) fun as has =>
    .bind_any fun _ => .pure has
  refine .bind_any fun c => ?_
  split
  · exact .pure nofun
  · refine .bind (gives_assignment h) fun a ha => .bind_any fun _ => .bind_any fun c => ?_
    have hfound : ∀ a' ∈ some a, a'.WellFormed := by simpa using ha
    split
    · exact .bind_any fun _ => .bind_any fun _ => .bind_any fun _ => .bind_any fun _ => .pure hfound
    · exact .bind_any fun _ => .pure hfound

/-- Arrays and tables in braces are made of values one level further in. -/
theorem gives_value (level : Nat) : Gives TomlValue.WellFormed (value level) := by
  induction level with
  | zero => exact .failure
  | succ level ih =>
    rw [value]
    refine .bind_any fun c => ?_
    split
    · exact .bind_any fun s => .pure (.string s)
    · exact .bind_any fun s => .pure (.string s)
    · exact .bind_any fun _ => .bind (gives_arrayElements ih) fun _ helements => .pure (.array helements)
    · refine .bind_any fun _ => .bind (gives_braceAssignments ih) fun as has => ?_
      split
      · next es hes => exact .pure ((TomlEntries.wellFormed_nil.addValues has hes).table _)
      · exact .failure
    · exact .bind_any fun _ => .pure (.boolean true)
    · exact .bind_any fun _ => .pure (.boolean false)
    · exact .orElse (.bind_any fun d => .pure (.dateTime d)) gives_number

theorem gives_assignments : Gives (fun as => ∀ a ∈ as, a.WellFormed) assignments := by
  refine .bind (.readMany (p := fun line => ∀ a ∈ line, a.WellFormed) ?_) fun lines hlines =>
    .pure fun a ha => ?_
  · refine .bind_any fun _ => .bind_any fun c => ?_
    have hempty : ∀ line ∈ some ([] : List TomlAssignment), ∀ a ∈ line, a.WellFormed := by simp
    split
    · exact .pure nofun
    · exact .pure nofun
    · exact .bind_any fun _ => .pure hempty
    · exact .bind_any fun _ => .pure hempty
    · exact .bind_any fun _ => .pure hempty
    · exact .bind (gives_assignment (gives_value _)) fun a ha =>
        .bind_any fun _ => .pure (by simpa using ha)
  · obtain ⟨line, hline, ha⟩ := List.mem_flatten.1 ha
    exact hlines line hline a ha

theorem gives_section? : Gives (fun found => ∀ s ∈ found, TomlSection.WellFormed s) section? := by
  have hbody (isArray : Bool) (path : List String) (key : String) :
      Gives (fun found => ∀ s ∈ found, TomlSection.WellFormed s) (do
        endOfLine
        return some ⟨isArray, path, key, ← assignments⟩) :=
    .bind_any fun _ => .bind gives_assignments fun as has =>
      .pure (by simpa [TomlSection.WellFormed] using has)
  refine .bind_any fun c => ?_
  split
  · exact .pure nofun
  · refine .bind_any fun _ => .bind_any fun c => ?_
    dsimp only
    split
    · exact .bind_any fun _ => .bind_any fun _ => .bind_any fun _ => .bind_any fun _ => hbody _ _ _
    · exact .bind_any fun _ => .bind_any fun _ => hbody _ _ _

theorem gives_document : Gives TomlDocument.WellFormed document :=
  .bind_any fun _ => .bind gives_assignments fun _ has => .bind (.readMany gives_section?)
    fun _ hsections => .pure ⟨has, hsections⟩

end TomlText

/-- The table that a text describes names each key once, and so do the tables in it, and its whole
numbers have 64 bits. -/
theorem TomlEntries.wellFormed_of_ofText? {text : String} {es : TomlEntries}
    (h : TomlEntries.ofText? text = some es) : es.WellFormed := by
  obtain ⟨d, hread, hes⟩ := Option.bind_eq_some_iff.1 h
  refine TomlDocument.WellFormed.entries ?_ hes
  unfold Reader.readAll at hread
  split at hread
  · next d' hd => exact Option.some.inj hread ▸ TomlText.gives_document _ _ _ hd
  · cases hread

end Scanout
