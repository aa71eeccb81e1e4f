import Mathlib.Data.List.TakeWhile
import Scanout.RawMode
import Scanout.Proofs.Utf8Reading

/-!
# Modes there and back

A mode that is given to the kernel and read again has the same timings, and its name is what `storedName`
makes of it: it ends before a zero character and is cut to 31 bytes, with U+FFFD for a character that was
cut. U+FFFD takes three bytes, at least as many as were left of that character, so the name can be too
long again; but it is then U+FFFD that is cut, and U+FFFD that comes back. Hence names that came
back once do so unchanged.
-/

namespace Scanout

open Utf8

/-- The name that comes back for a name that is given to the kernel. -/
def storedName (s : List Char) : List Char :=
  decodeLossy ((encode (s.takeWhile (· ≠ '\x00'))).take 31)

section Bytes

variable {bytes : List UInt8}

theorem toList_nameBytes (h : bytes.length ≤ 32) :
    (nameBytes bytes).toList = bytes ++ List.replicate (32 - bytes.length) 0 := by
  apply List.ext_getElem
  · simp
    omega
  · intro i hi hi'
    simp only [nameBytes, Vector.getElem_toList, Vector.getElem_ofFn, List.getElem_append,
      List.getElem_replicate]
    split
    · rename_i hlt
      simp [hlt]
    · rename_i hge
      simp [List.getElem?_eq_none (Nat.le_of_not_lt hge)]

/-- The zero bytes that a name is filled up with are not part of it. -/
theorem takeWhile_nameBytes (h : bytes.length ≤ 32) :
    (nameBytes bytes).toList.takeWhile (· ≠ 0) = bytes.takeWhile (· ≠ 0) := by
  have hzeros : (List.replicate (32 - bytes.length) (0 : UInt8)).takeWhile (· ≠ 0) = [] := by
    cases 32 - bytes.length <;> rfl
  rw [toList_nameBytes h, List.takeWhile_append, hzeros, List.append_nil, ite_eq_right_iff]
  intro hall
  exact ((List.takeWhile_prefix _).eq_of_length hall).symm

/-- The last byte stays zero. -/
theorem nameBytes_last (h : bytes.length ≤ 31) : (nameBytes bytes)[31] = 0 := by
  simp [nameBytes, List.getElem?_eq_none h]

end Bytes

theorem name_toRaw (m : DisplayMode) :
    m.toRaw.name = nameBytes ((encode m.name.toList).take 31) := rfl

theorem nameText_toRaw (m : DisplayMode) :
    m.toRaw.nameText = (encode (m.name.toList.takeWhile (· ≠ '\x00'))).take 31 := by
  have hlength := List.length_take_le 31 (encode m.name.toList)
  rw [← takeWhile_encode, List.take_takeWhile, RawMode.nameText, name_toRaw,
    takeWhile_nameBytes (by omega)]

/-- A mode comes back with its timings. -/
theorem ofRaw_toRaw (m : DisplayMode) :
    DisplayMode.ofRaw m.toRaw = { m with name := String.ofList (storedName m.name.toList) } := by
  rw [storedName, ← nameText_toRaw]
  rfl

theorem takeWhile_of_notMem {s : List Char} (hzero : '\x00' ∉ s) : s.takeWhile (· ≠ '\x00') = s := by
  rw [List.takeWhile_eq_self_iff]
  intro c hc
  rw [decide_eq_true_iff]
  rintro rfl
  exact hzero hc

theorem storedName_of_fits {s : List Char} (hlength : (encode s).length ≤ 31) (hzero : '\x00' ∉ s) :
    storedName s = s := by
  rw [storedName, takeWhile_of_notMem hzero, List.take_of_length_le hlength, decodeLossy_encode]

/-- Any first bytes of U+FFFD are read as it. -/
theorem decodeLossy_take_replacement {n : Nat} (hpos : 0 < n) :
    decodeLossy ((String.utf8EncodeChar '\uFFFD').take n) = ['\uFFFD'] := by
  rcases Nat.lt_or_ge n (String.utf8EncodeChar '\uFFFD').length with hn | hn
  · exact Stub.decodeLossy_eq ⟨'\uFFFD', n, hpos, hn, rfl⟩
  · rw [List.take_of_length_le hn]
    exact decodeLossy_encode ['\uFFFD']

/-- A name that came back comes back unchanged. -/
theorem storedName_idempotent (s : List Char) : storedName (storedName s) = storedName s := by
  obtain ⟨kept, stub, hkept, htake, hstub⟩ := exists_take_encode (s.takeWhile (· ≠ '\x00')) 31
  have hzero : '\x00' ∉ kept := by
    intro hmem
    have hne := List.mem_takeWhile_imp (hkept.subset hmem)
    contradiction
  have hstored : storedName s = kept ++ decodeLossy stub := by
    rw [storedName, htake, decodeLossy_encode_append]
  rw [hstored]
  rcases hstub with rfl | ⟨hstub, hlength⟩
  · rw [decodeLossy_nil, List.append_nil]
    apply storedName_of_fits _ hzero
    have hle := List.length_take_le 31 (encode (s.takeWhile (· ≠ '\x00')))
    rw [htake, List.append_nil] at hle
    exact hle
  · have hpos : 0 < stub.length := by
      obtain ⟨c, n, hpos, hn, rfl⟩ := hstub
      rw [List.length_take]
      omega
    have hzero' : '\x00' ∉ kept ++ ['\uFFFD'] := by simp [hzero]
    have hroom : 31 - (encode kept).length = stub.length := by omega
    rw [hstub.decodeLossy_eq, storedName, takeWhile_of_notMem hzero', encode_append, List.take_append,
      List.take_of_length_le (by omega), hroom, decodeLossy_encode_append]
    exact congrArg (kept ++ ·) (decodeLossy_take_replacement hpos)

theorem length_encode (s : String) : (encode s.toList).length = s.utf8ByteSize := by
  rw [← String.size_toByteArray, ← String.utf8Encode_toList, List.utf8Encode, List.size_toByteArray]
  rfl

/-- The name in a record of the kernel is kept if it is text and leaves room for the zero byte. -/
theorem nameText_toRaw_ofRaw {m : RawMode} {s : List Char} (hs : m.nameText = encode s)
    (hlength : m.nameText.length ≤ 31) : (DisplayMode.ofRaw m).toRaw.nameText = m.nameText := by
  have htext : m.nameText.takeWhile (· ≠ 0) = m.nameText := by
    rw [List.takeWhile_eq_self_iff]
    intro b hb
    have hne := List.mem_takeWhile_imp hb
    exact hne
  have hname : (DisplayMode.ofRaw m).name.toList = s := by
    rw [DisplayMode.ofRaw, String.toList_ofList, hs, decodeLossy_encode]
  rw [nameText_toRaw, hname, ← takeWhile_encode, ← hs, htext, List.take_of_length_le hlength]

/-- A mode that is given to the kernel comes back with its timings; it is the same mode if its name has
at most 31 bytes and no zero character, and what comes back is stable, whatever the name was. A record of
the kernel that is read and written keeps its timings, its name ends in a zero byte, and it is the name
that it was if that was UTF-8 of at most 31 bytes. -/
theorem raw_mode_round_trips :
    (∀ m : DisplayMode,
      { DisplayMode.ofRaw m.toRaw with name := m.name } = m ∧
        (m.name.utf8ByteSize ≤ 31 → '\x00' ∉ m.name.toList → DisplayMode.ofRaw m.toRaw = m) ∧
        DisplayMode.ofRaw (DisplayMode.ofRaw m.toRaw).toRaw = DisplayMode.ofRaw m.toRaw) ∧
      ∀ m : RawMode,
        { (DisplayMode.ofRaw m).toRaw with name := m.name } = m ∧
          (DisplayMode.ofRaw m).toRaw.name[31] = 0 ∧
          (m.nameText.toByteArray.IsValidUTF8 → m.nameText.length ≤ 31 →
            (DisplayMode.ofRaw m).toRaw.nameText = m.nameText) := by
  constructor
  · intro m
    refine ⟨rfl, fun hlength hzero => ?_, ?_⟩
    · rw [ofRaw_toRaw, storedName_of_fits (by rwa [length_encode]) hzero, String.ofList_toList]
    · rw [ofRaw_toRaw, ofRaw_toRaw, String.toList_ofList, storedName_idempotent]
  · intro m
    refine ⟨by cases m; rfl, ?_, ?_⟩
    · rw [name_toRaw]
      exact nameBytes_last (List.length_take_le _ _)
    · rintro ⟨s, hs⟩ hlength
      exact nameText_toRaw_ofRaw (List.toByteArray_inj.1 hs) hlength

end Scanout
