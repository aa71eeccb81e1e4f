/-!
# Bytes as text

Text is written in UTF-8. When bytes are read back, each longest beginning of a character
that does not go on as it should stands for one bad character; a reader either refuses such
bytes or puts U+FFFD in their place.
-/

namespace Scanout
namespace Utf8

def encode (s : List Char) : List UInt8 := s.flatMap String.utf8EncodeChar

def isContinuation (b : UInt8) : Bool := 0x80 ≤ b && b ≤ 0xBF

/-- What a leading byte announces: how many bytes follow, the bits it has of the code point
itself, and the range of the byte after it. -/
structure Lead where
  following : Nat
  bits : Nat
  low : UInt8
  high : UInt8

/-- What a byte from 0x80 on announces, if it can begin a character. -/
def Lead.of? (b : UInt8) : Option Lead :=
  if 0xC2 ≤ b && b ≤ 0xDF then some ⟨1, b.toNat - 0xC0, 0x80, 0xBF⟩
  else if b = 0xE0 then some ⟨2, 0, 0xA0, 0xBF⟩
  else if b = 0xED then some ⟨2, 0xD, 0x80, 0x9F⟩
  else if 0xE1 ≤ b && b ≤ 0xEF then some ⟨2, b.toNat - 0xE0, 0x80, 0xBF⟩
  else if b = 0xF0 then some ⟨3, 0, 0x90, 0xBF⟩
  else if 0xF1 ≤ b && b ≤ 0xF3 then some ⟨3, b.toNat - 0xF0, 0x80, 0xBF⟩
  else if b = 0xF4 then some ⟨3, 4, 0x80, 0x8F⟩
  else none

/-- Takes continuation bytes to the code point so far; a byte that is none is left. -/
def takeContinuations : Nat → Nat → List UInt8 → Option Char × List UInt8
  | 0, code, bytes => (some (Char.ofNat code), bytes)
  | _ + 1, _, [] => (none, [])
  | n + 1, code, b :: bytes =>
    if isContinuation b then takeContinuations n (code * 64 + (b.toNat - 0x80)) bytes
    else (none, b :: bytes)

/-- Takes the bytes that a leading byte announces. -/
def takeAnnounced (lead : Lead) : List UInt8 → Option Char × List UInt8
  | [] => (none, [])
  | b :: bytes =>
    if lead.low ≤ b && b ≤ lead.high then
      takeContinuations (lead.following - 1) (lead.bits * 64 + (b.toNat - 0x80)) bytes
    else (none, b :: bytes)

/-- The first character of some bytes, or none if they begin badly, and the bytes after it. -/
def decodeFirst (b : UInt8) (bytes : List UInt8) : Option Char × List UInt8 :=
  if b < 0x80 then (some (Char.ofNat b.toNat), bytes)
  else match Lead.of? b with
    | none => (none, bytes)
    | some lead => takeAnnounced lead bytes

theorem length_takeContinuations (n code : Nat) (bytes : List UInt8) :
    (takeContinuations n code bytes).2.length ≤ bytes.length := by
  induction n generalizing code bytes with
  | zero => simp [takeContinuations]
  | succ n ih =>
    cases bytes with
    | nil => simp [takeContinuations]
    | cons b bytes =>
      unfold takeContinuations
      split
      · exact Nat.le_succ_of_le (ih _ _)
      · simp

theorem length_takeAnnounced (lead : Lead) (bytes : List UInt8) :
    (takeAnnounced lead bytes).2.length ≤ bytes.length := by
  cases bytes with
  | nil => simp [takeAnnounced]
  | cons b bytes =>
    simp only [takeAnnounced]
    split
    · exact Nat.le_succ_of_le (length_takeContinuations _ _ _)
    · simp

theorem length_decodeFirst (b : UInt8) (bytes : List UInt8) :
    (decodeFirst b bytes).2.length ≤ bytes.length := by
  unfold decodeFirst
  split
  · simp
  · split
    · simp
    · exact length_takeAnnounced _ _

/-- The characters of some bytes, with none for each bad one. -/
def decode : List UInt8 → List (Option Char)
  | [] => []
  | b :: bytes => (decodeFirst b bytes).1 :: decode (decodeFirst b bytes).2
termination_by bytes => bytes.length
decreasing_by exact Nat.lt_succ_of_le (length_decodeFirst b bytes)

/-- The text of some bytes if none of it is bad. -/
def decodeStrict (bytes : List UInt8) : Option (List Char) := (decode bytes).mapM id

/-- The text of some bytes with U+FFFD in place of what is bad. -/
def decodeLossy (bytes : List UInt8) : List Char := (decode bytes).map (·.getD '\uFFFD')

@[simp] theorem decode_nil : decode [] = [] := by simp [decode]

theorem decode_cons (b : UInt8) (bytes : List UInt8) :
    decode (b :: bytes) = (decodeFirst b bytes).1 :: decode (decodeFirst b bytes).2 := by
  rw [decode]

end Utf8
end Scanout
