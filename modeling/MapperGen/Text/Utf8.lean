import MapperGen.Text.Basic

/-!
# UTF-8

Bytes and the text they encode. Decoding fails at the first byte that no text can have there, and
tells how many bytes belong to the broken character, unless the bytes end within a character.
-/

namespace MapperGen.Utf8

/-- A sequence of bytes. -/
abbrev Bytes := List UInt8

/-! ### Encoding -/

def encode (t : Text) : Bytes := t.flatMap String.utf8EncodeChar

/-! ### Decoding -/

/-- Why bytes are no text: the number of good bytes before the fault, and the length of the broken
character, which is unknown if the bytes end within it. -/
structure Fault where
  validUpTo : Nat
  length : Option Nat
  deriving DecidableEq, Repr

def Fault.display (f : Fault) : Text :=
  match f.length with
  | some n =>
    "invalid utf-8 sequence of ".toList ++ Text.ofNat n ++ " bytes from index ".toList ++
      Text.ofNat f.validUpTo
  | none => "incomplete utf-8 byte sequence from index ".toList ++ Text.ofNat f.validUpTo

/-- The bits that a continuation byte adds. -/
def continuation? (b : UInt8) : Option Nat :=
  if 0x80 ≤ b ∧ b ≤ 0xBF then some (b.toNat - 0x80) else none

structure ByteRange where
  low : UInt8
  high : UInt8

/-- How a character goes on behind its first byte: the bits of the first byte, the range of the
second byte, and the number of bytes after that. -/
structure Lead where
  bits : Nat
  second : ByteRange
  more : Nat

/-- What a byte begins, if it is neither ASCII nor out of place. -/
def lead? (b : UInt8) : Option Lead :=
  if 0xC2 ≤ b ∧ b ≤ 0xDF then some ⟨b.toNat - 0xC0, ⟨0x80, 0xBF⟩, 0⟩
  else if b = 0xE0 then some ⟨0, ⟨0xA0, 0xBF⟩, 1⟩
  else if b = 0xED then some ⟨0xD, ⟨0x80, 0x9F⟩, 1⟩
  else if 0xE1 ≤ b ∧ b ≤ 0xEF then some ⟨b.toNat - 0xE0, ⟨0x80, 0xBF⟩, 1⟩
  else if b = 0xF0 then some ⟨0, ⟨0x90, 0xBF⟩, 2⟩
  else if b = 0xF4 then some ⟨4, ⟨0x80, 0x8F⟩, 2⟩
  else if 0xF1 ≤ b ∧ b ≤ 0xF3 then some ⟨b.toNat - 0xF0, ⟨0x80, 0xBF⟩, 2⟩
  else none

/-- Reads the continuation bytes of a character: its code point and the bytes behind it, or the
length of the broken character. `read` bytes were read before. -/
def finish (code read : Nat) : (more : Nat) → Bytes → Except (Option Nat) (Nat × Bytes)
  | 0, rest => .ok (code, rest)
  | _ + 1, [] => .error none
  | more + 1, b :: rest =>
    match continuation? b with
    | some bits => finish (0x40 * code + bits) (read + 1) more rest
    | none => .error (some read)

/-- Reads the first character of non-empty bytes. -/
def first (b : UInt8) (rest : Bytes) : Except (Option Nat) (Nat × Bytes) :=
  if b < 0x80 then .ok (b.toNat, rest)
  else
    match lead? b, rest with
    | none, _ => .error (some 1)
    | some _, [] => .error none
    | some lead, c :: rest =>
      if lead.second.low ≤ c ∧ c ≤ lead.second.high then
        finish (0x40 * lead.bits + (c.toNat - 0x80)) 2 lead.more rest
      else .error (some 1)

theorem finish_length {code read more : Nat} {bytes rest : Bytes} {n : Nat}
    (h : finish code read more bytes = .ok (n, rest)) : rest.length ≤ bytes.length := by
  induction more generalizing code read bytes with
  | zero => simp only [finish, Except.ok.injEq, Prod.mk.injEq] at h; simp [h.2]
  | succ more ih =>
    cases bytes with
    | nil => simp [finish] at h
    | cons b bytes =>
      simp only [finish] at h
      split at h
      · exact Nat.le_succ_of_le (ih h)
      · simp at h

theorem first_length {b : UInt8} {bytes rest : Bytes} {n : Nat}
    (h : first b bytes = .ok (n, rest)) : rest.length ≤ bytes.length := by
  simp only [first] at h
  split at h
  · simp only [Except.ok.injEq, Prod.mk.injEq] at h; simp [h.2]
  · split at h
    · simp at h
    · simp at h
    · split at h
      · exact Nat.le_succ_of_le (finish_length h)
      · simp at h

/-- Decodes bytes behind `read` good ones. -/
def decodeFrom (read : Nat) : Bytes → Except Fault Text
  | [] => .ok []
  | b :: bytes =>
    match _h : first b bytes with
    | .error length => .error ⟨read, length⟩
    | .ok (code, rest) =>
      match decodeFrom (read + 1 + (bytes.length - rest.length)) rest with
      | .error fault => .error fault
      | .ok text => .ok (Char.ofNat code :: text)
termination_by bytes => bytes.length
decreasing_by
  have := first_length _h
  simp only [List.length_cons]
  omega

def decode (bytes : Bytes) : Except Fault Text := decodeFrom 0 bytes

end MapperGen.Utf8
