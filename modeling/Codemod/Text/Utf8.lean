import Codemod.Instance

/-!
# Decoding bytes that may not be UTF-8

Bytes that a tool prints are decoded without ever failing: each maximal piece that could have begun
a character but does not complete one becomes one replacement character.

- `Utf8.Pending` — a character begun and not yet complete
- `Utf8.feed` — one byte, from any state
- `Utf8.decode` — a whole list of bytes
- `Utf8.decodeBytes` — the same for a byte array, as a string
-/

namespace Codemod.Text.Utf8

/-- The character that stands for bytes that are not UTF-8. -/
def replacement : Char := '\uFFFD'

/-- A character begun by a lead byte. -/
structure Pending where
  /-- Continuation bytes still owed, the next one not counted. -/
  later : Nat
  /-- Least next byte. -/
  low : UInt8
  /-- Greatest next byte. -/
  high : UInt8
  /-- The bits collected so far. -/
  bits : Nat
deriving DecidableEq

/-- What a lead byte above the ASCII range begins, if it can begin a character at all. The bounds on
the second byte rule out overlong forms, surrogates and values beyond the last code point. -/
def lead? (b : UInt8) : Option Pending :=
  let n := b.toNat
  if 0xC2 ≤ n ∧ n ≤ 0xDF then some ⟨0, 0x80, 0xBF, n % 32⟩
  else if n = 0xE0 then some ⟨1, 0xA0, 0xBF, 0⟩
  else if n = 0xED then some ⟨1, 0x80, 0x9F, 13⟩
  else if 0xE1 ≤ n ∧ n ≤ 0xEF then some ⟨1, 0x80, 0xBF, n % 16⟩
  else if n = 0xF0 then some ⟨2, 0x90, 0xBF, 0⟩
  else if 0xF1 ≤ n ∧ n ≤ 0xF3 then some ⟨2, 0x80, 0xBF, n % 8⟩
  else if n = 0xF4 then some ⟨2, 0x80, 0x8F, 4⟩
  else none

/-- The first byte of a character: the characters it completes, and what it leaves pending. -/
def start (b : UInt8) : List Char × Option Pending :=
  if b.toNat < 0x80 then ([Char.ofNat b.toNat], none)
  else match lead? b with
    | some p => ([], some p)
    | none => ([replacement], none)

/-- One byte after what is pending. A byte that cannot continue the pending character ends it as a
replacement character and is then taken as a first byte. -/
def feed : Option Pending → UInt8 → List Char × Option Pending
  | none, b => start b
  | some p, b =>
    if p.low ≤ b ∧ b ≤ p.high then
      let bits := p.bits * 64 + b.toNat % 64
      match p.later with
      | 0 => ([Char.ofNat bits], none)
      | k + 1 => ([], some ⟨k, 0x80, 0xBF, bits⟩)
    else
      let (cs, next) := start b
      (replacement :: cs, next)

/-- Decodes the rest of the bytes after what is pending. -/
def decodeFrom : Option Pending → List UInt8 → List Char
  | none, [] => []
  | some _, [] => [replacement]
  | s, b :: bs => (feed s b).1 ++ decodeFrom (feed s b).2 bs

/-- Decodes bytes, each maximal invalid piece as one replacement character. -/
def decode (bs : List UInt8) : List Char := decodeFrom none bs

/-- Decodes bytes to a string. -/
def decodeText (bs : List UInt8) : String := String.ofList (decode bs)

/-- Decodes a byte array to a string. -/
def decodeBytes (bs : ByteArray) : String := decodeText bs.data.toList

end Codemod.Text.Utf8

/-!
## Texts and their bytes

- `fromUTF8?_toUTF8`, `eq_toUTF8_of_fromUTF8?` — bytes are read as the text that they are the bytes
  of
-/

namespace Codemod.Text

theorem fromUTF8?_toUTF8 (text : String) : String.fromUTF8? text.toUTF8 = some text := by
  have hvalid : text.toUTF8.IsValidUTF8 := text.isValidUTF8
  rw [String.fromUTF8?, dif_pos hvalid]
  rfl

theorem eq_toUTF8_of_fromUTF8? {bytes : ByteArray} {text : String}
    (h : String.fromUTF8? bytes = some text) : bytes = text.toUTF8 := by
  unfold String.fromUTF8? at h
  split at h
  · cases h
    rfl
  · cases h

end Codemod.Text
