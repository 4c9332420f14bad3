import Codemod.Stream.Transcript
import Codemod.Text.Utf8

/-!
# Decoding what was encoded

The bytes of a text, decoded one after the other, give back the text. Each character is decoded on
its own, by the length of its encoding, and only a line feed has the byte of one.

- `encode` — the bytes of a text
- `Pending.Awaits`, `decodeFrom_continue`, `decodeFrom_complete` — one byte more of a character
- `lead_two`, `lead_three`, `lead_four` — what the first byte of a character begins
- `decode_encode` — decoding inverts encoding
- `lineFeed_not_mem_encode` — where the byte of a line feed can be
-/

namespace Codemod.Text.Utf8

/-- The bytes of a text. -/
def encode (s : String) : List UInt8 := s.toUTF8.data.toList

theorem encode_eq (s : String) : encode s = s.toList.flatMap String.utf8EncodeChar := by
  rw [encode, String.toUTF8, ← s.ofList_toList, String.toByteArray_ofList, List.utf8Encode,
    List.data_toByteArray, String.toList_ofList]

/-! ### One character -/

variable {bs : List UInt8} {p : Pending} {n v : Nat}

theorem toNat_ofNat_of_lt (h : n < 256) : (UInt8.ofNat n).toNat = n := by
  rw [UInt8.toNat_ofNat', Nat.mod_eq_of_lt h]

/-- The byte `n` is one that `p` waits for. -/
structure Pending.Awaits (p : Pending) (n : Nat) : Prop where
  low : p.low.toNat ≤ n
  high : n ≤ p.high.toNat

theorem Pending.Awaits.byte (h : p.Awaits n) : p.low ≤ UInt8.ofNat n ∧ UInt8.ofNat n ≤ p.high := by
  have hsize : n < 256 := Nat.lt_of_le_of_lt h.high p.high.toNat_lt
  rw [UInt8.le_iff_toNat_le, UInt8.le_iff_toNat_le, toNat_ofNat_of_lt hsize]
  exact ⟨h.low, h.high⟩

theorem decodeFrom_lead (hlarge : 128 ≤ n) (hsize : n < 256) (h : lead? (UInt8.ofNat n) = some p) :
    decodeFrom none (UInt8.ofNat n :: bs) = decodeFrom (some p) bs := by
  have hbyte : ¬(UInt8.ofNat n).toNat < 0x80 := by
    rw [toNat_ofNat_of_lt hsize]
    exact Nat.not_lt.mpr hlarge
  rw [decodeFrom, feed, start, if_neg hbyte, h]
  rfl

theorem decodeFrom_continue {k : Nat} (h : p.Awaits n) (hlater : p.later = k + 1) :
    decodeFrom (some p) (UInt8.ofNat n :: bs) =
      decodeFrom (some ⟨k, 0x80, 0xBF, p.bits * 64 + n % 64⟩) bs := by
  have hsize : n < 256 := Nat.lt_of_le_of_lt h.high p.high.toNat_lt
  rw [decodeFrom, feed, if_pos h.byte, hlater, toNat_ofNat_of_lt hsize]
  rfl

theorem decodeFrom_complete (h : p.Awaits n) (hlater : p.later = 0) :
    decodeFrom (some p) (UInt8.ofNat n :: bs) =
      Char.ofNat (p.bits * 64 + n % 64) :: decodeFrom none bs := by
  have hsize : n < 256 := Nat.lt_of_le_of_lt h.high p.high.toNat_lt
  rw [decodeFrom, feed, if_pos h.byte, hlater, toNat_ofNat_of_lt hsize]
  rfl

theorem awaits_continuation (k bits n : Nat) :
    Pending.Awaits ⟨k, 0x80, 0xBF, bits⟩ (n % 64 + 128) where
  low := Nat.le_add_left ..
  high := by
    have := Nat.mod_lt n (show 0 < 64 by decide)
    show _ ≤ 191
    omega

theorem lead_two (hlow : 128 ≤ v) (hhigh : v ≤ 2047) :
    lead? (UInt8.ofNat (v / 64 % 32 + 192)) = some ⟨0, 0x80, 0xBF, v / 64⟩ := by
  unfold lead?
  rw [toNat_ofNat_of_lt (by omega)]
  dsimp only
  rw [if_pos (by omega)]
  congr 2
  omega

theorem lead_three (hlow : 2048 ≤ v) (hhigh : v ≤ 65535) (hvalid : v < 0xD800 ∨ 0xDFFF < v) :
    ∃ p, lead? (UInt8.ofNat (v / 4096 % 16 + 224)) = some p ∧ p.later = 1 ∧ p.bits = v / 4096 ∧
      p.Awaits (v / 64 % 64 + 128) := by
  have hsize : v / 4096 % 16 + 224 < 256 := by omega
  unfold lead?
  rw [toNat_ofNat_of_lt hsize]
  dsimp only
  rw [if_neg (by omega)]
  by_cases hfirst : v / 4096 = 0
  · rw [if_pos (by omega)]
    exact ⟨_, rfl, rfl, hfirst.symm, show 160 ≤ _ by omega, show _ ≤ 191 by omega⟩
  rw [if_neg (by omega)]
  by_cases hsurrogates : v / 4096 = 13
  · rw [if_pos (by omega)]
    exact ⟨_, rfl, rfl, hsurrogates.symm, show 128 ≤ _ by omega, show _ ≤ 159 by omega⟩
  rw [if_neg (by omega), if_pos (by omega)]
  refine ⟨_, rfl, rfl, ?_, show 128 ≤ _ by omega, show _ ≤ 191 by omega⟩
  show (v / 4096 % 16 + 224) % 16 = _
  omega

theorem lead_four (hlow : 65536 ≤ v) (hhigh : v < 0x110000) :
    ∃ p, lead? (UInt8.ofNat (v / 262144 % 8 + 240)) = some p ∧ p.later = 2 ∧
      p.bits = v / 262144 ∧ p.Awaits (v / 4096 % 64 + 128) := by
  have hsize : v / 262144 % 8 + 240 < 256 := by omega
  unfold lead?
  rw [toNat_ofNat_of_lt hsize]
  dsimp only
  rw [if_neg (by omega), if_neg (by omega), if_neg (by omega), if_neg (by omega)]
  by_cases hfirst : v / 262144 = 0
  · rw [if_pos (by omega)]
    exact ⟨_, rfl, rfl, hfirst.symm, show 144 ≤ _ by omega, show _ ≤ 191 by omega⟩
  rw [if_neg (by omega)]
  by_cases hmiddle : v / 262144 < 4
  · rw [if_pos (by omega)]
    refine ⟨_, rfl, rfl, ?_, show 128 ≤ _ by omega, show _ ≤ 191 by omega⟩
    show (v / 262144 % 8 + 240) % 8 = _
    omega
  · rw [if_neg (by omega), if_pos (by omega)]
    exact ⟨_, rfl, rfl, show 4 = _ by omega, show 128 ≤ _ by omega, show _ ≤ 143 by omega⟩

/-- The bytes of a character give the character back. -/
theorem decodeFrom_encodeChar (c : Char) (bs : List UInt8) :
    decodeFrom none (String.utf8EncodeChar c ++ bs) = c :: decodeFrom none bs := by
  have hvalid : c.val.toNat < 0xD800 ∨ 0xDFFF < c.val.toNat ∧ c.val.toNat < 0x110000 := c.valid
  have hc : Char.ofNat c.val.toNat = c := Char.ofNat_toNat c
  unfold String.utf8EncodeChar
  generalize c.val.toNat = v at hvalid hc
  dsimp only
  split
  · next hone =>
    have hsmall : (UInt8.ofNat v).toNat < 0x80 := by
      rw [toNat_ofNat_of_lt (by omega)]
      omega
    rw [List.singleton_append, decodeFrom, feed, start, if_pos hsmall, toNat_ofNat_of_lt (by omega),
      hc]
    rfl
  split
  · next hone htwo =>
    rw [List.cons_append, List.singleton_append,
      decodeFrom_lead (by omega) (by omega) (lead_two (by omega) htwo),
      decodeFrom_complete (awaits_continuation ..) rfl, ← hc]
    congr 2
    dsimp only
    omega
  split
  · next hone htwo hthree =>
    obtain ⟨p, hp, hlater, hbits, hawaits⟩ :=
      lead_three (v := v) (by omega) hthree (hvalid.imp_right And.left)
    rw [List.cons_append, List.cons_append, List.singleton_append,
      decodeFrom_lead (by omega) (by omega) hp, decodeFrom_continue hawaits hlater,
      decodeFrom_complete (awaits_continuation ..) rfl, ← hc]
    congr 2
    dsimp only
    omega
  · next hone htwo hthree =>
    obtain ⟨p, hp, hlater, hbits, hawaits⟩ := lead_four (v := v) (by omega) (by omega)
    rw [List.cons_append, List.cons_append, List.cons_append, List.singleton_append,
      decodeFrom_lead (by omega) (by omega) hp, decodeFrom_continue hawaits hlater,
      decodeFrom_continue (awaits_continuation ..) rfl,
      decodeFrom_complete (awaits_continuation ..) rfl, ← hc]
    congr 2
    dsimp only
    omega

theorem decodeFrom_encodeChars (cs : List Char) (bs : List UInt8) :
    decodeFrom none (cs.flatMap String.utf8EncodeChar ++ bs) = cs ++ decodeFrom none bs := by
  induction cs with
  | nil => rfl
  | cons c cs ih => rw [List.flatMap_cons, List.append_assoc, decodeFrom_encodeChar, ih]; rfl

/-- Decoding inverts encoding. -/
theorem decode_encode (s : String) : decode (encode s) = s.toList := by
  have h := decodeFrom_encodeChars s.toList []
  rwa [List.append_nil, ← encode_eq, decodeFrom, List.append_nil] at h

/-- Only a line feed has the byte of one in its encoding. -/
theorem eq_lineFeed_of_mem_encodeChar {c : Char} (h : 10 ∈ String.utf8EncodeChar c) : c = '\n' := by
  have hc : Char.ofNat c.val.toNat = c := Char.ofNat_toNat c
  unfold String.utf8EncodeChar at h
  generalize c.val.toNat = v at h hc
  have hbyte : ∀ n < 256, 10 = UInt8.ofNat n → n = 10 := by
    intro n hn heq
    rw [← toNat_ofNat_of_lt hn, ← heq]
    rfl
  dsimp only at h
  split at h
  · next hone =>
    rw [List.mem_singleton] at h
    rw [← hc, hbyte v (by omega) h]
  -- a byte of a longer encoding is at least 128
  have hlarge : ∃ n, 128 ≤ n ∧ n < 256 ∧ 10 = UInt8.ofNat n := by
    split at h
    · simp only [List.mem_cons, List.not_mem_nil, or_false] at h
      obtain h | h := h <;> exact ⟨_, by omega, by omega, h⟩
    split at h
    · simp only [List.mem_cons, List.not_mem_nil, or_false] at h
      obtain h | h | h := h <;> exact ⟨_, by omega, by omega, h⟩
    · simp only [List.mem_cons, List.not_mem_nil, or_false] at h
      obtain h | h | h | h := h <;> exact ⟨_, by omega, by omega, h⟩
  obtain ⟨n, hlow, hhigh, heq⟩ := hlarge
  have := hbyte n hhigh heq
  omega

theorem lineFeed_not_mem_encode {s : String} (h : '\n' ∉ s.toList) : 10 ∉ encode s := by
  rw [encode_eq, List.mem_flatMap]
  rintro ⟨c, hc, hbyte⟩
  exact h (eq_lineFeed_of_mem_encodeChar hbyte ▸ hc)

theorem encode_append (s t : String) : encode (s ++ t) = encode s ++ encode t := by
  rw [encode_eq, encode_eq, encode_eq, String.toList_append, List.flatMap_append]

end Codemod.Text.Utf8

/-!
## The lines of a stream

When lines are put out one after the other, each with its terminator, the scan finds them again: all
of them as they were, but for those that are blank.

- `Ended` — the bytes of lines with their terminators
- `pieces_append`, `lineOf?_encode` — the bytes up to a line feed, and the line that they hold
- `scan_of_ended` — the lines that are found
- `ended_intercalate` — lines joined by line feeds
-/

namespace Codemod.Text

/-- The text has no line feed and no carriage return. -/
def OneLine (s : String) : Prop := ∀ c ∈ s.toList, isLineBreak c = false

theorem oneLine_iff {s : String} : OneLine s ↔ s.toList.all (fun c => !isLineBreak c) = true := by
  simp only [OneLine, List.all_eq_true, Bool.not_eq_true']

instance : DecidablePred OneLine := fun _ => decidable_of_iff _ oneLine_iff.symm

theorem OneLine.no_lineFeed {s : String} (h : OneLine s) : '\n' ∉ s.toList := by
  intro hmem
  cases h _ hmem

theorem dropEndWhile_of_forall_not {α : Type} {p : α → Bool} {xs : List α}
    (h : ∀ x ∈ xs, p x = false) : dropEndWhile p xs = xs := by
  obtain rfl | ⟨xs, x, rfl⟩ := List.eq_nil_or_concat xs
  · rfl
  · rw [List.concat_eq_append] at h ⊢
    exact dropEndWhile_concat_of_not xs (h x (by simp))

end Codemod.Text

namespace Codemod.Text.Lines

open Utf8

variable {line : String} {lines : List String} {bytes piece rest : List UInt8}

/-- The bytes of lines, each ended by a line feed or by a carriage return and a line feed, the last
one perhaps by nothing. -/
inductive Ended : List String → List UInt8 → Prop
  | nil : Ended [] []
  | unended (line : String) : Ended [line] (encode line)
  | lineFeed {lines : List String} {bytes : List UInt8} (line : String) :
    Ended lines bytes → Ended (line :: lines) (encode line ++ 10 :: bytes)
  | carriageReturn {lines : List String} {bytes : List UInt8} (line : String) :
    Ended lines bytes → Ended (line :: lines) (encode line ++ 13 :: 10 :: bytes)

/-! ### From line feed to line feed -/

theorem pieces_of_not_mem (h : 10 ∉ piece) : pieces piece = [piece] := by
  induction piece with
  | nil => rfl
  | cons b bs ih =>
    rw [List.mem_cons, not_or] at h
    have hb : ¬(b == 10) = true := by simpa using Ne.symm h.1
    rw [pieces, if_neg hb, ih h.2]

theorem pieces_append (h : 10 ∉ piece) : pieces (piece ++ 10 :: rest) = piece :: pieces rest := by
  induction piece with
  | nil => rfl
  | cons b bs ih =>
    rw [List.mem_cons, not_or] at h
    have hb : ¬(b == 10) = true := by simpa using Ne.symm h.1
    rw [List.cons_append, pieces, if_neg hb, ih h.2]

theorem scan_append (h : 10 ∉ piece) :
    scan (piece ++ 10 :: rest) = (lineOf? piece).toList ++ scan rest := by
  rw [scan, pieces_append h, List.filterMap_cons]
  cases lineOf? piece <;> rfl

theorem scan_of_not_mem (h : 10 ∉ piece) : scan piece = (lineOf? piece).toList := by
  rw [scan, pieces_of_not_mem h, List.filterMap_cons]
  cases lineOf? piece <;> rfl

/-! ### The line of a piece -/

/-- A line as the scan gives it: nothing when it is blank. -/
def shown (line : String) : List String := if isBlankText line then [] else [line]

theorem lineOf?_of_decode {piece : List UInt8}
    (h : dropEndWhile isLineBreak (decode piece) = line.toList) :
    (lineOf? piece).toList = shown line := by
  rw [lineOf?, h, shown, isBlankText, String.ofList_toList]
  split <;> rfl

theorem lineOf?_encode (h : OneLine line) : (lineOf? (encode line)).toList = shown line := by
  refine lineOf?_of_decode ?_
  rw [decode_encode, dropEndWhile_of_forall_not h]

theorem lineOf?_carriageReturn (h : OneLine line) :
    (lineOf? (encode line ++ [13])).toList = shown line := by
  have hbytes : encode line ++ [13] = encode (line ++ "\r") := by
    rw [encode_append]
    rfl
  refine lineOf?_of_decode ?_
  rw [hbytes, decode_encode, String.toList_append]
  exact (dropEndWhile_concat_of_pos _ rfl).trans (dropEndWhile_of_forall_not h)

/-! ### All lines -/

/-- The scan finds the lines that are not blank, as they were. -/
theorem scan_of_ended (hlines : ∀ line ∈ lines, OneLine line) (h : Ended lines bytes) :
    scan bytes = lines.flatMap shown := by
  induction h with
  | nil => rfl
  | unended line =>
    have hline := hlines line List.mem_cons_self
    rw [scan_of_not_mem (lineFeed_not_mem_encode hline.no_lineFeed), lineOf?_encode hline]
    simp
  | lineFeed line _ ih =>
    have hline := hlines line List.mem_cons_self
    rw [scan_append (lineFeed_not_mem_encode hline.no_lineFeed), lineOf?_encode hline,
      ih fun l hl => hlines l (List.mem_cons_of_mem _ hl), List.flatMap_cons]
  | carriageReturn line _ ih =>
    have hline := hlines line List.mem_cons_self
    have hpiece : 10 ∉ encode line ++ [13] := by
      rw [List.mem_append]
      rintro (hmem | hmem)
      · exact lineFeed_not_mem_encode hline.no_lineFeed hmem
      · cases hmem with | tail _ hmem => cases hmem
    rw [List.append_cons, scan_append hpiece, lineOf?_carriageReturn hline,
      ih fun l hl => hlines l (List.mem_cons_of_mem _ hl), List.flatMap_cons]

/-- Lines joined by line feeds, the last one without a terminator. -/
theorem ended_intercalate (hne : lines ≠ []) : Ended lines (encode ("\n".intercalate lines)) := by
  induction lines with
  | nil => exact absurd rfl hne
  | cons line lines ih =>
    cases lines with
    | nil =>
      rw [String.intercalate_singleton]
      exact .unended line
    | cons next lines =>
      rw [String.intercalate_cons_cons, encode_append, encode_append, List.append_assoc]
      exact .lineFeed line (ih (List.cons_ne_nil _ _))

end Codemod.Text.Lines
