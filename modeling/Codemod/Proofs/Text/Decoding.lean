import Codemod.Proofs.Text.Lines
import Mathlib.Data.List.Induction

/-!
# Decoding line by line

A line feed is no part of any other character, and it ends whatever is pending. So a stream may be
cut at its line feeds before it is decoded or afterwards: the scan, which decodes every line on its
own, finds the lines of the decoded stream.

- `Pending.Sound`, `feed_sound` — what is pending waits for bytes above the ASCII range
- `decodeFrom_lineFeed`, `lineFeed_not_mem_decodeFrom` — where line feeds come from
- `byPieces` — induction from one line feed to the next
- `decode_eq_intercalate`, `splitOn_decode` — the pieces of the bytes and those of the text
- `linesOf`, `chunks` — the lines of a text, and what a reader hands out of a stream
- `scan_eq_linesOf_decode` — the lines that the scan finds
-/

namespace Codemod.Text.Utf8

variable {b : UInt8} {bs : List UInt8} {p : Pending} {s : Option Pending} {n : Nat}

/-! ### What is pending -/

/-- A character begun by bytes of UTF-8: the next byte is a continuation byte, and no byte makes it
a character as small as a line feed. -/
structure Pending.Sound (p : Pending) : Prop where
  low : 0x80 ≤ p.low.toNat
  high : p.high.toNat ≤ 0xBF
  beyond : 10 < p.bits * 64 + p.low.toNat % 64

theorem Pending.Sound.continued (h : p.Sound) (hb : p.low ≤ b ∧ b ≤ p.high) :
    10 < p.bits * 64 + b.toNat % 64 := by
  -- among continuation bytes the order is that of their last six bits
  have hlow := UInt8.le_iff_toNat_le.mp hb.1
  have hhigh := UInt8.le_iff_toNat_le.mp hb.2
  have := h.low
  have := h.high
  have := h.beyond
  omega

theorem sound_of_bits (k : Nat) (h : 0 < n) : Pending.Sound ⟨k, 0x80, 0xBF, n⟩ where
  low := Nat.le_refl _
  high := Nat.le_refl _
  beyond := by
    show 10 < n * 64 + 128 % 64
    omega

theorem sound_of_lead (h : lead? b = some p) : p.Sound := by
  unfold lead? at h
  dsimp only at h
  -- one case for each range of lead bytes
  split at h
  · cases h
    exact sound_of_bits 0 (by omega)
  split at h
  · cases h
    exact ⟨by decide, by decide, by decide⟩
  split at h
  · cases h
    exact ⟨by decide, by decide, by decide⟩
  split at h
  · cases h
    exact sound_of_bits 1 (by omega)
  split at h
  · cases h
    exact ⟨by decide, by decide, by decide⟩
  split at h
  · cases h
    exact sound_of_bits 2 (by omega)
  split at h
  · cases h
    exact ⟨by decide, by decide, by decide⟩
  · cases h

theorem sound_none : ∀ p ∈ (none : Option Pending), p.Sound := nofun

theorem start_sound (b : UInt8) : ∀ p ∈ (start b).2, p.Sound := by
  intro p hp
  unfold start at hp
  split at hp
  · cases hp
  split at hp
  · next hlead =>
    cases hp
    exact sound_of_lead hlead
  · cases hp

theorem feed_sound (hs : ∀ p ∈ s, p.Sound) (b : UInt8) : ∀ p ∈ (feed s b).2, p.Sound := by
  cases s with
  | none => exact start_sound b
  | some p =>
    by_cases hb : p.low ≤ b ∧ b ≤ p.high
    · have hcontinued := (hs p rfl).continued hb
      rw [feed, if_pos hb]
      cases p.later with
      | zero => exact sound_none
      | succ k =>
        rintro _ ⟨⟩
        exact sound_of_bits k (by omega)
    · rw [feed, if_neg hb]
      exact start_sound b

/-! ### Line feeds -/

theorem eq_ten_of_ofNat_eq (h : Char.ofNat n = '\n') : n = 10 := by
  by_cases hvalid : n.isValidChar
  · rw [Char.ofNat, dif_pos hvalid] at h
    exact congrArg Char.toNat h
  · rw [Char.ofNat, dif_neg hvalid] at h
    cases h

theorem lineFeed_not_mem_start (hb : b ≠ 10) : '\n' ∉ (start b).1 := by
  unfold start
  split
  · intro hmem
    have hcode := eq_ten_of_ofNat_eq (List.mem_singleton.mp hmem).symm
    exact hb (UInt8.toNat_inj.mp hcode)
  · split
    · exact List.not_mem_nil
    · decide

/-- Only the byte of a line feed gives a line feed. -/
theorem lineFeed_not_mem_feed (hs : ∀ p ∈ s, p.Sound) (hb : b ≠ 10) : '\n' ∉ (feed s b).1 := by
  cases s with
  | none => exact lineFeed_not_mem_start hb
  | some p =>
    by_cases hrange : p.low ≤ b ∧ b ≤ p.high
    · have hcontinued := (hs p rfl).continued hrange
      rw [feed, if_pos hrange]
      cases p.later with
      | zero =>
        intro hmem
        have hcode := eq_ten_of_ofNat_eq (List.mem_singleton.mp hmem).symm
        omega
      | succ k => exact List.not_mem_nil
    · rw [feed, if_neg hrange, List.mem_cons, not_or]
      exact ⟨by decide, lineFeed_not_mem_start hb⟩

theorem lineFeed_not_mem_decodeFrom (hs : ∀ p ∈ s, p.Sound) (h : 10 ∉ bs) :
    '\n' ∉ decodeFrom s bs := by
  induction bs generalizing s with
  | nil =>
    cases s with
    | none => exact List.not_mem_nil
    | some p => exact fun hmem => absurd (List.mem_singleton.mp hmem) (by decide)
  | cons b bs ih =>
    rw [List.mem_cons, not_or] at h
    rw [decodeFrom, List.mem_append, not_or]
    exact ⟨lineFeed_not_mem_feed hs (Ne.symm h.1), ih (feed_sound hs b) h.2⟩

theorem lineFeed_not_mem_decode (h : 10 ∉ bs) : '\n' ∉ decode bs :=
  lineFeed_not_mem_decodeFrom sound_none h

/-- A line feed ends what is pending as the end of the bytes does. -/
theorem feed_lineFeed (hs : ∀ p ∈ s, p.Sound) :
    feed s 10 = (decodeFrom s [] ++ ['\n'], none) := by
  cases s with
  | none => rfl
  | some p =>
    have hlow := (hs p rfl).low
    have hrange : ¬(p.low ≤ 10 ∧ 10 ≤ p.high) := by
      rintro ⟨hle, -⟩
      have hle : p.low.toNat ≤ 10 := UInt8.le_iff_toNat_le.mp hle
      omega
    rw [feed, if_neg hrange]
    rfl

/-- After a line feed decoding begins anew. -/
theorem decodeFrom_lineFeed (hs : ∀ p ∈ s, p.Sound) (bs rest : List UInt8) :
    decodeFrom s (bs ++ 10 :: rest) = decodeFrom s bs ++ '\n' :: decode rest := by
  -- on the bytes before the line feed, in any state, as they may leave a character pending
  induction bs generalizing s with
  | nil =>
    rw [List.nil_append, decodeFrom, feed_lineFeed hs, List.append_assoc]
    rfl
  | cons b bs ih =>
    rw [List.cons_append, decodeFrom, ih (feed_sound hs b), ← List.append_assoc, ← decodeFrom]

theorem decode_lineFeed (bs rest : List UInt8) :
    decode (bs ++ 10 :: rest) = decode bs ++ '\n' :: decode rest :=
  decodeFrom_lineFeed sound_none bs rest

end Codemod.Text.Utf8

namespace Codemod.Text

theorem dropEndWhile_congr {α : Type} {p q : α → Bool} {xs : List α} (h : ∀ x ∈ xs, p x = q x) :
    dropEndWhile p xs = dropEndWhile q xs := by
  induction xs using List.reverseRecOn with
  | nil => rfl
  | append_singleton xs x ih =>
    have hsame : p x = q x := h x (List.mem_append_right _ List.mem_cons_self)
    cases hx : q x with
    | true =>
      rw [dropEndWhile_concat_of_pos _ (hsame.trans hx), dropEndWhile_concat_of_pos _ hx,
        ih fun y hy => h y (List.mem_append_left _ hy)]
    | false => rw [dropEndWhile_concat_of_not _ (hsame.trans hx), dropEndWhile_concat_of_not _ hx]

end Codemod.Text

namespace Codemod.Text.Lines

open Utf8

variable {bytes piece rest : List UInt8}

/-! ### From one line feed to the next -/

/-- Bytes end without a line feed, or begin with a piece and the line feed after it. -/
@[elab_as_elim]
theorem byPieces {motive : List UInt8 → Prop} (last : ∀ piece, 10 ∉ piece → motive piece)
    (line : ∀ piece rest, 10 ∉ piece → motive rest → motive (piece ++ 10 :: rest))
    (bytes : List UInt8) : motive bytes := by
  by_cases hmem : 10 ∈ bytes
  · obtain ⟨piece, rest, hbytes, hpiece⟩ := List.eq_append_cons_of_mem hmem
    rw [hbytes]
    exact line piece rest hpiece (byPieces last line rest)
  · exact last bytes hmem
termination_by bytes.length
decreasing_by
  rw [hbytes, List.length_append, List.length_cons]
  omega

theorem pieces_ne_nil (bytes : List UInt8) : pieces bytes ≠ [] := by
  induction bytes using byPieces with
  | last piece h =>
    rw [pieces_of_not_mem h]
    exact List.cons_ne_nil _ _
  | line piece rest h _ =>
    rw [pieces_append h]
    exact List.cons_ne_nil _ _

theorem lineFeed_not_mem_of_mem_pieces (h : piece ∈ pieces bytes) : 10 ∉ piece := by
  induction bytes using byPieces with
  | last whole hwhole =>
    rw [pieces_of_not_mem hwhole, List.mem_singleton] at h
    rwa [h]
  | line first rest hfirst ih =>
    rw [pieces_append hfirst, List.mem_cons] at h
    obtain rfl | h := h
    · exact hfirst
    · exact ih h

/-- Decoding every piece on its own gives the same characters as decoding all bytes at once. -/
theorem decode_eq_intercalate (bytes : List UInt8) :
    decode bytes = ['\n'].intercalate ((pieces bytes).map decode) := by
  induction bytes using byPieces with
  | last piece h => rw [pieces_of_not_mem h, List.map_singleton, List.intercalate_singleton]
  | line piece rest h ih =>
    have hne : (pieces rest).map decode ≠ [] := by
      rw [Ne, List.map_eq_nil_iff]
      exact pieces_ne_nil rest
    rw [pieces_append h, List.map_cons, List.intercalate_cons_of_ne_nil hne, ← ih, decode_lineFeed,
      List.append_assoc, List.singleton_append]

/-- The pieces of the decoded bytes are the decoded pieces of the bytes. -/
theorem splitOn_decode (bytes : List UInt8) :
    (decode bytes).splitOn '\n' = (pieces bytes).map decode := by
  have hfree : ∀ line ∈ (pieces bytes).map decode, '\n' ∉ line := by
    rw [List.forall_mem_map]
    exact fun piece hpiece => lineFeed_not_mem_decode (lineFeed_not_mem_of_mem_pieces hpiece)
  -- no decoded piece has a line feed in it, so splitting undoes joining
  rw [decode_eq_intercalate, List.splitOn_intercalate '\n' hfree]
  rw [Ne, List.map_eq_nil_iff]
  exact pieces_ne_nil bytes

/-! ### The lines of a text -/

/-- The lines of a text: what stands between line feeds, without the carriage returns at its end,
unless it is blank. -/
def linesOf (text : List Char) : List String :=
  let lines := (text.splitOn '\n').map (dropEndWhile (· == '\r'))
  (lines.filter fun line => !line.all isBlank).map String.ofList

theorem dropEndWhile_isLineBreak {cs : List Char} (h : '\n' ∉ cs) :
    dropEndWhile isLineBreak cs = dropEndWhile (· == '\r') cs := by
  refine dropEndWhile_congr fun c hc => ?_
  have hne : (c == '\n') = false := beq_eq_false_iff_ne.mpr fun heq => h (heq ▸ hc)
  rw [isLineBreak, hne, Bool.false_or]

/-- The line of a piece, in the words of `linesOf`. -/
theorem lineOf?_eq (h : 10 ∉ piece) : (lineOf? piece).toList =
    ([dropEndWhile (· == '\r') (decode piece)].filter fun line => !line.all isBlank).map
      String.ofList := by
  rw [lineOf?, dropEndWhile_isLineBreak (lineFeed_not_mem_decode h)]
  split
  · next hblank => rw [List.filter_cons_of_neg (by rw [hblank]; decide)]; rfl
  · next hshown => rw [List.filter_cons_of_pos (by simpa using hshown)]; rfl

theorem linesOf_decode (bytes : List UInt8) : linesOf (decode bytes) = scan bytes := by
  rw [linesOf, splitOn_decode]
  induction bytes using byPieces with
  | last piece h =>
    rw [pieces_of_not_mem h, scan_of_not_mem h, lineOf?_eq h]
    rfl
  | line piece rest h ih =>
    rw [pieces_append h, scan_append h, lineOf?_eq h, ← ih, List.map_cons, List.map_cons,
      ← List.singleton_append, List.filter_append, List.map_append]

/-! ### The terminators -/

/-- What a reader hands out: the bytes up to and with each line feed, and those after the last one
if there are any. -/
def chunks : List UInt8 → List (List UInt8)
  | [] => []
  | b :: bs =>
    if b == 10 then [b] :: chunks bs
    else match chunks bs with
      | c :: cs => (b :: c) :: cs
      | [] => [[b]]

theorem chunks_append (h : 10 ∉ piece) :
    chunks (piece ++ 10 :: rest) = (piece ++ [10]) :: chunks rest := by
  induction piece with
  | nil => rfl
  | cons b bs ih =>
    rw [List.mem_cons, not_or] at h
    have hb : ¬(b == 10) = true := by simpa using Ne.symm h.1
    rw [List.cons_append, chunks, if_neg hb, ih h.2]
    rfl

theorem chunks_of_not_mem (h : 10 ∉ piece) (hne : piece ≠ []) : chunks piece = [piece] := by
  induction piece with
  | nil => exact absurd rfl hne
  | cons b bs ih =>
    rw [List.mem_cons, not_or] at h
    have hb : ¬(b == 10) = true := by simpa using Ne.symm h.1
    rw [chunks, if_neg hb]
    cases bs with
    | nil => rfl
    | cons c cs => rw [ih h.2 (List.cons_ne_nil c cs)]

/-- A line is the same with its terminator. -/
theorem lineOf?_concat (piece : List UInt8) : lineOf? (piece ++ [10]) = lineOf? piece := by
  have hdrop : dropEndWhile isLineBreak (decode (piece ++ [10])) =
      dropEndWhile isLineBreak (decode piece) := by
    rw [decode_lineFeed]
    exact dropEndWhile_concat_of_pos _ rfl
  rw [lineOf?, hdrop]
  rfl

theorem filterMap_chunks (bytes : List UInt8) : (chunks bytes).filterMap lineOf? = scan bytes := by
  induction bytes using byPieces with
  | last piece h =>
    by_cases hne : piece = []
    · rw [hne]
      rfl
    · rw [chunks_of_not_mem h hne, scan, pieces_of_not_mem h]
  | line piece rest h ih =>
    rw [chunks_append h, List.filterMap_cons, lineOf?_concat, ih, scan_append h]
    cases lineOf? piece <;> rfl

theorem scan_concat (bytes : List UInt8) : scan (bytes ++ [10]) = scan bytes := by
  induction bytes using byPieces with
  | last piece h =>
    rw [scan_append h, scan_of_not_mem h]
    exact List.append_nil _
  | line piece rest h ih =>
    rw [List.append_assoc, List.cons_append, scan_append h, scan_append h, ih]

theorem lineFeed_not_mem_of_mem_scan {line : String} (h : line ∈ scan bytes) :
    '\n' ∉ line.toList := by
  rw [scan, List.mem_filterMap] at h
  obtain ⟨piece, hpiece, hline⟩ := h
  have hfree : '\n' ∉ decode piece :=
    lineFeed_not_mem_decode (lineFeed_not_mem_of_mem_pieces hpiece)
  unfold lineOf? at hline
  dsimp only at hline
  split at hline
  · cases hline
  · cases hline
    rw [String.toList_ofList]
    intro hmem
    refine hfree ?_
    rw [← dropEndWhile_append_takeWhile isLineBreak (decode piece)]
    exact List.mem_append_left _ hmem

/-- The scan finds the lines of the decoded stream: no character is added, lost or moved when the
lines are decoded one by one, with their terminators or without, and the last line needs none. -/
theorem scan_eq_linesOf_decode (bytes : List UInt8) :
    scan bytes = linesOf (decode bytes) ∧
      decode bytes = ['\n'].intercalate ((pieces bytes).map decode) ∧
      scan bytes = (chunks bytes).filterMap lineOf? ∧
      scan (bytes ++ [10]) = scan bytes ∧
      ∀ line ∈ scan bytes, '\n' ∉ line.toList :=
  ⟨(linesOf_decode bytes).symm, decode_eq_intercalate bytes, (filterMap_chunks bytes).symm,
    scan_concat bytes, fun _ => lineFeed_not_mem_of_mem_scan⟩

end Codemod.Text.Lines
