import Codemod.Instance

/-!
# Finding and replacing text

- `hasInfix` — one text occurs in another
- `replaceAll` — every occurrence of a text replaced, from left to right
-/

namespace Codemod.Text

/-- The first text occurs somewhere in the second. -/
def hasInfix (needle : List Char) : List Char → Bool
  | [] => needle.isEmpty
  | c :: cs => needle.isPrefixOf (c :: cs) || hasInfix needle cs

/-- The first string occurs somewhere in the second. -/
def occursIn (needle text : String) : Bool := hasInfix needle.toList text.toList

/-- Replaces from left to right; `skip` characters still belong to the last occurrence. -/
def replaceFrom (needle replacement : List Char) : (skip : Nat) → List Char → List Char
  | _, [] => []
  | skip + 1, _ :: cs => replaceFrom needle replacement skip cs
  | 0, c :: cs =>
    if needle.isPrefixOf (c :: cs) then
      replacement ++ replaceFrom needle replacement (needle.length - 1) cs
    else c :: replaceFrom needle replacement 0 cs

/-- Replaces every occurrence of a text that is not empty. -/
def replaceAll (needle replacement text : String) : String :=
  if needle.isEmpty then text
  else String.ofList (replaceFrom needle.toList replacement.toList 0 text.toList)

end Codemod.Text

/-!
## Shortening a text for the log

A text is cut to a number of UTF-8 bytes. A cut in the middle of a character is no cut, so the place
for it is looked for from the limit towards the front.

- `lastCut?` — the search for a place
- `before?` — what stands before a place
- `truncate?`, `truncate` — the text, or its beginning and a mark
-/

namespace Codemod.Text

open String.Pos (Raw)

/-- The last byte up to the limit at which a character begins or the text ends; none when the search
passes the front. -/
def lastCut? (text : String) : (limit : Nat) → Option Nat
  | 0 => if Raw.IsValid text ⟨0⟩ then some 0 else none
  | byte + 1 => if Raw.IsValid text ⟨byte + 1⟩ then some (byte + 1) else lastCut? text byte

/-- What stands before a byte; none when the byte lies inside a character or behind the text. -/
def before? (text : String) (byte : Nat) : Option String :=
  if h : Raw.IsValid text ⟨byte⟩ then some (text.sliceTo ⟨⟨byte⟩, h⟩).copy else none

/-- What marks a cut. -/
def cutMark : String := "...(truncated)"

/-- The text itself if it has at most `limit` bytes, else what stands before the last cut up to the
limit, and the mark of the cut. -/
def truncate? (text : String) (limit : Nat) : Option String :=
  if text.utf8ByteSize ≤ limit then some text
  else do
    let byte ← lastCut? text limit
    let kept ← before? text byte
    return kept ++ cutMark

/-- The search ends at the last cut up to the limit. -/
theorem lastCut?_eq_some (text : String) (limit : Nat) :
    ∃ byte, lastCut? text limit = some byte ∧ byte ≤ limit ∧ Raw.IsValid text ⟨byte⟩ ∧
      ∀ other ≤ limit, Raw.IsValid text ⟨other⟩ → other ≤ byte := by
  induction limit with
  -- the front is a place for a cut, so no step goes beyond it
  | zero => exact ⟨0, if_pos Raw.isValid_zero, Nat.le_refl 0, Raw.isValid_zero, fun _ h _ => h⟩
  | succ limit ih =>
    by_cases hcut : Raw.IsValid text ⟨limit + 1⟩
    · exact ⟨limit + 1, if_pos hcut, Nat.le_refl _, hcut, fun _ h _ => h⟩
    · obtain ⟨byte, hbyte, hle, hvalid, hlast⟩ := ih
      refine ⟨byte, (if_neg hcut).trans hbyte, Nat.le_succ_of_le hle, hvalid, ?_⟩
      intro other hother hvalid
      have hne : other ≠ limit + 1 := by
        rintro rfl
        exact hcut hvalid
      exact hlast other (by omega) hvalid

/-- No search fails and no cut goes through a character. -/
theorem isSome_truncate? (text : String) (limit : Nat) : (truncate? text limit).isSome := by
  obtain ⟨byte, hbyte, -, hvalid, -⟩ := lastCut?_eq_some text limit
  unfold truncate?
  split
  · rfl
  · simp [hbyte, before?, hvalid]

/-- The text in at most `limit` bytes, and the mark of a cut if there was one. -/
def truncate (text : String) (limit : Nat) : String :=
  (truncate? text limit).get (isSome_truncate? text limit)

end Codemod.Text
