import Codemod.Text.Search

/-!
# The longest beginning of a text

A text that is too long for the log is shown up to the last whole character that still fits. The
search for that place always finds one, and what stands before it is the longest beginning of the
text within the limit.

- `LongestWithin` — the longest beginning within a limit
- `before?_of_append` — what stands before a cut
- `truncate_keeps_longest` — what is shown of a text
-/

namespace Codemod.Text

open String.Pos (Raw)

variable {text kept rest : String}

/-- The longest beginning of a text, in whole characters, of at most `limit` bytes. -/
structure LongestWithin (limit : Nat) (text kept : String) : Prop where
  begins : ∃ rest, text = kept ++ rest
  fits : kept.utf8ByteSize ≤ limit
  longest : ∀ other rest, text = other ++ rest → other.utf8ByteSize ≤ limit →
    ∃ more, kept = other ++ more

/-- A cut lies between two parts of the text. -/
theorem before?_of_append (h : text = kept ++ rest) :
    before? text kept.utf8ByteSize = some kept := by
  have hcut : Raw.IsValid text ⟨kept.utf8ByteSize⟩ :=
    Raw.isValid_iff_exists_append.mpr ⟨kept, rest, h, rfl⟩
  have hsplits : (⟨⟨kept.utf8ByteSize⟩, hcut⟩ : text.Pos).Splits kept rest := ⟨h, rfl⟩
  rw [before?, dif_pos hcut]
  exact congrArg some hsplits.copy_sliceTo_eq

/-- What stands before the last cut up to a limit is the longest beginning within it. -/
theorem lastCut?_before? (text : String) (limit : Nat) :
    ∃ kept, (lastCut? text limit).bind (before? text) = some kept ∧
      LongestWithin limit text kept := by
  obtain ⟨byte, hbyte, hle, hcut, hlast⟩ := lastCut?_eq_some text limit
  obtain ⟨kept, rest, htext, hend⟩ := Raw.isValid_iff_exists_append.mp hcut
  have hsize : byte = kept.utf8ByteSize := congrArg Raw.byteIdx hend
  refine ⟨kept, ?_, ⟨rest, htext⟩, hsize ▸ hle, ?_⟩
  · rw [hbyte, Option.bind_some, hsize]
    exact before?_of_append htext
  · intro other rest' hother hfits
    have hvalid : Raw.IsValid text other.rawEndPos :=
      Raw.isValid_iff_exists_append.mpr ⟨other, rest', hother, rfl⟩
    have hshorter : other.utf8ByteSize ≤ kept.utf8ByteSize := hsize ▸ hlast _ hfits hvalid
    -- of two beginnings of a text, the shorter one is a beginning of the longer one
    have hsplits : (⟨other.rawEndPos, hvalid⟩ : text.Pos).Splits other rest' := ⟨hother, rfl⟩
    have hsplits' : (⟨kept.rawEndPos, hend ▸ hcut⟩ : text.Pos).Splits kept rest := ⟨htext, rfl⟩
    obtain ⟨more, hmore, -⟩ := (hsplits.le_iff_exists_eq_append hsplits').mp hshorter
    exact ⟨more, hmore⟩

/-- Every text is shown, whatever the limit: the search for a cut ends, and the cut goes through no
character. A text that fits is shown whole, any other by its longest beginning that fits, with a
mark behind it. -/
theorem truncate_keeps_longest (text : String) (limit : Nat) :
    ∃ kept, (lastCut? text limit).bind (before? text) = some kept ∧
      LongestWithin limit text kept ∧
      truncate? text limit = some (truncate text limit) ∧
      truncate text limit =
        if text.utf8ByteSize ≤ limit then text else kept ++ "...(truncated)" := by
  obtain ⟨kept, hkept, hlongest⟩ := lastCut?_before? text limit
  obtain ⟨byte, hbyte, hbefore⟩ := Option.bind_eq_some_iff.mp hkept
  have hshown : truncate? text limit =
      some (if text.utf8ByteSize ≤ limit then text else kept ++ cutMark) := by
    unfold truncate?
    split
    · rfl
    · simp only [hbyte, hbefore, Option.bind_eq_bind, Option.bind_some]
      rfl
  have hget : truncate? text limit = some (truncate text limit) := (Option.some_get _).symm
  exact ⟨kept, hkept, hlongest, hget, Option.some.inj (hget.symm.trans hshown)⟩

/-- A limit inside of a character, one that leaves nothing, and one that is met exactly. -/
example : truncate "aé" 2 = "a...(truncated)" ∧ truncate "é" 0 = "...(truncated)" ∧
    truncate "aé" 3 = "aé" := by decide

end Codemod.Text
