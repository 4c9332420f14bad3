import Codemod.Model.Answer
import Codemod.Model.Prompt
import Mathlib.Data.List.Infix

/-!
# The blocks of a prompt

A reader of a prompt takes out its blocks one after the other: it looks for the next opening, three
backticks at the end of a line, and takes what follows up to the next line that begins with three
backticks. The contents come out of a prompt as they were put in, when the texts before them have
no three backticks in a row and none of their own lines but the first begins with three. How they
begin and end does not matter.

- `cut?`, `block?`, `blocks` — the reader
- `block?_append` — the first block of a text
- `Unfenced`, `Plain` — texts that no block begins in
- `blocks_append_block` — a block of a prompt
- `blocks_give_contents` — the blocks of every prompt
-/

namespace Codemod.Prompt

open Answer (fence)

variable {mark before after body rest cs start : List Char}

/-! ### Reading blocks -/

/-- What stands before the first occurrence of a mark, and what stands after it. -/
def cut? (mark : List Char) : List Char → Option (List Char × List Char)
  | [] => if mark.isEmpty then some ([], []) else none
  | c :: cs =>
    if mark.isPrefixOf (c :: cs) then some ([], (c :: cs).drop mark.length)
    else (cut? mark cs).map fun (before, after) => (c :: before, after)

/-- Three backticks at the end of a line. -/
def opening : List Char := fence ++ ['\n']

/-- Three backticks at the beginning of a line, with the end of the line before. -/
def closing : List Char := '\n' :: fence

/-- The first block of a text, and what stands after it. -/
def block? (cs : List Char) : Option (List Char × List Char) :=
  (cut? opening cs).bind fun (_, inner) => cut? closing inner

theorem eq_of_cut? (h : cut? mark cs = some (before, after)) : cs = before ++ mark ++ after := by
  induction cs generalizing before with
  | nil =>
    rw [cut?, Option.ite_none_right_eq_some, List.isEmpty_iff] at h
    obtain ⟨rfl, h⟩ := h
    cases h
    rfl
  | cons c cs ih =>
    rw [cut?] at h
    split at h
    · next hprefix =>
      cases h
      obtain ⟨after, hafter⟩ := List.isPrefixOf_iff_prefix.mp hprefix
      rw [← hafter]
      simp
    · obtain ⟨⟨before', after'⟩, hrest, heq⟩ := Option.map_eq_some_iff.mp h
      cases heq
      rw [ih hrest]
      simp

theorem length_of_block? (h : block? cs = some (body, rest)) : rest.length < cs.length := by
  obtain ⟨⟨before, inner⟩, hopening, hclosing⟩ := Option.bind_eq_some_iff.mp h
  rw [eq_of_cut? hopening, eq_of_cut? hclosing]
  simp [opening, fence]
  omega

/-- The blocks of a text, from the first to the last. -/
def blocksIn (cs : List Char) : List (List Char) :=
  match _h : block? cs with
  | none => []
  | some (body, rest) => body :: blocksIn rest
termination_by cs.length
decreasing_by exact length_of_block? _h

/-- The blocks of a prompt. -/
def blocks (prompt : String) : List String := (blocksIn prompt.toList).map String.ofList

theorem blocksIn_of_block? (h : block? cs = some (body, rest)) :
    blocksIn cs = body :: blocksIn rest := by
  rw [blocksIn]
  split
  · next hnone =>
    rw [h] at hnone
    cases hnone
  · next body' rest' hsome =>
    rw [h] at hsome
    cases hsome
    rfl

/-! ### Where a mark is found -/

/-- A mark is found where it stands first. -/
theorem cut?_append {c : Char} (h : ¬mark ++ [c] <:+: before ++ mark) :
    cut? (mark ++ [c]) (before ++ (mark ++ [c]) ++ after) = some (before, after) := by
  induction before with
  | nil => cases mark <;> simp [cut?, List.isPrefixOf_iff_prefix]
  | cons b before ih =>
    have hlater : ¬mark ++ [c] <:+: before ++ mark := fun hinfix =>
      h (List.infix_cons_iff.mpr (.inr hinfix))
    have hnot : ¬(mark ++ [c]).isPrefixOf (b :: (before ++ (mark ++ [c]) ++ after)) = true := by
      rw [List.isPrefixOf_iff_prefix]
      intro hprefix
      -- it would end before the last character of the mark that is looked for
      have hwhole : b :: before ++ mark <+: b :: (before ++ (mark ++ [c]) ++ after) :=
        ⟨c :: after, by simp⟩
      have hlength : (mark ++ [c]).length ≤ (b :: before ++ mark).length := by simp
      exact h (List.prefix_of_prefix_length_le hprefix hwhole hlength).isInfix
    rw [List.cons_append, List.cons_append, cut?, if_neg hnot, ih hlater]
    rfl

/-- What does not end with a text occurs before its last character. -/
theorem infix_of_infix_concat {xs ys : List Char} {y : Char} (h : xs <:+: ys ++ [y])
    (hends : ¬xs <:+ ys ++ [y]) : xs <:+: ys := (List.infix_concat_iff.mp h).resolve_left hends

/-- An opening behind a text without three backticks is the first one. -/
theorem cut?_opening (h : ¬fence <:+: before) :
    cut? opening (before ++ opening ++ after) = some (before, after) := by
  refine cut?_append fun hinfix => ?_
  have hends : ∀ cs : List Char, ¬opening <:+ cs ++ ['`'] := by
    intro cs
    simp [opening, fence, ← List.reverse_prefix]
  -- an earlier opening ends in a line feed, so before the three backticks of this one
  have hbefore : opening <:+: before := by
    have hsplit : before ++ fence = before ++ ['`'] ++ ['`'] ++ ['`'] := by simp [fence]
    rw [hsplit] at hinfix
    exact infix_of_infix_concat (infix_of_infix_concat (infix_of_infix_concat hinfix (hends _))
      (hends _)) (hends _)
  exact h ((List.prefix_append fence ['\n']).isInfix.trans hbefore)

/-- A closing behind a text without one is the first one, whatever the text ends in. -/
theorem cut?_closing (h : ¬closing <:+: body) :
    cut? closing (body ++ closing ++ rest) = some (body, rest) := by
  have hearly : ¬['\n', '`', '`'] ++ ['`'] <:+: body ++ ['\n', '`', '`'] := by
    intro hinfix
    have hsplit : body ++ ['\n', '`', '`'] = body ++ ['\n'] ++ ['`'] ++ ['`'] := by simp
    -- an earlier closing ends in three backticks, so before the line feed of this one
    rw [hsplit] at hinfix
    refine h (infix_of_infix_concat (infix_of_infix_concat (infix_of_infix_concat hinfix ?_) ?_) ?_)
      <;> simp [closing, fence, ← List.reverse_prefix]
  exact cut?_append hearly

/-- A text without three backticks, an opening, a text without a closing, and a closing: the first
block is what stands between the two. -/
theorem block?_append (hstart : ¬fence <:+: start) (hbody : ¬closing <:+: body) :
    block? (start ++ opening ++ (body ++ closing ++ rest)) = some (body, rest) := by
  rw [block?, cut?_opening hstart, Option.bind_some]
  exact cut?_closing hbody

/-! ### Texts before a block -/

variable {a b s task file title label context content : String}

/-- The text has no three backticks in a row. -/
def Unfenced (s : String) : Prop := ¬fence <:+: s.toList

instance (s : String) : Decidable (Unfenced s) := inferInstanceAs (Decidable (¬_))

/-- The text has no three backticks in a row, and none that others behind it could add to. -/
structure Plain (s : String) : Prop where
  unfenced : Unfenced s
  ends : s.toList.getLast? ≠ some '`'

theorem not_infix_append {xs ys : List Char} (hxs : ¬fence <:+: xs) (hys : '`' ∉ ys) :
    ¬fence <:+: xs ++ ys := by
  induction ys using List.reverseRecOn with
  | nil => rwa [List.append_nil]
  | append_singleton ys y ih =>
    rw [List.mem_append, not_or, List.mem_singleton] at hys
    intro hinfix
    rw [← List.append_assoc] at hinfix
    refine ih hys.1 (infix_of_infix_concat hinfix ?_)
    simp [fence, ← List.reverse_prefix, hys.2]

theorem unfenced_ofList {cs : List Char} (hcs : '`' ∉ cs) : Unfenced (String.ofList cs) := by
  have hnil : ¬fence <:+: [] := by simp [fence]
  rw [Unfenced, String.toList_ofList]
  exact not_infix_append hnil hcs

/-- What is put behind a part of a template may begin and end in backticks. -/
theorem Plain.append (ha : Plain a) (hb : Unfenced b) : Unfenced (a ++ b) := by
  rintro ⟨before, after, h⟩
  rw [String.toList_append, List.append_eq_append_iff] at h
  obtain ⟨more, hin, -⟩ | ⟨more, hin, hout⟩ := h
  · exact ha.unfenced ⟨before, more, hin.symm⟩
  · rw [List.append_eq_append_iff] at hin
    obtain ⟨first, hfirst, hfence⟩ | ⟨first, -, hmore⟩ := hin
    · cases first using List.reverseRecOn with
      | nil => exact hb ⟨[], after, by rw [hout, ← List.nil_append more, ← hfence]; rfl⟩
      | append_singleton first c =>
        -- the backticks would begin in the first text, which ends in something else
        have hc : c ∈ fence := by simp [hfence]
        have hbacktick : c = '`' := by simpa [fence] using hc
        have hends := ha.ends
        rw [hfirst, hbacktick, ← List.append_assoc, List.getLast?_concat] at hends
        exact hends rfl
    · exact hb ⟨first, after, by rw [hout, hmore]⟩

/-- A part of a template without backticks ends what was put before it. -/
theorem Unfenced.append {cs : List Char} (ha : Unfenced a) (hne : cs ≠ []) (hcs : '`' ∉ cs) :
    Plain (a ++ String.ofList cs) where
  unfenced := by
    rw [Unfenced, String.toList_append, String.toList_ofList]
    exact not_infix_append ha hcs
  ends := by
    rw [String.toList_append, String.toList_ofList, List.getLast?_append_of_ne_nil _ hne]
    exact fun hlast => hcs (List.mem_of_getLast? hlast)

theorem plain_ofList {cs : List Char} (hcs : '`' ∉ cs) : Plain (String.ofList cs) where
  unfenced := unfenced_ofList hcs
  ends := by
    rw [String.toList_ofList]
    exact fun hlast => hcs (List.mem_of_getLast? hlast)

/-- The documentation is shown, or what stands for it. -/
theorem plain_header (htask : Unfenced task) (hcontext : Unfenced context) :
    Plain (header task context) := by
  have hshown : Unfenced (if Text.isBlankText context then noContext else context) := by
    split
    · exact unfenced_ofList (by decide)
    · exact hcontext
  have hbegins : Plain "You are an expert " := plain_ofList (by decide)
  have htold : Plain ("You are an expert " ++ task ++ "\n\n# Project context:\n") :=
    (hbegins.append htask).append (by decide) (by decide)
  exact (htold.append hshown).append (by decide) (by decide)

theorem Plain.titled (hs : Plain s) (htitle : Unfenced title) :
    Plain (s ++ "# " ++ title ++ ":\n") := by
  have hmark : Plain (s ++ "# ") := hs.unfenced.append (by decide) (by decide)
  exact (hmark.append htitle).append (by decide) (by decide)

theorem Plain.fileSection (hs : Plain s) (htitle : Unfenced title) (hlabel : Unfenced label) :
    Plain (s ++ fileSection title label) := by
  have hlabelled : Plain (s ++ "# " ++ title ++ ":\n" ++ label ++ "\n\n") :=
    ((hs.titled htitle).append hlabel).append (by decide) (by decide)
  simpa [Prompt.fileSection, String.append_assoc] using hlabelled

/-! ### The blocks of every prompt -/

/-- No line of the text but the first begins with three backticks. -/
def Embeddable (s : String) : Prop := ¬closing <:+: s.toList

instance (s : String) : Decidable (Embeddable s) := inferInstanceAs (Decidable (¬_))

/-- A block behind a text that no block begins in is the first one. -/
theorem blocks_append_block (hs : Plain s) (htitle : Unfenced title) (hcontent : Embeddable content)
    (rest : String) :
    blocks (s ++ block title content ++ rest) = content :: blocks ("\n\n" ++ rest) := by
  have hlist : (s ++ block title content ++ rest).toList =
      (s ++ "# " ++ title ++ ":\n").toList ++ opening ++
        (content.toList ++ closing ++ ("\n\n" ++ rest).toList) := by
    simp [block, opening, closing, fence]
  rw [blocks, hlist, blocksIn_of_block? (block?_append (hs.titled htitle).unfenced hcontent),
    List.map_cons, String.ofList_toList, blocks]

theorem blocks_block_append (htitle : Unfenced title) (hcontent : Embeddable content)
    (rest : String) :
    blocks ("\n\n" ++ (block title content ++ rest)) = content :: blocks ("\n\n" ++ rest) := by
  rw [← String.append_assoc]
  exact blocks_append_block (plain_ofList (by decide)) htitle hcontent rest

/-- The first block of a prompt holds what the model is asked about. -/
theorem blocks_of_sections (htask : Unfenced task) (hcontext : Unfenced context)
    (hfile : Unfenced file) (hlabel : Unfenced label) (htitle : Unfenced title)
    (hcontent : Embeddable content) (rest : String) :
    blocks (header task context ++ (fileSection file label ++ (block title content ++ rest))) =
      content :: blocks ("\n\n" ++ rest) := by
  rw [← String.append_assoc, ← String.append_assoc]
  exact blocks_append_block ((plain_header htask hcontext).fileSection hfile hlabel) htitle hcontent
    rest

/-- The contents come out of every prompt as they were put in: the one that the model is asked about
first, and in a prompt for a repair the attempt and the failure output after it. -/
theorem blocks_give_contents (find replace label context : String) (hlabel : Unfenced label)
    (hcontext : Unfenced context) :
    (∀ content, Embeddable content →
      (blocks (count content find label context)).head? = some content ∧
        (blocks (transform content label ⟨find, replace, context⟩)).head? = some content) ∧
      ∀ stage initial attempted output, Embeddable initial → Embeddable attempted →
        Embeddable output →
        (blocks (fix stage initial attempted label output ⟨find, replace, context⟩)).take 3 =
          [initial, attempted, output] := by
  constructor
  · intro content hcontent
    constructor
    · simp only [count, String.append_assoc]
      rw [blocks_of_sections (unfenced_ofList (by decide)) hcontext (unfenced_ofList (by decide))
        hlabel (unfenced_ofList (by decide)) hcontent, List.head?_cons]
    · simp only [transform, String.append_assoc]
      rw [blocks_of_sections (unfenced_ofList (by decide)) hcontext (unfenced_ofList (by decide))
        hlabel (unfenced_ofList (by decide)) hcontent, List.head?_cons]
  · intro stage initial attempted output hinitial hattempted houtput
    have htask : Unfenced (fixTask stage) := by
      cases stage <;> exact unfenced_ofList (by decide)
    have hfailing : Unfenced (failingTitle stage) := by
      cases stage <;> exact unfenced_ofList (by decide)
    have hshown : Unfenced (outputTitle stage) := by
      cases stage <;> exact unfenced_ofList (by decide)
    simp only [fix, String.append_assoc]
    rw [blocks_of_sections htask hcontext (unfenced_ofList (by decide)) hlabel
      (unfenced_ofList (by decide)) hinitial, blocks_block_append hfailing hattempted,
      blocks_block_append hshown houtput]
    rfl

/-- Contents that are empty, that begin or end in backticks, or that end in line feeds. -/
theorem blocks_give_contents_backticks :
    (blocks (count "```\n``" "\n```\nold" "``.js" "`a``")).head? = some "```\n``" ∧
      (blocks (fix .lint "" "a```" "``.js" "\n\n" ⟨"\n```\nold", "```", "`a``"⟩)).take 3 =
        ["", "a```", "\n\n"] := by
  have hlabel : Unfenced "``.js" := by decide
  have hcontext : Unfenced "`a``" := by decide
  obtain ⟨hcontents, hfix⟩ := blocks_give_contents "\n```\nold" "```" "``.js" "`a``" hlabel hcontext
  exact ⟨(hcontents "```\n``" (by decide)).1,
    hfix .lint "" "a```" "\n\n" (by decide) (by decide) (by decide)⟩

end Codemod.Prompt
