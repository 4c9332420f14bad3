import Codemod.Instance

/-!
# Blank characters

Blank means Unicode `White_Space`. This module holds the class and the trimming functions over
lists of characters and over strings.

- `isBlank` — the class, as ranges of code points
- `dropEndWhile` — `List.dropWhile` at the other end of a list
- `trim`, `trimEnd` — a text without blank ends
- `isBlankText` — a text that trims to nothing
-/

namespace Codemod.Text

/-- Unicode `White_Space`: the controls from tab to carriage return, the next-line control, the
space separators, and the line and paragraph separators. -/
def isBlank (c : Char) : Bool :=
  let n := c.toNat
  (9 ≤ n && n ≤ 13) || n == 0x20 || n == 0x85 || n == 0xA0 || n == 0x1680
    || (0x2000 ≤ n && n ≤ 0x200A) || n == 0x2028 || n == 0x2029 || n == 0x202F || n == 0x205F
    || n == 0x3000

/-- A line feed or a carriage return. -/
def isLineBreak (c : Char) : Bool := c == '\n' || c == '\r'

/-- Every line break is blank. -/
theorem isBlank_of_isLineBreak {c : Char} (h : isLineBreak c = true) : isBlank c = true := by
  simp only [isLineBreak, Bool.or_eq_true, beq_iff_eq] at h
  rcases h with rfl | rfl <;> decide

variable {α : Type}

/-- Drops the longest end of the list whose members all satisfy `p`. -/
def dropEndWhile (p : α → Bool) (xs : List α) : List α :=
  (xs.reverse.dropWhile p).reverse

@[simp]
theorem dropEndWhile_nil (p : α → Bool) : dropEndWhile p [] = [] := rfl

/-- What is kept and what is dropped make up the list. -/
theorem dropEndWhile_append_takeWhile (p : α → Bool) (xs : List α) :
    dropEndWhile p xs ++ (xs.reverse.takeWhile p).reverse = xs := by
  rw [dropEndWhile, ← List.reverse_append, List.takeWhile_append_dropWhile, List.reverse_reverse]

/-- A last member outside the class stops the dropping at once. -/
theorem dropEndWhile_concat_of_not {p : α → Bool} {x : α} (xs : List α) (h : p x = false) :
    dropEndWhile p (xs ++ [x]) = xs ++ [x] := by
  simp [dropEndWhile, h]

/-- A last member of the class goes. -/
theorem dropEndWhile_concat_of_pos {p : α → Bool} {x : α} (xs : List α) (h : p x = true) :
    dropEndWhile p (xs ++ [x]) = dropEndWhile p xs := by
  simp [dropEndWhile, h]

/-- The text without blank characters at its end. -/
def trimEnd (cs : List Char) : List Char := dropEndWhile isBlank cs

/-- The text without blank characters at either end. -/
def trim (cs : List Char) : List Char := trimEnd (cs.dropWhile isBlank)

/-- The string without blank characters at its end. -/
def trimmedEnd (s : String) : String := String.ofList (trimEnd s.toList)

/-- The string without blank characters at either end. -/
def trimmed (s : String) : String := String.ofList (trim s.toList)

/-- The string has no character that is not blank. -/
def isBlankText (s : String) : Bool := s.toList.all isBlank

/-- The string without line breaks at either end. -/
def withoutOuterLineBreaks (s : String) : String :=
  String.ofList (dropEndWhile isLineBreak (s.toList.dropWhile isLineBreak))

end Codemod.Text
