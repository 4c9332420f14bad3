import Codemod.Proofs.Json.Number
import Codemod.Text.Blank

/-!
# How JSON is written, and that it is read

A grammar of the texts that stand for a value: blanks between any two signs, every way to escape a
character, fields in any order and repeated ones too. The reader reads each such text, up to its
limit of nesting, and leaves what stands behind the value.

- `Literal`, `Label`, `Spells` — strings, names of fields, values
- `Reader.stringBody_of_literal` — a string literal is read as the text that it stands for
- `Spells.value_eq` — a text of a value is read as the value
- `Written`, `parse?_of_written` — a whole text
- `Written.not_blank` — it is never blank
-/

namespace Codemod.Json

open Reader

/-! ### How values are written -/

/-- Blanks of the format. -/
def Blanks (cs : List Char) : Prop := ∀ c ∈ cs, isSpace c = true

/-- A text and what stands for it between the quotes of a string literal. -/
inductive Literal : List Char → List Char → Prop
  | nil : Literal [] []
  | plain {c : Char} {text cs : List Char} (hquote : c ≠ '"') (hslash : c ≠ '\\')
      (hprintable : 32 ≤ c.toNat) : Literal text cs → Literal (c :: text) (c :: cs)
  | short {e c : Char} {text cs : List Char} (hescape : shortEscape? e = some c) :
    Literal text cs → Literal (c :: text) ('\\' :: e :: cs)
  | code {a b c d : Char} {n : Nat} {text cs : List Char} (hcode : hexQuad? a b c d = some n)
      (hscalar : n < 0xD800 ∨ 0xDFFF < n) :
    Literal text cs → Literal (Char.ofNat n :: text) ('\\' :: 'u' :: a :: b :: c :: d :: cs)
  | pair {a b c d e f g h ch : Char} {high low : Nat} {text cs : List Char}
      (hhigh : hexQuad? a b c d = some high) (hrange : 0xD800 ≤ high ∧ high ≤ 0xDBFF)
      (hlow : hexQuad? e f g h = some low) (hjoin : joinSurrogates? high low = some ch) :
    Literal text cs → Literal (ch :: text)
      ('\\' :: 'u' :: a :: b :: c :: d :: '\\' :: 'u' :: e :: f :: g :: h :: cs)

/-- The name of a field up to its colon. -/
inductive Label : String → List Char → Prop
  | blank {c : Char} {key : String} {cs : List Char} (hspace : isSpace c = true) :
    Label key cs → Label key (c :: cs)
  | name {text ks blanks : List Char} (hname : Literal text ks) (hblanks : Blanks blanks) :
    Label (String.ofList text) ('"' :: ks ++ '"' :: blanks ++ [':'])

mutual

/-- A value, with at most so many levels of nesting, and a text for it. A number literal is one that
the reader takes as a whole. -/
inductive Spells : Nat → Json → List Char → Prop
  | blank {depth : Nat} {v : Json} {c : Char} {cs : List Char} (hspace : isSpace c = true) :
    Spells depth v cs → Spells depth v (c :: cs)
  | null {depth : Nat} : Spells depth .null ['n', 'u', 'l', 'l']
  | yes {depth : Nat} : Spells depth (.bool true) ['t', 'r', 'u', 'e']
  | no {depth : Nat} : Spells depth (.bool false) ['f', 'a', 'l', 's', 'e']
  | number {depth : Nat} {v : Json} {cs : List Char}
      (hread : Reader.number false cs = some (v, [])) : Spells depth v cs
  | negative {depth : Nat} {v : Json} {cs : List Char}
      (hread : Reader.number true cs = some (v, [])) : Spells depth v ('-' :: cs)
  | string {depth : Nat} {text cs : List Char} (htext : Literal text cs) :
    Spells depth (.string (String.ofList text)) ('"' :: cs ++ ['"'])
  | emptyArray {depth : Nat} {blanks : List Char} (hblanks : Blanks blanks) :
    Spells (depth + 1) (.array []) ('[' :: blanks ++ [']'])
  | array {depth : Nat} {v : Json} {vs : List Json} {cs more : List Char} :
    Spells depth v cs → SpellsItems depth vs more →
    Spells (depth + 1) (.array (v :: vs)) ('[' :: cs ++ more)
  | emptyObject {depth : Nat} {blanks : List Char} (hblanks : Blanks blanks) :
    Spells (depth + 1) (.object []) ('\x7b' :: blanks ++ ['\x7d'])
  | object {depth : Nat} {key : String} {v : Json} {fs : List (String × Json)}
      {ls cs more : List Char} (hlabel : Label key ls) :
    Spells depth v cs → SpellsFields depth fs more →
    Spells (depth + 1) (.object ((key, v) :: fs)) ('\x7b' :: ls ++ cs ++ more)

/-- The members after the first, up to the closing bracket. -/
inductive SpellsItems : Nat → List Json → List Char → Prop
  | blank {depth : Nat} {vs : List Json} {c : Char} {more : List Char} (hspace : isSpace c = true) :
    SpellsItems depth vs more → SpellsItems depth vs (c :: more)
  | close {depth : Nat} : SpellsItems depth [] [']']
  | next {depth : Nat} {v : Json} {vs : List Json} {cs more : List Char} :
    Spells depth v cs → SpellsItems depth vs more →
    SpellsItems depth (v :: vs) (',' :: cs ++ more)

/-- The fields after the first, up to the closing brace. -/
inductive SpellsFields : Nat → List (String × Json) → List Char → Prop
  | blank {depth : Nat} {fs : List (String × Json)} {c : Char} {more : List Char}
      (hspace : isSpace c = true) : SpellsFields depth fs more → SpellsFields depth fs (c :: more)
  | close {depth : Nat} : SpellsFields depth [] ['\x7d']
  | next {depth : Nat} {key : String} {v : Json} {fs : List (String × Json)}
      {ls cs more : List Char} (hlabel : Label key ls) :
    Spells depth v cs → SpellsFields depth fs more →
    SpellsFields depth ((key, v) :: fs) (',' :: ls ++ cs ++ more)

end

/-! ### What stands after a value -/

variable {c bracket : Char} {cs ls more rest after text : List Char} {key : String} {v : Json}
variable {vs : List Json} {fs : List (String × Json)} {wanted : String → Bool} {d fuel depth : Nat}

/-- What can stand after a value: a blank, a comma or a closing bracket, if anything. -/
def Follows (rest : List Char) : Prop :=
  ∀ c ∈ rest.head?, isSpace c = true ∨ c = ',' ∨ c = ']' ∨ c = '\x7d'

theorem Follows.endsNumber (h : Follows rest) : EndsNumber rest := by
  intro c hc
  have hcases := h c hc
  simp only [isSpace, Bool.or_eq_true, beq_iff_eq] at hcases
  obtain (((rfl | rfl) | rfl) | rfl) | rfl | rfl | rfl := hcases <;> decide

theorem SpellsItems.follows (h : SpellsItems d vs more) : Follows (more ++ rest) := by
  cases h <;> (rintro c ⟨⟩; simp [*])

theorem SpellsFields.follows (h : SpellsFields d fs more) : Follows (more ++ rest) := by
  cases h <;> (rintro c ⟨⟩; simp [*])

namespace Reader

/-! ### Blanks -/

theorem skipSpace_cons (h : isSpace c = true) : skipSpace (c :: cs) = skipSpace cs :=
  List.dropWhile_cons_of_pos h

theorem skipSpace_append (h : Blanks cs) : skipSpace (cs ++ rest) = skipSpace rest := by
  induction cs with
  | nil => rfl
  | cons c cs ih =>
    rw [List.cons_append, skipSpace_cons (h c List.mem_cons_self)]
    exact ih fun c hc => h c (List.mem_cons_of_mem _ hc)

theorem skipSpace_skipSpace : skipSpace (skipSpace cs) = skipSpace cs := by
  induction cs with
  | nil => rfl
  | cons c cs ih =>
    by_cases hspace : isSpace c = true
    · rw [skipSpace_cons hspace, ih]
    · have hstop : skipSpace (c :: cs) = c :: cs := List.dropWhile_cons_of_neg hspace
      rw [hstop, hstop]

theorem value_blank (h : isSpace c = true) :
    value wanted fuel depth (c :: cs) = value wanted fuel depth cs := by
  cases fuel with
  | zero => rw [value, value]
  | succ fuel => rw [value.eq_def, value.eq_def]; simp only [skipSpace_cons h]

theorem value_skipSpace : value wanted fuel depth (skipSpace cs) = value wanted fuel depth cs := by
  cases fuel with
  | zero => rw [value, value]
  | succ fuel => rw [value.eq_def, value.eq_def]; simp only [skipSpace_skipSpace]

/-! ### Strings -/

theorem stringBody_plain (hquote : c ≠ '"') (hslash : c ≠ '\\') (hprintable : 32 ≤ c.toNat) :
    stringBody (c :: cs) = (stringBody cs).map fun (text, after) => (c :: text, after) := by
  rw [stringBody.eq_def]
  split
  · next heq => cases heq
  · next heq => exact absurd (List.cons.inj heq).1 hquote
  · next heq => exact absurd (List.cons.inj heq).1 hslash
  · next heq => exact absurd (List.cons.inj heq).1 hslash
  · next heq =>
    obtain ⟨rfl, rfl⟩ := List.cons.inj heq
    rw [if_neg (by simp [hslash, hprintable])]

theorem stringBody_short {e : Char} (hescape : shortEscape? e = some c) :
    stringBody ('\\' :: e :: cs) =
      (stringBody cs).map fun (text, after) => (c :: text, after) := by
  have hu : e ≠ 'u' := by
    rintro rfl
    cases hescape
  rw [stringBody, hescape]
  rintro a b c d after rfl
  exact absurd rfl hu

theorem stringBody_of_literal (h : Literal text cs) :
    stringBody (cs ++ '"' :: rest) = some (text, rest) := by
  induction h with
  | nil => rw [List.nil_append, stringBody]
  | plain hquote hslash hprintable _ ih =>
    rw [List.cons_append, stringBody_plain hquote hslash hprintable, ih]
    rfl
  | short hescape _ ih =>
    rw [List.cons_append, List.cons_append, stringBody_short hescape, ih]
    rfl
  | code hcode hscalar _ ih =>
    simp only [List.cons_append]
    rw [stringBody, hcode]
    dsimp only
    rw [if_neg (by simp; omega), if_neg (by simp; omega), ih]
    rfl
  | pair hhigh hrange hlow hjoin _ ih =>
    simp only [List.cons_append]
    rw [stringBody, hhigh]
    dsimp only
    rw [if_pos (by simp; omega)]
    simp only [hlow, Option.bind_some, hjoin, ih, Option.map_some]

/-! ### Values -/

theorem closing_blank (h : isSpace c = true) :
    closing? bracket (c :: cs) = closing? bracket cs := by
  rw [closing?, closing?, skipSpace_cons h]

theorem fields_blank (h : isSpace c = true) :
    fields wanted fuel depth (c :: cs) = fields wanted fuel depth cs := by
  cases fuel with
  | zero => rw [fields, fields]
  | succ fuel => rw [fields.eq_def, fields.eq_def]; simp only [skipSpace_cons h]

/-- The members of an array after the first was read. -/
def itemsAfter (wanted : String → Bool) (fuel depth : Nat) (v : Json) (after : List Char) :
    Option (List Json × List Char) :=
  match closing? ']' after with
  | some (true, rest) => some ([v], rest)
  | some (false, rest) => (items wanted fuel depth rest).map fun (vs, after) => (v :: vs, after)
  | none => none

theorem items_of_value (h : value wanted fuel depth cs = some (v, after)) :
    items wanted (fuel + 1) depth cs = itemsAfter wanted fuel depth v after := by
  rw [items, h]
  rfl

/-- The fields of an object after the first was read. -/
def fieldsAfter (fuel depth : Nat) (field : String × Json) (after : List Char) :
    Option (List (String × Json) × List Char) :=
  match closing? '\x7d' after with
  | some (true, rest) => some ([field], rest)
  | some (false, rest) =>
    (fields (fun _ => true) fuel depth rest).map fun (fs, after) => (field :: fs, after)
  | none => none

theorem fields_of_label (hlabel : Label key ls)
    (h : value (fun _ => true) fuel depth cs = some (v, after)) :
    fields (fun _ => true) (fuel + 1) depth (ls ++ cs) = fieldsAfter fuel depth (key, v) after := by
  induction hlabel with
  | blank hspace _ ih => rw [List.cons_append, fields_blank hspace, ih]
  | @name text ks blanks hname hblanks =>
    have hbody : stringBody (ks ++ '"' :: (blanks ++ ':' :: cs)) =
        some (text, blanks ++ ':' :: cs) := stringBody_of_literal hname
    have hcolon : skipSpace (blanks ++ ':' :: cs) = ':' :: cs := skipSpace_append hblanks
    have htext : '"' :: ks ++ '"' :: blanks ++ [':'] ++ cs =
        '"' :: (ks ++ '"' :: (blanks ++ ':' :: cs)) := by
      simp
    rw [htext, fields.eq_def]
    have hskip : ∀ cs, skipSpace ('"' :: cs) = '"' :: cs := fun cs => rfl
    simp only [hskip, hbody, hcolon, h, if_true]
    rfl

theorem value_of_number (h : number false cs = some (v, [])) (hrest : EndsNumber rest) :
    value wanted (fuel + 1) depth (cs ++ rest) = some (v, rest) := by
  have hread := number_append h hrest
  obtain ⟨c, more, rfl, hdigit⟩ := number_head h
  have hskip : skipSpace (c :: more ++ rest) = c :: more ++ rest := by
    refine List.dropWhile_cons_of_neg ?_
    intro hspace
    simp only [isSpace, Bool.or_eq_true, beq_iff_eq] at hspace
    obtain ((rfl | rfl) | rfl) | rfl := hspace <;> revert hdigit <;> decide
  rw [value.eq_def]
  dsimp only
  rw [hskip]
  -- a digit begins no other kind of value
  split
  case h_8 => exact hread
  all_goals
    rename_i heq
    obtain ⟨rfl, -⟩ := List.cons.inj heq
    cases hdigit

/-- No value begins with a closing bracket. -/
theorem skipSpace_ne_of_value (h : value wanted fuel depth cs = some (v, after)) :
    ∀ rest, skipSpace cs ≠ ']' :: rest := by
  intro rest heq
  cases fuel with
  | zero =>
    rw [value] at h
    cases h
  | succ fuel =>
    rw [value, heq] at h
    obtain ⟨c, more, hc, hdigit⟩ := number_head h
    obtain ⟨rfl, -⟩ := List.cons.inj hc
    cases hdigit

theorem value_array (h : items wanted fuel depth cs = some (vs, after)) :
    value wanted (fuel + 1) (depth + 1) ('[' :: cs) = some (.array vs, after) := by
  have hitems : items wanted fuel depth (skipSpace cs) = some (vs, after) := by
    rw [← h]
    cases fuel with
    | zero => rw [items, items]
    | succ fuel => rw [items, items, value_skipSpace]
  have hopen : ∀ rest, skipSpace cs ≠ ']' :: rest := by
    cases fuel with
    | zero =>
      rw [items] at h
      cases h
    | succ fuel =>
      cases hvalue : value wanted fuel depth cs with
      | none =>
        rw [items, hvalue] at h
        cases h
      | some read => exact skipSpace_ne_of_value hvalue
  have hbracket : skipSpace ('[' :: cs) = '[' :: cs := rfl
  rw [value.eq_def]
  simp only [hbracket]
  rw [hitems]
  rfl

theorem value_object (h : fields wanted fuel depth cs = some (fs, after)) :
    value wanted (fuel + 1) (depth + 1) ('\x7b' :: cs) = some (.object fs, after) := by
  cases fuel with
  | zero =>
    rw [fields] at h
    cases h
  | succ fuel =>
  have hfields : fields wanted (fuel + 1) depth (skipSpace cs) = some (fs, after) := by
    rw [← h, fields.eq_def, fields.eq_def]
    simp only [skipSpace_skipSpace]
  have hopen : ∀ rest, skipSpace cs ≠ '\x7d' :: rest := by
    intro rest heq
    rw [fields, heq] at h
    cases h
  have hbrace : skipSpace ('\x7b' :: cs) = '\x7b' :: cs := rfl
  rw [value.eq_def]
  simp only [hbrace]
  rw [hfields]
  rfl

end Reader

/-! ### Reading what is written -/

mutual

/-- A text of a value is read as the value, whatever follows it. -/
theorem Spells.value_eq {d : Nat} {v : Json} {cs : List Char} :
    Spells d v cs → ∀ (fuel depth : Nat) (rest : List Char), 2 * cs.length ≤ fuel → d ≤ depth →
      Follows rest → value (fun _ => true) fuel depth (cs ++ rest) = some (v, rest)
  | .blank hspace h, fuel, depth, rest, hfuel, hdepth, hrest => by
    rw [List.cons_append, value_blank hspace]
    exact h.value_eq fuel depth rest (by rw [List.length_cons] at hfuel; omega) hdepth hrest
  | .null, fuel + 1, depth, rest, _, _, _ => rfl
  | .yes, fuel + 1, depth, rest, _, _, _ => rfl
  | .no, fuel + 1, depth, rest, _, _, _ => rfl
  | .number hread, fuel, depth, rest, hfuel, _, hrest => by
    obtain ⟨c, more, rfl, -⟩ := number_head hread
    obtain ⟨fuel, rfl⟩ : ∃ k, fuel = k + 1 := ⟨fuel - 1, by rw [List.length_cons] at hfuel; omega⟩
    exact value_of_number hread hrest.endsNumber
  | .negative hread, fuel + 1, depth, rest, _, _, hrest => number_append hread hrest.endsNumber
  | .string htext, fuel + 1, depth, rest, _, _, _ => by
    rw [List.cons_append, List.cons_append, List.append_assoc]
    show (stringBody _).map _ = _
    rw [List.singleton_append, stringBody_of_literal htext]
    rfl
  | .emptyArray hblanks, fuel + 1, depth + 1, rest, _, _, _ => by
    rw [List.cons_append, List.cons_append, List.append_assoc]
    show (match skipSpace (_ ++ ([']'] ++ rest)) with | ']' :: rest => _ | _ => _) = _
    rw [skipSpace_append hblanks]
    rfl
  | .array h hmore, fuel + 1, depth + 1, rest, hfuel, hdepth, hrest => by
    simp only [List.length_cons, List.length_append, List.cons_append] at hfuel
    obtain ⟨fuel, rfl⟩ : ∃ k, fuel = k + 1 := ⟨fuel - 1, by omega⟩
    rw [List.cons_append, List.cons_append, List.append_assoc]
    refine value_array ?_
    rw [items_of_value (h.value_eq fuel depth _ (by omega) (by omega) hmore.follows)]
    exact hmore.after_eq _ fuel depth rest (by omega) (by omega) hrest
  | .emptyObject hblanks, fuel + 1, depth + 1, rest, _, _, _ => by
    rw [List.cons_append, List.cons_append, List.append_assoc]
    show (match skipSpace (_ ++ (['\x7d'] ++ rest)) with | '\x7d' :: rest => _ | _ => _) = _
    rw [skipSpace_append hblanks]
    rfl
  | .object hlabel h hmore, fuel + 1, depth + 1, rest, hfuel, hdepth, hrest => by
    simp only [List.length_cons, List.length_append, List.cons_append] at hfuel
    obtain ⟨fuel, rfl⟩ : ∃ k, fuel = k + 1 := ⟨fuel - 1, by omega⟩
    rw [List.cons_append, List.cons_append, List.cons_append, List.append_assoc, List.append_assoc]
    refine value_object ?_
    rw [fields_of_label hlabel (h.value_eq fuel depth _ (by omega) (by omega) hmore.follows)]
    exact hmore.after_eq _ fuel depth rest (by omega) (by omega) hrest

theorem SpellsItems.after_eq {d : Nat} {vs : List Json} {more : List Char} :
    SpellsItems d vs more → ∀ (v : Json) (fuel depth : Nat) (rest : List Char),
      2 * more.length ≤ fuel → d ≤ depth → Follows rest →
      itemsAfter (fun _ => true) fuel depth v (more ++ rest) = some (v :: vs, rest)
  | .blank hspace h, v, fuel, depth, rest, hfuel, hdepth, hrest => by
    rw [List.cons_append, itemsAfter, closing_blank hspace]
    exact h.after_eq v fuel depth rest (by rw [List.length_cons] at hfuel; omega) hdepth hrest
  | .close, v, fuel, depth, rest, _, _, _ => rfl
  | .next h hmore, v, fuel, depth, rest, hfuel, hdepth, hrest => by
    simp only [List.length_cons, List.length_append, List.cons_append] at hfuel
    obtain ⟨fuel, rfl⟩ : ∃ k, fuel = k + 1 := ⟨fuel - 1, by omega⟩
    rw [List.cons_append, List.cons_append, List.append_assoc]
    show (items _ _ _ _).map _ = _
    rw [items_of_value (h.value_eq fuel depth _ (by omega) hdepth hmore.follows),
      hmore.after_eq _ fuel depth rest (by omega) hdepth hrest]
    rfl

theorem SpellsFields.after_eq {d : Nat} {fs : List (String × Json)} {more : List Char} :
    SpellsFields d fs more → ∀ (field : String × Json) (fuel depth : Nat) (rest : List Char),
      2 * more.length ≤ fuel → d ≤ depth → Follows rest →
      fieldsAfter fuel depth field (more ++ rest) = some (field :: fs, rest)
  | .blank hspace h, field, fuel, depth, rest, hfuel, hdepth, hrest => by
    rw [List.cons_append, fieldsAfter, closing_blank hspace]
    exact h.after_eq field fuel depth rest (by rw [List.length_cons] at hfuel; omega) hdepth hrest
  | .close, field, fuel, depth, rest, _, _, _ => rfl
  | .next hlabel h hmore, field, fuel, depth, rest, hfuel, hdepth, hrest => by
    simp only [List.length_cons, List.length_append, List.cons_append] at hfuel
    obtain ⟨fuel, rfl⟩ : ∃ k, fuel = k + 1 := ⟨fuel - 1, by omega⟩
    rw [List.cons_append, List.cons_append, List.cons_append, List.append_assoc, List.append_assoc]
    show (fields _ _ _ _).map _ = _
    rw [fields_of_label hlabel (h.value_eq fuel depth _ (by omega) hdepth hmore.follows),
      hmore.after_eq _ fuel depth rest (by omega) hdepth hrest]
    rfl

end

/-! ### Whole texts -/

/-- The text is a JSON value, in canonical form, nested so deep at most. -/
def Written (depth : Nat) (text : String) (v : Json) : Prop :=
  ∃ raw cs blanks, Spells depth raw cs ∧ Blanks blanks ∧ text.toList = cs ++ blanks ∧
    raw.canonical = v

theorem parse?_of_written {text : String} (h : Written Reader.maxDepth text v) :
    parse? text = some v := by
  obtain ⟨raw, cs, blanks, hspells, hblanks, htext, rfl⟩ := h
  have hfollows : Follows blanks := by
    intro c hc
    exact .inl (hblanks c (List.mem_of_mem_head? hc))
  have hread := hspells.value_eq (2 * text.toList.length + 2) Reader.maxDepth blanks
    (by rw [htext, List.length_append]; omega) (Nat.le_refl _) hfollows
  have hend : skipSpace blanks = [] := by
    rw [← List.append_nil blanks, skipSpace_append hblanks]
    rfl
  rw [← htext] at hread
  rw [parse?, read?, readOnly?, hread]
  dsimp only
  rw [hend]
  rfl

/-- Some sign of a value is not blank, in any sense of blank. -/
theorem Spells.exists_not_blank {d : Nat} {v : Json} {cs : List Char} :
    Spells d v cs → ∃ c ∈ cs, Text.isBlank c = false
  | .blank _ h => by
    obtain ⟨c, hc, hblank⟩ := h.exists_not_blank
    exact ⟨c, List.mem_cons_of_mem _ hc, hblank⟩
  | .null | .yes | .no | .negative _ | .string _ | .emptyArray _ | .array .. | .emptyObject _
  | .object .. => ⟨_, List.mem_cons_self, by decide⟩
  | .number hread => by
    obtain ⟨c, more, rfl, hdigit⟩ := number_head hread
    have hcode : 48 ≤ c.toNat ∧ c.toNat ≤ 57 := Char.isDigit_iff_toNat.mp hdigit
    refine ⟨c, List.mem_cons_self, ?_⟩
    simp only [Text.isBlank, Bool.or_eq_false_iff, Bool.and_eq_false_iff, decide_eq_false_iff_not,
      beq_eq_false_iff_ne]
    omega

theorem Written.not_blank {text : String} (h : Written depth text v) : ¬Text.isBlankText text := by
  obtain ⟨raw, cs, blanks, hspells, -, htext, -⟩ := h
  obtain ⟨c, hc, hblank⟩ := hspells.exists_not_blank
  rw [Text.isBlankText, htext, List.all_eq_true]
  intro hall
  have := hall c (List.mem_append_left _ hc)
  rw [hblank] at this
  cases this

end Codemod.Json
