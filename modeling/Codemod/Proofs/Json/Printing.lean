import Codemod.Json.Printer
import Codemod.Proofs.Json.Spelling

/-!
# What is printed is read back

The compact text of a value is one of the ways to write it, so reading inverts printing, strings and
their escapes included. Fractions are left out: how they are printed and read is rounded.

- `whole` — no numbers but integers of 64 bits, and nested so deep at most
- `spells_compress`, `written_compress` — a printed value
- `parse?_compress` — printing and reading
- `sortFields_eq_self` — fields that are in order already
-/

namespace Codemod.Json

open Reader

/-! ### String literals -/

variable {text cs : List Char}

theorem hexQuad_control : ∀ n < 32,
    hexQuad? '0' '0' (hexDigit (n / 16)) (hexDigit (n % 16)) = some n := by
  decide

theorem literal_short {c d e : Char} (hc : c = d) (hescape : shortEscape? e = some d)
    (h : Literal text cs) : Literal (c :: text) ('\\' :: e :: cs) := by
  rw [hc]
  exact .short hescape h

theorem eq_ofNat_of_toNat_beq {c : Char} {n : Nat} (h : (c.toNat == n) = true) :
    c = Char.ofNat n := by
  rw [← eq_of_beq h, Char.ofNat_toNat]

theorem literal_escape (c : Char) (h : Literal text cs) :
    Literal (c :: text) (escape c ++ cs) := by
  unfold escape
  split
  · next hc => exact literal_short (eq_of_beq hc) rfl h
  split
  · next hc => exact literal_short (eq_of_beq hc) rfl h
  split
  · next hc => exact literal_short (eq_of_beq hc) rfl h
  split
  · next hc => exact literal_short (eq_of_beq hc) rfl h
  split
  · next hc => exact literal_short (eq_of_beq hc) rfl h
  split
  · next hc => exact literal_short (eq_ofNat_of_toNat_beq hc) rfl h
  split
  · next hc => exact literal_short (eq_ofNat_of_toNat_beq hc) rfl h
  split
  · next hc =>
    have hcode := hexQuad_control c.toNat hc
    conv => lhs; rw [← Char.ofNat_toNat c]
    exact .code hcode (.inl (by omega)) h
  · next hquote hslash _ _ _ _ _ hcontrol =>
    exact .plain (by simpa using hquote) (by simpa using hslash) (Nat.le_of_not_lt hcontrol) h

theorem literal_escapes (text : List Char) : Literal text (text.flatMap escape) := by
  induction text with
  | nil => exact .nil
  | cons c text ih => exact literal_escape c ih

/-! ### Values -/

mutual

/-- No numbers but integers of 64 bits, and nested so deep at most. -/
def whole : Nat → Json → Bool
  | _, null | _, bool _ | _, string _ => true
  | _, int n => -(2 ^ 63) ≤ n && n < 2 ^ 64
  | _, float _ => false
  | 0, array _ | 0, object _ => false
  | depth + 1, array items => wholeItems depth items
  | depth + 1, object fields => wholeFields depth fields

/-- All members are whole. -/
def wholeItems (depth : Nat) : List Json → Bool
  | [] => true
  | v :: rest => whole depth v && wholeItems depth rest

/-- All values of fields are whole. -/
def wholeFields (depth : Nat) : List (String × Json) → Bool
  | [] => true
  | (_, v) :: rest => whole depth v && wholeFields depth rest

end

theorem spells_int {depth : Nat} {n : Int} (hlow : -(2 ^ 63) ≤ n) (hhigh : n < 2 ^ 64) :
    Spells depth (.int n) (toString n).toList := by
  cases n with
  | ofNat n =>
    rw [show (toString (Int.ofNat n)).toList = Nat.toDigits 10 n from Nat.toList_repr]
    refine .number ?_
    rw [number_toDigits false (by simp at hhigh; omega)]
    rfl
  | negSucc n =>
    have htext : (toString (Int.negSucc n)).toList = '-' :: Nat.toDigits 10 (n + 1) := by
      rw [show toString (Int.negSucc n) = "-" ++ Nat.repr (n + 1) from rfl, String.toList_append,
        Nat.toList_repr]
      rfl
    have hsize : n + 1 ≤ 2 ^ 63 := by omega
    rw [htext]
    refine .negative ?_
    rw [number_toDigits true (by omega), number.integer, if_neg (by decide),
      if_pos (by simp [hsize])]
    rfl

theorem label_quote (key : String) : Label key (quote key ++ [':']) := by
  have h := Label.name (literal_escapes key.toList) (show Blanks [] from nofun)
  rwa [String.ofList_toList] at h

mutual

theorem spells_compress : ∀ (depth : Nat) (v : Json), whole depth v = true →
    Spells depth v (compressChars v)
  | _, null, _ => by
    unfold compressChars
    exact .null
  | _, bool true, _ => by
    unfold compressChars
    exact .yes
  | _, bool false, _ => by
    unfold compressChars
    exact .no
  | _, int n, h => by
    unfold compressChars
    unfold whole at h
    rw [Bool.and_eq_true, decide_eq_true_eq, decide_eq_true_eq] at h
    exact spells_int h.1 h.2
  | _, float _, h => by
    unfold whole at h
    cases h
  | depth, string s, _ => by
    unfold compressChars
    have h : Spells depth _ _ := .string (literal_escapes s.toList)
    rwa [String.ofList_toList] at h
  | 0, array _, h => by
    unfold whole at h
    cases h
  | depth + 1, array [], _ => by
    unfold compressChars
    exact .emptyArray (show Blanks [] from nofun)
  | depth + 1, array (v :: rest), h => by
    unfold whole wholeItems at h
    rw [Bool.and_eq_true] at h
    unfold compressChars
    exact .array (spells_compress depth v h.1) (spells_compressItems depth rest h.2)
  | 0, object _, h => by
    unfold whole at h
    cases h
  | depth + 1, object [], _ => by
    unfold compressChars
    exact .emptyObject (show Blanks [] from nofun)
  | depth + 1, object ((key, v) :: rest), h => by
    unfold whole wholeFields at h
    rw [Bool.and_eq_true] at h
    unfold compressChars
    have hfields : Spells (depth + 1) (object ((key, v) :: rest)) _ := .object (label_quote key)
      (spells_compress depth v h.1) (spells_compressFields depth rest h.2)
    simpa using hfields

theorem spells_compressItems : ∀ (depth : Nat) (vs : List Json), wholeItems depth vs = true →
    SpellsItems depth vs (compressItems vs)
  | depth, [], _ => by
    unfold compressItems
    exact .close
  | depth, v :: rest, h => by
    unfold wholeItems at h
    rw [Bool.and_eq_true] at h
    unfold compressItems
    exact .next (spells_compress depth v h.1) (spells_compressItems depth rest h.2)

theorem spells_compressFields : ∀ (depth : Nat) (fs : List (String × Json)),
    wholeFields depth fs = true → SpellsFields depth fs (compressFields fs)
  | depth, [], _ => by
    unfold compressFields
    exact .close
  | depth, (key, v) :: rest, h => by
    unfold wholeFields at h
    rw [Bool.and_eq_true] at h
    unfold compressFields
    have hfields : SpellsFields depth ((key, v) :: rest) _ := .next (label_quote key)
      (spells_compress depth v h.1) (spells_compressFields depth rest h.2)
    simpa using hfields

end

variable {depth : Nat} {v : Json}

theorem written_compress (h : whole depth v = true) : Written depth v.compress v.canonical :=
  ⟨v, compressChars v, [], spells_compress depth v h, nofun,
    by rw [compress, String.toList_ofList, List.append_nil], rfl⟩

/-- Reading a printed value gives the value in canonical form. -/
theorem parse?_compress (h : whole maxDepth v = true) : parse? v.compress = some v.canonical :=
  parse?_of_written (written_compress h)

/-! ### Fields in order -/

variable {fields : List (String × Json)}

/-- A field whose key is beyond all others goes to the end. -/
theorem insertField_eq_concat {key : String} {v : Json}
    (h : ∀ f ∈ fields, ¬key < f.1 ∧ key ≠ f.1) :
    insertField key v fields = fields ++ [(key, v)] := by
  induction fields with
  | nil => rfl
  | cons f rest ih =>
    rw [List.forall_mem_cons] at h
    rw [insertField, if_neg h.1.1, if_neg (by simpa using h.1.2), ih h.2]
    rfl

theorem foldl_insertField (sorted fields : List (String × Json))
    (h : ((sorted ++ fields).map Prod.fst).Pairwise fun k l => ¬l < k ∧ l ≠ k) :
    fields.foldl (fun sorted f => insertField f.1 f.2 sorted) sorted = sorted ++ fields := by
  induction fields generalizing sorted with
  | nil => rw [List.foldl_nil, List.append_nil]
  | cons f rest ih =>
    have hbeyond : ∀ g ∈ sorted, ¬f.1 < g.1 ∧ f.1 ≠ g.1 := by
      intro g hg
      rw [List.map_append, List.pairwise_append] at h
      exact h.2.2 g.1 (List.mem_map_of_mem hg) f.1 (List.mem_map_of_mem List.mem_cons_self)
    rw [List.append_cons] at h ⊢
    rw [List.foldl_cons, insertField_eq_concat hbeyond, ih _ h]

/-- Fields in the order of their keys stay as they are. -/
theorem sortFields_eq_self (h : (fields.map Prod.fst).Pairwise fun k l => ¬l < k ∧ l ≠ k) :
    sortFields fields = fields :=
  foldl_insertField [] fields h

end Codemod.Json
