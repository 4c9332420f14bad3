import Codemod.Json.Reader
import Mathlib.Data.List.Basic
import Mathlib.Data.List.TakeDrop
import Mathlib.Data.List.TakeWhile

/-!
# Reading JSON numbers

A number literal that the reader takes as a whole is read the same before anything that does not go
on with it, and the decimal digits of a number of 64 bits are read as the number.

- `EndsNumber` — nothing that would go on with a number
- `number_eq` — the reader with its exponents told apart
- `number_append`, `number_head` — a literal and what follows it
- `number_toDigits` — decimal digits
-/

namespace Codemod.Json.Reader

variable {cs rest : List Char} {negative : Bool} {v : Json}

/-! ### A literal and what follows it -/

/-- Nothing that would go on with a number. -/
def EndsNumber (rest : List Char) : Prop :=
  ∀ c ∈ rest.head?, c.isDigit = false ∧ c ≠ '.' ∧ c ≠ 'e' ∧ c ≠ 'E'

theorem spanDigits_append (h : EndsNumber rest) :
    spanDigits (cs ++ rest) = ((spanDigits cs).1, (spanDigits cs).2 ++ rest) := by
  simp only [spanDigits, List.span_eq_takeWhile_dropWhile]
  induction cs with
  | nil =>
    cases rest with
    | nil => rfl
    | cons c rest =>
      have hc : ¬c.isDigit = true := Bool.eq_false_iff.mp (h c rfl).1
      rw [List.nil_append, List.takeWhile_cons_of_neg hc, List.dropWhile_cons_of_neg hc]
      rfl
  | cons c cs ih =>
    rw [Prod.mk.injEq] at ih
    cases hc : c.isDigit <;> simp [hc, ih.1, ih.2]

/-- The sign of an exponent, and the text after it. -/
def exponentSign : List Char → Bool × List Char
  | '-' :: rest => (true, rest)
  | '+' :: rest => (false, rest)
  | rest => (false, rest)

theorem exponentSign_append (h : cs ≠ []) :
    exponentSign (cs ++ rest) = ((exponentSign cs).1, (exponentSign cs).2 ++ rest) := by
  cases cs with
  | nil => exact absurd rfl h
  | cons c cs =>
    rw [List.cons_append]
    unfold exponentSign
    split <;> simp_all

/-- The number that digits spell. -/
def digitsValue (ds : List Char) : Nat := ds.foldl (fun n c => n * 10 + digitValue c) 0

theorem exponentPart_eq (cs : List Char) :
    exponentPart cs =
      match spanDigits (exponentSign cs).2 with
      | ([], _) => none
      | (ds, rest) =>
        some (if (exponentSign cs).1 then -(digitsValue ds : Int) else digitsValue ds, rest) := rfl

theorem exponentPart_append {e : Int} (h : exponentPart cs = some (e, []))
    (hrest : EndsNumber rest) : exponentPart (cs ++ rest) = some (e, rest) := by
  have hne : cs ≠ [] := by
    rintro rfl
    cases h
  rw [exponentPart_eq] at h ⊢
  rw [exponentSign_append hne, spanDigits_append hrest]
  cases hspan : spanDigits (exponentSign cs).2 with
  | mk ds after =>
  rw [hspan] at h
  cases ds with
  | nil => cases h
  | cons d ds =>
    injection h with h
    injection h with he hafter
    subst hafter
    dsimp only
    rw [he, List.nil_append]

/-- A number with an exponent of ten that an exponent part may change. -/
def withExponent (negative : Bool) (significand : Nat) (exponent : Int) (rest : List Char) :
    Option (Json × List Char) :=
  match rest with
  | c :: r =>
    if c == 'e' || c == 'E' then
      match exponentPart r with
      | none => none
      | some (e, r) => (ofParts negative significand (exponent + e)).map fun v => (v, r)
    else (ofParts negative significand exponent).map fun v => (v, rest)
  | [] => (ofParts negative significand exponent).map fun v => (v, rest)

theorem number_eq (negative : Bool) (cs : List Char) :
    number negative cs =
      match spanDigits cs with
      | ([], _) => none
      | (ds, rest) =>
        if ds.length > 1 && ds.head? == some '0' then none
        else
          let (whole, _, dropped) := takeSignificand 0 ds
          match rest with
          | '.' :: r =>
            match spanDigits r with
            | ([], _) => none
            | (fs, r) =>
              let (significand, taken, _) := takeSignificand whole fs
              withExponent negative significand ((dropped : Int) - taken) r
          | c :: _ =>
            if c == 'e' || c == 'E' || dropped > 0 then withExponent negative whole dropped rest
            else number.integer negative whole rest
          | [] =>
            if dropped > 0 then withExponent negative whole dropped rest
            else number.integer negative whole rest := rfl

theorem withExponent_append {significand : Nat} {exponent : Int}
    (h : withExponent negative significand exponent cs = some (v, [])) (hrest : EndsNumber rest) :
    withExponent negative significand exponent (cs ++ rest) = some (v, rest) := by
  unfold withExponent at h
  split at h
  · next c r =>
    split at h
    · next hmark =>
      split at h
      · cases h
      · next e after hpart =>
        obtain ⟨v', hv, heq⟩ := Option.map_eq_some_iff.mp h
        injection heq with hv' hafter
        subst hv' hafter
        rw [List.cons_append, withExponent, if_pos hmark, exponentPart_append hpart hrest]
        dsimp only
        rw [hv]
        rfl
    · obtain ⟨v', -, heq⟩ := Option.map_eq_some_iff.mp h
      cases heq
  · obtain ⟨v', hv, heq⟩ := Option.map_eq_some_iff.mp h
    injection heq with hv' _
    subst hv'
    rw [List.nil_append]
    cases rest with
    | nil =>
      rw [withExponent, hv]
      rfl
    | cons c rest =>
      obtain ⟨-, -, he, hE⟩ := hrest c rfl
      rw [withExponent, if_neg (by simp [he, hE]), hv]
      rfl

theorem integer_rest (rest : List Char) {n : Nat} {after : List Char}
    (h : number.integer negative n cs = some (v, after)) :
    after = cs ∧ number.integer negative n rest = some (v, rest) := by
  unfold number.integer at h ⊢
  grind

/-- A number that the reader takes whole is read before anything that does not go on with it. -/
theorem number_append (h : number negative cs = some (v, [])) (hrest : EndsNumber rest) :
    number negative (cs ++ rest) = some (v, rest) := by
  rw [number_eq] at h ⊢
  rw [spanDigits_append hrest]
  cases hspan : spanDigits cs with
  | mk ds after =>
  rw [hspan] at h
  cases ds with
  | nil => cases h
  | cons d ds =>
  dsimp only at h ⊢
  split at h
  · cases h
  next hzero =>
  rw [if_neg hzero]
  rcases htaken : takeSignificand 0 (d :: ds) with ⟨whole, digits, dropped⟩
  rw [htaken] at h
  dsimp only at h ⊢
  split at h
  · next r =>
    show (match spanDigits (r ++ rest) with
      | ([], _) => none
      | (fs, r) => withExponent negative (takeSignificand whole fs).1
          (dropped - (takeSignificand whole fs).2.1) r) = some (v, rest)
    rw [spanDigits_append hrest]
    cases hfraction : spanDigits r with
    | mk fs r' =>
    rw [hfraction] at h
    cases fs with
    | nil => cases h
    | cons f fs => exact withExponent_append h hrest
  · next c r hpoint =>
    split at h
    · next hmark =>
      rw [List.cons_append]
      split
      · simp_all
      · next heq =>
        injection heq with hc hr
        subst hc hr
        rw [if_pos hmark]
        exact withExponent_append h hrest
      · next heq => cases heq
    · exact absurd (integer_rest [] h).1 nofun
  · rw [List.nil_append]
    cases rest with
    | nil => exact h
    | cons c rest =>
      obtain ⟨-, hpoint, he, hE⟩ := hrest c rfl
      split
      · next heq =>
        injection heq with hc
        exact absurd hc hpoint
      · next heq =>
        injection heq with hc hr
        subst hc hr
        split at h
        · next hdropped =>
          rw [if_pos (by simp [hdropped])]
          exact withExponent_append h hrest
        · next hdropped =>
          rw [if_neg (by simp [hdropped, he, hE])]
          exact (integer_rest _ h).2
      · next heq => cases heq

/-- Only digits begin a number. -/
theorem number_head (h : number negative cs = some (v, rest)) :
    ∃ c more, cs = c :: more ∧ c.isDigit = true := by
  rw [number_eq] at h
  cases cs with
  | nil => cases h
  | cons c more =>
    refine ⟨c, more, rfl, ?_⟩
    by_contra hc
    rw [spanDigits, List.span_eq_takeWhile_dropWhile, List.takeWhile_cons_of_neg hc] at h
    cases h

/-! ### Decimal digits -/

variable {n : Nat} {ds : List Char}

theorem digitsValue_toDigits (n : Nat) : digitsValue (Nat.toDigits 10 n) = n := by
  refine Eq.trans ?_ (Nat.ofDigitChars_toDigits (by decide : 1 < 10) (by decide))
  rw [digitsValue, Nat.ofDigitChars]
  congr 1
  funext n c
  rw [Nat.mul_comm]
  rfl

/-- Digits of a number of 64 bits are all taken. -/
theorem takeSignificand_of_lt (significand : Nat) (ds : List Char)
    (h : ds.foldl (fun n c => n * 10 + digitValue c) significand < 2 ^ 64) :
    takeSignificand significand ds =
      (ds.foldl (fun n c => n * 10 + digitValue c) significand, ds.length, 0) := by
  induction ds generalizing significand with
  | nil => rfl
  | cons c cs ih =>
    -- no digit makes a significand smaller
    have hgrows : ∀ (n : Nat) (cs : List Char),
        n ≤ cs.foldl (fun n c => n * 10 + digitValue c) n := by
      intro n cs
      induction cs generalizing n with
      | nil => exact Nat.le_refl n
      | cons c cs ih => exact Nat.le_trans (by omega) (ih (n * 10 + digitValue c))
    rw [List.foldl_cons] at h ⊢
    have hnext : significand * 10 + digitValue c < 2 ^ 64 := Nat.lt_of_le_of_lt (hgrows _ cs) h
    rw [takeSignificand]
    dsimp only
    rw [if_pos hnext, ih _ h]
    rfl

/-- Only zero begins with the digit zero. -/
theorem eq_zero_of_head?_toDigits (h : (Nat.toDigits 10 n).head? = some '0') : n = 0 := by
  induction n using Nat.strongRecOn with
  | ind n ih =>
    by_cases hn : n < 10
    · rw [Nat.toDigits_of_lt_base hn, List.head?_cons, Option.some.injEq] at h
      have hdigit : ∀ n < 10, Nat.digitChar n = '0' → n = 0 := by decide
      exact hdigit n hn h
    · rw [Nat.toDigits_of_base_le (by decide) (Nat.le_of_not_lt hn),
        List.head?_append_of_ne_nil _ Nat.toDigits_ne_nil] at h
      have := ih (n / 10) (by omega) h
      omega

theorem spanDigits_toDigits (n : Nat) :
    spanDigits (Nat.toDigits 10 n) = (Nat.toDigits 10 n, []) := by
  have hdigits : ∀ c ∈ Nat.toDigits 10 n, c.isDigit = true := fun c hc =>
    Nat.isDigit_of_mem_toDigits (by decide) (by decide) hc
  rw [spanDigits, List.span_eq_takeWhile_dropWhile, List.takeWhile_eq_self_iff.mpr hdigits,
    List.dropWhile_eq_nil_iff.mpr hdigits]

/-- The decimal digits of a number of 64 bits are read as an integer. -/
theorem number_toDigits (negative : Bool) (h : n < 2 ^ 64) :
    number negative (Nat.toDigits 10 n) = number.integer negative n [] := by
  have hvalue := digitsValue_toDigits n
  have htaken := takeSignificand_of_lt 0 (Nat.toDigits 10 n)
    (by rw [← digitsValue, hvalue]; exact h)
  have hzero :
      ¬((Nat.toDigits 10 n).length > 1 && (Nat.toDigits 10 n).head? == some '0') = true := by
    rw [Bool.and_eq_true, beq_iff_eq, decide_eq_true_eq]
    rintro ⟨hlength, hhead⟩
    obtain rfl := eq_zero_of_head?_toDigits hhead
    exact absurd hlength (by decide)
  rw [← digitsValue, hvalue] at htaken
  rw [number_eq, spanDigits_toDigits]
  cases hds : Nat.toDigits 10 n with
  | nil => exact absurd hds Nat.toDigits_ne_nil
  | cons d ds =>
    rw [hds] at htaken hzero
    dsimp only
    rw [if_neg hzero, htaken]
    rfl

end Codemod.Json.Reader
