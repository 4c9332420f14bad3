import Codemod.Retry
import Codemod.Settings.Basic

/-!
# The lengths of the pauses

A pause is computed in machine numbers: a power that stops at the largest 32-bit number, and a
product that may be no duration. Both happen only when the exact value is beyond the longest pause
anyway, unless the first pause is positive and shorter than seven nanoseconds.

- `Duration.Coarse`, `coarse_ofMilliseconds` — first pauses that are none or long enough
- `Duration.times?_by_parts`, `nanoseconds_capped` — a product that may be no duration
- `saturatingPow_eq` — a power that stops
- `growth`, `nanoseconds_backoff` — every pause
- `backoff_exact` — pauses that grow exponentially up to the longest
-/

namespace Codemod

namespace Duration

variable {d : Duration}

theorem isZero_iff : d.isZero = true ↔ d.nanoseconds = 0 := beq_iff_eq

/-- None at all, or at least seven nanoseconds. -/
def Coarse (d : Duration) : Prop := d.nanoseconds = 0 ∨ 7 ≤ d.nanoseconds

theorem coarse_ofMilliseconds (n : UInt64) : Coarse (ofMilliseconds n) := by
  show n.toNat * 10 ^ 6 = 0 ∨ 7 ≤ n.toNat * 10 ^ 6
  omega

/-! ### Multiples -/

/-- The parts of a multiple: the nanoseconds carry over into the seconds, which are no more than 64
bits may hold. -/
def partsOfMultiple? (d : Duration) (factor : Nat) : Option (Nat × Nat) :=
  let carried := d.subsecond * factor
  let seconds := d.seconds * factor + carried / 10 ^ 9
  if seconds < 2 ^ 64 then some (seconds, carried % 10 ^ 9) else none

theorem nanoseconds_mul (d : Duration) (factor : Nat) :
    d.nanoseconds * factor = 10 ^ 9 * (d.seconds * factor) + d.subsecond * factor := by
  conv => lhs; rw [← Nat.div_add_mod d.nanoseconds (10 ^ 9), Nat.add_mul, Nat.mul_assoc]
  rfl

/-- A multiple may be computed from whole seconds and nanoseconds apart. -/
theorem times?_by_parts (d : Duration) (factor : Nat) :
    (d.times? factor).map (fun m => (m.seconds, m.subsecond)) = d.partsOfMultiple? factor := by
  have hparts := d.nanoseconds_mul factor
  have hlimit : limit = 2 ^ 64 * 10 ^ 9 := rfl
  unfold times? ofNanoseconds? partsOfMultiple?
  dsimp only
  generalize d.seconds * factor = seconds, d.subsecond * factor = carried at hparts ⊢
  by_cases hsize : d.nanoseconds * factor < limit
  · rw [dif_pos hsize, if_pos (by omega), Option.map_some]
    refine congrArg some (Prod.ext ?_ ?_)
    · show d.nanoseconds * factor / 10 ^ 9 = seconds + carried / 10 ^ 9
      omega
    · show d.nanoseconds * factor % 10 ^ 9 = carried % 10 ^ 9
      omega
  · rw [dif_neg hsize, if_neg (by omega)]
    rfl

theorem subsecond_mul_lt (d : Duration) (factor : UInt32) :
    d.subsecond * factor.toNat < 2 ^ 64 := calc
  d.subsecond * factor.toNat ≤ 10 ^ 9 * 2 ^ 32 :=
    Nat.mul_le_mul (Nat.le_of_lt (Nat.mod_lt _ (by decide))) (Nat.le_of_lt factor.toNat_lt)
  _ < 2 ^ 64 := by decide

end Duration

namespace RetryPolicy

variable {p : RetryPolicy} {retry later : UInt32}

/-! ### The product and the power -/

theorem nanoseconds_min (d cap : Duration) :
    (d.min cap).nanoseconds = min d.nanoseconds cap.nanoseconds := by
  unfold Duration.min
  split
  · next h => exact (Nat.min_eq_left h).symm
  · next h => exact (Nat.min_eq_right (Nat.le_of_not_le h)).symm

/-- A multiple up to a cap, which also stands for a multiple that is no duration. -/
theorem nanoseconds_capped (d cap : Duration) (factor : Nat) :
    (match d.times? factor with
      | some product => product.min cap
      | none => cap).nanoseconds = min (d.nanoseconds * factor) cap.nanoseconds := by
  unfold Duration.times? Duration.ofNanoseconds?
  by_cases hsize : d.nanoseconds * factor < Duration.limit
  · rw [dif_pos hsize]
    exact nanoseconds_min _ cap
  · rw [dif_neg hsize]
    have hcap : cap.nanoseconds ≤ d.nanoseconds * factor :=
      Nat.le_of_lt (Nat.lt_of_lt_of_le cap.bounded (Nat.le_of_not_lt hsize))
    exact (Nat.min_eq_right hcap).symm

/-- The power, or the largest 32-bit number. -/
theorem saturatingPow_eq (base exponent : UInt32) :
    saturatingPow base exponent = min (base.toNat ^ exponent.toNat) (2 ^ 32 - 1) := by
  unfold saturatingPow
  generalize base.toNat = b, exponent.toNat = e
  -- zero and one do not grow, and any other base passes 32 bits in 32 steps
  split
  · next hsmall =>
    obtain rfl | rfl : b = 0 ∨ b = 1 := by omega
    · cases e with
      | zero => rfl
      | succ e =>
        have hone : (e + 1).min 1 = 1 := Nat.min_eq_right e.succ_pos
        rw [hone, Nat.zero_pow e.succ_pos]
        rfl
    · rw [Nat.one_pow, Nat.one_pow]
      rfl
  · next hbase =>
    split
    · next hlarge =>
      have hpower : 2 ^ 32 ≤ b ^ e := calc
        2 ^ 32 ≤ 2 ^ e := Nat.pow_le_pow_right (by decide) hlarge
        _ ≤ b ^ e := Nat.pow_le_pow_left (by omega) e
      omega
    · rfl

/-! ### The pause -/

/-- By how much a pause grows from one retry to the next. -/
def growth (p : RetryPolicy) : Nat := max p.multiplier.toNat 1

theorem growth_pos (p : RetryPolicy) : 0 < p.growth := Nat.le_max_right _ 1

theorem toNat_base (p : RetryPolicy) :
    (if p.multiplier = 0 then 1 else p.multiplier).toNat = p.growth := by
  unfold growth
  split
  · next hzero =>
    rw [hzero]
    rfl
  · next hne =>
    have hpos : p.multiplier.toNat ≠ 0 := fun h => hne (UInt32.toNat_inj.mp h)
    omega

/-- Every pause, with the power that stops. -/
theorem nanoseconds_backoff (p : RetryPolicy) (retry : UInt32) :
    (p.backoff retry).nanoseconds =
      min (p.initialBackoff.nanoseconds * min (p.growth ^ retry.toNat) (2 ^ 32 - 1))
        (30 * 10 ^ 9) := by
  unfold backoff
  split
  · next hzero =>
    rw [Duration.isZero_iff.mp hzero, Nat.zero_mul]
    rfl
  · refine (nanoseconds_capped _ maxBackoff _).trans ?_
    rw [saturatingPow_eq, toNat_base]
    rfl

/-- Where the power stops, the product has passed the longest pause. -/
theorem nanoseconds_backoff_of_coarse (h : p.initialBackoff.Coarse) (retry : UInt32) :
    (p.backoff retry).nanoseconds =
      min (p.initialBackoff.nanoseconds * p.growth ^ retry.toNat) (30 * 10 ^ 9) := by
  rw [nanoseconds_backoff]
  generalize p.growth ^ retry.toNat = power
  by_cases hpower : power ≤ 2 ^ 32 - 1
  · rw [Nat.min_eq_left hpower]
  rw [Nat.min_eq_right (Nat.le_of_not_le hpower)]
  obtain hzero | hlarge := h
  · rw [hzero, Nat.zero_mul, Nat.zero_mul]
  -- seven is the least factor that takes the largest 32-bit number past thirty seconds
  have hstopped : 30 * 10 ^ 9 ≤ p.initialBackoff.nanoseconds * (2 ^ 32 - 1) := calc
    30 * 10 ^ 9 ≤ 7 * (2 ^ 32 - 1) := by decide
    _ ≤ p.initialBackoff.nanoseconds * (2 ^ 32 - 1) := Nat.mul_le_mul_right _ hlarge
  have hexact : 30 * 10 ^ 9 ≤ p.initialBackoff.nanoseconds * power :=
    Nat.le_trans hstopped (Nat.mul_le_mul_left _ (Nat.le_of_not_le hpower))
  rw [Nat.min_eq_right hstopped, Nat.min_eq_right hexact]

/-- A later pause is no shorter. -/
theorem nanoseconds_backoff_le (h : retry ≤ later) :
    (p.backoff retry).nanoseconds ≤ (p.backoff later).nanoseconds := by
  have hpower : p.growth ^ retry.toNat ≤ p.growth ^ later.toNat :=
    Nat.pow_le_pow_right p.growth_pos (UInt32.le_iff_toNat_le.mp h)
  have hfactor : min (p.growth ^ retry.toNat) (2 ^ 32 - 1) ≤
      min (p.growth ^ later.toNat) (2 ^ 32 - 1) := by
    omega
  have hproduct := Nat.mul_le_mul_left p.initialBackoff.nanoseconds hfactor
  rw [nanoseconds_backoff, nanoseconds_backoff]
  omega

theorem nanoseconds_backoff_eq_zero_iff :
    (p.backoff retry).nanoseconds = 0 ↔ p.initialBackoff.nanoseconds = 0 := by
  have hpower : 0 < p.growth ^ retry.toNat := Nat.pow_pos p.growth_pos
  have hfactor : min (p.growth ^ retry.toNat) (2 ^ 32 - 1) ≠ 0 := by omega
  rw [nanoseconds_backoff]
  constructor
  · intro h
    have hproduct : p.initialBackoff.nanoseconds *
        min (p.growth ^ retry.toNat) (2 ^ 32 - 1) = 0 := by omega
    exact (Nat.mul_eq_zero.mp hproduct).resolve_right hfactor
  · intro h
    rw [h, Nat.zero_mul]
    rfl

/-- The pauses grow exponentially up to the longest, exactly so for every first pause that is none
or at least seven nanoseconds long, as is every one that settings give. The multiple of the first
pause may be computed from its seconds and nanoseconds apart, in 64 bits. -/
theorem backoff_exact (h : p.initialBackoff.Coarse) :
    (∀ retry, (p.backoff retry).nanoseconds =
      min (p.initialBackoff.nanoseconds * max p.multiplier.toNat 1 ^ retry.toNat) (30 * 10 ^ 9)) ∧
    (∀ retry, (p.backoff retry).nanoseconds ≤ 30 * 10 ^ 9) ∧
    (∀ retry later, retry ≤ later →
      (p.backoff retry).nanoseconds ≤ (p.backoff later).nanoseconds) ∧
    (∀ retry, (p.backoff retry).nanoseconds = 0 ↔ p.initialBackoff.nanoseconds = 0) ∧
    (∀ factor : UInt32, p.initialBackoff.subsecond * factor.toNat < 2 ^ 64 ∧
      (p.initialBackoff.times? factor.toNat).map (fun m => (m.seconds, m.subsecond)) =
        p.initialBackoff.partsOfMultiple? factor.toNat) ∧
    ∀ (settings : ToolSettings) (directory : String),
      (settings.clientOptions directory).retry.initialBackoff.Coarse := by
  refine ⟨nanoseconds_backoff_of_coarse h, fun retry => ?_, fun _ _ => nanoseconds_backoff_le,
    fun _ => nanoseconds_backoff_eq_zero_iff,
    fun factor => ⟨p.initialBackoff.subsecond_mul_lt factor, p.initialBackoff.times?_by_parts _⟩,
    fun settings _ => ?_⟩
  · rw [nanoseconds_backoff]
    exact Nat.min_le_right ..
  · exact Duration.coarse_ofMilliseconds settings.retryBackoffMilliseconds

/-- Seven nanoseconds, doubled: the power stops at the very retry at which the longest pause is
reached. -/
theorem backoff_exact_seven :
    let p : RetryPolicy := ⟨4, ⟨7, by decide⟩, 2⟩
    (p.backoff 32).nanoseconds = min (7 * 2 ^ 32) (30 * 10 ^ 9) ∧
      (p.backoff 31).nanoseconds = min (7 * 2 ^ 31) (30 * 10 ^ 9) := by
  intro p
  have hexact := (backoff_exact (p := p) (.inr (Nat.le_refl 7))).1
  exact ⟨hexact 32, hexact 31⟩

end RetryPolicy

end Codemod
