import Mathlib.Tactic.Ring
import ReportDelivery.Numeric.Shortest

/-! Rounding to the nearest binary number.

`nearestMagnitude` depends on the ratio alone, gives every magnitude back from its own ratio, and
passes the greatest finite one, or is zero, where the ratio is far enough out. So the shortcuts of
`ofDecimal` change nothing, and a decimal may be written with any power of ten moved between its
significand and its exponent. `decimalMagnitude_shortest` says that the shortest decimal of a number reads
back as the number. -/
namespace ReportDelivery

/-! ### Powers -/

theorem twoTo_eq (n : Nat) : twoTo n = 2 ^ n := rfl

theorem tenTo_eq (n : Nat) : tenTo n = 10 ^ n := rfl

theorem twoTo_pos (n : Nat) : 0 < twoTo n := Nat.two_pow_pos n

theorem fiveTo_pos (n : Nat) : 0 < fiveTo n := Nat.pow_pos (by decide)

theorem tenTo_pos (n : Nat) : 0 < tenTo n := Nat.pow_pos (by decide)

theorem twoTo_add (m n : Nat) : twoTo (m + n) = twoTo m * twoTo n := Nat.pow_add ..

theorem tenTo_add (m n : Nat) : tenTo (m + n) = tenTo m * tenTo n := Nat.pow_add ..

theorem tenTo_eq_mul (n : Nat) : tenTo n = fiveTo n * twoTo n := Nat.mul_pow 5 2 n

theorem twoTo_le {m n : Nat} (h : m ≤ n) : twoTo m ≤ twoTo n := Nat.pow_le_pow_right (by decide) h

theorem le_log2_iff {k n : Nat} (h : n ≠ 0) : k ≤ n.log2 ↔ twoTo k ≤ n := Nat.le_log2 h

theorem log2_lt_iff {k n : Nat} (h : n ≠ 0) : n.log2 < k ↔ n < twoTo k := Nat.log2_lt h

/-- Ten is between the third and the fourth power of two. -/
theorem twoTo_le_tenTo (n : Nat) : twoTo (3 * n) ≤ tenTo n := by
  rw [twoTo_eq, Nat.pow_mul]
  exact Nat.pow_le_pow_left (by decide) n

theorem tenTo_le_twoTo (n : Nat) : tenTo n ≤ twoTo (4 * n) := by
  rw [twoTo_eq, Nat.pow_mul]
  exact Nat.pow_le_pow_left (by decide) n

namespace Binary64

/-! ### Ratios -/

theorem roundHalfEven_mul {c : Nat} (hc : 0 < c) (num den : Nat) :
    roundHalfEven (c * num) (c * den) = roundHalfEven num den := by
  have hlt : 2 * (c * (num % den)) < c * den ↔ 2 * (num % den) < den := by
    rw [Nat.mul_left_comm]
    exact Nat.mul_lt_mul_left hc
  have heq : 2 * (c * (num % den)) = c * den ↔ 2 * (num % den) = den := by
    rw [Nat.mul_left_comm]
    exact Nat.mul_right_inj (by omega)
  have hbeq : (2 * (c * (num % den)) == c * den) = (2 * (num % den) == den) := by
    rw [Bool.eq_iff_iff, beq_iff_eq, beq_iff_eq, heq]
  simp only [roundHalfEven, Nat.mul_div_mul_left _ _ hc, Nat.mul_mod_mul_left, hlt, hbeq]

theorem roundHalfEven_of_dvd (q : Nat) {den : Nat} (hden : 0 < den) :
    roundHalfEven (q * den) den = q := by
  simp [roundHalfEven, Nat.mul_div_cancel _ hden, hden]

theorem le_roundHalfEven (num den : Nat) : num / den ≤ roundHalfEven num den := by
  simp only [roundHalfEven]
  split <;> omega

theorem roundHalfEven_of_le_half {num den : Nat} (hden : 0 < den) (h : 2 * num ≤ den) :
    roundHalfEven num den = 0 := by
  have hlt : num < den := by omega
  simp only [roundHalfEven, Nat.div_eq_of_lt hlt, Nat.mod_eq_of_lt hlt]
  by_cases hhalf : 2 * num < den
  · simp [hhalf]
  · have : 2 * num = den := by omega
    simp [this]

theorem nearestMagnitude_mul {c : Nat} (hc : 0 < c) (num den : Nat) :
    nearestMagnitude (c * num) (c * den) = nearestMagnitude num den := by
  simp only [nearestMagnitude, Nat.mul_assoc, Nat.mul_div_mul_left _ _ hc, roundHalfEven_mul hc]

/-- Equal ratios have one nearest magnitude. -/
theorem nearestMagnitude_congr {num den num' den' : Nat} (hden : 0 < den) (hden' : 0 < den')
    (h : num * den' = num' * den) : nearestMagnitude num den = nearestMagnitude num' den' := by
  rw [← nearestMagnitude_mul hden' num den, ← nearestMagnitude_mul hden num' den',
    Nat.mul_comm den' num, h, Nat.mul_comm den' den, Nat.mul_comm den num']

/-! ### Every magnitude from its own ratio -/

theorem spacing_le (k : Nat) : spacing k * twoTo 52 ≤ k := by
  simp only [spacing, twoTo_eq]
  omega

theorem significand_lt (k : Nat) : significand k < twoTo 53 := by
  simp only [significand, spacing, twoTo_eq]
  omega

theorem le_significand {k : Nat} (h : spacing k ≠ 0) : twoTo 52 ≤ significand k := by
  simp only [significand, spacing, twoTo_eq] at *
  omega

/-- The ratio has the spacing of its magnitude. -/
theorem log2_ratio (k : Nat) : (significand k * twoTo (spacing k)).log2 - 52 = spacing k := by
  by_cases hzero : significand k = 0
  · have hp : spacing k = 0 := by
      by_contra hp
      have := twoTo_pos 52
      have := le_significand hp
      omega
    rw [hzero, hp, Nat.zero_mul, Nat.log2_zero]
  · have hpow := twoTo_pos (spacing k)
    have hne : significand k * twoTo (spacing k) ≠ 0 := by
      have := Nat.mul_pos (Nat.pos_of_ne_zero hzero) hpow
      omega
    have hlt : (significand k * twoTo (spacing k)).log2 < 53 + spacing k := by
      rw [log2_lt_iff hne, twoTo_add]
      exact (Nat.mul_lt_mul_right hpow).2 (significand_lt k)
    by_cases hp : spacing k = 0
    · omega
    · have hge : 52 + spacing k ≤ (significand k * twoTo (spacing k)).log2 := by
        rw [le_log2_iff hne, twoTo_add]
        exact Nat.mul_le_mul_right _ (le_significand hp)
      omega

theorem nearestMagnitude_ratio (k : Nat) : nearestMagnitude (ratio k).1 (ratio k).2 = k := by
  have hround : roundHalfEven (significand k * twoTo (spacing k) * twoTo 1074)
      (twoTo 1074 * twoTo (spacing k)) = significand k := by
    rw [Nat.mul_assoc, Nat.mul_comm (twoTo (spacing k))]
    exact roundHalfEven_of_dvd _ (Nat.mul_pos (twoTo_pos _) (twoTo_pos _))
  simp only [nearestMagnitude, ratio, Nat.mul_div_cancel _ (twoTo_pos 1074), log2_ratio, hround]
  have := spacing_le k
  simp only [significand]
  omega

/-! ### Far out -/

theorem le_nearestMagnitude {num den : Nat} (hden : 0 < den) (h : twoTo 1024 * den ≤ num) :
    magnitudeLimit ≤ nearestMagnitude num den := by
  have hx : twoTo (1024 + 1074) ≤ num * twoTo 1074 / den := by
    rw [Nat.le_div_iff_mul_le hden, twoTo_add, Nat.mul_right_comm]
    exact Nat.mul_le_mul_right _ h
  have hne : num * twoTo 1074 / den ≠ 0 := by
    have := twoTo_pos (1024 + 1074)
    omega
  have hlog : 1024 + 1074 ≤ (num * twoTo 1074 / den).log2 := (le_log2_iff hne).2 hx
  obtain ⟨s, hs, hle⟩ : ∃ s, (num * twoTo 1074 / den).log2 = s + 52 ∧ 2046 ≤ s :=
    ⟨(num * twoTo 1074 / den).log2 - 52, by omega, by omega⟩
  have hquotient : twoTo 52 ≤ roundHalfEven (num * twoTo 1074) (den * twoTo s) := by
    refine Nat.le_trans ?_ (le_roundHalfEven _ _)
    rw [← Nat.div_div_eq_div_mul, Nat.le_div_iff_mul_le (twoTo_pos s), ← twoTo_add, Nat.add_comm,
      ← hs]
    exact (le_log2_iff hne).1 (Nat.le_refl _)
  have hmul : 2046 * twoTo 52 ≤ s * twoTo 52 := Nat.mul_le_mul_right _ hle
  have hlimit : magnitudeLimit = 2046 * twoTo 52 + twoTo 52 := by decide
  simp only [nearestMagnitude, hs, Nat.add_sub_cancel, hlimit]
  omega

theorem nearestMagnitude_small {num den : Nat} (hden : 0 < den)
    (h : num * twoTo (1074 + 1) ≤ den) : nearestMagnitude num den = 0 := by
  have htwice : 2 * (num * twoTo 1074) ≤ den := by
    rw [twoTo_add, show twoTo 1 = 2 from rfl, ← Nat.mul_assoc] at h
    omega
  have hlt : num * twoTo 1074 < den := by omega
  simp only [nearestMagnitude, Nat.div_eq_of_lt hlt, Nat.log2_zero, Nat.zero_sub,
    show twoTo 0 = 1 from rfl, Nat.mul_one, Nat.zero_mul, Nat.zero_add]
  exact roundHalfEven_of_le_half hden htwice

/-! ### Decimals -/

/-- The number of the magnitude nearest to `digits * 10 ^ exponent`. -/
def decimalMagnitude (digits : Nat) (exponent : Int) : Nat :=
  nearestMagnitude (digits * tenTo exponent.toNat) (tenTo (-exponent).toNat)

/-- Binary length alone shows that the decimal is past every finite number. -/
theorem decimalMagnitude_huge {digits : Nat} {exponent : Int} (hd : digits ≠ 0)
    (h : 1024 ≤ (digits.log2 : Int) + min (3 * exponent) (4 * exponent)) :
    magnitudeLimit ≤ decimalMagnitude digits exponent := by
  refine le_nearestMagnitude (tenTo_pos _) ?_
  have hlog : twoTo digits.log2 ≤ digits := (le_log2_iff hd).1 (Nat.le_refl _)
  rcases Int.le_total 0 exponent with hsign | hsign
  · obtain ⟨n, rfl⟩ := Int.eq_ofNat_of_zero_le hsign
    rw [show (-(n : Int)).toNat = 0 by omega, show tenTo 0 = 1 from rfl, Nat.mul_one,
      Int.toNat_natCast]
    calc twoTo 1024 ≤ twoTo (digits.log2 + 3 * n) := twoTo_le (by omega)
      _ = twoTo digits.log2 * twoTo (3 * n) := twoTo_add ..
      _ ≤ digits * tenTo n := Nat.mul_le_mul hlog (twoTo_le_tenTo n)
  · obtain ⟨n, hn⟩ := Int.eq_ofNat_of_zero_le (Int.neg_nonneg.2 hsign)
    rw [hn, show exponent.toNat = 0 by omega, show tenTo 0 = 1 from rfl, Nat.mul_one,
      Int.toNat_natCast]
    calc twoTo 1024 * tenTo n ≤ twoTo 1024 * twoTo (4 * n) :=
          Nat.mul_le_mul_left _ (tenTo_le_twoTo n)
      _ = twoTo (1024 + 4 * n) := (twoTo_add ..).symm
      _ ≤ twoTo digits.log2 := twoTo_le (by omega)
      _ ≤ digits := hlog

/-- Binary length alone shows that the decimal is at most half the least positive number. -/
theorem decimalMagnitude_tiny {digits : Nat} {exponent : Int} (hd : digits ≠ 0)
    (h : (digits.log2 : Int) + 1 + max (3 * exponent) (4 * exponent) ≤ -1075) :
    decimalMagnitude digits exponent = 0 := by
  refine nearestMagnitude_small (tenTo_pos _) ?_
  have hlog : digits < twoTo (digits.log2 + 1) := (log2_lt_iff hd).1 (Nat.lt_succ_self _)
  obtain ⟨n, hn⟩ := Int.eq_ofNat_of_zero_le (show 0 ≤ -exponent by omega)
  rw [hn, show exponent.toNat = 0 by omega, show tenTo 0 = 1 from rfl, Nat.mul_one,
    Int.toNat_natCast]
  calc digits * twoTo (1074 + 1) ≤ twoTo (digits.log2 + 1) * twoTo (1074 + 1) :=
        Nat.mul_le_mul_right _ (Nat.le_of_lt hlog)
    _ = twoTo (digits.log2 + 1 + (1074 + 1)) := (twoTo_add ..).symm
    _ ≤ twoTo (3 * n) := twoTo_le (by omega)
    _ ≤ tenTo n := twoTo_le_tenTo n

theorem decimalMagnitude_zero (exponent : Int) : decimalMagnitude 0 exponent = 0 :=
  nearestMagnitude_small (tenTo_pos _) (by simp)

/-- The shortcuts by binary length change nothing. -/
theorem ofDecimal_eq (negative : Bool) (digits : Nat) (exponent : Int) :
    ofDecimal negative digits exponent =
      ofMagnitude negative (decimalMagnitude digits exponent) := by
  unfold ofDecimal
  split
  · next hd => rw [hd, decimalMagnitude_zero]
  · next hd =>
    dsimp only
    split
    · next h =>
      have := decimalMagnitude_huge hd h
      rw [ofMagnitude, dif_neg (by omega)]
    · split
      · next h => rw [decimalMagnitude_tiny hd h]
      · rfl

/-- Powers of ten may move from the digits into the exponent. -/
theorem decimalMagnitude_mul (digits n : Nat) (exponent : Int) :
    decimalMagnitude (digits * tenTo n) exponent = decimalMagnitude digits (exponent + n) := by
  refine nearestMagnitude_congr (tenTo_pos _) (tenTo_pos _) ?_
  have hexp : n + exponent.toNat + (-(exponent + n)).toNat =
      (exponent + n).toNat + (-exponent).toNat := by omega
  rw [Nat.mul_assoc digits, Nat.mul_assoc digits, Nat.mul_assoc digits, ← tenTo_add, ← tenTo_add,
    ← tenTo_add, hexp]

/-! ### Shortest decimals -/

theorem ofMagnitude_of_lt (negative : Bool) {k : Nat} (hk : k < magnitudeLimit) :
    ofMagnitude negative k = .finite negative k hk := dif_pos hk

theorem readsAs_iff (d : Decimal) {k : Nat} (hk : k < magnitudeLimit) :
    d.readsAs k = true ↔ decimalMagnitude d.digits d.exponent = k := by
  rw [Decimal.readsAs, beq_iff_eq, ofDecimal_eq, ofMagnitude_of_lt false hk, ofMagnitude]
  split
  · simp
  · next h =>
    constructor
    · nofun
    · intro heq
      exact absurd (heq ▸ hk) h

theorem decimalMagnitude_exact (k : Nat) :
    decimalMagnitude (exact k).digits (exact k).exponent = k := by
  have hden : (ratio k).2 = twoTo 1074 := by simp only [ratio]
  rw [decimalMagnitude, exact, show (-1074 : Int).toNat = 0 from rfl,
    show (-(-1074) : Int).toNat = 1074 from rfl, show tenTo 0 = 1 from rfl, Nat.mul_one,
    Nat.mul_comm (ratio k).1, tenTo_eq_mul, nearestMagnitude_mul (fiveTo_pos _), ← hden,
    nearestMagnitude_ratio]

theorem shortest_readsAs {k : Nat} (hk : k < magnitudeLimit) : (shortest k).readsAs k = true := by
  unfold shortest
  cases hfound : (List.range 17).findSome? fun n =>
      (neighbours k (n + 1)).find? (·.readsAs k) with
  | none => exact (readsAs_iff _ hk).2 (decimalMagnitude_exact k)
  | some d =>
    obtain ⟨n, -, hd⟩ := List.exists_of_findSome?_eq_some hfound
    exact List.find?_some (p := fun d : Decimal => d.readsAs k) hd

/-- The shortest decimal of a finite number reads back as the number. -/
theorem decimalMagnitude_shortest {k : Nat} (hk : k < magnitudeLimit) :
    decimalMagnitude (shortest k).digits (shortest k).exponent = k :=
  (readsAs_iff _ hk).1 (shortest_readsAs hk)

theorem shortest_digits_ne_zero {k : Nat} (hk : k < magnitudeLimit) (hne : k ≠ 0) :
    (shortest k).digits ≠ 0 := by
  intro h
  have := decimalMagnitude_shortest hk
  rw [h, decimalMagnitude_zero] at this
  exact hne this.symm

end Binary64
end ReportDelivery
