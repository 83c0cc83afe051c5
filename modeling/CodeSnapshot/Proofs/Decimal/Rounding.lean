import CodeSnapshot.Proofs.Decimal.WholeNumbers
import Mathlib.Algebra.Order.Field.Power
import Mathlib.Algebra.Order.Floor.Semifield
import Mathlib.Data.Int.Log
import Mathlib.Data.Rat.Floor
import Mathlib.Tactic.FieldSimp
import Mathlib.Tactic.GCongr
import Mathlib.Tactic.Linarith
import Mathlib.Tactic.NormNum
import Mathlib.Tactic.Positivity
import Mathlib.Tactic.Ring

/-!
# Rounding — which magnitude a number is rounded to

Quotients are rounded by shifts and divisions of natural numbers. What comes of it depends on the
value of the quotient alone, and on rational numbers it can be said in one line.

* **`nearest_eq`**, **`exponentOf_eq`** — the two steps of rounding, for rational numbers.
* **`Format.nearestTo`**, **`Format.ofRatio_eq`**, **`ofDecimal_eq`** — the magnitude nearest to a
  rational number, to a quotient and to a decimal number.
* **`Format.valueOf`** — the number that a magnitude stands for; **`nearestTo_of_close`** says that
  whatever lies just below it is rounded to it.
-/

namespace CodeSnapshot.Decimal

variable {num den : Nat} {q : Int} {r : ℚ}

/-! ## Natural numbers -/

/-- The natural number nearest to a rational one; a half goes to the even neighbour. -/
def nearestNat (r : ℚ) : Nat :=
  if r - ⌊r⌋₊ < 1 / 2 then ⌊r⌋₊
  else if 1 / 2 < r - ⌊r⌋₊ then ⌊r⌋₊ + 1
  else ⌊r⌋₊ + ⌊r⌋₊ % 2

theorem nearest_eq (num : Nat) (hden : 0 < den) : nearest num den = nearestNat (num / den) := by
  have hpos : (0 : ℚ) < den := Nat.cast_pos.2 hden
  have hfraction : (num / den : ℚ) - (num / den : Nat) = (num % den : Nat) / den := by
    have hsplit : (num : ℚ) = den * (num / den : Nat) + (num % den : Nat) := by
      exact_mod_cast (Nat.div_add_mod num den).symm
    rw [eq_div_iff hpos.ne', sub_mul, div_mul_cancel₀ _ hpos.ne']
    linarith
  have hbelow : ((num % den : Nat) / den : ℚ) < 1 / 2 ↔ 2 * (num % den) < den := by
    rw [div_lt_div_iff₀ hpos two_pos, one_mul, mul_comm]
    exact_mod_cast Iff.rfl
  have habove : (1 / 2 : ℚ) < (num % den : Nat) / den ↔ den < 2 * (num % den) := by
    rw [div_lt_div_iff₀ two_pos hpos, one_mul, mul_comm]
    exact_mod_cast Iff.rfl
  rw [nearestNat, Nat.floor_div_eq_div, hfraction]
  simp only [nearest, hbelow, habove]

theorem nearestNat_eq {m : Nat} (hlow : m - 1 / 2 < r) (hhigh : r < m + 1 / 2) :
    nearestNat r = m := by
  by_cases hm : (m : ℚ) ≤ r
  · have hfloor : ⌊r⌋₊ = m := (Nat.floor_eq_iff (m.cast_nonneg.trans hm)).2 ⟨hm, by linarith⟩
    rw [nearestNat, hfloor, if_pos (by linarith)]
  · rw [not_le] at hm
    cases m with
    | zero =>
      have hfloor : ⌊r⌋₊ = 0 := Nat.floor_of_nonpos (by simpa using hm.le)
      rw [nearestNat, hfloor, if_pos (by linarith)]
    | succ m =>
      push_cast at hlow hm
      have hm0 : (0 : ℚ) ≤ m := m.cast_nonneg
      have hfloor : ⌊r⌋₊ = m := (Nat.floor_eq_iff (by linarith)).2 ⟨by linarith, hm⟩
      rw [nearestNat, hfloor, if_neg (by linarith), if_pos (by linarith)]

/-! ## Exponents -/

theorem two_zpow_pos (q : Int) : (0 : ℚ) < 2 ^ q :=
  zpow_pos two_pos q

theorem scaled_pos (num : Nat) (hden : 0 < den) (q : Int) : 0 < (scaled num den q).2 := by
  rw [scaled]
  split
  · exact Nat.mul_pos hden (Nat.two_pow_pos _)
  · exact hden

theorem scaled_eq (num den : Nat) (q : Int) :
    ((scaled num den q).1 / (scaled num den q).2 : ℚ) = num / den / 2 ^ q := by
  rw [scaled]
  split
  · next hq =>
    obtain ⟨k, rfl⟩ := Int.eq_ofNat_of_zero_le hq
    simp [twoTo, div_div]
  · next hq =>
    obtain ⟨k, rfl⟩ := Int.exists_eq_neg_ofNat (Int.le_of_not_le hq)
    simp [twoTo, div_mul_eq_mul_div]

theorem log_eq {b : Nat} (hb : 1 < b) (hr : 0 < r) {t : Int} (hlow : (b : ℚ) ^ t ≤ r)
    (hhigh : r < (b : ℚ) ^ (t + 1)) : Int.log b r = t := by
  have hle : t ≤ Int.log b r := (Int.zpow_le_iff_le_log hb hr).1 hlow
  have hlt : Int.log b r < t + 1 := (Int.lt_zpow_iff_log_lt hb hr).1 hhigh
  omega

/-- The estimate of an exponent from the bits of the two numbers is exact or one too large. -/
theorem log2_bounds (hnum : num ≠ 0) (hden : den ≠ 0) :
    (2 : ℚ) ^ ((num.log2 : Int) - den.log2 - 1) ≤ num / den ∧
      (num / den : ℚ) < 2 ^ ((num.log2 : Int) - den.log2 + 1) := by
  have hdenpos : (0 : ℚ) < den := Nat.cast_pos.2 (Nat.pos_of_ne_zero hden)
  have hlow : (2 : ℚ) ^ num.log2 ≤ num := by exact_mod_cast Nat.log2_self_le hnum
  have hhigh : (num : ℚ) < 2 ^ (num.log2 + 1) := by exact_mod_cast Nat.lt_log2_self
  have hlow' : (2 : ℚ) ^ den.log2 ≤ den := by exact_mod_cast Nat.log2_self_le hden
  have hhigh' : (den : ℚ) < 2 ^ (den.log2 + 1) := by exact_mod_cast Nat.lt_log2_self
  constructor
  · have hsplit : (2 : ℚ) ^ ((num.log2 : Int) - den.log2 - 1) =
        2 ^ num.log2 / 2 ^ (den.log2 + 1) := by
      rw [sub_sub, zpow_sub₀ two_ne_zero]
      rfl
    rw [hsplit]
    gcongr
  · have hsplit : (2 : ℚ) ^ ((num.log2 : Int) - den.log2 + 1) =
        2 ^ (num.log2 + 1) / 2 ^ den.log2 := by
      rw [sub_add_eq_add_sub, zpow_sub₀ two_ne_zero]
      rfl
    rw [hsplit]
    gcongr

theorem scaled_le_iff (num : Nat) (hden : 0 < den) (q : Int) :
    (scaled num den q).2 ≤ (scaled num den q).1 ↔ (2 : ℚ) ^ q ≤ num / den := by
  have hpos : (0 : ℚ) < (scaled num den q).2 := Nat.cast_pos.2 (scaled_pos num hden q)
  have hone := one_le_div (a := ((scaled num den q).1 : ℚ)) hpos
  rw [scaled_eq, one_le_div (by positivity)] at hone
  rw [hone]
  exact_mod_cast Iff.rfl

theorem exponentOf_eq (hnum : num ≠ 0) (hden : den ≠ 0) :
    Format.exponentOf num den = Int.log 2 (num / den : ℚ) := by
  obtain ⟨hlow, hhigh⟩ := log2_bounds hnum hden
  have hr : (0 : ℚ) < num / den := (two_zpow_pos _).trans_le hlow
  have htest := scaled_le_iff num (Nat.pos_of_ne_zero hden) (num.log2 - den.log2)
  rw [Format.exponentOf]
  dsimp only
  by_cases hle : (2 : ℚ) ^ ((num.log2 : Int) - den.log2) ≤ num / den
  · rw [if_pos (htest.2 hle)]
    exact (log_eq one_lt_two hr hle hhigh).symm
  · rw [if_neg (htest.not.2 hle)]
    refine (log_eq one_lt_two hr hlow ?_).symm
    rw [sub_add_cancel]
    exact not_le.1 hle

namespace Format

/-- The magnitude nearest to a number that is not below zero; infinity when that is too large. -/
def nearestTo (f : Format) (r : ℚ) : Nat :=
  if r = 0 then 0
  else
    let q := max (Int.log 2 r - (f.precision - 1 : Int)) (-(f.lowest : Int))
    min f.infinity ((q + f.lowest).toNat * 2 ^ (f.precision - 1) + nearestNat (r / 2 ^ q))

theorem ofRatio_eq (f : Format) (num : Nat) (hden : den ≠ 0) :
    f.ofRatio num den = f.nearestTo (num / den) := by
  have hzero : (num / den : ℚ) = 0 ↔ num = 0 := by
    simp [div_eq_zero_iff, hden]
  rw [ofRatio, nearestTo]
  by_cases hnum : num = 0
  · rw [if_pos hnum, if_pos (hzero.2 hnum)]
  · rw [if_neg hnum, if_neg (hzero.not.2 hnum)]
    dsimp only
    rw [exponentOf_eq hnum hden, nearest_eq _ (scaled_pos num (Nat.pos_of_ne_zero hden) _),
      scaled_eq]
    rfl

end Format

/-! ## Decimal numbers -/

theorem ten_zpow_pos (q : Int) : (0 : ℚ) < 10 ^ q :=
  zpow_pos (by norm_num) q

/-- A power of ten has three bits for each place. -/
theorem two_zpow_le_ten_zpow (k : Nat) : (2 : ℚ) ^ (3 * k : Int) ≤ 10 ^ (k : Int) := by
  rw [zpow_mul, zpow_natCast, zpow_natCast]
  gcongr
  norm_num

theorem ten_zpow_neg_le_two_zpow : (10 : ℚ) ^ (-400 : Int) ≤ 2 ^ (-1200 : Int) := by
  rw [zpow_neg, zpow_neg]
  exact inv_anti₀ (two_zpow_pos _) (two_zpow_le_ten_zpow 400)

theorem nearestTo_of_large (h : 10 ^ (400 : Int) ≤ r) :
    binary64.nearestTo r = binary64.infinity := by
  have hr : 0 < r := (ten_zpow_pos 400).trans_le h
  have hlog : 1200 ≤ Int.log 2 r :=
    (Int.zpow_le_iff_le_log one_lt_two hr).1 ((two_zpow_le_ten_zpow 400).trans h)
  have hinfinity := infinity_eq
  rw [Format.nearestTo, if_neg hr.ne']
  show min _ ((max (Int.log 2 r - (53 - 1)) (-1074) + 1074).toNat * 2 ^ 52 + _) = _
  omega

theorem nearestTo_of_small (hr : 0 ≤ r) (h : r < 10 ^ (-400 : Int)) :
    binary64.nearestTo r = 0 := by
  rw [Format.nearestTo]
  split
  · rfl
  · next hne =>
    have hpos : 0 < r := hr.lt_of_ne' hne
    have hsmall : r < 2 ^ (-1200 : Int) := h.trans_le ten_zpow_neg_le_two_zpow
    have hlog : Int.log 2 r < -1200 := (Int.lt_zpow_iff_log_lt one_lt_two hpos).1 hsmall
    have hq : max (Int.log 2 r - (binary64.precision - 1 : Int)) (-(binary64.lowest : Int)) =
        -1074 := by
      show max (Int.log 2 r - (53 - 1)) (-1074) = _
      omega
    have hhalf : r / 2 ^ (-1074 : Int) < 1 / 2 := by
      have hsplit : (1 / 2 : ℚ) * 2 ^ (-1074 : Int) = 2 ^ (-1 + -1074 : Int) := by
        rw [zpow_add₀ two_ne_zero, zpow_neg_one, one_div]
      rw [div_lt_iff₀ (two_zpow_pos _), hsplit]
      exact hsmall.trans_le (zpow_le_zpow_right₀ one_le_two (by decide))
    have hnonneg : 0 ≤ r / 2 ^ (-1074 : Int) := div_nonneg hr (two_zpow_pos _).le
    generalize hx : r / 2 ^ (-1074 : Int) = x at hhalf hnonneg
    have hzero : nearestNat x = 0 := nearestNat_eq (by push_cast; linarith) (by simpa using hhalf)
    dsimp only
    rw [hq, hx, hzero]
    rfl

/-- The first digit of a number that is not zero is worth something. -/
theorem ten_zpow_le_digits {digits : Nat} (hdigits : digits ≠ 0) (e : Int) :
    (10 : ℚ) ^ ((Nat.toDigits 10 digits).length + e - 1) ≤ digits * 10 ^ e := by
  obtain ⟨k, hk⟩ : ∃ k, (Nat.toDigits 10 digits).length = k + 1 :=
    Nat.exists_eq_succ_of_ne_zero (mt List.length_eq_zero_iff.1 Nat.toDigits_ne_nil)
  have hle : 10 ^ k ≤ digits := by
    by_cases hk0 : k = 0
    · rw [hk0]
      exact Nat.pos_of_ne_zero hdigits
    · have hiff : (Nat.toDigits 10 digits).length ≤ k ↔ digits < 10 ^ k :=
        Nat.length_toDigits_le_iff (by decide) (Nat.pos_of_ne_zero hk0)
      rw [hk] at hiff
      exact Nat.not_lt.1 (hiff.not.1 (by omega))
  have hplace : ((k + 1 : Nat) : Int) + e - 1 = k + e := by omega
  rw [hk, hplace, zpow_add₀ (by norm_num), zpow_natCast]
  gcongr
  exact_mod_cast hle

theorem digits_lt_ten_zpow (digits : Nat) (e : Int) :
    (digits * 10 ^ e : ℚ) < 10 ^ ((Nat.toDigits 10 digits).length + e) := by
  have hpos : 0 < (Nat.toDigits 10 digits).length := List.length_pos_iff.2 Nat.toDigits_ne_nil
  have hlt : digits < 10 ^ (Nat.toDigits 10 digits).length :=
    (Nat.length_toDigits_le_iff (by decide) hpos).1 (Nat.le_refl _)
  rw [zpow_add₀ (by norm_num), zpow_natCast]
  gcongr
  exact_mod_cast hlt

/-- **A decimal number is rounded to the nearest magnitude**, however it is written. -/
theorem ofDecimal_eq (digits : Nat) (e : Int) :
    binary64.ofDecimal digits e = binary64.nearestTo (digits * 10 ^ e) := by
  rw [Format.ofDecimal]
  dsimp only
  split
  · next hzero =>
    rw [hzero, Nat.cast_zero, zero_mul, Format.nearestTo, if_pos rfl]
  · next hne =>
    have hreach : Format.decimalReach = 400 := rfl
    rw [hreach]
    split
    · next hlarge =>
      refine (nearestTo_of_large (le_trans ?_ (ten_zpow_le_digits hne e))).symm
      exact zpow_le_zpow_right₀ (by norm_num) (by omega)
    · split
      · next hsmall =>
        have hnonneg : (0 : ℚ) ≤ digits * 10 ^ e :=
          mul_nonneg digits.cast_nonneg (ten_zpow_pos e).le
        refine (nearestTo_of_small hnonneg ((digits_lt_ten_zpow digits e).trans_le ?_)).symm
        exact zpow_le_zpow_right₀ (by norm_num) (by omega)
      · split
        · next he =>
          obtain ⟨k, rfl⟩ := Int.eq_ofNat_of_zero_le he
          rw [Format.ofRatio_eq _ _ one_ne_zero]
          simp [tenTo]
        · next he =>
          obtain ⟨k, rfl⟩ := Int.exists_eq_neg_ofNat (Int.le_of_not_le he)
          have hten : tenTo (-(-(k : Int))).toNat = 10 ^ k := by
            rw [neg_neg, Int.toNat_natCast]
            rfl
          rw [hten, Format.ofRatio_eq _ _ (by positivity)]
          push_cast
          rw [zpow_neg, zpow_natCast, div_eq_mul_inv]

/-! ## Magnitudes -/

/-- The number that a finite magnitude stands for. -/
def Format.valueOf (f : Format) (magnitude : Nat) : ℚ :=
  (f.parts magnitude).1 * 2 ^ (f.parts magnitude).2

theorem ratio_pos (f : Format) (k : Nat) : 0 < (f.ratio k).2 := by
  rw [Format.ratio]
  dsimp only
  split
  · exact Nat.one_pos
  · exact Nat.two_pow_pos _

theorem ratio_eq (f : Format) (k : Nat) : ((f.ratio k).1 / (f.ratio k).2 : ℚ) = f.valueOf k := by
  rw [Format.ratio, Format.valueOf]
  generalize f.parts k = parts
  obtain ⟨m, q⟩ := parts
  dsimp only
  split
  · next hq =>
    obtain ⟨j, rfl⟩ := Int.eq_ofNat_of_zero_le hq
    simp [twoTo]
  · next hq =>
    obtain ⟨j, rfl⟩ := Int.exists_eq_neg_ofNat (Int.le_of_not_le hq)
    simp [twoTo, div_eq_mul_inv]

variable {k : Nat}

/-- The significand and the exponent of a magnitude. -/
theorem exists_parts (k : Nat) :
    ∃ m q, binary64.parts k = (m, q) ∧ m < 2 ^ 53 ∧
      (q = -1074 ∧ m = k ∨ -1074 < q ∧ 2 ^ 52 ≤ m ∧ k = (q + 1074).toNat * 2 ^ 52 + m) := by
  by_cases hk : k < 2 ^ 52
  · exact ⟨k, -1074, if_pos hk, by omega, .inl ⟨rfl, rfl⟩⟩
  · rw [parts_of_normal (Nat.not_lt.1 hk)]
    exact ⟨_, _, rfl, by omega, by omega⟩

theorem nearestTo_of_nearestNat {m : Nat} (hr : 0 < r)
    (hq : max (Int.log 2 r - 52) (-1074) = q) (hm : nearestNat (r / 2 ^ q) = m)
    (hk : k = (q + 1074).toNat * 2 ^ 52 + m) (hfinite : k < binary64.infinity) :
    binary64.nearestTo r = k := by
  have hexp : max (Int.log 2 r - (binary64.precision - 1 : Int)) (-(binary64.lowest : Int)) =
      q := by
    rw [← hq]
    rfl
  rw [Format.nearestTo, if_neg hr.ne']
  dsimp only
  rw [hexp, hm, hk]
  exact Nat.min_eq_right (hk ▸ hfinite.le)

/-- Just below a power of two the last place is worth half as much. -/
theorem nearestTo_below_power (hq : -1074 < q) (hlow : 2 ^ 52 - 1 / 4 < r / 2 ^ q)
    (hhigh : r / 2 ^ q < 2 ^ 52) (hk : k = (q + 1074).toNat * 2 ^ 52 + 2 ^ 52)
    (hfinite : k < binary64.infinity) : binary64.nearestTo r = k := by
  have hunit := two_zpow_pos q
  have hr : 0 < r := (div_pos_iff_of_pos_right hunit).1 (by linarith)
  have hlog : Int.log 2 r = 51 + q := by
    refine log_eq one_lt_two hr ?_ ?_
    · rw [Nat.cast_ofNat, zpow_add₀ two_ne_zero, ← le_div_iff₀ hunit]
      refine le_trans ?_ hlow.le
      norm_num
    · have hplace : 51 + q + 1 = 52 + q := by omega
      rw [hplace, Nat.cast_ofNat, zpow_add₀ two_ne_zero, ← div_lt_iff₀ hunit]
      exact hhigh
  have hdouble : r / 2 ^ (q - 1) = 2 * (r / 2 ^ q) := by
    rw [zpow_sub_one₀ two_ne_zero]
    field_simp
  have hnearest : nearestNat (r / 2 ^ (q - 1)) = 2 * 2 ^ 52 :=
    nearestNat_eq (by rw [hdouble]; push_cast; linarith) (by rw [hdouble]; push_cast; linarith)
  have hk' : k = (q - 1 + 1074).toNat * 2 ^ 52 + 2 * 2 ^ 52 := by
    have hplace : (q + 1074).toNat = (q - 1 + 1074).toNat + 1 := by omega
    rw [hk, hplace, Nat.add_mul, Nat.one_mul, Nat.add_assoc, Nat.two_mul]
  exact nearestTo_of_nearestNat hr (by omega) hnearest hk' hfinite

/-- **What lies just below a magnitude** is rounded to it. Below a power of two the magnitudes lie
more closely, so that a quarter of the last place is the room there is. -/
theorem nearestTo_of_close (hpos : 0 < k) (hfinite : k < binary64.infinity)
    (hlow : binary64.valueOf k - r < binary64.valueOf k / 2 ^ 55)
    (hhigh : r ≤ binary64.valueOf k) : binary64.nearestTo r = k := by
  obtain ⟨m, q, hparts, hm, hcases⟩ := exists_parts k
  have hunit := two_zpow_pos q
  have hmhigh : (m : ℚ) + 1 ≤ 2 ^ 53 := by exact_mod_cast hm
  have hmlow : (1 : ℚ) ≤ m := by
    have hmpos : 1 ≤ m := by omega
    exact_mod_cast hmpos
  rw [Format.valueOf, hparts] at hlow hhigh
  -- in units of the last place
  have hlow : (m : ℚ) - 1 / 4 < r / 2 ^ q := by
    rw [lt_div_iff₀ hunit]
    nlinarith
  have hr : 0 < r := (div_pos_iff_of_pos_right hunit).1 (by linarith)
  have hlog : Int.log 2 r < 53 + q := by
    refine (Int.lt_zpow_iff_log_lt one_lt_two hr).1 (hhigh.trans_lt ?_)
    rw [Nat.cast_ofNat, zpow_add₀ two_ne_zero]
    gcongr
    exact_mod_cast hm
  have hhigh : r / 2 ^ q ≤ m := (div_le_iff₀ hunit).2 hhigh
  have hnearest : nearestNat (r / 2 ^ q) = m := nearestNat_eq (by linarith) (by linarith)
  obtain ⟨rfl, rfl⟩ | ⟨hq, hm52, hk⟩ := hcases
  · exact nearestTo_of_nearestNat hr (by omega) hnearest (by omega) hfinite
  · by_cases hexp : 52 + q ≤ Int.log 2 r
    · exact nearestTo_of_nearestNat hr (by omega) hnearest hk hfinite
    · have hbelow : r / 2 ^ q < 2 ^ 52 := by
        have hlt := (Int.lt_zpow_iff_log_lt one_lt_two hr).2 (not_le.1 hexp)
        rw [Nat.cast_ofNat, zpow_add₀ two_ne_zero] at hlt
        exact (div_lt_iff₀ hunit).2 hlt
      obtain rfl : m = 2 ^ 52 := by
        have hlt : (m : ℚ) < (2 ^ 52 + 1 : Nat) := by
          push_cast
          linarith
        have hlt : m < 2 ^ 52 + 1 := by exact_mod_cast hlt
        omega
      exact nearestTo_below_power hq (by exact_mod_cast hlow) hbelow hk hfinite

end CodeSnapshot.Decimal
