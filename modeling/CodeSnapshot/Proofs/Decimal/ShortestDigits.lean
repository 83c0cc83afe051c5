import CodeSnapshot.Decimal.Text
import CodeSnapshot.Proofs.Decimal.Rounding
import Mathlib.Data.List.DropRight

/-!
# Shortest digits — the digits of a magnitude read back to it

Digits are looked for on one decimal grid after the other, and kept only if they read back. Eighteen
of them always do, so that the search ends with digits that were kept.

* **`Digits.value`** — the number that some digits stand for; `value_ofNat` says that nothing is
  lost with the zeros at the end.
* **`leadingPlace_spec`** — the place of the first digit.
* **`exists_shortestFrom`** — the search ends with digits that read back, if any grid has some.
* **`ofDecimal_lowOn`** — the grid of eighteen digits has some; **`shortest_reads_back`** puts the
  two together.
-/

namespace CodeSnapshot.Decimal

variable {num den k m : Nat} {grid place : Int} {f : Format} {tie : Tie} {digits : List Char}

/-! ## Digits -/

theorem natOfDigits_zeros_append (n : Nat) (digits : List Char) :
    natOfDigits (zeros n ++ digits) = natOfDigits digits := by
  simp only [natOfDigits, ← Nat.ofDigitChars_eq_foldl]
  rw [Nat.ofDigitChars_append, zeros, Nat.ofDigitChars_replicate_zero, Nat.mul_zero]

theorem natOfDigits_append_zeros (digits : List Char) (n : Nat) :
    natOfDigits (digits ++ zeros n) = natOfDigits digits * 10 ^ n := by
  simp only [natOfDigits, ← Nat.ofDigitChars_eq_foldl]
  rw [Nat.ofDigitChars_append, zeros, Nat.ofDigitChars_replicate_zero, Nat.mul_comm]

namespace Digits

/-- The number that some digits stand for. -/
def value (d : Digits) : ℚ :=
  natOfDigits d.digits * 10 ^ (d.point - d.digits.length)

/-- Digits that can be written: there are some, and they are digits. -/
def IsProper (d : Digits) : Prop :=
  d.digits ≠ [] ∧ ∀ c ∈ d.digits, isDigit c = true

theorem exists_zeros (m : Nat) (grid : Int) :
    ∃ n, Nat.toDigits 10 m = (ofNat m grid).digits ++ zeros n := by
  refine ⟨((Nat.toDigits 10 m).rtakeWhile (· = '0')).length, ?_⟩
  have hzeros : (Nat.toDigits 10 m).rtakeWhile (· = '0') =
      zeros ((Nat.toDigits 10 m).rtakeWhile (· = '0')).length :=
    List.eq_replicate_of_mem fun c hc => by simpa using List.mem_rtakeWhile_imp hc
  rw [← hzeros]
  exact List.rdropWhile_append_rtakeWhile.symm

theorem value_ofNat (m : Nat) (grid : Int) : (ofNat m grid).value = m * 10 ^ grid := by
  obtain ⟨n, hn⟩ := exists_zeros m grid
  have hvalue : m = natOfDigits (ofNat m grid).digits * 10 ^ n := by
    rw [← natOfDigits_append_zeros, ← hn, natOfDigits_toDigits]
  have hpoint : (ofNat m grid).point - (ofNat m grid).digits.length = n + grid := by
    have hlength := congrArg List.length hn
    rw [List.length_append, zeros, List.length_replicate] at hlength
    show (((Nat.toDigits 10 m).length : Int) + grid) - _ = _
    omega
  rw [Digits.value, hpoint, zpow_add₀ (by norm_num), zpow_natCast, ← mul_assoc]
  congr 1
  exact_mod_cast hvalue.symm

theorem isProper_ofNat (hm : m ≠ 0) (grid : Int) : (ofNat m grid).IsProper := by
  obtain ⟨n, hn⟩ := exists_zeros m grid
  constructor
  · intro hnil
    rw [hnil] at hn
    have hzero := natOfDigits_toDigits m
    rw [hn, natOfDigits_append_zeros] at hzero
    exact hm (hzero.symm.trans (Nat.zero_mul _))
  · intro c hc
    refine isDigit_of_mem_toDigits (m := m) ?_
    rw [hn]
    exact List.mem_append_left _ hc

end Digits

/-! ## Grids -/

theorem below_iff (num : Nat) (hden : 0 < den) (place : Int) :
    (if 0 ≤ place then num < den * tenTo place.toNat else num * tenTo (-place).toNat < den) ↔
      (num / den : ℚ) < 10 ^ place := by
  have hpos : (0 : ℚ) < den := Nat.cast_pos.2 hden
  rw [div_lt_iff₀ hpos]
  split
  · next h =>
    obtain ⟨j, rfl⟩ := Int.eq_ofNat_of_zero_le h
    rw [zpow_natCast, mul_comm, Int.toNat_natCast]
    exact_mod_cast Iff.rfl
  · next h =>
    obtain ⟨j, rfl⟩ := Int.exists_eq_neg_ofNat (Int.le_of_not_le h)
    rw [zpow_neg, zpow_natCast, neg_neg, Int.toNat_natCast, ← div_eq_inv_mul,
      lt_div_iff₀ (by positivity)]
    exact_mod_cast Iff.rfl

theorem leadingPlace_spec (hden : 0 < den) (fuel : Nat) {start : Int}
    (hlow : (10 : ℚ) ^ (start - 1) ≤ num / den) (hfuel : (num / den : ℚ) < 10 ^ (start + fuel)) :
    (10 : ℚ) ^ (Format.leadingPlace num den fuel start - 1) ≤ num / den ∧
      (num / den : ℚ) < 10 ^ Format.leadingPlace num den fuel start := by
  induction fuel generalizing start with
  | zero =>
    rw [Format.leadingPlace]
    exact ⟨hlow, by simpa using hfuel⟩
  | succ fuel ih =>
    rw [Format.leadingPlace]
    by_cases hbelow : (num / den : ℚ) < 10 ^ start
    · rw [if_pos ((below_iff num hden start).2 hbelow)]
      exact ⟨hlow, hbelow⟩
    · rw [if_neg ((below_iff num hden start).not.2 hbelow)]
      refine ih ?_ ?_
      · rw [add_sub_cancel_right]
        exact not_lt.1 hbelow
      · rwa [add_assoc, add_comm 1, ← Nat.cast_succ]

theorem onGrid_eq (num den : Nat) (grid : Int) :
    ((Format.onGrid num den grid).1 / (Format.onGrid num den grid).2 : ℚ) =
      num / den / 10 ^ grid := by
  rw [Format.onGrid]
  split
  · next h =>
    obtain ⟨j, rfl⟩ := Int.eq_ofNat_of_zero_le h
    simp [tenTo, div_div]
  · next h =>
    obtain ⟨j, rfl⟩ := Int.exists_eq_neg_ofNat (Int.le_of_not_le h)
    simp [tenTo, div_mul_eq_mul_div]

/-- The neighbour below on a grid. -/
def lowOn (num den : Nat) (grid : Int) : Nat :=
  (Format.onGrid num den grid).1 / (Format.onGrid num den grid).2

theorem lowOn_eq (num den : Nat) (grid : Int) :
    lowOn num den grid = ⌊(num / den / 10 ^ grid : ℚ)⌋₊ := by
  rw [← onGrid_eq, Nat.floor_div_eq_div]
  rfl

/-! ## The search -/

/-- One of the two neighbours on a grid, if it reads back. -/
theorem readsBackOn_cases (f : Format) (tie : Tie) (k num den : Nat) (grid : Int) :
    (f.readsBackOn tie k num den grid = none ∧ f.ofDecimal (lowOn num den grid) grid ≠ k) ∨
    ∃ m, f.readsBackOn tie k num den grid = some m ∧ f.ofDecimal m grid = k := by
  unfold Format.readsBackOn lowOn
  generalize Format.onGrid num den grid = quotient
  obtain ⟨n, d⟩ := quotient
  dsimp only
  split
  · next hlow hhigh => exact .inl ⟨rfl, beq_eq_false_iff_ne.1 hlow⟩
  · next hlow hhigh => exact .inr ⟨n / d, rfl, beq_iff_eq.1 hlow⟩
  · next hlow hhigh => exact .inr ⟨n / d + 1, rfl, beq_iff_eq.1 hhigh⟩
  · next hlow hhigh =>
    -- both read back, and whichever is taken is one of them
    have hlow : f.ofDecimal (n / d) grid = k := beq_iff_eq.1 hlow
    have hhigh : f.ofDecimal (n / d + 1) grid = k := beq_iff_eq.1 hhigh
    split_ifs
    · exact .inr ⟨n / d, rfl, hlow⟩
    · exact .inr ⟨n / d + 1, rfl, hhigh⟩
    · cases tie with
      | up => exact .inr ⟨n / d + 1, rfl, hhigh⟩
      | toEven =>
        refine .inr ⟨_, rfl, ?_⟩
        rcases Nat.mod_two_eq_zero_or_one (n / d) with heven | hodd
        · rwa [heven]
        · rwa [hodd]

/-- **The search ends with digits that read back**, if there are any on the grids it tries. -/
theorem exists_shortestFrom (tie : Tie) (fuel count : Nat) {c : Nat} (hcount : count ≤ c)
    (hfuel : c < count + fuel)
    (h : f.ofDecimal (lowOn num den (place - c)) (place - c) = k) :
    ∃ m grid, f.shortestFrom tie k num den place fuel count = Digits.ofNat m grid ∧
      f.ofDecimal m grid = k := by
  induction fuel generalizing count with
  | zero => omega
  | succ fuel ih =>
    rw [Format.shortestFrom]
    rcases readsBackOn_cases f tie k num den (place - count) with ⟨hnone, hlow⟩ | ⟨m, hsome, hm⟩
    · rw [hnone]
      refine ih (count + 1) (Nat.lt_of_le_of_ne hcount ?_) (by omega)
      rintro rfl
      exact hlow h
    · rw [hsome]
      exact ⟨m, place - count, rfl, hm⟩

/-! ## Magnitudes -/

theorem valueOf_bounds (hpos : 0 < k) (hfinite : k < binary64.infinity) :
    (10 : ℚ) ^ (-400 : Int) ≤ binary64.valueOf k ∧ binary64.valueOf k < 10 ^ (400 : Int) := by
  obtain ⟨m, q, hparts, hm, hcases⟩ := exists_parts k
  have hinfinity := infinity_eq
  have hmpos : (1 : ℚ) ≤ m := by
    have hmpos : 1 ≤ m := by omega
    exact_mod_cast hmpos
  have hmhigh : (m : ℚ) < 2 ^ (53 : Int) := by exact_mod_cast hm
  have hq : -1200 ≤ q ∧ 53 + q ≤ 1200 := by omega
  rw [Format.valueOf, hparts]
  constructor
  · calc (10 : ℚ) ^ (-400 : Int) ≤ 2 ^ (-1200 : Int) := ten_zpow_neg_le_two_zpow
      _ ≤ 2 ^ q := zpow_le_zpow_right₀ one_le_two hq.1
      _ ≤ m * 2 ^ q := le_mul_of_one_le_left (two_zpow_pos q).le hmpos
  · calc (m * 2 ^ q : ℚ) < 2 ^ (53 : Int) * 2 ^ q := mul_lt_mul_of_pos_right hmhigh (two_zpow_pos q)
      _ = 2 ^ (53 + q) := (zpow_add₀ two_ne_zero _ _).symm
      _ ≤ 2 ^ (1200 : Int) := zpow_le_zpow_right₀ one_le_two hq.2
      _ ≤ 10 ^ (400 : Int) := two_zpow_le_ten_zpow 400

/-- **Eighteen digits are enough**: the neighbour below on their grid is so close that it is rounded
to the magnitude. -/
theorem ofDecimal_lowOn (hpos : 0 < k) (hfinite : k < binary64.infinity)
    (hvalue : (num / den : ℚ) = binary64.valueOf k)
    (hplace : (10 : ℚ) ^ (place - 1) ≤ binary64.valueOf k) :
    binary64.ofDecimal (lowOn num den (place - 18)) (place - 18) = k := by
  have hgrid := ten_zpow_pos (place - 18)
  have hv : 0 < binary64.valueOf k := (ten_zpow_pos _).trans_le hplace
  have hunit : (10 : ℚ) ^ (place - 18) * 10 ^ 17 ≤ binary64.valueOf k := by
    have hsplit : (10 : ℚ) ^ (place - 18) * 10 ^ 17 = 10 ^ (place - 1) := by
      rw [← zpow_natCast, ← zpow_add₀ (by norm_num)]
      congr 1
      omega
    rwa [hsplit]
  have hlow : (lowOn num den (place - 18) : ℚ) * 10 ^ (place - 18) ≤ binary64.valueOf k := by
    rw [← le_div_iff₀ hgrid, lowOn_eq, hvalue]
    exact Nat.floor_le (div_pos hv hgrid).le
  have hhigh : binary64.valueOf k < (lowOn num den (place - 18) + 1) * 10 ^ (place - 18) := by
    rw [← div_lt_iff₀ hgrid, lowOn_eq, hvalue]
    exact Nat.lt_floor_add_one _
  rw [ofDecimal_eq]
  exact nearestTo_of_close hpos hfinite (by linarith) hlow

/-- **The shortest digits of a magnitude read back to it.** -/
theorem shortest_reads_back (hpos : 0 < k) (hfinite : k < binary64.infinity) (tie : Tie) :
    (binary64.shortest tie k).IsProper ∧
      binary64.nearestTo (binary64.shortest tie k).value = k := by
  obtain ⟨hlow, hhigh⟩ := valueOf_bounds hpos hfinite
  have hvalue := ratio_eq binary64 k
  rw [← hvalue] at hlow hhigh
  have hstart : (10 : ℚ) ^ (-(Format.decimalReach : Int) - 1) ≤ 10 ^ (-400 : Int) :=
    zpow_le_zpow_right₀ (by norm_num) (by decide)
  have hplace := leadingPlace_spec (ratio_pos binary64 k) (2 * Format.decimalReach)
    (hstart.trans hlow) hhigh
  rw [hvalue] at hplace
  obtain ⟨m, grid, hdigits, hm⟩ := exists_shortestFrom tie binary64.precision 1 (by decide)
    (by decide) (ofDecimal_lowOn hpos hfinite hvalue hplace.1)
  have hshortest : binary64.shortest tie k = Digits.ofNat m grid := hdigits
  have hne : m ≠ 0 := by
    rintro rfl
    exact hpos.ne hm
  rw [hshortest, Digits.value_ofNat, ← ofDecimal_eq]
  exact ⟨Digits.isProper_ofNat hne grid, hm⟩

end CodeSnapshot.Decimal
