import CodeSnapshot.Decimal.Double
import Mathlib.Algebra.Group.Int.Defs
import Mathlib.Algebra.Group.Nat.Defs
import Mathlib.Data.List.TakeWhile

/-!
# Whole numbers — counting with floating point numbers

A whole number that is written or computed is held as the nearest number of 53 significant bits. Who
counts with it notices nothing as long as it is below 2^53, or as long as there is nothing to count
beyond that.

* **`ofRatio_of_short`**, **`le_ofRatio_of_long`** — the bits of a whole number, exactly if it fits
  into 53 bits, and from below if it does not.
* **`toNat_ofInt`**, **`le_toNat_ofInt`**, **`toNat_ofInt_of_neg`** — the natural number that is read
  from it; `take_toNat_ofInt` is what that comes to for a list.
* **`ofText?_int`** — the number that the digits of a whole number write.
-/

namespace CodeSnapshot

namespace Decimal

variable {m k : Nat}

theorem infinity_eq : binary64.infinity = 2047 * 2 ^ 52 := rfl

/-! ## Rounding -/

theorem le_nearest (num den : Nat) : num / den ≤ nearest num den := by
  unfold nearest
  dsimp only
  split
  · exact Nat.le_refl _
  · split
    · exact Nat.le_succ _
    · exact Nat.le_add_right _ _

theorem nearest_one (num : Nat) : nearest num 1 = num := by
  simp [nearest, Nat.mod_one]

theorem exponentOf_one (hm : m ≠ 0) : Format.exponentOf m 1 = m.log2 := by
  have hle : 1 * twoTo m.log2 ≤ m := by
    rw [Nat.one_mul]
    exact Nat.log2_self_le hm
  have hone : ((1 : Nat).log2 : Int) = 0 := by decide
  unfold Format.exponentOf scaled
  simp only [hone, Int.sub_zero, Int.natCast_nonneg, if_true, Int.toNat_natCast, hle]

theorem ofRatio_one (hm : m ≠ 0) :
    binary64.ofRatio m 1 = min binary64.infinity
      ((m.log2 + 1022) * 2 ^ 52 +
        nearest (scaled m 1 (m.log2 - 52)).1 (scaled m 1 (m.log2 - 52)).2) := by
  have hexp : max ((m.log2 : Int) - (binary64.precision - 1 : Int)) (-(binary64.lowest : Int)) =
      (m.log2 : Int) - 52 := by
    show max ((m.log2 : Int) - (53 - 1)) (-1074) = _
    omega
  have hbias : ((m.log2 : Int) - 52 + binary64.lowest).toNat = m.log2 + 1022 := by
    show ((m.log2 : Int) - 52 + 1074).toNat = _
    omega
  rw [Format.ofRatio, if_neg hm, exponentOf_one hm, hexp]
  dsimp only
  rw [hbias]
  rfl

/-- The significand of a number of at most 53 bits, moved up to its place. -/
theorem significand_bounds (hm : m ≠ 0) (h : m.log2 ≤ 52) :
    2 ^ 52 ≤ m * 2 ^ (52 - m.log2) ∧ m * 2 ^ (52 - m.log2) < 2 ^ 53 := by
  have hpos : 0 < 2 ^ (52 - m.log2) := Nat.two_pow_pos _
  constructor
  · calc 2 ^ 52 = 2 ^ m.log2 * 2 ^ (52 - m.log2) := by rw [← Nat.pow_add, Nat.add_sub_cancel' h]
      _ ≤ m * 2 ^ (52 - m.log2) := Nat.mul_le_mul_right _ (Nat.log2_self_le hm)
  · calc m * 2 ^ (52 - m.log2) < 2 ^ (m.log2 + 1) * 2 ^ (52 - m.log2) :=
          Nat.mul_lt_mul_of_pos_right Nat.lt_log2_self hpos
      _ = 2 ^ 53 := by
        rw [← Nat.pow_add]
        congr 1
        omega

/-- A number of at most 53 bits is held as it is. -/
theorem ofRatio_of_short (hm : m ≠ 0) (h : m.log2 ≤ 52) :
    binary64.ofRatio m 1 = (m.log2 + 1022) * 2 ^ 52 + m * 2 ^ (52 - m.log2) := by
  have hnearest : nearest (scaled m 1 (m.log2 - 52)).1 (scaled m 1 (m.log2 - 52)).2 =
      m * 2 ^ (52 - m.log2) := by
    rcases Nat.lt_or_eq_of_le h with hlt | heq
    · have hneg : ¬ (0 : Int) ≤ (m.log2 : Int) - 52 := by omega
      have hshift : (-((m.log2 : Int) - 52)).toNat = 52 - m.log2 := by omega
      rw [scaled, if_neg hneg, nearest_one, hshift]
      rfl
    · rw [heq]
      exact (nearest_one m).trans (Nat.mul_one m).symm
  have hbounds := (significand_bounds hm h).2
  rw [ofRatio_one hm, hnearest, infinity_eq]
  omega

/-- A number of more bits is held as one that is not below its leading bit. -/
theorem le_ofRatio_of_long (hm : m ≠ 0) (h : 53 ≤ m.log2) :
    min binary64.infinity ((m.log2 + 1023) * 2 ^ 52) ≤ binary64.ofRatio m 1 := by
  have hnonneg : (0 : Int) ≤ (m.log2 : Int) - 52 := by omega
  have hshift : ((m.log2 : Int) - 52).toNat = m.log2 - 52 := by omega
  have hnearest : 2 ^ 52 ≤
      nearest (scaled m 1 (m.log2 - 52)).1 (scaled m 1 (m.log2 - 52)).2 := by
    rw [scaled, if_pos hnonneg, hshift, Nat.one_mul]
    refine Nat.le_trans ?_ (le_nearest m (twoTo (m.log2 - 52)))
    apply (Nat.le_div_iff_mul_le (Nat.two_pow_pos (m.log2 - 52))).2
    calc 2 ^ 52 * 2 ^ (m.log2 - 52) = 2 ^ m.log2 := by
          rw [← Nat.pow_add, Nat.add_sub_cancel' (by omega)]
      _ ≤ m := Nat.log2_self_le hm
  rw [ofRatio_one hm]
  omega

theorem ofRatio_le_infinity (num den : Nat) : binary64.ofRatio num den ≤ binary64.infinity := by
  unfold Format.ofRatio
  split
  · exact Nat.zero_le _
  · exact Nat.min_le_left _ _

/-! ## Reading the bits -/

theorem parts_of_normal (h : 2 ^ 52 ≤ k) :
    binary64.parts k = (k % 2 ^ 52 + 2 ^ 52, ((k / 2 ^ 52 : Nat) : Int) - 1 - 1074) :=
  if_neg (Nat.not_lt.2 h)

/-- The whole part of a number that is held. -/
def wholePart (k : Nat) : Nat :=
  (binary64.ratio k).1 / (binary64.ratio k).2

theorem wholePart_of_short (hm : m ≠ 0) (h : m.log2 ≤ 52) :
    wholePart (binary64.ofRatio m 1) = m := by
  obtain ⟨hlow, hhigh⟩ := significand_bounds hm h
  have hk := ofRatio_of_short hm h
  generalize hs : m * 2 ^ (52 - m.log2) = significand at hlow hhigh hk
  have hparts : binary64.parts (binary64.ofRatio m 1) =
      (significand, (m.log2 : Int) - 52) := by
    rw [parts_of_normal (by omega), Prod.mk.injEq]
    omega
  have hpos : 0 < 2 ^ (52 - m.log2) := Nat.two_pow_pos _
  have hshift : (-((m.log2 : Int) - 52)).toNat = 52 - m.log2 := by omega
  rw [wholePart, Format.ratio, hparts]
  dsimp only
  -- the exponent is below zero, but for a number of exactly 53 bits
  rcases Nat.lt_or_eq_of_le h with hlt | heq
  · rw [if_neg (by omega), hshift, ← hs]
    exact Nat.mul_div_cancel m hpos
  · rw [if_pos (by omega), ← hs, heq]
    show m * 2 ^ 0 * 2 ^ 0 / 1 = m
    simp

theorem le_wholePart (h : 1076 * 2 ^ 52 ≤ k) : 2 ^ 53 ≤ wholePart k := by
  have hexp : ((1 : Nat) : Int) ≤ ((k / 2 ^ 52 : Nat) : Int) - 1 - 1074 := by omega
  rw [wholePart, Format.ratio, parts_of_normal (by omega)]
  dsimp only
  rw [if_pos (by omega), Nat.div_one]
  calc 2 ^ 53 = 2 ^ 52 * 2 ^ 1 := rfl
    _ ≤ (k % 2 ^ 52 + 2 ^ 52) * 2 ^ (((k / 2 ^ 52 : Nat) : Int) - 1 - 1074).toNat :=
      Nat.mul_le_mul (Nat.le_add_left _ _) (Nat.pow_le_pow_right (by decide) (by omega))

end Decimal

namespace Double

open Decimal

variable {k : Nat} {n : Int} {negative : Bool}

/-- The number nearest to an integer. -/
def ofInt (n : Int) : Double :=
  ofMagnitude (n < 0) (binary64.ofRatio n.natAbs 1)

/-! ## Sign and magnitude -/

theorem signBit_eq : signBit = 2 ^ 63 := rfl

theorem toNat_bits_ofMagnitude (hk : k ≤ binary64.infinity) :
    (ofMagnitude negative k).bits.toNat = k + if negative then 2 ^ 63 else 0 := by
  have hinfinity := infinity_eq
  rw [ofMagnitude, signBit_eq]
  apply Nat.mod_eq_of_lt
  show _ < 2 ^ 64
  split
  · omega
  · omega

theorem magnitude_ofMagnitude (hk : k ≤ binary64.infinity) :
    (ofMagnitude negative k).magnitude = k := by
  have hinfinity := infinity_eq
  have hlt : k < 2 ^ 63 := by omega
  rw [magnitude, toNat_bits_ofMagnitude hk, signBit_eq]
  cases negative with
  | false => exact Nat.mod_eq_of_lt hlt
  | true => exact (Nat.add_mod_right k _).trans (Nat.mod_eq_of_lt hlt)

theorem isNegative_ofMagnitude (hk : k ≤ binary64.infinity) :
    (ofMagnitude negative k).isNegative = negative := by
  have hinfinity := infinity_eq
  rw [isNegative, toNat_bits_ofMagnitude hk, signBit_eq]
  cases negative with
  | false => exact decide_eq_false (by simp; omega)
  | true => exact decide_eq_true (Nat.le_add_left _ _)

/-! ## Counting -/

theorem toNat_ofInt_of_neg (h : n < 0) : (ofInt n).toNat = 0 := by
  have hnegative : (ofInt n).isNegative = true := by
    rw [ofInt, isNegative_ofMagnitude (ofRatio_le_infinity _ _)]
    exact decide_eq_true h
  rw [toNat, hnegative, Bool.or_true, if_pos rfl]

theorem toNat_ofMagnitude (hk : k ≤ binary64.infinity) :
    (ofMagnitude false k).toNat =
      if k < binary64.infinity then min natLimit (wholePart k) else natLimit := by
  have hnan : (ofMagnitude false k).isNaN = false := by
    rw [isNaN, magnitude_ofMagnitude hk]
    exact decide_eq_false (Nat.not_lt.2 hk)
  rw [toNat, hnan, isNegative_ofMagnitude hk, isFinite, truncatedMagnitude,
    magnitude_ofMagnitude hk]
  simp [wholePart]

/-- A number below 2^53 counts as itself. -/
theorem toNat_ofInt (hlow : 0 ≤ n) (hhigh : n < 2 ^ 53) : (ofInt n).toNat = n.toNat := by
  obtain ⟨m, rfl⟩ := Int.eq_ofNat_of_zero_le hlow
  show (ofMagnitude false (binary64.ofRatio m 1)).toNat = m
  by_cases hm : m = 0
  · rw [hm]
    decide +kernel
  · have hbits : m < 2 ^ 53 := by omega
    have hlog : m.log2 ≤ 52 := Nat.le_of_lt_succ ((Nat.log2_lt hm).2 hbits)
    have hfinite : binary64.ofRatio m 1 < binary64.infinity := by
      have hbounds := (significand_bounds hm hlog).2
      rw [ofRatio_of_short hm hlog, infinity_eq]
      omega
    have hlimit : m ≤ natLimit := Nat.le_trans (Nat.le_of_lt hbits) (by decide)
    rw [toNat_ofMagnitude (Nat.le_of_lt hfinite), if_pos hfinite, wholePart_of_short hm hlog]
    exact Nat.min_eq_right hlimit

/-- A number from 2^53 on counts as one from 2^53 on. -/
theorem le_toNat_ofInt (h : 2 ^ 53 ≤ n) : 2 ^ 53 ≤ (ofInt n).toNat := by
  obtain ⟨m, rfl⟩ := Int.eq_ofNat_of_zero_le (show 0 ≤ n by omega)
  show 2 ^ 53 ≤ (ofMagnitude false (binary64.ofRatio m 1)).toNat
  have hm : m ≠ 0 := by omega
  have hlog : 53 ≤ m.log2 := (Nat.le_log2 hm).2 (by omega)
  have hlimit : 2 ^ 53 ≤ natLimit := by decide
  rw [toNat_ofMagnitude (ofRatio_le_infinity m 1)]
  split
  · next hfinite =>
    have hk : 1076 * 2 ^ 52 ≤ binary64.ofRatio m 1 := by
      have hlong := le_ofRatio_of_long hm hlog
      omega
    exact Nat.le_min.2 ⟨hlimit, le_wholePart hk⟩
  · exact hlimit

/-- **As many of some values** as a whole number says, unless there are more of them than can be
counted. -/
theorem take_toNat_ofInt {α : Type} {vs : List α} (h : n < 2 ^ 53 ∨ vs.length ≤ 2 ^ 53) :
    vs.take (ofInt n).toNat = vs.take n.toNat := by
  rcases Int.lt_or_le n 0 with hneg | hnonneg
  · rw [toNat_ofInt_of_neg hneg, Int.toNat_of_nonpos (Int.le_of_lt hneg)]
  · rcases Int.lt_or_le n (2 ^ 53) with hlt | hge
    · rw [toNat_ofInt hnonneg hlt]
    · have hlength : vs.length ≤ 2 ^ 53 := h.resolve_left (Int.not_lt.2 hge)
      rw [List.take_of_length_le (Nat.le_trans hlength (le_toNat_ofInt hge)),
        List.take_of_length_le (by omega)]

end Double

/-! ## Reading digits -/

namespace Decimal

variable {m : Nat} {digits : List Char}

theorem isDigit_of_mem_toDigits {c : Char} (hc : c ∈ Nat.toDigits 10 m) : isDigit c = true :=
  Nat.isDigit_of_mem_toDigits (by decide) (by decide) hc

theorem natOfDigits_toDigits (m : Nat) : natOfDigits (Nat.toDigits 10 m) = m := by
  rw [natOfDigits, ← Nat.ofDigitChars_eq_foldl]
  exact Nat.ofDigitChars_ten_toDigits

theorem readMagnitude?_of_digits (hne : digits ≠ []) (hall : ∀ c ∈ digits, isDigit c = true) :
    readMagnitude? digits = some (.finite (natOfDigits digits) 0) := by
  have hwhole : digits.takeWhile isDigit = digits := List.takeWhile_eq_self_iff.2 hall
  have hrest : digits.dropWhile isDigit = [] := List.dropWhile_eq_nil_iff.2 hall
  simp [readMagnitude?, hwhole, hrest, hne]

/-- No word begins with a digit. -/
theorem lowered_ne_of_isDigit {c d : Char} {rest word : List Char} (hc : isDigit c = true)
    (hd : '9' < d) : lowered (c :: rest) ≠ d :: word := by
  intro h
  have hle : c ≤ '9' := by
    rw [isDigit, Bool.and_eq_true] at hc
    exact of_decide_eq_true hc.2
  have hlower : c.toLower = c := by
    apply dif_neg
    intro hupper
    have hAc : 'A' ≤ c := hupper.1
    exact absurd (Char.le_trans hAc hle) (by decide)
  have hcd : c = d := by
    rw [← hlower]
    exact (List.cons.inj h).1
  exact absurd hle (Char.not_le.2 (hcd ▸ hd))

/-- What begins with a digit has no sign and is no word. -/
theorem read?_of_isDigit {c : Char} (rest : List Char) (hc : isDigit c = true) :
    read? (c :: rest) = (readMagnitude? (c :: rest)).map (false, ·) ∧
    read? ('-' :: c :: rest) = (readMagnitude? (c :: rest)).map (true, ·) := by
  have hminus : c ≠ '-' := by
    rintro rfl
    cases hc
  have hplus : c ≠ '+' := by
    rintro rfl
    cases hc
  have hinf : lowered (c :: rest) ≠ ['i', 'n', 'f'] := lowered_ne_of_isDigit hc (by decide)
  have hinfinity : lowered (c :: rest) ≠ ['i', 'n', 'f', 'i', 'n', 'i', 't', 'y'] :=
    lowered_ne_of_isDigit hc (by decide)
  have hnan : lowered (c :: rest) ≠ ['n', 'a', 'n'] := lowered_ne_of_isDigit hc (by decide)
  constructor
  · simp [read?, hminus, hplus, hinf, hinfinity, hnan]
  · simp [read?, hinf, hinfinity, hnan]

theorem read?_of_digits (hne : digits ≠ []) (hall : ∀ c ∈ digits, isDigit c = true) :
    read? digits = some (false, .finite (natOfDigits digits) 0) ∧
    read? ('-' :: digits) = some (true, .finite (natOfDigits digits) 0) := by
  cases digits with
  | nil => exact absurd rfl hne
  | cons c rest =>
    obtain ⟨hplain, hminus⟩ := read?_of_isDigit rest (hall c List.mem_cons_self)
    rw [hplain, hminus, readMagnitude?_of_digits hne hall]
    exact ⟨rfl, rfl⟩

/-- A whole number of more than 400 digits is infinite, in whichever way it is read. -/
theorem ofRatio_of_huge (hm : m ≠ 0) (h : 400 < (Nat.toDigits 10 m).length) :
    binary64.ofRatio m 1 = binary64.infinity := by
  -- each digit but the first is worth three bits
  have hbits (k : Nat) (hpos : 0 < k) (hk : k < (Nat.toDigits 10 m).length) : 3 * k ≤ m.log2 := by
    have hten : 10 ^ k ≤ m :=
      Nat.not_lt.1 fun hlt => Nat.not_le.2 hk ((Nat.length_toDigits_le_iff (by decide) hpos).2 hlt)
    apply (Nat.le_log2 hm).2
    calc 2 ^ (3 * k) = (2 ^ 3) ^ k := Nat.pow_mul 2 3 k
      _ ≤ 10 ^ k := Nat.pow_le_pow_left (by decide) k
      _ ≤ m := hten
  have hlog : 1024 ≤ m.log2 := Nat.le_trans (by decide) (hbits 400 (by decide) h)
  have hlong := le_ofRatio_of_long hm (Nat.le_trans (by decide) hlog)
  have hinfinity := infinity_eq
  have hle := ofRatio_le_infinity m 1
  omega

theorem ofDecimal_zero (m : Nat) : binary64.ofDecimal m 0 = binary64.ofRatio m 1 := by
  unfold Format.ofDecimal
  dsimp only
  split
  · next hm =>
    rw [hm]
    rfl
  · next hm =>
    split
    · next hlong =>
      have hreach : Format.decimalReach = 400 := rfl
      rw [hreach] at hlong
      exact (ofRatio_of_huge hm (by omega)).symm
    · rw [if_neg (by omega), if_pos (Int.le_refl 0)]
      show binary64.ofRatio (m * 1) 1 = _
      rw [Nat.mul_one]

theorem toList_ofNat (m : Nat) : (toString (Int.ofNat m)).toList = Nat.toDigits 10 m := by
  show m.repr.toList = _
  rw [Nat.repr_eq_ofList_toDigits, String.toList_ofList]

theorem toList_negSucc (m : Nat) :
    (toString (Int.negSucc m)).toList = '-' :: Nat.toDigits 10 (m + 1) := by
  show ("-" ++ (m + 1).repr).toList = _
  rw [Nat.repr_eq_ofList_toDigits, String.toList_append, String.toList_ofList,
    String.toList_ofList]
  rfl

end Decimal

open Decimal

/-- **The digits of a whole number** write the number nearest to it. -/
theorem Double.ofText?_int (n : Int) : ofText? (toString n).toList = some (ofInt n) := by
  have hread (m : Nat) := read?_of_digits (Nat.toDigits_ne_nil (n := m) (b := 10))
    fun _ => isDigit_of_mem_toDigits
  have hvalue (m : Nat) : binary64.ofDecimal (natOfDigits (Nat.toDigits 10 m)) 0 =
      binary64.ofRatio m 1 := by rw [natOfDigits_toDigits, ofDecimal_zero]
  cases n with
  | ofNat m =>
    rw [toList_ofNat, ofText?, (hread m).1]
    exact congrArg (fun k => some (ofMagnitude false k)) (hvalue m)
  | negSucc m =>
    have hint : ofInt (Int.negSucc m) = ofMagnitude true (binary64.ofRatio (m + 1) 1) := by
      rw [ofInt, decide_eq_true (Int.negSucc_lt_zero m)]
      rfl
    rw [toList_negSucc, ofText?, (hread (m + 1)).2, hint]
    exact congrArg (fun k => some (ofMagnitude true k)) (hvalue (m + 1))

end CodeSnapshot
