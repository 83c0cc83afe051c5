import CodeSnapshot.Proofs.Decimal.ShortestDigits

/-!
# Written numbers — a finite number is read back from what is written for it

A number is written in full, with its shortest digits and a point where one is needed.

* **`IsPlainText`** — digits, and perhaps a point between them, that write a certain number;
  `IsPlainText.exists_readMagnitude?` says that it is read from them.
* **`isPlainText_positional`** — digits in full are such a text, wherever their point is.
* **`Double.ofText?_toText`** — the headline.
-/

namespace CodeSnapshot

namespace Decimal

variable {whole fraction : List Char} {d : Digits} {k : Nat}

/-! ## Digits and a point -/

theorem readMagnitude?_point (hwhole : ∀ c ∈ whole, isDigit c = true) (hne : whole ≠ [])
    (hfraction : ∀ c ∈ fraction, isDigit c = true) :
    readMagnitude? (whole ++ '.' :: fraction) =
      some (.finite (natOfDigits (whole ++ fraction)) (-(fraction.length : Int))) := by
  have hpoint : isDigit '.' ≠ true := by decide
  have htake : (whole ++ '.' :: fraction).takeWhile isDigit = whole := by
    rw [List.takeWhile_append_of_pos hwhole, List.takeWhile_cons_of_neg hpoint, List.append_nil]
  have hdrop : (whole ++ '.' :: fraction).dropWhile isDigit = '.' :: fraction := by
    rw [List.dropWhile_append_of_pos hwhole, List.dropWhile_cons_of_neg hpoint]
  have htake' : fraction.takeWhile isDigit = fraction := List.takeWhile_eq_self_iff.2 hfraction
  have hdrop' : fraction.dropWhile isDigit = [] := List.dropWhile_eq_nil_iff.2 hfraction
  simp [readMagnitude?, htake, hdrop, htake', hdrop', hne]

theorem isDigit_of_mem_zeros {n : Nat} {c : Char} (hc : c ∈ zeros n) : isDigit c = true := by
  rw [List.eq_of_mem_replicate hc]
  rfl

/-- A number that is written with digits, and perhaps a point between them. -/
inductive IsPlainText (r : ℚ) : List Char → Prop where
  | whole (whole : List Char) (hne : whole ≠ []) (hwhole : ∀ c ∈ whole, isDigit c = true)
      (hr : (natOfDigits whole : ℚ) = r) : IsPlainText r whole
  | point (whole fraction : List Char) (hne : whole ≠ []) (hwhole : ∀ c ∈ whole, isDigit c = true)
      (hfraction : ∀ c ∈ fraction, isDigit c = true)
      (hr : (natOfDigits (whole ++ fraction) * 10 ^ (-(fraction.length : Int)) : ℚ) = r) :
      IsPlainText r (whole ++ '.' :: fraction)

namespace IsPlainText

variable {r : ℚ} {cs : List Char}

theorem exists_readMagnitude? (h : IsPlainText r cs) :
    ∃ m e, readMagnitude? cs = some (.finite m e) ∧ (m * 10 ^ e : ℚ) = r := by
  cases h with
  | whole whole hne hwhole hr =>
    exact ⟨_, 0, readMagnitude?_of_digits hne hwhole, by rw [zpow_zero, mul_one, hr]⟩
  | point whole fraction hne hwhole hfraction hr =>
    exact ⟨_, _, readMagnitude?_point hwhole hne hfraction, hr⟩

theorem exists_cons (h : IsPlainText r cs) : ∃ c rest, cs = c :: rest ∧ isDigit c = true := by
  cases h with
  | whole whole hne hwhole hr | point whole fraction hne hwhole =>
    obtain ⟨c, rest, rfl⟩ := List.exists_cons_of_ne_nil hne
    exact ⟨c, _, rfl, hwhole c List.mem_cons_self⟩

theorem isDigit_or_eq_of_mem (h : IsPlainText r cs) {c : Char} (hc : c ∈ cs) :
    isDigit c = true ∨ c = '.' := by
  cases h with
  | whole whole hne hwhole hr => exact .inl (hwhole c hc)
  | point whole fraction hne hwhole hfraction hr =>
    rcases List.mem_append.1 hc with hc | hc
    · exact .inl (hwhole c hc)
    · rcases List.mem_cons.1 hc with rfl | hc
      · exact .inr rfl
      · exact .inl (hfraction c hc)

end IsPlainText

/-- **Digits that are written in full** write the number that they stand for, wherever the point
is. -/
theorem isPlainText_positional (hd : d.IsProper) : IsPlainText d.value d.positional := by
  obtain ⟨hne, hdigits⟩ := hd
  rw [Digits.positional, Digits.value]
  split
  · next hpoint =>
    obtain ⟨n, hn⟩ := Int.exists_eq_neg_ofNat hpoint
    rw [hn, neg_neg, Int.toNat_natCast]
    refine .point ['0'] _ (List.cons_ne_nil _ _) (List.forall_mem_singleton.2 rfl)
      (fun c hc => ?_) ?_
    · rcases List.mem_append.1 hc with hc | hc
      · exact isDigit_of_mem_zeros hc
      · exact hdigits c hc
    · have hzeros : ['0'] ++ (zeros n ++ d.digits) = zeros (n + 1) ++ d.digits := rfl
      have hlength : (zeros n ++ d.digits).length = n + d.digits.length := by simp [zeros]
      rw [hzeros, natOfDigits_zeros_append, hlength, Nat.cast_add, neg_add, sub_eq_add_neg]
  · next hpoint =>
    obtain ⟨n, hn⟩ := Int.eq_ofNat_of_zero_le (Int.le_of_not_le hpoint)
    rw [hn, Int.toNat_natCast]
    split
    · next hlength =>
      obtain ⟨j, rfl⟩ := Nat.exists_eq_add_of_le hlength
      refine .whole _ (by simp [hne]) (fun c hc => ?_) ?_
      · rcases List.mem_append.1 hc with hc | hc
        · exact hdigits c hc
        · exact isDigit_of_mem_zeros hc
      · rw [natOfDigits_append_zeros, Nat.add_sub_cancel_left, Nat.cast_add, add_sub_cancel_left,
          zpow_natCast]
        push_cast
        rfl
    · next hlength =>
      have hlt : n < d.digits.length := Nat.not_le.1 hlength
      refine .point _ _ ?_ (fun c hc => hdigits c (List.mem_of_mem_take hc))
        (fun c hc => hdigits c (List.mem_of_mem_drop hc)) ?_
      · rw [Ne, List.take_eq_nil_iff, not_or]
        exact ⟨by omega, hne⟩
      · rw [List.take_append_drop, List.length_drop, Nat.cast_sub hlt.le, neg_sub]

theorem isPlainText_writeInFull (hfinite : k < binary64.infinity) :
    ∃ r, IsPlainText r (binary64.writeInFull k) ∧ binary64.nearestTo r = k := by
  rw [Format.writeInFull]
  split
  · next hzero =>
    refine ⟨0, .whole ['0'] (List.cons_ne_nil _ _) (List.forall_mem_singleton.2 rfl) Nat.cast_zero,
      ?_⟩
    rw [hzero, Format.nearestTo, if_pos rfl]
  · next hne =>
    obtain ⟨hproper, hreads⟩ := shortest_reads_back (Nat.pos_of_ne_zero hne) hfinite .up
    exact ⟨_, isPlainText_positional hproper, hreads⟩

end Decimal

namespace Double

open Decimal

variable {x : Double}

theorem ofMagnitude_isNegative_magnitude (x : Double) :
    ofMagnitude x.isNegative x.magnitude = x := by
  obtain ⟨bits⟩ := x
  have hlt : bits.toNat < 2 ^ 64 := bits.toNat_lt
  have hbits : (bits.toNat % 2 ^ 63 + if 2 ^ 63 ≤ bits.toNat then 2 ^ 63 else 0) = bits.toNat := by
    split
    · omega
    · omega
  rw [ofMagnitude, isNegative, magnitude, signBit_eq]
  simp only [decide_eq_true_eq]
  rw [hbits, Nat.toUInt64_eq, UInt64.ofNat_toNat]

theorem toText_of_isFinite (hx : x.isFinite = true) :
    x.toText = if x.isNegative then '-' :: binary64.writeInFull x.magnitude
      else binary64.writeInFull x.magnitude := by
  have hnan : x.isNaN = false := by
    rw [isFinite, decide_eq_true_eq] at hx
    exact decide_eq_false (Nat.not_lt.2 hx.le)
  simp [toText, hnan, hx]

theorem toText_of_not_isFinite (hx : ¬ x.isFinite = true) :
    x.toText = "NaN".toList ∨ x.toText = "inf".toList ∨ x.toText = "-inf".toList := by
  rw [toText]
  cases x.isNaN with
  | true => exact .inl rfl
  | false =>
    cases x.isNegative with
    | false => exact .inr (.inl (by simp [hx]))
    | true => exact .inr (.inr (by simp [hx]))

/-- **A finite number is read back from its text**, down to the sign of a zero. -/
theorem ofText?_toText (hx : x.isFinite = true) : ofText? x.toText = some x := by
  obtain ⟨r, htext, hr⟩ := isPlainText_writeInFull (of_decide_eq_true hx)
  obtain ⟨m, e, hread, hme⟩ := htext.exists_readMagnitude?
  obtain ⟨c, rest, hcons, hc⟩ := htext.exists_cons
  have hreads : read? x.toText = some (x.isNegative, .finite m e) := by
    rw [toText_of_isFinite hx]
    rw [hcons] at hread ⊢
    obtain ⟨hplain, hminus⟩ := read?_of_isDigit rest hc
    cases x.isNegative with
    | false => exact hplain.trans (congrArg _ hread)
    | true => exact hminus.trans (congrArg _ hread)
  rw [ofText?, hreads]
  show some (ofMagnitude x.isNegative (binary64.ofDecimal m e)) = some x
  rw [ofDecimal_eq, hme, hr, ofMagnitude_isNegative_magnitude]

end Double

end CodeSnapshot
