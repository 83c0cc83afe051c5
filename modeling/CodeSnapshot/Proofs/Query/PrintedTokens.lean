import CodeSnapshot.Proofs.Query.WrittenTokens
import CodeSnapshot.Text.Quoted

/-!
# Printed tokens — what a printed text is read back as

Between quotes every character that would not show is printed as an escape, but only four escapes
are read. Any other one stays as it is printed, letter by letter.

* **`Text.rereadChar`** — what a character is read back as; `Text.rereadChar_eq_iff` says which ones
  are read back as themselves, and `Text.isLegible_of_mem_rereadChar` that all are from then on.
* **`scan_inText_quoteChar`**, **`scan_inText_printed`** — the scan of one printed character, and of
  a printed text by induction.
* **`Reads`** — a text is cut into certain tokens, wherever it stands; closed under blanks between
  two texts and under parentheses.
-/

namespace CodeSnapshot

/-! ## Characters -/

namespace Text

/-- The escapes that are printed and read. -/
def sharedEscapes : List Char := ['\t', '\n', '\\', '"']

/-- What a character between quotes is read back as: itself, or the letters of its escape. -/
def rereadChar (c : Char) : List Char :=
  if c ∈ sharedEscapes then [c] else quoteChar c

/-- A character that is read back as itself. -/
def IsLegible (c : Char) : Prop :=
  c ∈ sharedEscapes ∨ isPrintable c = true

instance (c : Char) : Decidable (IsLegible c) :=
  inferInstanceAs (Decidable (_ ∨ _))

/-- What is printed for a character without an escape of its own. -/
theorem quoteChar_of_not_mem {c : Char} (h : c ∉ '\x00' :: '\r' :: sharedEscapes) :
    quoteChar c = if isPrintable c then [c]
      else '\\' :: 'u' :: '\x7b' :: (Nat.toDigits 16 c.toNat ++ ['\x7d']) := by
  unfold quoteChar
  split
  all_goals first | rfl | exact absurd (by decide) h

theorem rereadChar_eq_iff {c : Char} : rereadChar c = [c] ↔ IsLegible c := by
  rw [rereadChar, IsLegible]
  by_cases hshared : c ∈ sharedEscapes
  · simp [hshared]
  · rw [if_neg hshared, or_iff_right hshared]
    by_cases hc : c ∈ '\x00' :: '\r' :: sharedEscapes
    · obtain rfl | rfl : c = '\x00' ∨ c = '\r' := by simpa [hshared] using hc
      · decide
      · decide
    · rw [quoteChar_of_not_mem hc]
      cases isPrintable c with
      | false => simp
      | true => simp

theorem length_rereadChar_pos (c : Char) : 0 < (rereadChar c).length := by
  rw [rereadChar]
  split
  · exact Nat.one_pos
  · unfold quoteChar
    split
    case h_7 =>
      split
      · exact Nat.one_pos
      · exact Nat.succ_pos _
    all_goals exact Nat.succ_pos _

theorem length_le_length_flatMap_rereadChar (cs : List Char) :
    cs.length ≤ (cs.flatMap rereadChar).length := by
  induction cs with
  | nil => exact Nat.le_refl 0
  | cons c cs ih =>
    have hc := length_rereadChar_pos c
    rw [List.flatMap_cons, List.length_append, List.length_cons]
    omega

theorem exists_digitChar_of_mem_toDigits {c : Char} {n : Nat} (hc : c ∈ Nat.toDigits 16 n) :
    ∃ d < 16, c = Nat.digitChar d := by
  induction n using Nat.strongRecOn with
  | ind n ih =>
    rw [Nat.toDigits_eq_if (by decide)] at hc
    split at hc
    · next hlt => exact ⟨n, hlt, List.mem_singleton.1 hc⟩
    · next hge =>
      rcases List.mem_append.1 hc with hc | hc
      · exact ih (n / 16) (by omega) hc
      · exact ⟨n % 16, Nat.mod_lt n (by decide), List.mem_singleton.1 hc⟩

/-- **Whatever is read back is legible**, so that it is read back as itself the next time. -/
theorem isLegible_of_mem_rereadChar {c d : Char} (hd : d ∈ rereadChar c) : IsLegible d := by
  rw [rereadChar] at hd
  split at hd
  · next hshared =>
    rw [List.mem_singleton.1 hd]
    exact .inl hshared
  · next hshared =>
    by_cases hc : c ∈ '\x00' :: '\r' :: sharedEscapes
    · -- the backslash and the letter of an escape that is not read
      obtain ⟨letter, hletter, hquoted⟩ :
          ∃ letter, IsLegible letter ∧ quoteChar c = ['\\', letter] := by
        obtain rfl | rfl : c = '\x00' ∨ c = '\r' := by simpa [hshared] using hc
        · exact ⟨'0', by decide, rfl⟩
        · exact ⟨'r', by decide, rfl⟩
      rw [hquoted] at hd
      obtain rfl | rfl : d = '\\' ∨ d = letter := by simpa using hd
      · decide
      · exact hletter
    · rw [quoteChar_of_not_mem hc] at hd
      cases hprintable : isPrintable c with
      | true =>
        rw [hprintable, if_pos rfl] at hd
        rw [List.mem_singleton.1 hd]
        exact .inr hprintable
      | false =>
        rw [hprintable, if_neg Bool.false_ne_true] at hd
        simp only [List.mem_cons, List.mem_append, List.not_mem_nil, or_false] at hd
        rcases hd with rfl | rfl | rfl | hdigit | rfl
        · decide
        · decide
        · decide
        · obtain ⟨j, hj, rfl⟩ := exists_digitChar_of_mem_toDigits hdigit
          have hdigits : ∀ j < 16, IsLegible (Nat.digitChar j) := by decide
          exact hdigits j hj
        · decide

end Text

namespace Token

theorem scan_inText_plain {chars : List Char} (h : ∀ c ∈ chars, c ≠ '"' ∧ c ≠ '\\')
    (pos start : Nat) (front rest : List Char) :
    ∃ next, scan pos (.inText start front) (chars ++ rest) =
      scan next (.inText start (chars.reverse ++ front)) rest := by
  induction chars generalizing pos front with
  | nil => exact ⟨pos, rfl⟩
  | cons c chars ih =>
    obtain ⟨⟨hquote, hbackslash⟩, h⟩ := List.forall_mem_cons.1 h
    obtain ⟨next, hnext⟩ := ih h (pos + c.utf8Size) (c :: front)
    refine ⟨next, ?_⟩
    rw [List.cons_append, scan_inText_cons, if_neg hquote, if_neg hbackslash, hnext,
      List.reverse_cons, List.append_assoc]
    rfl

theorem scan_inText_escape (pos start : Nat) (front : List Char) (c : Char) (rest : List Char) :
    ∃ next, scan pos (.inText start front) ('\\' :: c :: rest) =
      scan next (.inText start (unescape c ++ front)) rest :=
  ⟨pos + '\\'.utf8Size + c.utf8Size, rfl⟩

/-- **One printed character**: an escape that is read is undone, and any other one stays. -/
theorem scan_inText_quoteChar (pos start : Nat) (front : List Char) (c : Char)
    (rest : List Char) :
    ∃ next, scan pos (.inText start front) (Text.quoteChar c ++ rest) =
      scan next (.inText start ((Text.rereadChar c).reverse ++ front)) rest := by
  by_cases hc : c ∈ '\x00' :: '\r' :: Text.sharedEscapes
  · rcases List.mem_cons.1 hc with rfl | hc
    · exact scan_inText_escape pos start front '0' rest
    rcases List.mem_cons.1 hc with rfl | hc
    · exact scan_inText_escape pos start front 'r' rest
    obtain rfl | rfl | rfl | rfl : c = '\t' ∨ c = '\n' ∨ c = '\\' ∨ c = '"' := by
      simpa [Text.sharedEscapes] using hc
    · exact scan_inText_escape pos start front 't' rest
    · exact scan_inText_escape pos start front 'n' rest
    · exact scan_inText_escape pos start front '\\' rest
    · exact scan_inText_escape pos start front '"' rest
  · have hshared : c ∉ Text.sharedEscapes := fun h =>
      hc (List.mem_cons_of_mem _ (List.mem_cons_of_mem _ h))
    rw [Text.rereadChar, if_neg hshared, Text.quoteChar_of_not_mem hc]
    cases Text.isPrintable c with
    | true =>
      refine scan_inText_plain (List.forall_mem_singleton.2 ⟨?_, ?_⟩) pos start front rest
      · rintro rfl
        exact hshared (by decide)
      · rintro rfl
        exact hshared (by decide)
    | false =>
      -- the code point stays as it is printed
      obtain ⟨next, hnext⟩ := scan_inText_escape pos start front 'u'
        ('\x7b' :: (Nat.toDigits 16 c.toNat ++ ['\x7d']) ++ rest)
      have hplain : ∀ d ∈ '\x7b' :: (Nat.toDigits 16 c.toNat ++ ['\x7d']), d ≠ '"' ∧ d ≠ '\\' := by
        refine List.forall_mem_cons.2 ⟨by decide, List.forall_mem_append.2 ⟨fun d hd => ?_, ?_⟩⟩
        · obtain ⟨j, hj, rfl⟩ := Text.exists_digitChar_of_mem_toDigits hd
          have hdigits : ∀ j < 16, Nat.digitChar j ≠ '"' ∧ Nat.digitChar j ≠ '\\' := by decide
          exact hdigits j hj
        · exact List.forall_mem_singleton.2 (by decide)
      obtain ⟨next', hnext'⟩ := scan_inText_plain hplain next start (unescape 'u' ++ front) rest
      refine ⟨next', hnext.trans (hnext'.trans ?_)⟩
      simp [unescape]

/-- **A printed text** is read back to its end. -/
theorem scan_inText_printed (pos start : Nat) (front chars rest : List Char) :
    ∃ next, scan pos (.inText start front) (chars.flatMap Text.quoteChar ++ '"' :: rest) =
      (scan next .between rest).map fun ts =>
        (start, .text (front.reverse ++ chars.flatMap Text.rereadChar)) :: ts := by
  induction chars generalizing pos front with
  | nil =>
    refine ⟨pos + '"'.utf8Size, ?_⟩
    simp
  | cons c chars ih =>
    obtain ⟨next, hnext⟩ :=
      scan_inText_quoteChar pos start front c (chars.flatMap Text.quoteChar ++ '"' :: rest)
    obtain ⟨next', hnext'⟩ := ih next ((Text.rereadChar c).reverse ++ front)
    refine ⟨next', ?_⟩
    rw [List.flatMap_cons, List.flatMap_cons, List.append_assoc, hnext, hnext']
    simp

/-! ## Texts that are cut into tokens -/

/-- A text that is cut into certain tokens, if an atom that it ends with ends there. -/
def Reads (cs : List Char) (ts : List Token) : Prop :=
  ∀ (pos : Nat) (rest : List Char), (∀ c ∈ rest.head?, isDelimiter c = true) →
    ∃ next placed, placed.map (·.2) = ts ∧
      scan pos .between (cs ++ rest) = (scan next .between rest).map (placed ++ ·)

namespace Reads

variable {cs cs' chars : List Char} {ts ts' : List Token}

theorem nil : Reads [] [] :=
  fun pos _ _ => ⟨pos, [], rfl, (congrFun Except.map_id _).symm⟩

theorem text (chars : List Char) :
    Reads (Text.quoteChars chars) [.text (chars.flatMap Text.rereadChar)] := by
  intro pos rest _
  obtain ⟨next, hnext⟩ := scan_inText_printed (pos + '"'.utf8Size) pos [] chars rest
  refine ⟨next, [(pos, .text (chars.flatMap Text.rereadChar))], rfl, ?_⟩
  rw [Text.quoteChars, List.cons_append, List.append_assoc]
  exact hnext

theorem atom (h : IsAtom chars) : Reads chars [.atom chars] := by
  intro pos rest hend
  obtain ⟨next, hnext⟩ := scan_written (t := .atom chars) pos h fun _ _ => hend
  exact ⟨next, [(pos, .atom chars)], rfl, hnext⟩

/-- Two texts with a blank between them. -/
theorem append (h : Reads cs ts) (h' : Reads cs' ts') : Reads (cs ++ ' ' :: cs') (ts ++ ts') := by
  intro pos rest hend
  obtain ⟨next, placed, hplaced, hscan⟩ := h pos (' ' :: cs' ++ rest) (by simp; decide)
  obtain ⟨next', placed', hplaced', hscan'⟩ := h' (next + ' '.utf8Size) rest hend
  refine ⟨next', placed ++ placed', by rw [List.map_append, hplaced, hplaced'], ?_⟩
  rw [List.append_assoc, hscan]
  have hblank : scan next .between (' ' :: cs' ++ rest) =
      scan (next + ' '.utf8Size) .between (cs' ++ rest) := rfl
  rw [hblank, hscan']
  cases scan next' .between rest with
  | error error => rfl
  | ok more => simp [Except.map]

/-- A text in parentheses. -/
theorem list (h : Reads cs ts) : Reads ('(' :: (cs ++ [')'])) (.opening :: (ts ++ [.closing])) := by
  intro pos rest _
  obtain ⟨next, placed, hplaced, hscan⟩ := h (pos + '('.utf8Size) (')' :: rest) (by simp; decide)
  refine ⟨next + ')'.utf8Size, (pos, .opening) :: (placed ++ [(next, .closing)]), ?_, ?_⟩
  · rw [List.map_cons, List.map_append, hplaced]
    rfl
  · rw [List.cons_append, List.append_assoc]
    have hopening : scan pos .between ('(' :: (cs ++ ([')'] ++ rest))) =
        (scan (pos + '('.utf8Size) .between (cs ++ ')' :: rest)).map
          fun ts => (pos, .opening) :: ts := rfl
    have hclosing : scan next .between (')' :: rest) =
        (scan (next + ')'.utf8Size) .between rest).map fun ts => (next, .closing) :: ts := rfl
    rw [hopening, hscan, hclosing]
    cases scan (next + ')'.utf8Size) .between rest with
    | error error => rfl
    | ok more => simp [Except.map]

end Reads

theorem isDelimiter_of_isDigit {c : Char} (h : Decimal.isDigit c = true) :
    isDelimiter c = false := by
  have hbounds : 48 ≤ c.toNat ∧ c.toNat ≤ 57 := by
    rw [Decimal.isDigit, Bool.and_eq_true, decide_eq_true_eq, decide_eq_true_eq] at h
    exact h
  have hblank : Text.isBlank c = false := by
    simp [Text.isBlank]
    omega
  have hne (d : Char) (hd : d.toNat < 48) : (c == d) = false := by
    refine beq_eq_false_iff_ne.2 ?_
    rintro rfl
    omega
  simp [isDelimiter, hblank, hne]

end Token

end CodeSnapshot
