import CodeSnapshot.Text.Blank
import CodeSnapshot.Text.Piece

/-!
# Splits — texts that are put together and taken apart again

A text that was put together from parts falls into the same parts where nothing in a part looks like
what stands between them.

* **`splitAt_intercalate`** — parts without the separator; `splitAt_append_cons` says how any text falls
  into parts around a separator.
* **`cutAt?_append`** — a mark that has not occurred before, not even with its first characters at the
  end of what precedes it.
* **`stripped_eq_self_iff`** — what is taken off both ends, by first and last character; blanks and
  slashes are the two cases of it.
* **`trim_append`** — what stands behind a text that has no blank at its ends.
* **`words_trimEnd`**, **`count_flatten_words`** — the words of a text: blanks at its end do not count,
  and all other characters are in them.
-/

namespace CodeSnapshot.Text

/-! ## Parts between separators -/

section

variable {separator : Char}

theorem splitAt_cons_self (text : List Char) :
    splitAt separator (separator :: text) = [] :: splitAt separator text := by
  rw [splitAt, if_pos rfl]

/-- A part without the separator, in front of one. -/
theorem splitAt_append {front : List Char} (h : separator ∉ front) (back : List Char) :
    splitAt separator (front ++ separator :: back) = front :: splitAt separator back := by
  induction front with
  | nil => exact splitAt_cons_self back
  | cons c front ih =>
    obtain ⟨hc, hfront⟩ := not_or.1 fun hor => h (List.mem_cons.2 hor)
    rw [List.cons_append, splitAt, if_neg (Ne.symm hc), ih hfront]

/-- The parts around a separator are those of what stands on its two sides. -/
theorem splitAt_append_cons (front back : List Char) :
    splitAt separator (front ++ separator :: back) =
      splitAt separator front ++ splitAt separator back := by
  induction front with
  | nil => exact splitAt_cons_self back
  | cons c front ih =>
    rw [List.cons_append, splitAt, splitAt]
    split
    · rw [ih, List.cons_append]
    · -- the first part goes on to the left
      rw [ih]
      obtain ⟨piece, pieces, hfront⟩ :=
        List.exists_cons_of_ne_nil (splitAt_ne_nil separator front)
      rw [hfront]
      rfl

theorem splitAt_of_not_mem {text : List Char} (h : separator ∉ text) :
    splitAt separator text = [text] := by
  induction text with
  | nil => rfl
  | cons c text ih =>
    obtain ⟨hc, htext⟩ := not_or.1 fun hor => h (List.mem_cons.2 hor)
    rw [splitAt, if_neg (Ne.symm hc), ih htext]

theorem splitAt_intercalate {pieces : List (List Char)} (hne : pieces ≠ [])
    (h : ∀ piece ∈ pieces, separator ∉ piece) :
    splitAt separator ([separator].intercalate pieces) = pieces := by
  induction pieces with
  | nil => exact absurd rfl hne
  | cons piece pieces ih =>
    obtain ⟨hpiece, hpieces⟩ := List.forall_mem_cons.1 h
    cases pieces with
    | nil => rw [List.intercalate_singleton, splitAt_of_not_mem hpiece]
    | cons next pieces =>
      rw [List.intercalate_cons_cons, List.append_assoc, List.singleton_append,
        splitAt_append hpiece, ih (List.cons_ne_nil _ _) hpieces]

theorem joinWith_eq_intercalate (separator : List Char) (pieces : List (List Char)) :
    joinWith separator pieces = separator.intercalate pieces := by
  induction pieces with
  | nil => rfl
  | cons piece pieces ih =>
    cases pieces with
    | nil => exact (List.intercalate_singleton ..).symm
    | cons next pieces =>
      rw [List.intercalate_cons_cons, ← ih]
      rfl

theorem splitAt_joinWith {pieces : List (List Char)} (hne : pieces ≠ [])
    (h : ∀ piece ∈ pieces, separator ∉ piece) :
    splitAt separator (joinWith [separator] pieces) = pieces := by
  rw [joinWith_eq_intercalate, splitAt_intercalate hne h]

theorem not_mem_of_mem_splitAt {text piece : List Char} (h : piece ∈ splitAt separator text) :
    separator ∉ piece := by
  induction text generalizing piece with
  | nil =>
    obtain rfl := List.mem_singleton.1 h
    exact List.not_mem_nil
  | cons c text ih =>
    rw [splitAt] at h
    split at h
    · rcases List.mem_cons.1 h with rfl | h
      · exact List.not_mem_nil
      · exact ih h
    · rename_i hc
      split at h
      · obtain rfl := List.mem_singleton.1 h
        exact fun hmem => hc (List.mem_singleton.1 hmem).symm
      · rename_i first pieces hsplit
        rw [hsplit] at ih
        rcases List.mem_cons.1 h with rfl | h
        · -- the first part goes on to the left
          intro hmem
          rcases List.mem_cons.1 hmem with heq | hmem
          · exact hc heq.symm
          · exact ih (List.mem_cons_self ..) hmem
        · exact ih (List.mem_cons_of_mem first h)

end

/-! ## Parts around a mark -/

/-- **A mark is found where it stands first.** An earlier one could end in the mark that is there, so
that all but its last character count as well. -/
theorem cutAt?_append {word front : List Char} (h : ¬ word <:+: front ++ word.dropLast)
    (back : List Char) : cutAt? word (front ++ (word ++ back)) = some (front, back) := by
  induction front with
  | nil =>
    have hafter : after? word (word ++ back) = some back := after?_eq_some_iff.2 rfl
    cases htext : word ++ back with
    | nil =>
      rw [htext] at hafter
      show cutAt? word [] = _
      rw [cutAt?, hafter]
      rfl
    | cons c text =>
      rw [htext] at hafter
      show cutAt? word (c :: text) = _
      rw [cutAt?, hafter]
  | cons c front ih =>
    -- a mark at the very start would be short enough to lie in what was said to hold none
    have hnone : after? word (c :: front ++ (word ++ back)) = none := by
      refine Option.eq_none_iff_forall_ne_some.2 fun rest hrest => h ?_
      have hword : word <+: c :: front ++ (word ++ back) :=
        ⟨rest, (after?_eq_some_iff.1 hrest).symm⟩
      have hlonger : c :: front ++ word.dropLast <+: c :: front ++ (word ++ back) :=
        (List.prefix_append_right_inj _).2 ((List.dropLast_prefix word).trans (List.prefix_append ..))
      refine (List.prefix_of_prefix_length_le hword hlonger ?_).isInfix
      simp only [List.length_append, List.length_cons, List.length_dropLast]
      omega
    have hrest : ¬ word <:+: front ++ word.dropLast := fun hin => h (List.infix_cons hin)
    show cutAt? word (c :: (front ++ (word ++ back))) = _
    rw [cutAt?, show after? word (c :: (front ++ (word ++ back))) = none from hnone, ih hrest]
    rfl

/-! ## Both ends -/

/-- The text without the characters of a kind at its two ends. -/
def stripped (p : Char → Bool) (cs : List Char) : List Char :=
  ((cs.dropWhile p).reverse.dropWhile p).reverse

section

variable {p : Char → Bool}

/-- **A text is left alone** if neither its first nor its last character is of the kind. -/
theorem stripped_eq_self_iff {cs : List Char} :
    stripped p cs = cs ↔ (∀ c ∈ cs.head?, p c = false) ∧ (∀ c ∈ cs.getLast?, p c = false) := by
  have hsuffix := List.dropWhile_suffix (l := cs) p
  have hsuffix' := List.dropWhile_suffix (l := (cs.dropWhile p).reverse) p
  constructor
  · intro h
    -- both steps only take characters off, so neither of them takes any
    have hlength := congrArg List.length h
    rw [stripped, List.length_reverse] at hlength
    have hle := hsuffix.length_le
    have hle' := hsuffix'.length_le
    rw [List.length_reverse] at hle'
    have hfront : cs.dropWhile p = cs := hsuffix.eq_of_length (by omega)
    have hback : cs.reverse.dropWhile p = cs.reverse := by
      rw [hfront] at hsuffix' hlength
      exact hsuffix'.eq_of_length (by rw [hlength, List.length_reverse])
    constructor
    · intro c hc
      have hhead := List.head?_dropWhile_not p cs
      rw [hfront, hc] at hhead
      exact hhead
    · intro c hc
      have hhead := List.head?_dropWhile_not p cs.reverse
      rw [hback, List.head?_reverse, hc] at hhead
      exact hhead
  · rintro ⟨hfirst, hlast⟩
    have hfront : cs.dropWhile p = cs := by
      cases cs with
      | nil => rfl
      | cons c cs => exact List.dropWhile_cons_of_neg (by simp [hfirst c rfl])
    have hback : cs.reverse.dropWhile p = cs.reverse := by
      rw [← List.head?_reverse] at hlast
      generalize cs.reverse = back at hlast
      cases back with
      | nil => rfl
      | cons c back => exact List.dropWhile_cons_of_neg (by simp [hlast c rfl])
    rw [stripped, hfront, hback, List.reverse_reverse]

theorem stripped_stripped (cs : List Char) : stripped p (stripped p cs) = stripped p cs := by
  refine stripped_eq_self_iff.2 ⟨fun c hc => ?_, fun c hc => ?_⟩
  · -- what is left after the second step is the front of what is left after the first one
    have hprefix : stripped p cs <+: cs.dropWhile p := by
      have h := List.dropWhile_suffix (l := (cs.dropWhile p).reverse) p
      rwa [← List.reverse_prefix, List.reverse_reverse] at h
    obtain ⟨back, hback⟩ := hprefix
    have hhead := List.head?_dropWhile_not p cs
    rw [← hback, List.head?_append, hc] at hhead
    exact hhead
  · have hhead := List.head?_dropWhile_not p (cs.dropWhile p).reverse
    rw [stripped, List.getLast?_reverse] at hc
    rw [hc] at hhead
    exact hhead

end

/-! ## Blanks behind a text -/

theorem trimEnd_append (front : List Char) {c : Char} (hc : isBlank c = false)
    (back : List Char) : trimEnd (front ++ c :: back) = front ++ c :: trimEnd back := by
  have hstop : (c :: front.reverse).dropWhile isBlank = c :: front.reverse :=
    List.dropWhile_cons_of_neg (by simp [hc])
  have hreverse : (front ++ c :: back).reverse = back.reverse ++ (c :: front.reverse) := by simp
  rw [trimEnd, trimEnd, hreverse, List.dropWhile_append, hstop]
  split
  · rename_i hempty
    rw [List.isEmpty_iff.1 hempty]
    simp
  · simp

/-- **What stands behind a trimmed text** is trimmed at its end. -/
theorem trim_append {text : List Char} (h : trim text = text) (hne : text ≠ [])
    (back : List Char) : trim (text ++ back) = text ++ trimEnd back := by
  obtain ⟨hfirst, hlast⟩ := stripped_eq_self_iff.1 h
  obtain ⟨c, rest, hcons⟩ := List.exists_cons_of_ne_nil hne
  obtain ⟨init, d, hconcat⟩ : ∃ init d, text = init ++ [d] :=
    ⟨_, _, (List.dropLast_concat_getLast hne).symm⟩
  have hstart : trimStart (text ++ back) = text ++ back := by
    have hc : isBlank c = false := hfirst c (by rw [hcons]; rfl)
    rw [hcons, List.cons_append]
    exact trimStart_cons_of_not_blank _ hc
  have hd : isBlank d = false := hlast d (by rw [hconcat, List.getLast?_concat]; rfl)
  rw [trim, hstart, hconcat, List.append_assoc, List.append_assoc]
  exact trimEnd_append init hd back

/-- What is taken off the end of a text is blank. -/
theorem exists_trimEnd_append (text : List Char) :
    ∃ blanks, (∀ c ∈ blanks, isBlank c = true) ∧ text = trimEnd text ++ blanks := by
  refine ⟨(text.reverse.takeWhile isBlank).reverse, fun c hc => ?_, ?_⟩
  · exact List.all_eq_true.1 List.all_takeWhile c (List.mem_reverse.1 hc)
  · rw [trimEnd, ← List.reverse_append, List.takeWhile_append_dropWhile, List.reverse_reverse]

/-! ## Words -/

/-- What a character in front of a text does to the first word, which may be open, and the words behind
it. -/
def addToWords (c : Char) (found : List Char × List (List Char)) : List Char × List (List Char) :=
  if isBlank c then ([], if found.1.isEmpty then found.2 else found.1 :: found.2)
  else (c :: found.1, found.2)

theorem words_eq (text : List Char) :
    words text =
      let found := text.foldr addToWords ([], [])
      if found.1.isEmpty then found.2 else found.1 :: found.2 := rfl

/-- Blanks behind a text make no words. -/
theorem words_append_blanks (text : List Char) {blanks : List Char}
    (hblanks : ∀ c ∈ blanks, isBlank c = true) : words (text ++ blanks) = words text := by
  have hnothing : blanks.foldr addToWords ([], []) = ([], []) := by
    induction blanks with
    | nil => rfl
    | cons c blanks ih =>
      obtain ⟨hc, hblanks⟩ := List.forall_mem_cons.1 hblanks
      rw [List.foldr_cons, ih hblanks, addToWords, if_pos hc]
      rfl
  rw [words_eq, words_eq, List.foldr_append, hnothing]

theorem words_trimEnd (text : List Char) : words (trimEnd text) = words text := by
  obtain ⟨blanks, hblanks, htext⟩ := exists_trimEnd_append text
  exact (words_append_blanks (trimEnd text) hblanks).symm.trans (congrArg words htext.symm)

/-- **Words have the characters of a text** that are not blank. -/
theorem count_flatten_words {c : Char} (hc : isBlank c = false) (text : List Char) :
    (words text).flatten.count c = text.count c := by
  have hgo : ((text.foldr addToWords ([], [])).1 ++ (text.foldr addToWords ([], [])).2.flatten).count c =
      text.count c := by
    induction text with
    | nil => rfl
    | cons d text ih =>
      rw [List.foldr_cons, addToWords]
      split
      · rename_i hd
        have hne : d ≠ c := by
          rintro rfl
          rw [hc] at hd
          cases hd
        rw [List.count_cons_of_ne hne, ← ih]
        dsimp only
        split
        · rename_i hempty
          rw [List.isEmpty_iff.1 hempty]
        · rfl
      · rw [List.cons_append, List.count_cons, List.count_cons, ih]
  rw [← hgo, words_eq]
  dsimp only
  split
  · rename_i hempty
    rw [List.isEmpty_iff.1 hempty]
    rfl
  · rfl

end CodeSnapshot.Text
