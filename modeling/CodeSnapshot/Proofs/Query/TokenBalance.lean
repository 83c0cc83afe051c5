import CodeSnapshot.Query.Command

/-!
# Token balance — the parentheses of a text and of its tokens

A command in free text is found by counting parentheses character by character
(`Command.balanced?`); it is read by cutting it into tokens first (`Token.scan`). Both skip what
stands between quotes. This module shows that the two passes agree on where a list ends.

* **`Closes`** — a *token-level* notion: with `n` lists open, the tokens close all of them, the
  outermost one by the last token.
* **`scan_of_balanced?`** — what the count cuts out of a text has tokens, and they close.
* **`cutsOut_of_scan`** — the converse: if the tokens of a text close, the count cuts out that text,
  whatever follows it; only blanks behind the last parenthesis are left.
* **`head?_scan_between`** — the first token is an atom exactly if the text begins with a word, and
  then it is that word.
-/

namespace CodeSnapshot

open Command

/-! ## Delimiters -/

namespace Token

theorem isBlank_of_not_isDelimiter {c : Char} (h : isDelimiter c = false) :
    Text.isBlank c = false ∧ c ≠ '(' ∧ c ≠ ')' ∧ c ≠ '"' := by
  simpa [isDelimiter, and_assoc] using h

/-- A blank is no parenthesis and no quote. -/
theorem ne_of_isBlank {c : Char} (h : Text.isBlank c = true) : c ≠ '(' ∧ c ≠ ')' ∧ c ≠ '"' := by
  refine ⟨?_, ?_, ?_⟩
  all_goals
    rintro rfl
    exact absurd h (by decide)

/-! ## What the count cuts out of a text -/

/-- What is cut out stands at the start of the text and ends with a closing parenthesis. -/
theorem split_of_balanced? {n : Nat} {b : Balance} {cs cut : List Char}
    (h : balanced? n b cs = some cut) :
    ∃ front rest, cut = front ++ [')'] ∧ cs = cut ++ rest := by
  induction cs generalizing n b cut with
  | nil => simp at h
  | cons x rest ih =>
    -- all branches but the last parenthesis keep the character and go on
    have step {n : Nat} {b : Balance} (h : (balanced? n b rest).map (x :: ·) = some cut) :
        ∃ front rest', cut = front ++ [')'] ∧ x :: rest = cut ++ rest' := by
      obtain ⟨cut', hcut, rfl⟩ := Option.map_eq_some_iff.1 h
      obtain ⟨front, rest', hfront, hrest⟩ := ih hcut
      exact ⟨x :: front, rest', by rw [hfront]; rfl, by rw [hrest]; rfl⟩
    cases b with
    | escaped => exact step h
    | quoted => exact step h
    | plain =>
      rw [balanced?_plain_cons] at h
      split at h
      · exact step h
      · split at h
        · exact step h
        · split at h
          · rename_i hc
            split at h
            · obtain rfl : [x] = cut := by simpa using h
              exact ⟨[], rest, by rw [hc]; rfl, rfl⟩
            · exact step h
          · exact step h

/-! ## Closing tokens -/

/-- With a number of lists open, the tokens close all of them, the outermost by the last token. -/
inductive Closes : Nat → List (Nat × Token) → Prop where
  | last (p : Nat) : Closes 1 [(p, .closing)]
  | closing (p : Nat) {n : Nat} {ts : List (Nat × Token)} (h : Closes (n + 1) ts) :
      Closes (n + 2) ((p, .closing) :: ts)
  | opening (p : Nat) {n : Nat} {ts : List (Nat × Token)} (h : Closes (n + 1) ts) :
      Closes n ((p, .opening) :: ts)
  | text (p : Nat) (chars : List Char) {n : Nat} {ts : List (Nat × Token)} (h : Closes (n + 1) ts) :
      Closes (n + 1) ((p, .text chars) :: ts)
  | atom (p : Nat) (chars : List Char) {n : Nat} {ts : List (Nat × Token)} (h : Closes (n + 1) ts) :
      Closes (n + 1) ((p, .atom chars) :: ts)

/-- How the count of parentheses stands where the scan for tokens stands. -/
@[simp] def Scan.balance : Scan → Balance
  | .between | .inAtom .. => .plain
  | .inText .. => .quoted
  | .escaped .. => .escaped

/-- A delimiter ends an atom and is read as it would be between tokens. -/
theorem scan_inAtom_of_isDelimiter (n start : Nat) (chars : List Char) {c : Char} (rest : List Char)
    (h : isDelimiter c = true) :
    scan n (.inAtom start chars) (c :: rest) =
      (scan n .between (c :: rest)).map fun ts => (start, .atom chars.reverse) :: ts := by
  rw [scan_inAtom_cons, scan_between_cons]
  by_cases hb : Text.isBlank c = true
  · rw [if_pos hb, if_pos hb]
  · rw [if_neg hb, if_neg hb]
    by_cases ho : c = '('
    · rw [if_pos ho, if_pos ho]
      cases scan (n + c.utf8Size) .between rest <;> rfl
    · rw [if_neg ho, if_neg ho]
      by_cases hc : c = ')'
      · rw [if_pos hc, if_pos hc]
        cases scan (n + c.utf8Size) .between rest <;> rfl
      · rw [if_neg hc, if_neg hc]
        have hq : c = '"' := by simpa [isDelimiter, hb, ho, hc] using h
        rw [if_pos hq, if_pos hq]

/-! ## What the count cuts out has closing tokens -/

/-- Between tokens: one character of the count against one step of the scan. The induction
hypothesis of `scan_of_balanced?` comes in as `ih`, since an atom that ends is read the same way. -/
theorem scan_between_of_balanced?_cons {n : Nat} (pos : Nat) {x : Char} {rest cut : List Char}
    (ih : ∀ {n : Nat} (pos : Nat) (st : Scan) {cut : List Char},
      balanced? (n + 1) st.balance rest = some cut →
        ∃ ts, scan pos st cut = .ok ts ∧ Closes (n + 1) ts)
    (h : balanced? (n + 1) .plain (x :: rest) = some cut) :
    ∃ ts, scan pos .between cut = .ok ts ∧ Closes (n + 1) ts := by
  rw [balanced?_plain_cons] at h
  by_cases hq : x = '"'
  · subst hq
    rw [if_pos rfl] at h
    obtain ⟨cut', hcut, rfl⟩ := Option.map_eq_some_iff.1 h
    obtain ⟨ts, hts, hclose⟩ := ih (pos + '"'.utf8Size) (.inText pos []) hcut
    exact ⟨ts, by simpa [show Text.isBlank '"' = false from rfl] using hts, hclose⟩
  rw [if_neg hq] at h
  by_cases ho : x = '('
  · subst ho
    rw [if_pos rfl] at h
    obtain ⟨cut', hcut, rfl⟩ := Option.map_eq_some_iff.1 h
    obtain ⟨ts, hts, hclose⟩ := ih (pos + '('.utf8Size) .between hcut
    refine ⟨(pos, .opening) :: ts, ?_, .opening pos hclose⟩
    simp [show Text.isBlank '(' = false from rfl, hts, Except.map]
  rw [if_neg ho] at h
  by_cases hc : x = ')'
  · subst hc
    rw [if_pos rfl] at h
    cases n with
    | zero =>
      -- the outermost list is closed here, and nothing behind it is cut out
      obtain rfl : [')'] = cut := by simpa using h
      refine ⟨[(pos, .closing)], ?_, .last pos⟩
      simp [show Text.isBlank ')' = false from rfl, Except.map]
    | succ n =>
      rw [if_neg (by omega)] at h
      obtain ⟨cut', hcut, rfl⟩ := Option.map_eq_some_iff.1 h
      obtain ⟨ts, hts, hclose⟩ := ih (pos + ')'.utf8Size) .between hcut
      refine ⟨(pos, .closing) :: ts, ?_, .closing pos hclose⟩
      simp [show Text.isBlank ')' = false from rfl, hts, Except.map]
  rw [if_neg hc] at h
  obtain ⟨cut', hcut, rfl⟩ := Option.map_eq_some_iff.1 h
  by_cases hb : Text.isBlank x = true
  · obtain ⟨ts, hts, hclose⟩ := ih (pos + x.utf8Size) .between hcut
    exact ⟨ts, by simpa [hb] using hts, hclose⟩
  · obtain ⟨ts, hts, hclose⟩ := ih (pos + x.utf8Size) (.inAtom pos [x]) hcut
    exact ⟨ts, by simpa [hb, ho, hc, hq] using hts, hclose⟩

/-- **What the count cuts out has tokens, and they close.** Induction on the text; the place of the
scan goes with the state of the count. -/
theorem scan_of_balanced? {n : Nat} (pos : Nat) (st : Scan) {cs cut : List Char}
    (h : balanced? (n + 1) st.balance cs = some cut) :
    ∃ ts, scan pos st cut = .ok ts ∧ Closes (n + 1) ts := by
  induction cs generalizing n pos st cut with
  | nil => simp at h
  | cons x rest ih =>
    cases st with
    | between => exact scan_between_of_balanced?_cons pos ih h
    | inText start chars =>
      simp only [Scan.balance, balanced?_quoted_cons] at h
      obtain ⟨cut', hcut, rfl⟩ := Option.map_eq_some_iff.1 h
      by_cases hq : x = '"'
      · subst hq
        obtain ⟨ts, hts, hclose⟩ := ih (pos + '"'.utf8Size) .between hcut
        refine ⟨(start, .text chars.reverse) :: ts, ?_, .text start chars.reverse hclose⟩
        simp [hts, Except.map]
      · by_cases hs : x = '\\'
        · subst hs
          obtain ⟨ts, hts, hclose⟩ :=
            ih (pos + '\\'.utf8Size) (.escaped start chars) hcut
          exact ⟨ts, by simpa using hts, hclose⟩
        · rw [if_neg hs, if_neg hq] at hcut
          obtain ⟨ts, hts, hclose⟩ :=
            ih (pos + x.utf8Size) (.inText start (x :: chars)) hcut
          exact ⟨ts, by simpa [hq, hs] using hts, hclose⟩
    | escaped start chars =>
      simp only [Scan.balance, balanced?_escaped_cons] at h
      obtain ⟨cut', hcut, rfl⟩ := Option.map_eq_some_iff.1 h
      obtain ⟨ts, hts, hclose⟩ :=
        ih (pos + x.utf8Size) (.inText start (unescape x ++ chars)) hcut
      exact ⟨ts, by simpa using hts, hclose⟩
    | inAtom start chars =>
      by_cases hd : isDelimiter x = true
      · -- the atom ends: its token goes before those that are read between tokens
        obtain ⟨cut', rfl⟩ : ∃ cut', cut = x :: cut' := by
          obtain ⟨front, _, rfl, hcs⟩ := split_of_balanced? h
          cases front <;> simp_all
        obtain ⟨ts, hts, hclose⟩ := scan_between_of_balanced?_cons pos ih h
        refine ⟨(start, .atom chars.reverse) :: ts, ?_, .atom start chars.reverse hclose⟩
        rw [scan_inAtom_of_isDelimiter pos start chars cut' hd, hts]
        rfl
      · obtain ⟨hb, ho, hc, hq⟩ := isBlank_of_not_isDelimiter (Bool.not_eq_true _ ▸ hd)
        simp only [Scan.balance, balanced?_plain_cons, if_neg hq, if_neg ho, if_neg hc] at h
        obtain ⟨cut', hcut, rfl⟩ := Option.map_eq_some_iff.1 h
        obtain ⟨ts, hts, hclose⟩ :=
          ih (pos + x.utf8Size) (.inAtom start (x :: chars)) hcut
        exact ⟨ts, by simpa [hb, ho, hc, hq] using hts, hclose⟩

/-! ## Closing tokens are cut out -/

theorem not_closes_nil {n : Nat} : ¬ Closes n [] := by
  intro h
  cases h

theorem Closes.of_text {n p : Nat} {chars : List Char} {ts : List (Nat × Token)}
    (h : Closes (n + 1) ((p, .text chars) :: ts)) : Closes (n + 1) ts := by
  cases h with
  | text _ _ h => exact h

theorem Closes.of_atom {n p : Nat} {chars : List Char} {ts : List (Nat × Token)}
    (h : Closes (n + 1) ((p, .atom chars) :: ts)) : Closes (n + 1) ts := by
  cases h with
  | atom _ _ h => exact h

theorem Closes.of_opening {n p : Nat} {ts : List (Nat × Token)}
    (h : Closes n ((p, .opening) :: ts)) : Closes (n + 1) ts := by
  cases h with
  | opening _ h => exact h

theorem Closes.of_closing {n p : Nat} {ts : List (Nat × Token)}
    (h : Closes (n + 2) ((p, .closing) :: ts)) : Closes (n + 1) ts := by
  cases h with
  | closing _ h => exact h

theorem Closes.eq_nil_of_last {p : Nat} {ts : List (Nat × Token)}
    (h : Closes 1 ((p, .closing) :: ts)) : ts = [] := by
  cases h with
  | last => rfl

/-- A scan that puts a token first: the token, and what the scan behind it gives. -/
theorem eq_cons_of_map_eq_ok {r : Except QueryError (List (Nat × Token))} {t : Nat × Token}
    {ts : List (Nat × Token)} (h : (r.map fun ts => t :: ts) = .ok ts) :
    ∃ ts', ts = t :: ts' ∧ r = .ok ts' := by
  cases r with
  | error e => simp [Except.map] at h
  | ok ts' => exact ⟨ts', by simpa [Except.map] using h.symm, rfl⟩

/-- A token that has begun comes out, or the scan fails. -/
theorem scan_ne_nil {pos : Nat} {st : Scan} (hst : st ≠ .between) (cs : List Char) :
    scan pos st cs ≠ .ok [] := by
  induction cs generalizing pos st with
  | nil => cases st <;> simp_all
  | cons x rest ih =>
    intro h
    cases st with
    | between => exact hst rfl
    | inText start chars =>
      rw [scan_inText_cons] at h
      split at h
      · obtain ⟨ts, hts, -⟩ := eq_cons_of_map_eq_ok h
        simp at hts
      · split at h
        · exact ih (by simp) h
        · exact ih (by simp) h
    | escaped start chars => exact ih (by simp) h
    | inAtom start chars =>
      by_cases hd : isDelimiter x = true
      · rw [scan_inAtom_of_isDelimiter pos start chars rest hd] at h
        obtain ⟨ts, hts, -⟩ := eq_cons_of_map_eq_ok h
        simp at hts
      · obtain ⟨hb, ho, hc, hq⟩ := isBlank_of_not_isDelimiter (Bool.not_eq_true _ ▸ hd)
        simp only [scan_inAtom_cons, hb, ho, hc, hq, if_false, Bool.false_eq_true] at h
        exact ih (by simp) h

/-- A text without tokens is blank. -/
theorem isBlank_of_scan_eq_nil {pos : Nat} {cs : List Char} (h : scan pos .between cs = .ok []) :
    ∀ c ∈ cs, Text.isBlank c = true := by
  induction cs generalizing pos with
  | nil => simp
  | cons x rest ih =>
    rw [scan_between_cons] at h
    by_cases hb : Text.isBlank x = true
    · rw [if_pos hb] at h
      intro c hc
      rcases List.mem_cons.1 hc with rfl | hc
      · exact hb
      · exact ih h c hc
    · -- any other character begins a token
      rw [if_neg hb] at h
      split at h
      · obtain ⟨ts, hts, -⟩ := eq_cons_of_map_eq_ok h
        simp at hts
      · split at h
        · obtain ⟨ts, hts, -⟩ := eq_cons_of_map_eq_ok h
          simp at hts
        · split at h
          · exact absurd h (scan_ne_nil (by simp) rest)
          · exact absurd h (scan_ne_nil (by simp) rest)

/-- What the count cuts out of a text, whatever follows it: all but the blanks at its end. -/
def CutsOut (n : Nat) (b : Balance) (cs : List Char) : Prop :=
  ∃ cut blanks, cs = cut ++ blanks ∧ (∀ c ∈ blanks, Text.isBlank c = true) ∧
    ∀ rest, balanced? n b (cs ++ rest) = some cut

theorem CutsOut.cons {n m : Nat} {b b' : Balance} {x : Char} {cs : List Char}
    (h : CutsOut n b cs)
    (hstep : ∀ rest, balanced? m b' (x :: rest) = (balanced? n b rest).map (x :: ·)) :
    CutsOut m b' (x :: cs) := by
  obtain ⟨cut, blanks, rfl, hblanks, hcut⟩ := h
  refine ⟨x :: cut, blanks, rfl, hblanks, fun rest => ?_⟩
  rw [List.cons_append, hstep, hcut rest]
  rfl

/-- Between tokens: one step of the scan against one character of the count. -/
theorem cutsOut_plain_cons {n pos : Nat} {x : Char} {rest : List Char} {ts : List (Nat × Token)}
    (ih : ∀ {n pos : Nat} {st : Scan} {ts : List (Nat × Token)},
      scan pos st rest = .ok ts → Closes (n + 1) ts → CutsOut (n + 1) st.balance rest)
    (h : scan pos .between (x :: rest) = .ok ts) (hclose : Closes (n + 1) ts) :
    CutsOut (n + 1) .plain (x :: rest) := by
  rw [scan_between_cons] at h
  by_cases hb : Text.isBlank x = true
  · obtain ⟨ho, hc, hq⟩ := ne_of_isBlank hb
    rw [if_pos hb] at h
    exact (ih h hclose).cons fun rest => by simp [ho, hc, hq]
  rw [if_neg hb] at h
  by_cases ho : x = '('
  · subst ho
    rw [if_pos rfl] at h
    obtain ⟨ts', rfl, hts'⟩ := eq_cons_of_map_eq_ok h
    exact (ih hts' hclose.of_opening).cons fun rest => by simp
  rw [if_neg ho] at h
  by_cases hc : x = ')'
  · subst hc
    rw [if_pos rfl] at h
    obtain ⟨ts', rfl, hts'⟩ := eq_cons_of_map_eq_ok h
    cases hclose with
    | last =>
      exact ⟨[')'], rest, rfl, isBlank_of_scan_eq_nil hts', fun rest' => by simp⟩
    | closing _ hclose =>
      exact (ih hts' hclose).cons fun rest => by simp
  rw [if_neg hc] at h
  by_cases hq : x = '"'
  · subst hq
    rw [if_pos rfl] at h
    exact (ih h hclose).cons fun rest => by simp
  · rw [if_neg hq] at h
    exact (ih h hclose).cons fun rest => by simp [ho, hc, hq]

/-- **Closing tokens are cut out.** If the tokens of a text close, the count cuts the text out, but
for blanks at its end. Induction on the text. -/
theorem cutsOut_of_scan {n pos : Nat} {st : Scan} {cs : List Char} {ts : List (Nat × Token)}
    (h : scan pos st cs = .ok ts) (hclose : Closes (n + 1) ts) :
    CutsOut (n + 1) st.balance cs := by
  induction cs generalizing n pos st ts with
  | nil =>
    cases st with
    | between =>
      obtain rfl : [] = ts := by simpa using h
      exact absurd hclose not_closes_nil
    | inAtom start chars =>
      obtain rfl : [(start, .atom chars.reverse)] = ts := by simpa using h
      exact absurd hclose.of_atom not_closes_nil
    | inText start chars => simp at h
    | escaped start chars => simp at h
  | cons x rest ih =>
    cases st with
    | between => exact cutsOut_plain_cons ih h hclose
    | inText start chars =>
      rw [scan_inText_cons] at h
      by_cases hq : x = '"'
      · subst hq
        rw [if_pos rfl] at h
        obtain ⟨ts', rfl, hts'⟩ := eq_cons_of_map_eq_ok h
        exact (ih hts' hclose.of_text).cons fun rest => by simp
      · rw [if_neg hq] at h
        by_cases hs : x = '\\'
        · rw [if_pos hs] at h
          exact (ih h hclose).cons fun rest => by simp [hs]
        · rw [if_neg hs] at h
          exact (ih h hclose).cons fun rest => by simp [hs, hq]
    | escaped start chars =>
      exact (ih h hclose).cons fun rest => by simp
    | inAtom start chars =>
      by_cases hd : isDelimiter x = true
      · rw [scan_inAtom_of_isDelimiter pos start chars rest hd] at h
        obtain ⟨ts', rfl, hts'⟩ := eq_cons_of_map_eq_ok h
        exact cutsOut_plain_cons ih hts' hclose.of_atom
      · obtain ⟨hb, ho, hc, hq⟩ := isBlank_of_not_isDelimiter (Bool.not_eq_true _ ▸ hd)
        simp only [scan_inAtom_cons, hb, ho, hc, hq, if_false, Bool.false_eq_true] at h
        exact (ih h hclose).cons fun rest => by simp [ho, hc, hq]

/-- A text that ends with a parenthesis and whose tokens close is what the count cuts out, whatever
follows it. -/
theorem balanced?_of_scan {n pos : Nat} {front rest : List Char} {ts : List (Nat × Token)}
    (h : scan pos .between (front ++ [')']) = .ok ts) (hclose : Closes (n + 1) ts) :
    balanced? (n + 1) .plain (front ++ [')'] ++ rest) = some (front ++ [')']) := by
  obtain ⟨cut, blanks, heq, hblanks, hcut⟩ := cutsOut_of_scan h hclose
  obtain rfl : blanks = [] := by
    rcases List.eq_nil_or_concat blanks with hnil | ⟨blanks', last, rfl⟩
    · exact hnil
    · -- the last character would be a parenthesis and a blank
      have hlast : ')' = last := by simpa using congrArg List.getLast? heq
      exact absurd (hblanks last (by simp)) (hlast ▸ by decide)
  rw [List.append_nil] at heq
  exact heq ▸ hcut rest

/-! ## The first token -/

/-- The characters of an atom that has begun: those read so far, and those up to a delimiter. -/
theorem head?_scan_inAtom {pos start : Nat} {chars cs : List Char} {ts : List (Nat × Token)}
    (h : scan pos (.inAtom start chars) cs = .ok ts) :
    ts.head? = some (start, .atom (chars.reverse ++ cs.takeWhile (! isDelimiter ·))) := by
  induction cs generalizing pos chars with
  | nil =>
    obtain rfl : [(start, .atom chars.reverse)] = ts := by simpa using h
    simp
  | cons x rest ih =>
    by_cases hd : isDelimiter x = true
    · rw [scan_inAtom_of_isDelimiter pos start chars rest hd] at h
      obtain ⟨ts', rfl, -⟩ := eq_cons_of_map_eq_ok h
      simp [hd]
    · obtain ⟨hb, ho, hc, hq⟩ := isBlank_of_not_isDelimiter (Bool.not_eq_true _ ▸ hd)
      simp only [scan_inAtom_cons, hb, ho, hc, hq, if_false, Bool.false_eq_true] at h
      simpa [hd] using ih h

/-- The first token inside quotes is a text. -/
theorem head?_scan_inText {pos : Nat} {st : Scan} {cs : List Char} {ts : List (Nat × Token)}
    (hst : st.balance ≠ .plain) (h : scan pos st cs = .ok ts) :
    ∃ p chars, ts.head? = some (p, .text chars) := by
  induction cs generalizing pos st with
  | nil => cases st <;> simp_all
  | cons x rest ih =>
    cases st with
    | between => exact absurd rfl hst
    | inAtom start chars => exact absurd rfl hst
    | escaped start chars => exact ih (by simp) h
    | inText start chars =>
      rw [scan_inText_cons] at h
      split at h
      · obtain ⟨ts', rfl, -⟩ := eq_cons_of_map_eq_ok h
        exact ⟨start, chars.reverse, rfl⟩
      · split at h
        · exact ih (by simp) h
        · exact ih (by simp) h

/-- The word that a text begins with: what stands behind its blanks up to a delimiter. -/
def headWord (cs : List Char) : List Char :=
  (Text.trimStart cs).takeWhile (! isDelimiter ·)

theorem headWord_cons_of_isBlank {x : Char} (cs : List Char) (h : Text.isBlank x = true) :
    headWord (x :: cs) = headWord cs := by
  rw [headWord, Text.trimStart_cons_of_blank cs h, headWord]

theorem headWord_cons_of_isDelimiter {x : Char} (cs : List Char) (hb : Text.isBlank x = false)
    (hd : isDelimiter x = true) : headWord (x :: cs) = [] := by
  rw [headWord, Text.trimStart_cons_of_not_blank cs hb]
  simp [hd]

/-- **The first token is an atom exactly if the text begins with a word**, and then it is that
word. -/
theorem head?_scan_between {pos : Nat} {cs word : List Char} {ts : List (Nat × Token)}
    (h : scan pos .between cs = .ok ts) :
    (∃ p, ts.head? = some (p, .atom word)) ↔ word ≠ [] ∧ headWord cs = word := by
  induction cs generalizing pos with
  | nil =>
    obtain rfl : [] = ts := by simpa using h
    simp [headWord, eq_comm]
  | cons x rest ih =>
    rw [scan_between_cons] at h
    by_cases hb : Text.isBlank x = true
    · rw [if_pos hb] at h
      rw [headWord_cons_of_isBlank rest hb]
      exact ih h
    rw [if_neg hb] at h
    have hb : Text.isBlank x = false := by simpa using hb
    by_cases hd : isDelimiter x = true
    · -- a parenthesis or a quote: neither side holds
      rw [headWord_cons_of_isDelimiter rest hb hd]
      refine iff_of_false ?_ (by rintro ⟨hne, rfl⟩; exact hne rfl)
      rintro ⟨p, hp⟩
      split at h
      · obtain ⟨ts', rfl, -⟩ := eq_cons_of_map_eq_ok h
        simp at hp
      · split at h
        · obtain ⟨ts', rfl, -⟩ := eq_cons_of_map_eq_ok h
          simp at hp
        · split at h
          · obtain ⟨p', chars, hhead⟩ := head?_scan_inText (by simp) h
            simp [hhead] at hp
          · simp_all [isDelimiter]
    · have hd : isDelimiter x = false := by simpa using hd
      obtain ⟨-, ho, hc, hq⟩ := isBlank_of_not_isDelimiter hd
      rw [if_neg ho, if_neg hc, if_neg hq] at h
      rw [headWord, Text.trimStart_cons_of_not_blank rest hb, head?_scan_inAtom h]
      constructor
      · rintro ⟨p, hp⟩
        obtain ⟨-, rfl⟩ : pos = p ∧ x :: rest.takeWhile (! isDelimiter ·) = word := by
          simpa using hp
        exact ⟨by simp, by simp [hd]⟩
      · rintro ⟨-, rfl⟩
        exact ⟨pos, by simp [hd]⟩

end Token

end CodeSnapshot
