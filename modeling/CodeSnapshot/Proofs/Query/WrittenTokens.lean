import CodeSnapshot.Proofs.Query.TokenBalance

/-!
# Written tokens — the scan gives back the tokens that were written

Tokens are written one after the other, texts between quotes and everything else as it is. Blanks
may stand wherever a token ends; between two items some must.

* **`WrittenOut`** — what is a way to write some tokens.
* **`scan_written`** — one token, wherever it stands, is read as itself.
* **`scan_of_writtenOut`** — all of them are.
* **`isProper_of_scan`** — the tokens of any text can be written in this way.
-/

namespace CodeSnapshot.Token

/-! ## Writing tokens -/

/-- What an atom is written with. -/
def IsAtom (chars : List Char) : Prop :=
  chars ≠ [] ∧ ∀ c ∈ chars, isDelimiter c = false

instance (chars : List Char) : Decidable (IsAtom chars) :=
  inferInstanceAs (Decidable (_ ∧ _))

/-- A token that can be written; only an atom cannot have any characters. -/
def IsProper : Token → Prop
  | atom chars => IsAtom chars
  | opening | closing | text _ => True

def quoteChar (c : Char) : List Char :=
  if c = '\\' ∨ c = '"' then ['\\', c] else [c]

/-- A token as it is written. -/
def written : Token → List Char
  | opening => ['(']
  | closing => [')']
  | text chars => '"' :: (chars.flatMap quoteChar ++ ['"'])
  | atom chars => chars

/-- With this token ends an item, and with the next one begins another. -/
def ItemsMeet (t : Token) (ts : List Token) : Prop :=
  t ≠ opening ∧ ∃ t' ∈ ts.head?, t' ≠ closing

/-- A way to write tokens: with blanks between two items, and with or without blanks in all other
places, the start and the end included. -/
inductive WrittenOut : List Token → List Char → Prop where
  | nil (blanks : List Char) (hblanks : ∀ c ∈ blanks, Text.isBlank c = true) :
      WrittenOut [] blanks
  | cons (blanks : List Char) (t : Token) {ts : List Token} {cs : List Char}
      (hblanks : ∀ c ∈ blanks, Text.isBlank c = true)
      (hapart : ItemsMeet t ts → ∃ c ∈ cs.head?, Text.isBlank c = true) (h : WrittenOut ts cs) :
      WrittenOut (t :: ts) (blanks ++ (t.written ++ cs))

theorem exists_writtenOut (ts : List Token) : ∃ cs, WrittenOut ts (' ' :: cs) := by
  -- one blank before each token, and one at the end
  have hblank : ∀ c ∈ [' '], Text.isBlank c = true := List.forall_mem_singleton.2 rfl
  induction ts with
  | nil => exact ⟨[], .nil [' '] hblank⟩
  | cons t ts ih =>
    obtain ⟨cs, hcs⟩ := ih
    exact ⟨t.written ++ ' ' :: cs, .cons [' '] t hblank (fun _ => ⟨' ', rfl, rfl⟩) hcs⟩

variable {pos start : Nat} {t : Token} {ts : List Token} {cs rest : List Char}

/-! ## Reading one token -/

theorem isDelimiter_of_isBlank {c : Char} (h : Text.isBlank c = true) : isDelimiter c = true := by
  simp [isDelimiter, h]

theorem scan_blanks {blanks : List Char} (h : ∀ c ∈ blanks, Text.isBlank c = true) (pos : Nat)
    (rest : List Char) :
    ∃ next, scan pos .between (blanks ++ rest) = scan next .between rest := by
  induction blanks generalizing pos with
  | nil => exact ⟨pos, rfl⟩
  | cons c blanks ih =>
    obtain ⟨next, hnext⟩ := ih (fun d hd => h d (List.mem_cons_of_mem c hd)) (pos + c.utf8Size)
    refine ⟨next, ?_⟩
    rw [List.cons_append, scan_between_cons, if_pos (h c List.mem_cons_self)]
    exact hnext

/-- **A quoted text is read to its end**, whatever its characters are. -/
theorem scan_inText_quoted (pos start : Nat) (front chars rest : List Char) :
    ∃ next, scan pos (.inText start front) (chars.flatMap quoteChar ++ '"' :: rest) =
      (scan next .between rest).map fun ts => (start, .text (front.reverse ++ chars)) :: ts := by
  induction chars generalizing pos front with
  | nil =>
    refine ⟨pos + '"'.utf8Size, ?_⟩
    simp
  | cons c chars ih =>
    have hpush : front.reverse ++ c :: chars = (c :: front).reverse ++ chars := by simp
    rw [List.flatMap_cons, List.append_assoc, hpush]
    by_cases hescape : c = '\\' ∨ c = '"'
    · -- the two escapes that are written are among those that are read
      have hunescape : unescape c = [c] := by
        rcases hescape with rfl | rfl
        · rfl
        · rfl
      obtain ⟨next, hnext⟩ := ih (pos + '\\'.utf8Size + c.utf8Size) (c :: front)
      refine ⟨next, ?_⟩
      rw [quoteChar, if_pos hescape, List.cons_append, scan_inText_cons, if_neg (by decide),
        if_pos rfl, List.singleton_append, scan_escaped_cons, hunescape]
      exact hnext
    · obtain ⟨hbackslash, hquote⟩ := not_or.1 hescape
      obtain ⟨next, hnext⟩ := ih (pos + c.utf8Size) (c :: front)
      refine ⟨next, ?_⟩
      rw [quoteChar, if_neg hescape, List.singleton_append, scan_inText_cons, if_neg hquote,
        if_neg hbackslash]
      exact hnext

/-- **An atom is read to its end**, if what follows it is not part of it. -/
theorem scan_inAtom_plain (pos start : Nat) (front : List Char) {chars : List Char}
    (hplain : ∀ c ∈ chars, isDelimiter c = false)
    (hend : ∀ c ∈ rest.head?, isDelimiter c = true) :
    ∃ next, scan pos (.inAtom start front) (chars ++ rest) =
      (scan next .between rest).map fun ts => (start, .atom (front.reverse ++ chars)) :: ts := by
  induction chars generalizing pos front with
  | nil =>
    refine ⟨pos, ?_⟩
    rw [List.nil_append, List.append_nil]
    cases rest with
    | nil => rfl
    | cons c rest => exact scan_inAtom_of_isDelimiter pos start front rest (hend c rfl)
  | cons c chars ih =>
    obtain ⟨hb, ho, hc, hq⟩ := isBlank_of_not_isDelimiter (hplain c List.mem_cons_self)
    obtain ⟨next, hnext⟩ := ih (pos + c.utf8Size) (c :: front)
      fun d hd => hplain d (List.mem_cons_of_mem c hd)
    refine ⟨next, ?_⟩
    simp only [List.cons_append, scan_inAtom_cons, hb, ho, hc, hq, if_false, Bool.false_eq_true]
    rw [hnext]
    simp

/-- **A token is read as itself**; behind an atom something has to end it. -/
theorem scan_written (pos : Nat) (ht : t.IsProper)
    (hend : ∀ chars, t = atom chars → ∀ c ∈ rest.head?, isDelimiter c = true) :
    ∃ next, scan pos .between (t.written ++ rest) =
      (scan next .between rest).map fun ts => (pos, t) :: ts := by
  cases t with
  | opening => exact ⟨pos + '('.utf8Size, rfl⟩
  | closing => exact ⟨pos + ')'.utf8Size, rfl⟩
  | text chars =>
    obtain ⟨next, hnext⟩ := scan_inText_quoted (pos + '"'.utf8Size) pos [] chars rest
    refine ⟨next, ?_⟩
    rw [written, List.cons_append, List.append_assoc]
    exact hnext
  | atom chars =>
    obtain ⟨hne, hplain⟩ := ht
    cases chars with
    | nil => exact absurd rfl hne
    | cons c chars =>
      obtain ⟨hb, ho, hc, hq⟩ := isBlank_of_not_isDelimiter (hplain c List.mem_cons_self)
      obtain ⟨next, hnext⟩ := scan_inAtom_plain (pos + c.utf8Size) pos [c]
        (fun d hd => hplain d (List.mem_cons_of_mem c hd)) (hend _ rfl)
      refine ⟨next, ?_⟩
      simp only [written, List.cons_append, scan_between_cons, hb, ho, hc, hq, if_false,
        Bool.false_eq_true]
      exact hnext

/-! ## Reading all tokens -/

theorem isDelimiter_head?_of_writtenOut (h : WrittenOut ts cs)
    (hapart : (∃ t ∈ ts.head?, t ≠ closing) → ∃ c ∈ cs.head?, Text.isBlank c = true) :
    ∀ c ∈ cs.head?, isDelimiter c = true := by
  intro c hc
  cases h with
  | nil blanks hblanks =>
    exact isDelimiter_of_isBlank (hblanks c (List.mem_of_mem_head? hc))
  | cons blanks t hblanks hsep h =>
    by_cases ht : t = closing
    · cases blanks with
      | nil =>
        obtain rfl : ')' = c := by simpa [ht, written] using hc
        rfl
      | cons b blanks =>
        obtain rfl : b = c := by simpa using hc
        exact isDelimiter_of_isBlank (hblanks b List.mem_cons_self)
    · -- the next item does not begin at once
      obtain ⟨d, hd, hblank⟩ := hapart ⟨t, rfl, ht⟩
      obtain rfl : d = c := Option.some.inj (hd.symm.trans hc)
      exact isDelimiter_of_isBlank hblank

/-- **Tokens are read as they were written**, from whatever position on. -/
theorem scan_of_writtenOut (h : WrittenOut ts cs) (hproper : ∀ t ∈ ts, t.IsProper) (pos : Nat) :
    ∃ placed, scan pos .between cs = .ok placed ∧ placed.map (·.2) = ts := by
  induction h generalizing pos with
  | nil blanks hblanks =>
    obtain ⟨next, hnext⟩ := scan_blanks hblanks pos []
    rw [List.append_nil] at hnext
    exact ⟨[], hnext, rfl⟩
  | @cons blanks t ts cs hblanks hapart h ih =>
    obtain ⟨start, hstart⟩ := scan_blanks hblanks pos (t.written ++ cs)
    have hend : ∀ chars, t = atom chars → ∀ c ∈ cs.head?, isDelimiter c = true := by
      rintro chars rfl
      exact isDelimiter_head?_of_writtenOut h fun hnext => hapart ⟨nofun, hnext⟩
    obtain ⟨next, hnext⟩ := scan_written start (hproper t List.mem_cons_self) hend
    obtain ⟨placed, hplaced, rfl⟩ := ih (fun t' ht' => hproper t' (List.mem_cons_of_mem t ht')) next
    refine ⟨(start, t) :: placed, ?_, rfl⟩
    rw [hstart, hnext, hplaced]
    rfl

/-! ## The tokens of a text -/

/-- The atom that the scan stands in has begun. -/
def Scan.IsProper : Scan → Prop
  | .inAtom _ chars => IsAtom chars
  | .between | .inText .. | .escaped .. => True

theorem IsAtom.reverse {chars : List Char} (h : IsAtom chars) : IsAtom chars.reverse :=
  ⟨List.reverse_ne_nil_iff.2 h.1, fun c hc => h.2 c (List.mem_reverse.1 hc)⟩

theorem IsAtom.cons {c : Char} {chars : List Char} (h : ∀ d ∈ chars, isDelimiter d = false)
    (hc : isDelimiter c = false) : IsAtom (c :: chars) :=
  ⟨List.cons_ne_nil c chars, List.forall_mem_cons.2 ⟨hc, h⟩⟩

theorem isProper_of_map {r : Except QueryError (List (Nat × Token))} {start : Nat}
    {placed : List (Nat × Token)} (ht : t.IsProper)
    (h : (r.map fun ts => (start, t) :: ts) = .ok placed)
    (hrest : ∀ rest, r = .ok rest → ∀ t ∈ rest, t.2.IsProper) : ∀ t ∈ placed, t.2.IsProper := by
  obtain ⟨rest, rfl, hr⟩ := eq_cons_of_map_eq_ok h
  exact List.forall_mem_cons.2 ⟨ht, hrest rest hr⟩

/-- Between tokens: one character. What follows it comes in as `ih`. -/
theorem isProper_of_scan_between {c : Char} {placed : List (Nat × Token)}
    (ih : ∀ {pos : Nat} {st : Scan} {placed : List (Nat × Token)}, scan pos st cs = .ok placed →
      st.IsProper → ∀ t ∈ placed, t.2.IsProper)
    (h : scan pos .between (c :: cs) = .ok placed) : ∀ t ∈ placed, t.2.IsProper := by
  by_cases hd : isDelimiter c = true
  · rw [scan_between_cons] at h
    split at h
    · exact ih h trivial
    · split at h
      · exact isProper_of_map (t := opening) trivial h fun _ hrest => ih hrest trivial
      · split at h
        · exact isProper_of_map (t := closing) trivial h fun _ hrest => ih hrest trivial
        · split at h
          · exact ih h trivial
          · simp_all [isDelimiter]
  · have hd : isDelimiter c = false := Bool.not_eq_true _ ▸ hd
    obtain ⟨hb, ho, hc, hq⟩ := isBlank_of_not_isDelimiter hd
    simp only [scan_between_cons, hb, ho, hc, hq, if_false, Bool.false_eq_true] at h
    exact ih h (IsAtom.cons (List.forall_mem_nil _) hd)

/-- **The tokens of any text can be written.** -/
theorem isProper_of_scan {st : Scan} {placed : List (Nat × Token)}
    (h : scan pos st cs = .ok placed) (hst : st.IsProper) : ∀ t ∈ placed, t.2.IsProper := by
  induction cs generalizing pos st placed with
  | nil =>
    cases st with
    | between =>
      obtain rfl : [] = placed := by simpa using h
      exact nofun
    | inText start chars | escaped start chars => cases h
    | inAtom start chars =>
      obtain rfl : [(start, atom chars.reverse)] = placed := by simpa using h
      exact List.forall_mem_singleton.2 (IsAtom.reverse hst)
  | cons c cs ih =>
    cases st with
    | between => exact isProper_of_scan_between ih h
    | inText start chars =>
      rw [scan_inText_cons] at h
      split at h
      · exact isProper_of_map (t := text _) trivial h fun _ hrest => ih hrest trivial
      · split at h
        · exact ih h trivial
        · exact ih h trivial
    | escaped start chars => exact ih h trivial
    | inAtom start chars =>
      by_cases hd : isDelimiter c = true
      · rw [scan_inAtom_of_isDelimiter pos start chars cs hd] at h
        exact isProper_of_map (t := atom _) (IsAtom.reverse hst) h
          fun _ hrest => isProper_of_scan_between ih hrest
      · have hd : isDelimiter c = false := Bool.not_eq_true _ ▸ hd
        obtain ⟨hb, ho, hc, hq⟩ := isBlank_of_not_isDelimiter hd
        simp only [scan_inAtom_cons, hb, ho, hc, hq, if_false, Bool.false_eq_true] at h
        exact ih h (IsAtom.cons hst.2 hd)

end CodeSnapshot.Token
