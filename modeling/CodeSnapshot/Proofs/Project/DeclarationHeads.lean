import CodeSnapshot.Proofs.Project.StatementLines

/-!
# Declaration heads — what begins a declaration

A declaration begins with a keyword, which a modifier may precede, and goes on with a name if it has
one. Words are told apart in two ways here: by the characters of names, of which the dollar sign is one,
and by the edge of a word, which stands before a dollar sign too.

* **`firstWord`**, **`behindKeyword?`** — the words of a text, and what stands behind a keyword.
* **`Begins`** — a keyword by the edge behind it; `begins_cases` compares the two.
* **`takesAll_gap`**, **`Opens`** — a gap before a word ends where the word begins.
* **`begins_of_takesAll`**, **`prefersAll_of_begins`** — the pattern of a declaration matches where its
  keyword stands, and only there.
-/

namespace CodeSnapshot

open Pattern Statement

namespace Statement

/-! ## Words -/

/-- The word at the start of a text. -/
def firstWord (text : List Char) : List Char :=
  text.takeWhile nameChar.contains

/-- What stands behind the first word and the blanks after it. -/
def behindWord (text : List Char) : List Char :=
  (text.dropWhile nameChar.contains).dropWhile Text.isBlank

/-- What stands behind the keyword that a text begins with, which a modifier may precede. -/
def behindKeyword? (modifier keyword : String) (text : List Char) : Option (List Char) :=
  let text := if firstWord text = modifier.toList then behindWord text else text
  if firstWord text = keyword.toList then some (behindWord text) else none

/-- The keyword stands at the start of a text, behind the modifier if that is there, and no word
character follows it. -/
def Begins (modifier keyword : String) (text back : List Char) : Prop :=
  (∀ c ∈ back.head?, CharClass.word.contains c = false) ∧
    (text = keyword.toList ++ back ∨
      ∃ blanks, blanks ≠ [] ∧ (∀ c ∈ blanks, Text.isBlank c = true) ∧
        text = modifier.toList ++ (blanks ++ (keyword.toList ++ back)))

/-- There is text, and it does not begin with a blank. -/
def Unindented (text : List Char) : Prop :=
  ∃ c ∈ text.head?, Text.isBlank c = false

instance (text : List Char) : Decidable (Unindented text) :=
  match text with
  | [] => isFalse nofun
  | c :: _ => decidable_of_iff (Text.isBlank c = false) (by simp [Unindented])

/-- Two words that can be told apart wherever they stand, made of word characters. -/
structure Keywords (modifier keyword : String) : Prop where
  modifier_word : ∀ c ∈ modifier.toList, CharClass.word.contains c = true
  keyword_word : ∀ c ∈ keyword.toList, CharClass.word.contains c = true
  keyword_ne_nil : keyword.toList ≠ []
  modifier_apart : ¬ modifier.toList <+: keyword.toList
  keyword_apart : ¬ keyword.toList <+: modifier.toList

section

variable {p : Char → Bool} {front back text : List Char} {m k : String}

/-- A front part that satisfies a condition, up to where the condition ends. -/
theorem span_append (hfront : ∀ c ∈ front, p c = true) (hback : ∀ c ∈ back.head?, p c = false) :
    (front ++ back).takeWhile p = front ∧ (front ++ back).dropWhile p = back := by
  rw [List.takeWhile_append_of_pos hfront, List.dropWhile_append_of_pos hfront]
  cases back with
  | nil => exact ⟨List.append_nil front, rfl⟩
  | cons c back =>
    have hc : ¬ p c = true := by simp [hback c rfl]
    rw [List.takeWhile_cons_of_neg hc, List.dropWhile_cons_of_neg hc, List.append_nil]
    exact ⟨rfl, rfl⟩

theorem nameChar_of_word {c : Char} (h : CharClass.word.contains c = true) :
    nameChar.contains c = true := by
  have hunion : nameChar.contains c =
      (CharClass.word.contains c || (CharClass.single '$').contains c) := rfl
  rw [hunion, h, Bool.true_or]

/-- The dollar sign is all that names have beside word characters. -/
theorem eq_dollar {c : Char} (hname : nameChar.contains c = true)
    (hword : CharClass.word.contains c = false) : c = '$' := by
  have hunion : nameChar.contains c =
      (CharClass.word.contains c || (CharClass.single '$').contains c) := rfl
  rw [hunion, hword, Bool.false_or, CharClass.contains_single, beq_iff_eq] at hname
  exact hname.symm

theorem not_word_of_isBlank {c : Char} (h : Text.isBlank c = true) : nameChar.contains c = false :=
  Bool.eq_false_iff.2 fun hname => by rw [not_isBlank_of_nameChar hname] at h; cases h

theorem Unindented.not_isBlank (h : Unindented text) (back : List Char) :
    ∀ c ∈ (text ++ back).head?, Text.isBlank c = false := by
  obtain ⟨c, hc, hblank⟩ := h
  intro d hd
  rw [List.head?_append, Option.mem_def.1 hc] at hd
  rw [← Option.some.inj hd]
  exact hblank

/-- A keyword begins with a character of names. -/
theorem Keywords.exists_head (h : Keywords m k) :
    ∃ c ∈ k.toList.head?, nameChar.contains c = true := by
  obtain ⟨c, cs, hk⟩ := List.exists_cons_of_ne_nil h.keyword_ne_nil
  refine ⟨c, by rw [hk]; rfl, nameChar_of_word (h.keyword_word c ?_)⟩
  rw [hk]
  exact List.mem_cons_self ..

theorem Keywords.unindented (h : Keywords m k) : Unindented k.toList := by
  obtain ⟨c, hc, hname⟩ := h.exists_head
  exact ⟨c, hc, not_isBlank_of_nameChar hname⟩

/-- What is left behind a front part does not begin with more of it. -/
theorem head?_dropWhile (p : Char → Bool) (text : List Char) :
    ∀ c ∈ (text.dropWhile p).head?, p c = false := by
  intro c hc
  have hnot := List.head?_dropWhile_not p text
  rw [Option.mem_def.1 hc] at hnot
  simpa using hnot

theorem firstWord_append_dropWhile (text : List Char) :
    text = firstWord text ++ text.dropWhile nameChar.contains :=
  List.takeWhile_append_dropWhile.symm

/-- A word and blanks behind it. -/
theorem firstWord_of_blanks {blanks : List Char}
    (hm : ∀ c ∈ m.toList, CharClass.word.contains c = true) (hne : blanks ≠ [])
    (hblanks : ∀ c ∈ blanks, Text.isBlank c = true) (hback : ∀ c ∈ back.head?, Text.isBlank c = false) :
    firstWord (m.toList ++ (blanks ++ back)) = m.toList ∧
      behindWord (m.toList ++ (blanks ++ back)) = back := by
  have hname : ∀ c ∈ m.toList, nameChar.contains c = true := fun c hc => nameChar_of_word (hm c hc)
  have hstop : ∀ c ∈ (blanks ++ back).head?, nameChar.contains c = false := by
    intro c hc
    rw [List.head?_append_of_ne_nil _ hne] at hc
    exact not_word_of_isBlank (hblanks c (List.mem_of_mem_head? hc))
  obtain ⟨hfirst, hbehind⟩ := span_append hname hstop
  refine ⟨hfirst, ?_⟩
  rw [behindWord, hbehind]
  exact (span_append hblanks hback).2

/-- A word up to its edge is the first word, unless a dollar sign follows. -/
theorem firstWord_of_edge (hk : ∀ c ∈ k.toList, CharClass.word.contains c = true)
    (hback : ∀ c ∈ back.head?, CharClass.word.contains c = false) :
    (firstWord (k.toList ++ back) = k.toList ∧
        behindWord (k.toList ++ back) = back.dropWhile Text.isBlank) ∨
      ∃ more, back = '$' :: more ∧
        firstWord (k.toList ++ back) = k.toList ++ '$' :: firstWord more := by
  have hname : ∀ c ∈ k.toList, nameChar.contains c = true := fun c hc => nameChar_of_word (hk c hc)
  by_cases hstop : ∀ c ∈ back.head?, nameChar.contains c = false
  · obtain ⟨hfirst, hbehind⟩ := span_append hname hstop
    exact .inl ⟨hfirst, by rw [behindWord, hbehind]⟩
  · obtain ⟨c, hc, hgoes⟩ : ∃ c, c ∈ back.head? ∧ nameChar.contains c = true := by
      simpa using hstop
    obtain rfl := eq_dollar hgoes (hback c hc)
    obtain ⟨more, rfl⟩ := List.head?_eq_some_iff.1 hc
    refine .inr ⟨more, rfl, ?_⟩
    rw [firstWord, List.takeWhile_append_of_pos hname, List.takeWhile_cons_of_pos hgoes]
    rfl

theorem edge_of_firstWord (h : firstWord text = k.toList) :
    ∃ back, text = k.toList ++ back ∧ ∀ c ∈ back.head?, CharClass.word.contains c = false := by
  refine ⟨text.dropWhile nameChar.contains, h ▸ firstWord_append_dropWhile text, fun c hc => ?_⟩
  exact Bool.eq_false_iff.2 fun hword => by
    have hstop := head?_dropWhile _ _ c hc
    rw [nameChar_of_word hword] at hstop
    cases hstop

theorem firstWord_of_behindKeyword? (h : behindKeyword? m k text = some back) :
    ∃ w ∈ [m, k], firstWord text = w.toList := by
  by_cases hm : firstWord text = m.toList
  · exact ⟨m, List.mem_cons_self .., hm⟩
  · refine ⟨k, by simp, ?_⟩
    by_contra hk
    rw [behindKeyword?, if_neg hm, if_neg hk] at h
    cases h

/-- What stands behind the keyword is found where the keyword is the first word. -/
theorem exists_begins_of_behindKeyword? (hw : Keywords m k) (h : behindKeyword? m k text ≠ none) :
    ∃ back, Begins m k text back := by
  rw [behindKeyword?] at h
  by_cases hm : firstWord text = m.toList
  · rw [if_pos hm] at h
    have hk : firstWord (behindWord text) = k.toList := by
      by_contra hk
      exact h (if_neg hk)
    obtain ⟨back, hbehind, hedge⟩ := edge_of_firstWord hk
    have htext : text = m.toList ++
        ((text.dropWhile nameChar.contains).takeWhile Text.isBlank ++ (k.toList ++ back)) := by
      rw [← hbehind, behindWord, List.takeWhile_append_dropWhile, ← hm]
      exact firstWord_append_dropWhile text
    refine ⟨back, hedge, .inr ⟨_, fun hnone => ?_, fun c hc => ?_, htext⟩⟩
    · -- without blanks the keyword would belong to the first word
      have hdrop : text.dropWhile nameChar.contains = k.toList ++ back := by
        rw [← hbehind, behindWord]
        have hsplit := List.takeWhile_append_dropWhile (p := Text.isBlank)
          (l := text.dropWhile nameChar.contains)
        rw [hnone] at hsplit
        exact hsplit.symm
      obtain ⟨c, hc, hname⟩ := hw.exists_head
      have hstop := head?_dropWhile nameChar.contains text c
        (by rw [hdrop, List.head?_append, Option.mem_def.1 hc]; rfl)
      rw [hname] at hstop
      cases hstop
    · exact List.all_eq_true.1 List.all_takeWhile c hc
  · rw [if_neg hm] at h
    have hk : firstWord text = k.toList := by
      by_contra hk
      exact h (if_neg hk)
    obtain ⟨back, htext, hedge⟩ := edge_of_firstWord hk
    exact ⟨back, hedge, .inl htext⟩

/-- **Keywords by their edges and as first words.** A keyword that stands at the start by the edge
behind it is the first word there, but where a dollar sign follows. -/
theorem begins_cases (hw : Keywords m k) (text : List Char) :
    (∃ back, Begins m k text back ∧
        behindKeyword? m k text = some (back.dropWhile Text.isBlank)) ∨
      (∃ back, Begins m k text ('$' :: back) ∧ behindKeyword? m k text = none ∧
        (firstWord text = m.toList ∨ k.toList ++ ['$'] <+: text)) ∨
      ((∀ back, ¬ Begins m k text back) ∧ behindKeyword? m k text = none ∧
        firstWord text ≠ k.toList) := by
  have hdifferent : k.toList ≠ m.toList := fun heq => hw.keyword_apart (heq ▸ List.prefix_refl _)
  by_cases hbegins : ∃ back, Begins m k text back
  · obtain ⟨back, hedge, hplace⟩ := hbegins
    have hbegin : Begins m k text back := ⟨hedge, hplace⟩
    -- whichever of the two places it is, the keyword stands in front of what is looked at there
    rcases hplace with rfl | ⟨blanks, hne, hblanks, rfl⟩
    · rcases firstWord_of_edge hw.keyword_word hedge with ⟨hfirst, hbehind⟩ | ⟨more, rfl, hfirst⟩
      · refine .inl ⟨back, hbegin, ?_⟩
        rw [behindKeyword?, hfirst, if_neg hdifferent, hfirst, if_pos rfl, hbehind]
      · have hmodifier : k.toList ++ '$' :: firstWord more ≠ m.toList :=
          fun heq => hw.keyword_apart (heq ▸ List.prefix_append ..)
        refine .inr (.inl ⟨more, hbegin, ?_, .inr ⟨more, List.append_assoc ..⟩⟩)
        rw [behindKeyword?, hfirst, if_neg hmodifier, hfirst, if_neg (by simp)]
    · obtain ⟨hfirst, hbehind⟩ :=
        firstWord_of_blanks hw.modifier_word hne hblanks (hw.unindented.not_isBlank back)
      rcases firstWord_of_edge hw.keyword_word hedge with ⟨hnext, hlast⟩ | ⟨more, rfl, hnext⟩
      · refine .inl ⟨back, hbegin, ?_⟩
        rw [behindKeyword?, hfirst, if_pos rfl, hbehind, hnext, if_pos rfl, hlast]
      · refine .inr (.inl ⟨more, hbegin, ?_, .inl hfirst⟩)
        rw [behindKeyword?, hfirst, if_pos rfl, hbehind, hnext, if_neg (by simp)]
  · refine .inr (.inr ⟨fun back hbegin => hbegins ⟨back, hbegin⟩, ?_, fun hfirst => ?_⟩)
    · by_contra hsome
      exact hbegins (exists_begins_of_behindKeyword? hw hsome)
    · obtain ⟨back, htext, hedge⟩ := edge_of_firstWord hfirst
      exact hbegins ⟨back, hedge, .inl htext⟩

end

end Statement

/-! ## Words and gaps in patterns -/

namespace ExportRecord

/-- Whatever the patterns take, one after the other, begins with one of the words. -/
def Opens (ws : List String) (ps : List Pattern) : Prop :=
  ∀ front piece rest, TakesAll ps front piece rest → ∃ w ∈ ws, w.toList <+: piece

section

variable {ps : List Pattern} {p : Pattern} {ws : List String} {w m k : String}
  {front piece rest text blanks back : List Char}

theorem takes_gap (h : gap.Takes front piece rest) :
    piece ≠ [] ∧ ∀ c ∈ piece, Text.isBlank c = true := by
  obtain ⟨hleast, -, hblank⟩ := h
  exact ⟨List.length_pos_iff.1 hleast, fun c hc => CharClass.contains_blank c ▸ hblank c hc⟩

theorem takesAll_word (h : TakesAll (word w :: ps) front piece rest) :
    ∃ more, piece = w.toList ++ more ∧ TakesAll ps (front ++ w.toList) more rest := by
  obtain ⟨first, more, rfl, hword, hps⟩ := h
  obtain rfl := eq_of_takes_word hword
  exact ⟨more, rfl, hps⟩

theorem takesAll_modifier (h : TakesAll (modifier w :: ps) front piece rest) :
    TakesAll ps front piece rest ∨
      ∃ more, piece = w.toList ++ more ∧ TakesAll (gap :: ps) (front ++ w.toList) more rest := by
  obtain ⟨first, more, rfl, hmodifier, hps⟩ := h
  rcases takes_maybe hmodifier with rfl | ⟨mark, blanks, rfl, hword, hgap⟩
  · rw [List.append_nil] at hps
    exact .inl hps
  · obtain rfl := eq_of_takes_word hword
    rw [← List.append_assoc] at hps
    exact .inr ⟨blanks ++ more, List.append_assoc .., blanks, more, rfl, hgap, hps⟩

theorem takesAll_defaultMark {number : Nat}
    (h : TakesAll (defaultMark number :: ps) front piece rest) :
    TakesAll ps front piece rest ∨ ∃ more, piece = "default".toList ++ more ∧
      TakesAll (gap :: ps) (front ++ "default".toList) more rest :=
  takesAll_modifier (w := "default") h

theorem opens_word (w : String) (ps : List Pattern) : Opens [w] (word w :: ps) := by
  intro front piece rest h
  obtain ⟨more, rfl, -⟩ := takesAll_word h
  exact ⟨w, List.mem_singleton_self w, List.prefix_append ..⟩

theorem Opens.modifier (h : Opens ws ps) (w : String) : Opens (w :: ws) (modifier w :: ps) := by
  intro front piece rest htakes
  rcases takesAll_modifier htakes with hps | ⟨more, rfl, -⟩
  · obtain ⟨v, hv, hstarts⟩ := h _ _ _ hps
    exact ⟨v, List.mem_cons_of_mem w hv, hstarts⟩
  · exact ⟨w, List.mem_cons_self .., List.prefix_append ..⟩

theorem Opens.defaultMark (h : Opens ws ps) (number : Nat) :
    Opens ("default" :: ws) (defaultMark number :: ps) :=
  h.modifier "default"

theorem takes_firstOf {ps : List Pattern} (h : (firstOf ps).Takes front piece rest) :
    ∃ p ∈ ps, p.Takes front piece rest := by
  induction ps with
  | nil =>
    obtain ⟨c, -, hc⟩ := h
    exact absurd hc (Bool.eq_false_iff.1 (CharClass.contains_empty c))
  | cons p ps ih =>
    cases ps with
    | nil => exact ⟨p, List.mem_singleton_self p, h⟩
    | cons q ps =>
      rcases h with hp | hps
      · exact ⟨p, List.mem_cons_self .., hp⟩
      · obtain ⟨q, hq, htakes⟩ := ih hps
        exact ⟨q, List.mem_cons_of_mem p hq, htakes⟩

theorem opens_firstOf (ws : List String) (ps : List Pattern) :
    Opens ws (firstOf (ws.map word) :: ps) := by
  rintro front piece rest ⟨first, more, rfl, hfirst, -⟩
  obtain ⟨p, hp, htakes⟩ := takes_firstOf hfirst
  obtain ⟨w, hw, rfl⟩ := List.mem_map.1 hp
  obtain rfl := eq_of_takes_word htakes
  exact ⟨w, hw, List.prefix_append ..⟩

/-- **A gap** before words ends where the blanks of the text end. -/
theorem takesAll_gap (hopens : Opens ws ps)
    (hws : ∀ w ∈ ws, Unindented w.toList)
    (h : TakesAll (gap :: ps) front piece rest) (htext : piece ++ rest = blanks ++ text)
    (hblanks : ∀ c ∈ blanks, Text.isBlank c = true)
    (hstop : ∀ c ∈ text.head?, Text.isBlank c = false) :
    ∃ front' more, more ++ rest = text ∧ TakesAll ps front' more rest := by
  obtain ⟨first, more, rfl, hgap, hps⟩ := h
  refine ⟨_, more, ?_, hps⟩
  have hfurther : ∀ c ∈ (more ++ rest).head?, Text.isBlank c = false := by
    obtain ⟨w, hw, tail, rfl⟩ := hopens _ _ _ hps
    rw [List.append_assoc]
    exact (hws w hw).not_isBlank _
  rw [List.append_assoc] at htext
  rw [← (span_append (takes_gap hgap).2 hfurther).2, htext, (span_append hblanks hstop).2]

/-! ## Keywords in patterns -/

/-- The edge of a word behind a keyword. -/
theorem holdsAt_edge_iff (hw : Keywords m k) :
    Place.holdsAt (.wordEdge CharClass.word) (.behind (front ++ k.toList) back) = true ↔
      ∀ c ∈ back.head?, CharClass.word.contains c = false := by
  obtain ⟨initial, c, hk⟩ := (List.eq_nil_or_concat' k.toList).resolve_left hw.keyword_ne_nil
  have hlast : (front ++ k.toList).getLast? = some c := by
    rw [hk, ← List.append_assoc, List.getLast?_concat]
  have hword : CharClass.word.contains c = true :=
    hw.keyword_word c (by rw [hk]; exact List.mem_append_right _ (List.mem_singleton_self c))
  rw [Place.holdsAt, Cursor.behind, hlast]
  cases back with
  | nil => simp [isIn, hword]
  | cons d back => simp [isIn, hword]

/-- **Where a declaration matches, its keyword stands.** -/
theorem begins_of_takesAll (hw : Keywords m k)
    (h : TakesAll (modifier m :: word k :: edge :: ps) front piece rest) :
    ∃ back, Begins m k (piece ++ rest) back := by
  have hkeyword {front piece : List Char} (h : TakesAll (word k :: edge :: ps) front piece rest) :
      ∃ back, piece ++ rest = k.toList ++ back ∧
        ∀ c ∈ back.head?, CharClass.word.contains c = false := by
    obtain ⟨-, rfl, -, more, rfl, ⟨rfl, hedge⟩, -⟩ := takesAll_word h
    exact ⟨more ++ rest, List.append_assoc .., (holdsAt_edge_iff hw).1 hedge⟩
  rcases takesAll_modifier h with h | ⟨-, rfl, blanks, more, rfl, hgap, h⟩
  · obtain ⟨back, htext, hedge⟩ := hkeyword h
    exact ⟨back, hedge, .inl htext⟩
  · obtain ⟨back, htext, hedge⟩ := hkeyword h
    obtain ⟨hne, hblanks⟩ := takes_gap hgap
    refine ⟨back, hedge, .inr ⟨blanks, hne, hblanks, ?_⟩⟩
    rw [← htext]
    simp only [List.append_assoc]

theorem prefers_space (hblanks : ∀ c ∈ blanks, Text.isBlank c = true)
    (hrest : ∀ c ∈ rest.head?, Text.isBlank c = false) : space.Prefers front blanks rest [] :=
  prefers_many (fun c hc => CharClass.contains_blank c ▸ hblanks c hc)
    fun c hc => CharClass.contains_blank c ▸ hrest c hc

theorem prefers_gap (hne : blanks ≠ []) (hblanks : ∀ c ∈ blanks, Text.isBlank c = true)
    (hrest : ∀ c ∈ rest.head?, Text.isBlank c = false) : gap.Prefers front blanks rest [] :=
  prefers_many1 hne (fun c hc => CharClass.contains_blank c ▸ hblanks c hc)
    fun c hc => CharClass.contains_blank c ▸ hrest c hc

theorem prefers_modifier (w : String) (hne : blanks ≠ [])
    (hblanks : ∀ c ∈ blanks, Text.isBlank c = true)
    (hrest : ∀ c ∈ rest.head?, Text.isBlank c = false) :
    (modifier w).Prefers front (w.toList ++ blanks) rest [] :=
  ((prefers_word w).seq (prefers_gap hne hblanks hrest)).maybe

theorem prefers_defaultMark (number : Nat) (hne : blanks ≠ [])
    (hblanks : ∀ c ∈ blanks, Text.isBlank c = true)
    (hrest : ∀ c ∈ rest.head?, Text.isBlank c = false) :
    (defaultMark number).Prefers front ("default".toList ++ blanks) rest
      [(number, ⟨front.length, "default".toList ++ blanks⟩)] :=
  (((prefers_word "default").seq (prefers_gap hne hblanks hrest)).group number).maybe

theorem prefers_no_modifier (hw : Keywords m k) :
    (modifier m).Prefers front [] (k.toList ++ back) [] := by
  refine prefers_maybe_nil fun piece rest htext htakes => ?_
  obtain ⟨mark, blanks, rfl, hword, -⟩ := htakes
  obtain rfl := eq_of_takes_word hword
  have hstarts : m.toList <+: k.toList ++ back := ⟨blanks ++ rest, by rw [htext, List.append_assoc]⟩
  rcases List.prefix_or_prefix_of_prefix hstarts (List.prefix_append ..) with h | h
  · exact hw.modifier_apart h
  · exact hw.keyword_apart h

/-- **Where a keyword stands, a declaration matches**, if what comes behind the keyword does. -/
theorem prefersAll_of_begins {added : List Char → List (Nat × Piece)} (hw : Keywords m k)
    (h : Begins m k text back) (hback : back.dropWhile Text.isBlank = piece ++ rest)
    (htail : ∀ front, PrefersAll ps front piece rest (added front)) (front : List Char) :
    ∃ taken front', text = taken ++ rest ∧
      PrefersAll (modifier m :: word k :: edge :: space :: ps) front taken rest (added front') := by
  obtain ⟨blanks, hblanks, hstop, rfl⟩ : ∃ blanks, (∀ c ∈ blanks, Text.isBlank c = true) ∧
      (∀ c ∈ (piece ++ rest).head?, Text.isBlank c = false) ∧ back = blanks ++ (piece ++ rest) := by
    refine ⟨back.takeWhile Text.isBlank, List.all_eq_true.1 List.all_takeWhile,
      hback ▸ head?_dropWhile _ _, ?_⟩
    rw [← hback, List.takeWhile_append_dropWhile]
  obtain ⟨hedge, hplace⟩ := h
  -- from the keyword on
  have hkeyword (front : List Char) : ∃ front',
      PrefersAll (word k :: edge :: space :: ps) front (k.toList ++ (blanks ++ piece)) rest
        (added front') := by
    have hstands : Place.holdsAt (.wordEdge CharClass.word)
        (.behind (front ++ k.toList) (blanks ++ piece ++ rest)) = true := by
      rw [List.append_assoc]
      exact (holdsAt_edge_iff hw).2 hedge
    have hall := PrefersAll.cons (prefers_word k) (.cons (prefers_place hstands)
      (.cons (prefers_space hblanks hstop) (htail _)))
    simp only [List.append_nil, List.nil_append] at hall
    exact ⟨_, hall⟩
  rcases hplace with rfl | ⟨between, hne, hbetween, rfl⟩
  · obtain ⟨front', hall⟩ := hkeyword (front ++ [])
    have hnone : (modifier m).Prefers front [] (k.toList ++ (blanks ++ piece) ++ rest) [] := by
      rw [List.append_assoc]
      exact prefers_no_modifier hw
    have hall := PrefersAll.cons hnone hall
    rw [List.append_nil] at hall
    exact ⟨_, front', by simp only [List.append_assoc, List.nil_append], hall⟩
  · obtain ⟨front', hall⟩ := hkeyword (front ++ (m.toList ++ between))
    have hsome : (modifier m).Prefers front (m.toList ++ between)
        (k.toList ++ (blanks ++ piece) ++ rest) [] := by
      rw [List.append_assoc]
      exact prefers_modifier m hne hbetween (hw.unindented.not_isBlank _)
    have hall := PrefersAll.cons hsome hall
    rw [List.append_nil] at hall
    exact ⟨_, front', by simp only [List.append_assoc], hall⟩

end

end ExportRecord

end CodeSnapshot
