import CodeSnapshot.Proofs.Project.DeclarationHeads

/-!
# Commented words — what the words of a declaration are without its comments

The forms of export declarations know nothing of comments: one that stands between two words of a
declaration parts them for good. Without its comments the declaration has the words that it is meant to
have.

* **`withoutComments`** — a text with blanks in the place of its comments.
* **`firstWord_withoutComments`**, **`behindWord_withoutComments`** — a word, and what stands behind it,
  if no comment does.
* **`behindKeyword?_withoutComments`** — the same for the keyword of a declaration.
-/

namespace CodeSnapshot.Statement

/-- Where one stands in a text: outside of its comments, or in one. -/
inductive CommentState where
  | outside
  /-- in a comment up to the end of its line -/
  | line
  /-- in a comment up to its own end -/
  | block

/-- A text with blanks in the place of its comments; the ends of lines stay. -/
def uncommented : CommentState → List Char → List Char
  | _, [] => []
  | .outside, '/' :: '*' :: text => ' ' :: ' ' :: uncommented .block text
  | .outside, '/' :: '/' :: text => ' ' :: ' ' :: uncommented .line text
  | .outside, c :: text => c :: uncommented .outside text
  | .line, '\n' :: text => '\n' :: uncommented .outside text
  | .line, _ :: text => ' ' :: uncommented .line text
  | .block, '*' :: '/' :: text => ' ' :: ' ' :: uncommented .outside text
  | .block, '\n' :: text => '\n' :: uncommented .block text
  | .block, _ :: text => ' ' :: uncommented .block text

/-- A text without its comments. -/
def withoutComments (text : List Char) : List Char :=
  uncommented .outside text

variable {p : Char → Bool} {text back : List Char} {c : Char} {m k : String}

theorem withoutComments_cons (hc : c ≠ '/') (text : List Char) :
    withoutComments (c :: text) = c :: withoutComments text := by
  rw [withoutComments, uncommented.eq_def]
  split <;> simp_all [withoutComments]

/-- A comment begins where a slash stands. -/
theorem withoutComments_slash (text : List Char) :
    ∃ d more, withoutComments ('/' :: text) = d :: more ∧ (d = '/' ∨ d = ' ') := by
  rw [withoutComments, uncommented.eq_def]
  split <;> grind

/-- What satisfies a condition at the start of a text does so without comments, too. -/
theorem span_withoutComments (hslash : p '/' = false) (hblank : p ' ' = false) (text : List Char) :
    (withoutComments text).takeWhile p = text.takeWhile p ∧
      (withoutComments text).dropWhile p = withoutComments (text.dropWhile p) := by
  induction text with
  | nil => exact ⟨rfl, rfl⟩
  | cons c text ih =>
    by_cases hc : c = '/'
    · subst hc
      obtain ⟨d, more, htext, hd⟩ := withoutComments_slash text
      have hstop : ¬ p d = true := by rcases hd with rfl | rfl <;> simp [hslash, hblank]
      rw [List.takeWhile_cons_of_neg (by simp [hslash]),
        List.dropWhile_cons_of_neg (by simp [hslash]), htext, List.takeWhile_cons_of_neg hstop,
        List.dropWhile_cons_of_neg hstop]
      exact ⟨rfl, rfl⟩
    · rw [withoutComments_cons hc, List.takeWhile_cons, List.takeWhile_cons, List.dropWhile_cons,
        List.dropWhile_cons]
      split
      · exact ⟨congrArg (c :: ·) ih.1, ih.2⟩
      · exact ⟨rfl, (withoutComments_cons hc text).symm⟩

theorem not_nameChar_slash : nameChar.contains '/' = false := by decide +kernel

theorem ne_slash_of_nameChar (h : nameChar.contains c = true) : c ≠ '/' := by
  rintro rfl
  rw [not_nameChar_slash] at h
  cases h

theorem firstWord_withoutComments (text : List Char) :
    firstWord (withoutComments text) = firstWord text :=
  (span_withoutComments not_nameChar_slash (not_word_of_isBlank rfl) text).1

/-- Blanks in front of something other than a comment. -/
theorem dropBlanks_withoutComments (h : ∀ c ∈ (text.dropWhile Text.isBlank).head?, c ≠ '/') :
    (withoutComments text).dropWhile Text.isBlank =
      withoutComments (text.dropWhile Text.isBlank) := by
  induction text with
  | nil => rfl
  | cons c text ih =>
    by_cases hblank : Text.isBlank c = true
    · have hc : c ≠ '/' := by
        rintro rfl
        cases hblank
      rw [List.dropWhile_cons_of_pos hblank] at h
      rw [withoutComments_cons hc, List.dropWhile_cons_of_pos hblank,
        List.dropWhile_cons_of_pos hblank, ih h]
    · rw [List.dropWhile_cons_of_neg hblank] at h
      rw [List.dropWhile_cons_of_neg hblank, withoutComments_cons (h c rfl),
        List.dropWhile_cons_of_neg hblank]

theorem behindWord_withoutComments (h : ∀ c ∈ (behindWord text).head?, c ≠ '/') :
    behindWord (withoutComments text) = withoutComments (behindWord text) := by
  rw [behindWord, (span_withoutComments not_nameChar_slash (not_word_of_isBlank rfl) text).2,
    dropBlanks_withoutComments h]
  rfl

theorem nameChar_of_firstWord (h : firstWord text ≠ []) :
    ∀ c ∈ text.head?, nameChar.contains c = true := by
  intro c hc
  obtain ⟨more, rfl⟩ := List.head?_eq_some_iff.1 hc
  by_contra hnot
  exact h (List.takeWhile_cons_of_neg hnot)

/-- A text that begins with a word begins with no comment. -/
theorem dropBlanks_of_firstWord (h : firstWord text ≠ []) :
    (withoutComments text).dropWhile Text.isBlank = withoutComments text := by
  cases text with
  | nil => exact absurd rfl h
  | cons c text =>
    have hc := nameChar_of_firstWord h c rfl
    rw [withoutComments_cons (ne_slash_of_nameChar hc)]
    refine List.dropWhile_cons_of_neg fun hblank => ?_
    rw [not_word_of_isBlank hblank] at hc
    cases hc

theorem behindKeyword?_eq_none (hm : firstWord text ≠ m.toList) (hk : firstWord text ≠ k.toList) :
    behindKeyword? m k text = none := by
  rw [behindKeyword?, if_neg hm, if_neg hk]

/-- **A keyword without comments**, if none stands behind its modifier or behind itself. -/
theorem behindKeyword?_withoutComments
    (hgap : firstWord text = m.toList → ∀ c ∈ (behindWord text).head?, c ≠ '/')
    (hback : ∀ back ∈ behindKeyword? m k text, ∀ c ∈ back.head?, c ≠ '/') :
    behindKeyword? m k (withoutComments text) = (behindKeyword? m k text).map withoutComments := by
  have hlast {text : List Char} (hback : ∀ back ∈ (if firstWord text = k.toList then
      some (behindWord text) else none), ∀ c ∈ back.head?, c ≠ '/') :
      (if firstWord (withoutComments text) = k.toList then some (behindWord (withoutComments text))
        else none) =
      (if firstWord text = k.toList then some (behindWord text) else none).map withoutComments := by
    rw [firstWord_withoutComments]
    split
    · next hk =>
      rw [if_pos hk] at hback
      rw [behindWord_withoutComments (hback _ rfl)]
      rfl
    · rfl
  rw [behindKeyword?] at hback ⊢
  rw [firstWord_withoutComments, behindKeyword?]
  by_cases hm : firstWord text = m.toList
  · rw [if_pos hm] at hback ⊢
    rw [if_pos hm, behindWord_withoutComments (hgap hm)]
    exact hlast hback
  · rw [if_neg hm] at hback ⊢
    rw [if_neg hm]
    exact hlast hback

/-- No comment stands between a modifier and its keyword where the form finds both. -/
theorem Begins.ne_slash (hw : Keywords m k) (h : Begins m k text back)
    (hm : firstWord text = m.toList) : ∀ c ∈ (behindWord text).head?, c ≠ '/' := by
  obtain ⟨hedge, rfl | ⟨blanks, hne, hblanks, rfl⟩⟩ := h
  · rcases firstWord_of_edge hw.keyword_word hedge with ⟨hfirst, -⟩ | ⟨more, -, hfirst⟩
    · exact absurd (hfirst.symm.trans hm) fun heq => hw.keyword_apart (heq ▸ List.prefix_refl _)
    · exact absurd (hfirst.symm.trans hm) fun heq => hw.keyword_apart (heq ▸ List.prefix_append ..)
  · obtain ⟨-, hbehind⟩ :=
      firstWord_of_blanks hw.modifier_word hne hblanks (hw.unindented.not_isBlank back)
    obtain ⟨d, hd, hname⟩ := hw.exists_head
    intro c hc
    rw [hbehind, List.head?_append, Option.mem_def.1 hd] at hc
    obtain rfl : d = c := Option.some.inj hc
    exact ne_slash_of_nameChar hname

end CodeSnapshot.Statement
