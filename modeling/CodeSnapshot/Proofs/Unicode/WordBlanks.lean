import CodeSnapshot.Pattern.CharClass

/-!
# Word characters — none of them is a blank

A name in a source file is made of word characters, and what is read from a table is trimmed. The two
go together because no blank is a word character. Beyond ASCII this is a fact about the tables of the
character database: none of their runs meets one of the places where blanks are.

* **`clear`** — a list of runs that has no blank in it, as it can be evaluated.
* **`clear_alphabetic`**, **`clear_points`** — the tables that make up the word characters.
* **`contains_word_of_isBlank`** — the headline.
-/

namespace CodeSnapshot.Unicode

/-- Where the blanks beyond ASCII are, first and last code point. -/
def blankPlaces : List (Nat × Nat) :=
  [(0x85, 0x85), (0xA0, 0xA0), (0x1680, 0x1680), (0x2000, 0x200A), (0x2028, 0x2029),
   (0x202F, 0x202F), (0x205F, 0x205F), (0x3000, 0x3000)]

/-- Whether each run lies before or behind each of these places. -/
def clear (rs : List Run) : Bool :=
  rs.all fun r => blankPlaces.all fun place => Nat.blt r.last place.1 || Nat.blt place.2 r.first

theorem inRuns_of_clear {rs : List Run} (h : clear rs = true) {place : Nat × Nat}
    (hplace : place ∈ blankPlaces) {n : Nat} (hfirst : place.1 ≤ n) (hlast : n ≤ place.2) :
    inRuns rs n = false := by
  refine List.any_eq_false.2 fun r hr => ?_
  have hside := List.all_eq_true.1 (List.all_eq_true.1 h r hr) place hplace
  simp only [Nat.blt_eq, Bool.or_eq_true] at hside
  simp only [Run.contains, Bool.and_eq_true, decide_eq_true_eq, not_and]
  omega

/-- The text of a table is taken as a list of characters, which is what can be evaluated. -/
theorem clear_runs {table : List Char} (h : clear ((tableItems table).map Run.ofItem) = true) :
    clear (runs (String.ofList table)) = true := by
  rwa [runs, String.toList_ofList]

set_option maxRecDepth 20000 in
theorem clear_alphabetic : clear alphabetic.points = true := by
  simp only [alphabetic]
  exact clear_runs (by decide +kernel)

set_option maxRecDepth 20000 in
theorem clear_points {k : Category} (h : k ∈ Pattern.CharClass.wordCategories) :
    clear k.points = true := by
  cases k with
  | uppercaseLetter | lowercaseLetter | titlecaseLetter | modifierLetter | otherLetter
  | nonspacingMark | spacingMark | enclosingMark | decimalNumber | letterNumber
  | connectorPunctuation => exact clear_runs (by decide +kernel)
  | _ => exact absurd h (by decide)

end CodeSnapshot.Unicode

namespace CodeSnapshot.Pattern.CharClass

open Unicode

theorem holds_ofCategories {ks : List Category} {n : Nat}
    (h : ∀ k ∈ ks, inRuns k.points n = false) : (ofCategories ks).holds n = false := by
  induction ks with
  | nil =>
    show (decide (1 ≤ n) && decide (n ≤ 0)) = false
    simp
    omega
  | cons k ks ih =>
    obtain ⟨hk, hks⟩ := List.forall_mem_cons.1 h
    show (inRuns k.points n || (ofCategories ks).holds n) = false
    rw [hk, ih hks]
    rfl

theorem holds_asciiWord_of_isBlank {c : Char} (h : Text.isBlank c = true) :
    asciiWord.holds c.toNat = false := by
  simp only [Text.isBlank, Bool.or_eq_true, Bool.and_eq_true, decide_eq_true_eq, beq_iff_eq] at h
  simp only [asciiWord, ofRanges, List.foldr, holds, empty, Char.reduceToNat, Bool.or_eq_false_iff,
    Bool.and_eq_false_iff, decide_eq_false_iff_not]
  omega

/-- **No blank is a word character.** -/
theorem contains_word_of_isBlank {c : Char} (h : Text.isBlank c = true) :
    word.contains c = false := by
  have hbeyond : beyondAscii.holds c.toNat = true →
      ∃ place ∈ blankPlaces, place.1 ≤ c.toNat ∧ c.toNat ≤ place.2 := by
    intro hbeyond
    simp only [beyondAscii, holds, Bool.and_eq_true, decide_eq_true_eq] at hbeyond
    simp only [Text.isBlank, Bool.or_eq_true, Bool.and_eq_true, decide_eq_true_eq,
      beq_iff_eq] at h
    simp [blankPlaces]
    omega
  rw [contains, word, holds_union, holds_asciiWord_of_isBlank h, Bool.false_or]
  -- beyond ASCII a word character is a joiner, a letter, or of one of the categories
  show (beyondAscii.holds c.toNat && (_ || (_ || _))) = false
  cases hside : beyondAscii.holds c.toNat with
  | false => rfl
  | true =>
    obtain ⟨place, hplace, hfirst, hlast⟩ := hbeyond hside
    have hjoiners : (range 0x200C 0x200D).holds c.toNat = false := by
      simp only [blankPlaces, List.mem_cons, List.not_mem_nil, or_false] at hplace
      simp only [holds, Bool.and_eq_false_iff, decide_eq_false_iff_not]
      rcases hplace with rfl | rfl | rfl | rfl | rfl | rfl | rfl | rfl <;> omega
    have hletters : (table alphabetic.points).holds c.toNat = false :=
      inRuns_of_clear clear_alphabetic hplace hfirst hlast
    have hcategories : (ofCategories wordCategories).holds c.toNat = false :=
      holds_ofCategories fun k hk => inRuns_of_clear (clear_points hk) hplace hfirst hlast
    rw [hjoiners, hletters, hcategories]
    rfl

end CodeSnapshot.Pattern.CharClass
