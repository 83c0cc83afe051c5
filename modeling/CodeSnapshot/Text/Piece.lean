/-!
# Pieces of a text

Cutting a text at its start, at its end, at a character, or at the first place where a word stands,
and putting pieces together again.
-/

namespace CodeSnapshot.Text

/-- What follows `word` in a text that begins with it. -/
def after? : (word text : List Char) → Option (List Char)
  | [], text => some text
  | _ :: _, [] => none
  | w :: word, c :: text => if w = c then after? word text else none

/-- What precedes `word` in a text that ends with it. -/
def before? (word text : List Char) : Option (List Char) :=
  (after? word.reverse text.reverse).map List.reverse

/-- The text around the first place where `word` stands. -/
def cutAt? (word : List Char) : List Char → Option (List Char × List Char)
  | [] => (after? word []).map fun rest => ([], rest)
  | c :: text =>
    match after? word (c :: text) with
    | some rest => some ([], rest)
    | none => (cutAt? word text).map fun (front, rest) => (c :: front, rest)

/-- The pieces between the occurrences of a character; one more than there are occurrences. -/
def splitAt (separator : Char) : List Char → List (List Char)
  | [] => [[]]
  | c :: text =>
    if c = separator then [] :: splitAt separator text
    else
      match splitAt separator text with
      | [] => [[c]]
      | piece :: pieces => (c :: piece) :: pieces

/-- The pieces with `separator` between any two neighbours. -/
def joinWith (separator : List Char) : List (List Char) → List Char
  | [] => []
  | [piece] => piece
  | piece :: pieces => piece ++ separator ++ joinWith separator pieces

/-- The strings with `separator` between any two neighbours. -/
def joined (separator : String) (pieces : List String) : String :=
  separator.intercalate pieces

/-! ## Small facts -/

theorem after?_eq_some_iff {word text rest : List Char} :
    after? word text = some rest ↔ text = word ++ rest := by
  induction word generalizing text with
  | nil => simp [after?, eq_comm]
  | cons w word ih =>
    cases text with
    | nil => simp [after?]
    | cons c text =>
      by_cases h : w = c
      · simp [after?, h, ih]
      · simp [after?, h, Ne.symm h]

theorem splitAt_ne_nil (separator : Char) (text : List Char) : splitAt separator text ≠ [] := by
  cases text with
  | nil => simp [splitAt]
  | cons c text =>
    by_cases h : c = separator
    · simp [splitAt, h]
    · simp only [splitAt, h, if_false]
      split <;> simp

/-- Putting the pieces together again gives the text. -/
theorem joinWith_splitAt (separator : Char) (text : List Char) :
    joinWith [separator] (splitAt separator text) = text := by
  induction text with
  | nil => rfl
  | cons c text ih =>
    have hne := splitAt_ne_nil separator text
    by_cases h : c = separator
    · simp only [splitAt, h, if_true]
      cases hs : splitAt separator text with
      | nil => exact absurd hs hne
      | cons piece pieces => rw [hs] at ih; simp [joinWith, ih]
    · simp only [splitAt, h, if_false]
      cases hs : splitAt separator text with
      | nil => exact absurd hs hne
      | cons piece pieces =>
        rw [hs] at ih
        cases pieces with
        | nil => simp_all [joinWith]
        | cons p ps => simp_all [joinWith]

end CodeSnapshot.Text
