import CodeSnapshot.Analysis.Answer
import CodeSnapshot.Proofs.Text.Splits
import Mathlib.Data.List.Infix

/-!
# Delimited answers — which replies hold a final answer

An answer stands between two delimiters, and a reply may have parts of a delimiter anywhere: right
before one, or right behind one, or in the answer itself. None of them misleads the search, because no
delimiter begins with what it ends with: an occurrence of it never reaches into another one.

* **`StandsAt`** — where a mark stands in a text.
* **`Unbordered`** — a mark that no other occurrence of it reaches into; `not_infix_append_dropLast`.
* **`exists_cutAt?`** — a text is cut at the first place where a mark stands, if there is any.
* **`find?_delimited`** — the headline: the answer between two delimiters is the one that is found, and
  one is found exactly if a closing delimiter stands behind an opening one.
-/

namespace CodeSnapshot

namespace Text

section

variable {word text front back : List Char} {i : Nat}

/-! ## Marks -/

/-- A mark stands in a text behind `i` characters. -/
def StandsAt (word text : List Char) (i : Nat) : Prop :=
  word <+: text.drop i

/-- Nothing that a mark begins with stands at its end, but the mark itself. -/
def Unbordered (word : List Char) : Prop :=
  ∀ edge ∈ word.inits, edge ≠ [] → edge <:+ word → edge = word

instance (word : List Char) : Decidable (Unbordered word) :=
  inferInstanceAs (Decidable (∀ edge ∈ word.inits, edge ≠ [] → edge <:+ word → edge = word))

/-- **An unbordered mark does not reach into the next one**: where it does not stand, it does not stand
with the beginning of another one behind. -/
theorem not_infix_append_dropLast (h : Unbordered word) (hfront : ¬ word <:+: front) :
    ¬ word <:+: front ++ word.dropLast := by
  rintro ⟨earlier, later, hsplit⟩
  have hlength := congrArg List.length hsplit
  simp only [List.length_append, List.length_dropLast] at hlength
  rcases List.append_eq_append_iff.1 hsplit with ⟨gap, hgap, -⟩ | ⟨edge, hedge, hlast⟩
  · -- the mark would end before the front does
    exact hfront ⟨earlier, gap, hgap.symm⟩
  · -- the mark ends with the characters that it has behind the front
    have hstarts : edge <+: word :=
      (hlast ▸ List.prefix_append edge later : edge <+: word.dropLast).trans (List.dropLast_prefix word)
    have hshort : edge.length ≤ word.length - 1 := by
      have := congrArg List.length hlast
      simp only [List.length_append, List.length_dropLast] at this
      omega
    by_cases hne : edge = []
    · rw [hne, List.append_nil] at hedge
      exact hfront ⟨earlier, [], by rw [List.append_nil, hedge]⟩
    · have hsuffix : edge <:+ word := by
        refine List.suffix_of_suffix_length_le (List.suffix_append front edge)
          (hedge ▸ List.suffix_append earlier word) (hstarts.length_le)
      have hword : edge = word := h edge ((List.mem_inits ..).2 hstarts) hne hsuffix
      have hpos := List.length_pos_iff.2 hne
      rw [hword] at hshort hpos
      omega

/-- A mark in front of which it does not stand is where the text is cut. -/
theorem cutAt?_of_unbordered (h : Unbordered word) (hfront : ¬ word <:+: front)
    (back : List Char) : cutAt? word (front ++ (word ++ back)) = some (front, back) :=
  cutAt?_append (not_infix_append_dropLast h hfront) back

/-! ## The first place -/

theorem eq_append_of_cutAt? (h : cutAt? word text = some (front, back)) :
    text = front ++ (word ++ back) := by
  induction text generalizing front with
  | nil =>
    obtain ⟨rest, hrest, heq⟩ := Option.map_eq_some_iff.1 h
    obtain ⟨rfl, rfl⟩ := Prod.mk.inj heq
    rw [List.nil_append]
    exact after?_eq_some_iff.1 hrest
  | cons c text ih =>
    rw [cutAt?] at h
    split at h
    · rename_i rest hrest
      obtain ⟨rfl, rfl⟩ := Prod.mk.inj (Option.some.inj h)
      rw [List.nil_append]
      exact after?_eq_some_iff.1 hrest
    · obtain ⟨⟨front', back'⟩, hcut, heq⟩ := Option.map_eq_some_iff.1 h
      obtain ⟨rfl, rfl⟩ := Prod.mk.inj heq
      rw [ih hcut, List.cons_append]

theorem not_standsAt_zero (h : after? word text = none) : ¬ StandsAt word text 0 := by
  rintro ⟨rest, hrest⟩
  rw [List.drop_zero] at hrest
  rw [after?_eq_some_iff.2 hrest.symm] at h
  cases h

/-- **A text is cut where the mark stands first**, if it stands anywhere. -/
theorem exists_cutAt? (h : StandsAt word text i) :
    ∃ front back, cutAt? word text = some (front, back) ∧ front.length ≤ i := by
  induction text generalizing i with
  | nil =>
    obtain rfl : word = [] := by simpa [StandsAt] using h
    exact ⟨[], [], rfl, Nat.zero_le i⟩
  | cons c text ih =>
    rw [cutAt?]
    cases hafter : after? word (c :: text) with
    | some rest => exact ⟨[], rest, rfl, Nat.zero_le i⟩
    | none =>
      cases i with
      | zero => exact absurd h (not_standsAt_zero hafter)
      | succ i =>
        obtain ⟨front, back, hcut, hle⟩ := ih h
        refine ⟨c :: front, back, ?_, Nat.succ_le_succ hle⟩
        dsimp only
        rw [hcut]
        rfl

end

end Text

/-! ## Answers -/

namespace Answer

open Text

theorem unbordered_opening : Unbordered opening.toList := by decide

theorem unbordered_closing : Unbordered closing.toList := by decide

/-- The first answer between two delimiters is found. -/
theorem findChars?_delimited {before answer : List Char} (hbefore : ¬ opening.toList <:+: before)
    (hanswer : ¬ closing.toList <:+: answer) (behind : List Char) :
    findChars? (before ++ (opening.toList ++ (answer ++ (closing.toList ++ behind)))) =
      some (trim answer) := by
  rw [findChars?, cutAt?_of_unbordered unbordered_opening hbefore]
  show ((cutAt? closing.toList (answer ++ (closing.toList ++ behind))).map _) = _
  rw [cutAt?_of_unbordered unbordered_closing hanswer]
  rfl

/-- **Where an answer is found**: a closing delimiter stands behind an opening one, neither of which need
be the first of its kind. -/
theorem isSome_findChars?_iff {reply : List Char} :
    (findChars? reply).isSome = true ↔
      ∃ i j, StandsAt opening.toList reply i ∧ StandsAt closing.toList reply j ∧
        i + opening.length ≤ j := by
  constructor
  · intro h
    obtain ⟨answer, hanswer⟩ := Option.isSome_iff_exists.1 h
    obtain ⟨⟨before, rest⟩, hopening, hrest⟩ := Option.bind_eq_some_iff.1 hanswer
    obtain ⟨⟨between, behind⟩, hclosing, -⟩ := Option.map_eq_some_iff.1 hrest
    have hreply := eq_append_of_cutAt? hopening
    rw [eq_append_of_cutAt? hclosing] at hreply
    refine ⟨before.length, before.length + opening.length + between.length, ?_, ?_,
      Nat.le_add_right ..⟩
    · rw [StandsAt, hreply, List.drop_left]
      exact List.prefix_append ..
    · have hfront : (before ++ opening.toList ++ between).length =
          before.length + opening.length + between.length := by
        rw [List.length_append, List.length_append, String.length_toList]
      rw [StandsAt, hreply, ← List.append_assoc, ← List.append_assoc, ← hfront, List.drop_left]
      exact List.prefix_append ..
  · rintro ⟨i, j, hopening, hclosing, hle⟩
    obtain ⟨before, rest, hcut, hfirst⟩ := exists_cutAt? hopening
    -- the closing delimiter stands in what is left behind the first opening one
    have hrest : StandsAt closing.toList rest (j - (before.length + opening.length)) := by
      have hreply := eq_append_of_cutAt? hcut
      have hfront : (before ++ opening.toList).length = before.length + opening.length := by
        rw [List.length_append, String.length_toList]
      rw [StandsAt, hreply, ← List.append_assoc, List.drop_append, List.drop_of_length_le (by omega),
        List.nil_append, hfront] at hclosing
      exact hclosing
    obtain ⟨answer, behind, hanswer, -⟩ := exists_cutAt? hrest
    rw [findChars?, hcut]
    show ((cutAt? closing.toList rest).map _).isSome = true
    rw [hanswer]
    rfl

/-- **A delimited answer** is found as it stands between the delimiters, whatever parts of delimiters are
around it or in it; and a reply has an answer exactly if some closing delimiter begins where some opening
one has ended, or further on. -/
theorem find?_delimited :
    (∀ before answer behind : String,
      ¬ opening.toList <:+: before.toList → ¬ closing.toList <:+: answer.toList →
        find? (before ++ opening ++ answer ++ closing ++ behind) = some (trimmed answer)) ∧
    ∀ reply : String, (find? reply).isSome = true ↔
      ∃ i j, StandsAt opening.toList reply.toList i ∧ StandsAt closing.toList reply.toList j ∧
        i + opening.length ≤ j := by
  refine ⟨fun before answer behind hbefore hanswer => ?_, fun reply => ?_⟩
  · simp only [find?, String.toList_append, List.append_assoc]
    rw [findChars?_delimited hbefore hanswer]
    rfl
  · rw [find?, Option.isSome_map]
    exact isSome_findChars?_iff

/-- Parts of delimiters on both sides of both delimiters, and a second answer behind the first. -/
theorem find?_delimited_among_parts :
    ¬ opening.toList <:+: "<<<END>>> <<".toList ∧
      ¬ closing.toList <:+: " \n<<<FINAL>>> so <<<END>> <<<".toList ∧
      find? ("<<<END>>> <<" ++ opening ++ " \n<<<FINAL>>> so <<<END>> <<<" ++ closing ++
        "D>>><<<FINAL>>>no<<<END>>>") = some "<<<FINAL>>> so <<<END>> <<<" ∧
      (∃ i j, StandsAt opening.toList "<<<FINAL<<<FINAL>>><<<END>>>".toList i ∧
        StandsAt closing.toList "<<<FINAL<<<FINAL>>><<<END>>>".toList j ∧ i + opening.length ≤ j) := by
  have hbefore : ¬ opening.toList <:+: "<<<END>>> <<".toList := by decide
  have hanswer : ¬ closing.toList <:+: " \n<<<FINAL>>> so <<<END>> <<<".toList := by decide
  refine ⟨hbefore, hanswer, ?_, ?_⟩
  · rw [find?_delimited.1 _ _ _ hbefore hanswer]
    decide
  · exact (find?_delimited.2 _).1 (by decide)

end Answer

end CodeSnapshot
