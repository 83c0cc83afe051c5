import CodeSnapshot.Document.Section

/-!
# Frames — where the sections of a text begin

`Title.frames` goes through the lines once and, behind a frame, on with the line after it. What it
finds is told by a relation beside the scan:

* **`frames_of_found`**, **`frames_of_skipped`** — the two steps of the scan. A frame is looked for at
  the front of what is left, so that each step is about `ofFrame?` alone.
* **`Scanned`** — lines with the frames found in them, one constructor for each step.
* **`Scanned.pairwise`**, **`Scanned.bounds`** — frames do not share a line, and each lies inside the
  lines. This is all that the ranges of files rest on.
* **`Frameless`** — lines among which no frame stands, wherever one starts to read.
* **`frames_append`** — a front in which no frame begins is passed over.
-/

namespace CodeSnapshot.Title

/-! ## The front of some lines -/

theorem ofFrame?_eq_some_iff {lines : List String} {t : Title} :
    ofFrame? lines = some t ↔ ∃ a title b rest, lines = a :: title :: b :: rest ∧
      isSeparator a = true ∧ isSeparator b = true ∧ ofLine? title = some t := by
  constructor
  · intro h
    match lines, h with
    | a :: title :: b :: rest, h =>
      rw [ofFrame?] at h
      split at h
      · rename_i hsep
        obtain ⟨ha, hb⟩ := Bool.and_eq_true_iff.1 hsep
        exact ⟨a, title, b, rest, rfl, ha, hb, h⟩
      · cases h
  · rintro ⟨a, title, b, rest, rfl, ha, hb, ht⟩
    rw [ofFrame?, ha, hb, ht]
    rfl

theorem frameLines_le_length {lines : List String} {t : Title} (h : ofFrame? lines = some t) :
    frameLines ≤ lines.length := by
  obtain ⟨a, title, b, rest, rfl, -⟩ := ofFrame?_eq_some_iff.1 h
  simp [frameLines]

/-- What stands behind a frame has no part in it. -/
theorem ofFrame?_append {lines : List String} (h : frameLines ≤ lines.length) (back : List String) :
    ofFrame? (lines ++ back) = ofFrame? lines := by
  match lines, h with
  | _ :: _ :: _ :: _, _ => rfl

/-- A line that is a title separates nothing. -/
theorem isSeparator_of_ofLine?_eq_some {line : String} {t : Title} (h : ofLine? line = some t) :
    isSeparator line = false := by
  -- either mark begins with a letter
  have hmark : ∃ c rest, Text.trimEnd line.toList = c :: rest ∧ c ≠ '=' := by
    rw [ofLine?] at h
    split at h
    · rename_i rest hrest
      exact ⟨_, _, Text.after?_eq_some_iff.1 hrest, by decide⟩
    · split at h
      · rename_i rest hrest
        exact ⟨_, _, Text.after?_eq_some_iff.1 hrest, by decide⟩
      · cases h
  obtain ⟨c, rest, hline, hc⟩ := hmark
  rw [isSeparator, hline, List.all_cons, decide_eq_false hc, Bool.false_and, Bool.and_false]

/-! ## The steps of the scan -/

theorem frames_of_found {lines : List String} {t : Title} (index : Nat)
    (h : ofFrame? lines = some t) :
    frames index lines = (index, t) :: frames (index + frameLines) (lines.drop frameLines) := by
  obtain ⟨a, title, b, rest, rfl, -⟩ := ofFrame?_eq_some_iff.1 h
  have hfront : ofFrame? [a, title, b] = some t := h
  rw [frames, hfront]
  rfl

theorem frames_of_skipped {line : String} {lines : List String} (index : Nat)
    (h : ofFrame? (line :: lines) = none) :
    frames index (line :: lines) = frames (index + 1) lines := by
  match lines, h with
  | [], _ | [_], _ => rfl
  | title :: b :: rest, h =>
    have hfront : ofFrame? [line, title, b] = none := h
    rw [frames, hfront]

/-- Lines, the first of which has this index, with the frames that are found among them. -/
inductive Scanned : (index : Nat) → List String → List (Nat × Title) → Prop where
  | done (index : Nat) : Scanned index [] []
  | found (index : Nat) (lines : List String) (t : Title) (fs : List (Nat × Title))
      (h : ofFrame? lines = some t)
      (rest : Scanned (index + frameLines) (lines.drop frameLines) fs) :
      Scanned index lines ((index, t) :: fs)
  | skipped (index : Nat) (line : String) (lines : List String) (fs : List (Nat × Title))
      (h : ofFrame? (line :: lines) = none) (rest : Scanned (index + 1) lines fs) :
      Scanned index (line :: lines) fs

theorem scanned_frames (index : Nat) (lines : List String) :
    Scanned index lines (frames index lines) := by
  match lines with
  | [] => exact .done index
  | line :: rest =>
    cases h : ofFrame? (line :: rest) with
    | none =>
      rw [frames_of_skipped index h]
      exact .skipped _ _ _ _ h (scanned_frames _ _)
    | some t =>
      rw [frames_of_found index h]
      exact .found _ _ _ _ h (scanned_frames _ _)
termination_by lines.length
decreasing_by
  · simp
  · simp only [List.length_drop, List.length_cons, frameLines]
    omega

/-! ## Where frames lie -/

section

variable {index : Nat} {lines : List String} {fs : List (Nat × Title)}

/-- Each frame lies inside the lines, and its title is the one read there. -/
theorem Scanned.bounds (h : Scanned index lines fs) : ∀ f ∈ fs, index ≤ f.1 ∧
    f.1 + frameLines ≤ index + lines.length ∧ ofFrame? (lines.drop (f.1 - index)) = some f.2 := by
  induction h with
  | done index => nofun
  | found index lines t fs ht rest ih =>
    have hlen := frameLines_le_length ht
    intro f hf
    rcases List.mem_cons.1 hf with rfl | hf
    · exact ⟨Nat.le_refl _, by simpa using hlen, by simpa using ht⟩
    · obtain ⟨hlow, hhigh, htitle⟩ := ih f hf
      rw [List.length_drop] at hhigh
      rw [List.drop_drop, show frameLines + (f.1 - (index + frameLines)) = f.1 - index by omega]
        at htitle
      exact ⟨by omega, by omega, htitle⟩
  | skipped index line lines fs hnone rest ih =>
    intro f hf
    obtain ⟨hlow, hhigh, htitle⟩ := ih f hf
    rw [show f.1 - index = f.1 - (index + 1) + 1 by omega, List.drop_succ_cons, List.length_cons]
    exact ⟨by omega, by omega, htitle⟩

/-- **Frames do not share a line.** -/
theorem Scanned.pairwise (h : Scanned index lines fs) :
    fs.Pairwise fun f g => f.1 + frameLines ≤ g.1 := by
  induction h with
  | done index => exact .nil
  | found index lines t fs ht rest ih =>
    exact List.pairwise_cons.2 ⟨fun g hg => (rest.bounds g hg).1, ih⟩
  | skipped index line lines fs hnone rest ih => exact ih

end

/-! ## Lines without a frame -/

/-- No frame begins at any of the lines. -/
def Frameless (lines : List String) : Prop :=
  ∀ i < lines.length, ofFrame? (lines.drop i) = none

instance (lines : List String) : Decidable (Frameless lines) :=
  inferInstanceAs (Decidable (∀ i < lines.length, ofFrame? (lines.drop i) = none))

theorem frameless_cons_iff {line : String} {lines : List String} :
    Frameless (line :: lines) ↔ ofFrame? (line :: lines) = none ∧ Frameless lines := by
  constructor
  · intro h
    exact ⟨h 0 (Nat.succ_pos _), fun i hi => h (i + 1) (Nat.succ_lt_succ hi)⟩
  · rintro ⟨hnone, hrest⟩ i hi
    cases i with
    | zero => exact hnone
    | succ i => exact hrest i (Nat.lt_of_succ_lt_succ hi)

theorem frameless_of_isSeparator {lines : List String}
    (h : ∀ line ∈ lines, isSeparator line = false) : Frameless lines := by
  intro i hi
  refine Option.eq_none_iff_forall_ne_some.2 fun t ht => ?_
  obtain ⟨a, title, b, rest, hdrop, ha, -⟩ := ofFrame?_eq_some_iff.1 ht
  have hmem : a ∈ lines := List.mem_of_mem_drop (hdrop ▸ List.mem_cons_self ..)
  rw [h a hmem] at ha
  cases ha

theorem Frameless.of_append {front back : List String} (h : Frameless (front ++ back)) :
    Frameless front := by
  intro i hi
  refine Option.eq_none_iff_forall_ne_some.2 fun t ht => ?_
  have hnone := h i (by rw [List.length_append]; omega)
  rw [List.drop_append_of_le_length (Nat.le_of_lt hi), ofFrame?_append (frameLines_le_length ht),
    ht] at hnone
  cases hnone

/-- A line that separates nothing ends no frame. -/
theorem Frameless.concat {lines : List String} (h : Frameless lines) {last : String}
    (hlast : isSeparator last = false) : Frameless (lines ++ [last]) := by
  induction lines with
  | nil => exact frameless_cons_iff.2 ⟨rfl, nofun⟩
  | cons line lines ih =>
    obtain ⟨hnone, hrest⟩ := frameless_cons_iff.1 h
    refine frameless_cons_iff.2 ⟨?_, ih hrest⟩
    -- only a frame that has `last` as its third line would be new
    match lines with
    | [] => rfl
    | [title] =>
      show ofFrame? [line, title, last] = none
      rw [ofFrame?, hlast, Bool.and_false]
      rfl
    | a :: b :: lines => exact hnone

/-- **A front in which no frame begins is passed over.** A frame that begins in the front ends in it,
or with the first line behind it, or it has its first line at the very end of the front. -/
theorem frames_append {front back : List String} (index : Nat)
    (hfront : Frameless (front ++ back.take 1))
    (hseam : ∀ line, ofFrame? (line :: back) = none) :
    frames index (front ++ back) = frames (index + front.length) back := by
  induction front generalizing index with
  | nil => rfl
  | cons line front ih =>
    -- what counts is how many lines of the front stand behind the first one
    have hnone : ofFrame? (line :: front ++ back) = none := by
      match front, back with
      | [], back => exact hseam line
      | [_], [] => rfl
      | [_], _ :: _ => exact hfront 0 (by simp)
      | a :: b :: front, back =>
        rw [ofFrame?_append (by simp [frameLines]), ← ofFrame?_append (by simp [frameLines])]
        exact hfront 0 (by simp)
    rw [List.cons_append] at hnone ⊢
    rw [frames_of_skipped index hnone, ih (index + 1) (frameless_cons_iff.1 hfront).2,
      List.length_cons, Nat.add_assoc, Nat.add_comm 1]

end CodeSnapshot.Title
