import CodeSnapshot.Document.Basic
import CodeSnapshot.Proofs.Document.Frames
import CodeSnapshot.Proofs.Document.LineCuts

/-!
# Sections — where the contents between frames lie

A section runs from its frame to the next one. Its bounds are indices, the second of which may be
one less than where the next frame begins.

* **`limitOf`** — where the lines before some frames end. The header of a snapshot ends there
  (`header_parse`), and each section does, but for a blank line.
* **`Placed`** — where one section lies among all frames. `placed_of_mem_sectionsOf` holds for all
  lines; nothing that follows looks at the scan for frames again.
* **`Placed.title_eq`** — a line is part of one section at most.
-/

namespace CodeSnapshot.Document

/-- The sections of some lines. -/
def sectionsOf (texts : List String) : List Section :=
  sections texts (Title.frames 0 texts)

/-- A line in the content of a section; lines are counted from one. -/
def Section.Holds (s : Section) (n : Nat) : Prop :=
  s.start < n ∧ n ≤ s.stop

/-! ## The lines before some frames -/

/-- Where the lines before some frames end: where the first of them begins. -/
def limitOf (lines : List String) (fs : List (Nat × Title)) : Nat :=
  match fs with
  | (next, _) :: _ => next
  | [] => lines.length

section

variable {lines : List String} {fs : List (Nat × Title)}

theorem limitOf_le_of_mem (hpair : fs.Pairwise fun f g => f.1 + Title.frameLines ≤ g.1)
    {f : Nat × Title} (hf : f ∈ fs) : limitOf lines fs ≤ f.1 := by
  cases fs with
  | nil => cases hf
  | cons g fs =>
    rcases List.mem_cons.1 hf with rfl | hf
    · exact Nat.le_refl _
    · exact Nat.le_trans (Nat.le_add_right _ _) ((List.pairwise_cons.1 hpair).1 f hf)

theorem limitOf_le_length (hbound : ∀ f ∈ fs, f.1 + Title.frameLines ≤ lines.length) :
    limitOf lines fs ≤ lines.length := by
  cases fs with
  | nil => exact Nat.le_refl _
  | cons f fs => exact Nat.le_trans (Nat.le_add_right _ _) (hbound f (List.mem_cons_self ..))

end

/-- The header of a snapshot is what stands before the first frame. -/
theorem header_parse (path : String) (modified : Nat) (text : String) :
    (parse path modified text).header =
      (Lines.ofText text).texts.take
        (limitOf (Lines.ofText text).texts (Title.frames 0 (Lines.ofText text).texts)) :=
  Lines.texts_slice ..

/-! ## The bounds of one section -/

theorem sections_cons (lines : List String) (f : Nat × Title) (fs : List (Nat × Title)) :
    sections lines (f :: fs) =
      ⟨f.2, f.1 + Title.frameLines,
        contentStop lines (f.1 + Title.frameLines) (limitOf lines fs)⟩ :: sections lines fs :=
  rfl

/-- At most one line is taken off the end, and none from an empty content. -/
theorem contentStop_bounds (lines : List String) {start limit : Nat} (h : start ≤ limit) :
    start ≤ contentStop lines start limit ∧ contentStop lines start limit ≤ limit := by
  rw [contentStop]
  split
  · rename_i hcut
    have hlt : start < limit := of_decide_eq_true (Bool.and_eq_true_iff.1 hcut).1
    omega
  · exact ⟨h, Nat.le_refl _⟩

/-! ## All sections -/

/-- Where a section lies: behind a frame that has its title, and apart from all other frames. -/
structure Placed (n : Nat) (fs : List (Nat × Title)) (s : Section) : Prop where
  frame : ∃ index, (index, s.title) ∈ fs ∧ s.start = index + Title.frameLines
  start_le : s.start ≤ s.stop
  stop_le : s.stop ≤ n
  apart : ∀ f ∈ fs, f.1 + Title.frameLines ≤ s.start ∨ s.stop ≤ f.1

/-- More frames before a section are apart from it as well. -/
theorem Placed.cons {n : Nat} {fs : List (Nat × Title)} {s : Section} {f : Nat × Title}
    (h : Placed n fs s) (hf : ∀ g ∈ fs, f.1 + Title.frameLines ≤ g.1) : Placed n (f :: fs) s where
  frame := by
    obtain ⟨index, hmem, hstart⟩ := h.frame
    exact ⟨index, List.mem_cons_of_mem f hmem, hstart⟩
  start_le := h.start_le
  stop_le := h.stop_le
  apart := by
    obtain ⟨index, hmem, hstart⟩ := h.frame
    intro g hg
    rcases List.mem_cons.1 hg with rfl | hg
    · have := hf _ hmem
      exact .inl (by omega)
    · exact h.apart g hg

/-- **Where the sections lie.** Induction on the frames: the first section ends with the next frame,
and the frames behind that one are further away. -/
theorem placed_of_mem_sections {lines : List String} {fs : List (Nat × Title)}
    (hpair : fs.Pairwise fun f g => f.1 + Title.frameLines ≤ g.1)
    (hbound : ∀ f ∈ fs, f.1 + Title.frameLines ≤ lines.length) {s : Section}
    (hs : s ∈ sections lines fs) : Placed lines.length fs s := by
  induction fs with
  | nil => cases hs
  | cons f fs ih =>
    obtain ⟨hnext, hpair⟩ := List.pairwise_cons.1 hpair
    rw [sections_cons] at hs
    rcases List.mem_cons.1 hs with rfl | hs
    · have hrest : ∀ g ∈ fs, g.1 + Title.frameLines ≤ lines.length :=
        fun g hg => hbound g (List.mem_cons_of_mem f hg)
      have hstart : f.1 + Title.frameLines ≤ limitOf lines fs := by
        cases fs with
        | nil => exact hbound f (List.mem_cons_self ..)
        | cons g fs => exact hnext g (List.mem_cons_self ..)
      obtain ⟨hle, hstop⟩ := contentStop_bounds lines hstart
      refine ⟨⟨f.1, List.mem_cons_self .., rfl⟩, hle,
        Nat.le_trans hstop (limitOf_le_length hrest), fun g hg => ?_⟩
      -- a frame is this section's own, or one behind the section
      rcases List.mem_cons.1 hg with rfl | hg
      · exact .inl (Nat.le_refl _)
      · exact .inr (Nat.le_trans hstop (limitOf_le_of_mem hpair hg))
    · exact (ih hpair (fun g hg => hbound g (List.mem_cons_of_mem f hg)) hs).cons hnext

theorem placed_of_mem_sectionsOf {texts : List String} {s : Section} (hs : s ∈ sectionsOf texts) :
    Placed texts.length (Title.frames 0 texts) s := by
  have h := Title.scanned_frames 0 texts
  refine placed_of_mem_sections h.pairwise (fun f hf => ?_) hs
  have := (h.bounds f hf).2.1
  omega

/-- **A line is part of one section at most.** Each of two sections that share a line would have to
lie behind the frame of the other one, so they have the same frame. -/
theorem Placed.title_eq {texts : List String} {s t : Section}
    (hs : Placed texts.length (Title.frames 0 texts) s)
    (ht : Placed texts.length (Title.frames 0 texts) t) {n : Nat} (hns : s.Holds n)
    (hnt : t.Holds n) : s.title = t.title := by
  obtain ⟨i, hi, hsi⟩ := hs.frame
  obtain ⟨j, hj, htj⟩ := ht.frame
  obtain ⟨hns, hns'⟩ := hns
  obtain ⟨hnt, hnt'⟩ := hnt
  obtain rfl : i = j := by
    have hsj := hs.apart _ hj
    have hti := ht.apart _ hi
    omega
  have h := Title.scanned_frames 0 texts
  have hsame := (h.bounds _ hi).2.2.symm.trans (h.bounds _ hj).2.2
  exact Option.some.inj hsame

end CodeSnapshot.Document
