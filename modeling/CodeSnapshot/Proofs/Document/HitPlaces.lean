import CodeSnapshot.Proofs.Document.HitScans

/-!
# Hit places — where in a text the matches of a document stand

Lines say less than the text they come from, for their ends are taken off, but their positions are
those of the text. A match is found in a line, and is placed in the text by the position of the line.

* **`Lines.standsIn_of_get?`** — each line stands in the text at its position.
* **`Hit.Coherent`** — a match tells the truth about the text: its line, and what stands at its
  position. `coherent_of_line` is the one way to make such a match.
* **`coherent_of_mem_hits`** — every match that a regular expression has in a document is coherent.
-/

namespace CodeSnapshot

namespace Lines

/-! ## Lines in their text -/

/-- A line stands in a text, behind as many characters as its position tells. -/
def StandsIn (line : Line) (text : List Char) : Prop :=
  ∃ front back, text = front ++ line.text.toList ++ back ∧ line.offset = front.length

theorem exists_append_dropLast (c : Char) (text : List Char) :
    ∃ ending, text = dropLast c text ++ ending := by
  rw [dropLast]
  split
  · rename_i hlast
    have hne : text ≠ [] := by
      rintro rfl
      cases hlast
    exact ⟨[text.getLast hne], (List.dropLast_concat_getLast hne).symm⟩
  · exact ⟨[], (List.append_nil text).symm⟩

/-- What a piece says as a line is how the piece begins. -/
theorem exists_append_content (piece : List Char) : ∃ ending, piece = content piece ++ ending := by
  obtain ⟨newline, hnewline⟩ := exists_append_dropLast '\n' piece
  obtain ⟨carriage, hcarriage⟩ := exists_append_dropLast '\r' (dropLast '\n' piece)
  refine ⟨carriage ++ newline, ?_⟩
  rw [content, ← List.append_assoc, ← hcarriage, ← hnewline]

/-- Induction on the pieces: the position of the first one is what precedes it, and each piece counts
with its end for the ones behind. -/
theorem standsIn_of_mem_place {front : List Char} {pieces : List (List Char)} {line : Line}
    (h : line ∈ place front.length pieces) : StandsIn line (front ++ pieces.flatten) := by
  induction pieces generalizing front with
  | nil => cases h
  | cons piece pieces ih =>
    rw [place] at h
    rw [List.flatten_cons]
    rcases List.mem_cons.1 h with rfl | h
    · obtain ⟨ending, hending⟩ := exists_append_content piece
      refine ⟨front, ending ++ pieces.flatten, ?_, rfl⟩
      rw [String.toList_ofList, List.append_assoc, ← List.append_assoc (content piece), ← hending]
    · rw [← List.append_assoc]
      rw [← List.length_append] at h
      exact ih h

theorem standsIn_of_mem {text : String} {line : Line} (h : line ∈ (ofText text).entries) :
    StandsIn line text.toList := by
  have hstands : StandsIn line ([] ++ (cut text.toList).flatten) := standsIn_of_mem_place h
  rwa [List.nil_append, flatten_cut] at hstands

/-! ## Lines by number -/

variable {ls : Lines} {number : Nat} {line : Line}

theorem get?_eq_some_iff :
    ls.get? number = some line ↔ 1 ≤ number ∧ ls.entries[number - 1]? = some line := by
  rw [get?]
  split
  · rename_i hzero
    simp [hzero]
  · rename_i hne
    exact (and_iff_right (Nat.pos_of_ne_zero hne)).symm

theorem standsIn_of_get? {text : String} (h : (ofText text).get? number = some line) :
    StandsIn line text.toList :=
  standsIn_of_mem (List.mem_of_getElem? (get?_eq_some_iff.1 h).2)

theorem get?_of_mem_numbered (h : (number, line) ∈ ls.numbered) : ls.get? number = some line := by
  obtain ⟨⟨line, i⟩, hmem, heq⟩ := List.mem_map.1 h
  cases heq
  rw [List.mem_zipIdx_iff_getElem?] at hmem
  exact get?_eq_some_iff.2 ⟨Nat.succ_pos i, hmem⟩

/-- The lines of a slice are the ones with the numbers from its first one on. -/
theorem get?_of_mem_zipIdx_slice {first last i : Nat} (hfirst : 1 ≤ first)
    (h : (line, i) ∈ (ls.slice first last).zipIdx) : ls.get? (first + i) = some line := by
  rw [List.mem_zipIdx_iff_getElem?, slice, List.getElem?_drop, List.getElem?_take] at h
  split at h
  · refine get?_eq_some_iff.2 ⟨by omega, ?_⟩
    rwa [show first + i - 1 = first - 1 + i by omega]
  · cases h

end Lines

namespace Hit

/-! ## Coherent matches -/

/-- A match that tells the truth about a text. -/
structure Coherent (text : String) (h : Hit) : Prop where
  number : 1 ≤ h.lineNumber ∧ h.lineNumber ≤ (Lines.ofText text).size
  line : (Lines.ofText text).texts[h.lineNumber - 1]? = some h.line
  /-- the characters from the position on begin with what was matched -/
  matched : h.matched.toList <+: text.toList.drop h.index
  /-- all that was matched is part of the line -/
  inside : ∃ l, (Lines.ofText text).get? h.lineNumber = some l ∧
    l.text.toList <+: text.toList.drop l.offset ∧
    l.offset ≤ h.index ∧ h.index + h.matched.length ≤ l.offset + l.text.length

/-- **A match in a line.** What it needs are its line, by number, and its place in what that line
says. -/
theorem coherent_of_line {text : String} {h : Hit} {l : Line} {front back : List Char}
    (hget : (Lines.ofText text).get? h.lineNumber = some l) (hline : h.line = l.text)
    (hmatched : l.text.toList = front ++ h.matched.toList ++ back)
    (hindex : h.index = l.offset + front.length) : h.Coherent text := by
  obtain ⟨hpos, hentry⟩ := Lines.get?_eq_some_iff.1 hget
  obtain ⟨before, behind, htext, hoffset⟩ := Lines.standsIn_of_get? hget
  have hlength := congrArg List.length hmatched
  simp only [List.length_append, String.length_toList] at hlength
  refine ⟨⟨hpos, ?_⟩, ?_, ⟨back ++ behind, ?_⟩, l, hget, ⟨behind, ?_⟩, ?_, ?_⟩
  · have hlt := (List.getElem?_eq_some_iff.1 hentry).1
    rw [Lines.size]
    omega
  · rw [Lines.texts, List.getElem?_map, hentry, hline]
    rfl
  · -- the text up to the match is what precedes the line, and the front of the line
    have hsplit : text.toList = (before ++ front) ++ (h.matched.toList ++ (back ++ behind)) := by
      rw [htext, hmatched]
      simp only [List.append_assoc]
    rw [hsplit, hindex, hoffset, ← List.length_append, List.drop_left]
  · rw [htext, List.append_assoc, hoffset, List.drop_left]
  · omega
  · omega

end Hit

namespace Lines

variable {text : String} {hit : Hit} {r : Regex}

theorem mem_hits_iff {ls : Lines} : hit ∈ ls.hits r ↔
    ∃ number line, (number, line) ∈ ls.numbered ∧ ∃ c ∈ r.all line.text,
      Hit.ofCaptures number line c = hit := by
  rw [hits_eq, hitsOf]
  simp

/-- **The matches of a regular expression** in the lines of a text are coherent. -/
theorem coherent_of_mem_hits (h : hit ∈ (ofText text).hits r) : hit.Coherent text := by
  obtain ⟨number, line, hline, c, hc, rfl⟩ := mem_hits_iff.1 h
  -- the engine tells bytes of the line, which stand behind as many characters as the match tells
  obtain ⟨back, htext⟩ := ByteRange.textIn_of_within (r.within line.text c hc)
  have hmatched : line.text.toList =
      Text.takeBytes c.whole.start line.text.toList ++
        (Hit.ofCaptures number line c).matched.toList ++ back := by
    rwa [Hit.ofCaptures, String.toList_ofList]
  exact Hit.coherent_of_line (get?_of_mem_numbered hline) rfl hmatched rfl

end Lines

end CodeSnapshot
