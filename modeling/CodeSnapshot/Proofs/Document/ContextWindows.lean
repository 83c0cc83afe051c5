import CodeSnapshot.Document.Search
import CodeSnapshot.Proofs.Document.Ranges
import CodeSnapshot.Proofs.Text.Splits

/-!
# Context windows — the lines around a place stay in their file

A window is asked for by numbers that may be anything. They are moved into the file before a line is
taken, so that no line of a neighbour is shown, and no step leaves the range of counts.

* **`linesOf`** — the lines of a file; `getElem?_linesOf` finds them in the document.
* **`ContextWindow.rows`**, **`RowReads`** — the rows of a window, and how a row reads.
* **`windowBounds?`** — the bounds of a window as counts of a machine give them, where each step may
  fail; `windowBounds?_eq` says that none does.
* **`ShowsFile`** — what a window shows of its file.
* **`contextWindow_shows`** — the headline.
-/

namespace CodeSnapshot

open Text

/-! ## Rows -/

/-- The rows of a window. -/
def ContextWindow.rows (w : ContextWindow) : List (List Char) :=
  splitAt '\n' w.text.toList

/-- How a row reads: a mark, the number of a line, and what the line says. -/
def RowReads (mark : Char) (number : Nat) (line : String) (row : List Char) : Prop :=
  ∃ indent, row = mark :: ' ' :: (List.replicate indent ' ' ++ Nat.toDigits 10 number) ++
    [' ', '|', ' '] ++ line.toList

namespace Document

section

variable {d : Document} {r : FileRange} {line before after : Nat}

/-- A row of a window marks the line asked for. -/
theorem rowReads_windowRow (width target number : Nat) (text : String) :
    RowReads (if number = target then '>' else ' ') number text
      (windowRow width target number text).toList := by
  refine ⟨width - (toString number).length, ?_⟩
  have hdigits : (toString number).toList = Nat.toDigits 10 number := by simp
  rw [windowRow, padNumber]
  simp only [String.toList_append, String.toList_ofList, hdigits]
  split <;> simp

theorem not_mem_of_rowReads {mark : Char} {number : Nat} {text : String} {row : List Char}
    (h : RowReads mark number text row) (hmark : mark ≠ '\n') (htext : '\n' ∉ text.toList) :
    '\n' ∉ row := by
  obtain ⟨indent, rfl⟩ := h
  have hdigits : '\n' ∉ Nat.toDigits 10 number := fun hmem =>
    absurd (Nat.isDigit_of_mem_toDigits (by decide) (by decide) hmem) (by decide)
  simp [Ne.symm hmark, htext, hdigits]

/-! ## Lines of a file -/

/-- The lines of a file. -/
def linesOf (d : Document) (r : FileRange) : List String :=
  (d.lines.texts.take r.last).drop (r.first - 1)

/-- A range that is not empty and lies in the document. -/
structure InDocument (d : Document) (r : FileRange) : Prop where
  first_pos : 1 ≤ r.first
  first_le : r.first ≤ r.last
  last_le : r.last ≤ d.lines.size

theorem InDocument.length_pos (h : InDocument d r) : 1 ≤ r.length := by
  have := h.first_le
  rw [FileRange.length]
  omega

/-- The lines of a file are lines of the document. -/
theorem getElem?_linesOf (h : InDocument d r) {i : Nat} (hi : 1 ≤ i) (hlast : i ≤ r.length) :
    (d.linesOf r)[i - 1]? = d.lines.texts[r.first + i - 1 - 1]? := by
  have hpos := h.first_pos
  rw [FileRange.length] at hlast
  rw [linesOf, List.getElem?_drop, List.getElem?_take_of_lt (by omega)]
  congr 1
  omega

/-! ## Bounds -/

/-- The bounds of a window: the line asked for, and the first and the last line that are shown, all
counted in the file; and the first and the last line that are taken, counted in the document. -/
structure WindowBounds where
  line : Nat
  first : Nat
  last : Nat
  start : Nat
  stop : Nat
  deriving DecidableEq

/-- A number, unless it is too great to be a count. -/
def count? (n : Nat) : Option Nat :=
  if n ≤ countLimit then some n else none

/-- A difference, unless it would be below zero. -/
def minus? (a b : Nat) : Option Nat :=
  if b ≤ a then some (a - b) else none

/-- A number moved between two others, unless there is nothing between them. -/
def clamp? (n low high : Nat) : Option Nat :=
  if low ≤ high then some (max low (min n high)) else none

/-- The bounds of a window as they are computed with counts: sums and differences may fail, and so may
moving a number into an empty range; a sum that is cut off at the greatest count does not. -/
def windowBounds? (r : FileRange) (line before after : Nat) : Option WindowBounds := do
  let length ← minus? (← count? (r.last + 1)) r.first
  let target ← clamp? line 1 length
  let first := max (target - before) 1
  let last := min (min (target + after) countLimit) length
  let start ← minus? (← count? (r.first + first)) 1
  let stop ← minus? (← count? (r.first + last)) 1
  pure { line := target, first, last, start, stop }

theorem count?_of_le {n : Nat} (h : n ≤ countLimit) : count? n = some n :=
  if_pos h

theorem minus?_of_le {a b : Nat} (h : b ≤ a) : minus? a b = some (a - b) :=
  if_pos h

theorem clamp?_of_le {low high : Nat} (n : Nat) (h : low ≤ high) :
    clamp? n low high = some (max low (min n high)) :=
  if_pos h

/-- **No step fails.** The first and the last line shown are lines of the file, so that the lines that
are taken are lines of the document, which can be counted. -/
theorem windowBounds?_eq (h : InDocument d r) (hcount : d.lines.size < countLimit) :
    windowBounds? r line before after =
      some
        { line := max 1 (min line r.length)
          first := max (max 1 (min line r.length) - before) 1
          last := min (max 1 (min line r.length) + after) r.length
          start := r.first + max (max 1 (min line r.length) - before) 1 - 1
          stop := r.first + min (max 1 (min line r.length) + after) r.length - 1 } := by
  obtain ⟨hpos, hle, hlast⟩ := h
  have hlength : r.length = r.last + 1 - r.first := rfl
  have htarget : clamp? line 1 r.length = some (max 1 (min line r.length)) :=
    clamp?_of_le line (by omega)
  generalize htargets : max 1 (min line r.length) = target at htarget ⊢
  have hcut : min (min (target + after) countLimit) r.length = min (target + after) r.length := by
    omega
  rw [windowBounds?, count?_of_le (by omega)]
  show (minus? (r.last + 1) r.first).bind _ = _
  rw [minus?_of_le (by omega), ← hlength]
  show (clamp? line 1 r.length).bind _ = _
  rw [htarget]
  show (count? (r.first + max (target - before) 1)).bind _ = _
  rw [count?_of_le (by omega)]
  show (minus? (r.first + max (target - before) 1) 1).bind _ = _
  rw [minus?_of_le (by omega), hcut]
  show (count? (r.first + min (target + after) r.length)).bind _ = _
  rw [count?_of_le (by omega)]
  show (minus? (r.first + min (target + after) r.length) 1).bind _ = _
  rw [minus?_of_le (by omega)]
  rfl

/-! ## Windows -/

/-- What a window shows of its file. -/
structure ShowsFile (d : Document) (file : String) (r : FileRange) (line before after : Nat)
    (w : ContextWindow) : Prop where
  file : w.file = file
  line : w.line = max 1 (min line r.length)
  first : w.first = max 1 (w.line - before)
  last : w.last = min r.length (w.line + after)
  ordered : 1 ≤ w.first ∧ w.first ≤ w.line ∧ w.line ≤ w.last ∧ w.last ≤ r.length
  length : w.rows.length = w.last - w.first + 1
  /-- the row of a line shows its number and what the line says -/
  row : ∀ i, w.first ≤ i → i ≤ w.last → ∃ text row,
    (d.linesOf r)[i - 1]? = some text ∧ w.rows[i - w.first]? = some row ∧
      RowReads (if i = w.line then '>' else ' ') i text row
  /-- one row is marked, the one of the line asked for -/
  marked : ∀ k row, w.rows[k]? = some row → (row.head? = some '>' ↔ k = w.line - w.first)

/-- The bounds of a window are computed with counts. -/
theorem ShowsFile.windowBounds? {file : String} {w : ContextWindow}
    (h : d.ShowsFile file r line before after w) (hin : InDocument d r)
    (hcount : d.lines.size < countLimit) :
    windowBounds? r line before after =
      some ⟨w.line, w.first, w.last, r.first + w.first - 1, r.first + w.last - 1⟩ := by
  rw [windowBounds?_eq hin hcount, h.first, h.last, h.line, Nat.max_comm 1 (_ - before),
    Nat.min_comm r.length (_ + after)]

theorem head?_of_rowReads {mark : Char} {number : Nat} {text : String} {row : List Char}
    (h : RowReads mark number text row) : row.head? = some mark := by
  obtain ⟨indent, rfl⟩ := h
  rfl

/-- The rows of a window are those of the lines that are taken. -/
theorem rows_eq (file : String) (width target first last : Nat) {start stop : Nat}
    (hne : (d.lines.slice start stop) ≠ [])
    (hlines : ∀ text ∈ d.lines.texts, '\n' ∉ text.toList) :
    ContextWindow.rows ⟨file, target, first, last, joined "\n"
        ((d.lines.slice start stop).zipIdx.map fun (l, i) =>
          windowRow width target (first + i) l.text)⟩ =
      (d.lines.slice start stop).zipIdx.map fun (l, i) =>
        (windowRow width target (first + i) l.text).toList := by
  rw [ContextWindow.rows, joined, String.toList_intercalate, List.map_map]
  refine splitAt_intercalate ?_ ?_
  · rwa [ne_eq, List.map_eq_nil_iff, List.zipIdx_eq_nil_iff]
  · intro piece hpiece
    obtain ⟨⟨l, i⟩, hmem, rfl⟩ := List.mem_map.1 hpiece
    refine not_mem_of_rowReads (rowReads_windowRow width target (first + i) l.text) ?_ ?_
    · split <;> decide
    · have hl : l ∈ d.lines.entries :=
        List.mem_of_mem_take (List.mem_of_mem_drop (List.fst_mem_of_mem_zipIdx hmem))
      exact hlines l.text (List.mem_map_of_mem hl)

theorem getElem?_rows (width target first : Nat) {taken : List Line} {k : Nat} {l : Line}
    (hl : taken[k]? = some l) :
    (taken.zipIdx.map fun (l, i) => (windowRow width target (first + i) l.text).toList)[k]? =
      some (windowRow width target (first + k) l.text).toList := by
  rw [List.getElem?_map, List.getElem?_zipIdx, hl]
  simp

/-- The row of the line asked for begins with the mark. -/
theorem head?_windowRow_iff (width : Nat) {target first : Nat} (h : first ≤ target) (k : Nat)
    (text : String) :
    (windowRow width target (first + k) text).toList.head? = some '>' ↔ k = target - first := by
  rw [head?_of_rowReads (rowReads_windowRow _ _ _ _)]
  by_cases hmark : first + k = target
  · rw [if_pos hmark]
    exact iff_of_true rfl (by omega)
  · rw [if_neg hmark]
    exact iff_of_false (by decide) (by omega)

/-- The line of the document that is taken for a line of the file. -/
theorem exists_entry (h : InDocument d r) {i start stop : Nat} (hi : 1 ≤ i) (hlast : i ≤ r.length)
    (hstart : start ≤ r.first + i - 1) (hstop : r.first + i - 1 ≤ stop) (hpos : 1 ≤ start) :
    ∃ l, (d.lines.slice start stop)[r.first + i - 1 - start]? = some l ∧
      (d.linesOf r)[i - 1]? = some l.text := by
  have hfirst := h.first_pos
  have hbound : r.first + i - 1 - 1 < d.lines.entries.length := by
    have := h.last_le
    rw [FileRange.length] at hlast
    rw [Lines.size] at this
    omega
  refine ⟨d.lines.entries[r.first + i - 1 - 1], ?_, ?_⟩
  · rw [Lines.slice, List.getElem?_drop, List.getElem?_take_of_lt (by omega),
      show start - 1 + (r.first + i - 1 - start) = r.first + i - 1 - 1 by omega]
    exact List.getElem?_eq_getElem hbound
  · rw [getElem?_linesOf h hi hlast, Lines.texts, List.getElem?_map,
      List.getElem?_eq_getElem hbound]
    rfl

/-- **A window shows lines of its file**, for every range that lies in the document. -/
theorem exists_showsFile (h : InDocument d r) {file : String} (line before after : Nat)
    (hlines : ∀ text ∈ d.lines.texts, '\n' ∉ text.toList)
    (hrange : d.fileRange? file = some r) (hname : Path.normalize file = file) :
    ∃ w, d.contextWindow file line before after = .ok w ∧
      d.ShowsFile file r line before after w := by
  have hpos := h.first_pos
  have hlength := h.length_pos
  rw [contextWindow]
  simp only [hname, hrange]
  generalize htarget : min (max line 1) r.length = target
  generalize hfirst : max (target - before) 1 = first
  generalize hlast : min (target + after) r.length = last
  generalize hstart : r.first + first - 1 = start
  generalize hstop : r.first + last - 1 = stop
  refine ⟨_, rfl, ?_⟩
  have hordered : 1 ≤ first ∧ first ≤ target ∧ target ≤ last ∧ last ≤ r.length := by omega
  -- the lines that are taken, by the line of the file that each of them is
  have htaken (i : Nat) (hi : first ≤ i) (hi' : i ≤ last) :
      ∃ l, (d.lines.slice start stop)[i - first]? = some l ∧
        (d.linesOf r)[i - 1]? = some l.text := by
    have hentry : ∃ l, (d.lines.slice start stop)[r.first + i - 1 - start]? = some l ∧
        (d.linesOf r)[i - 1]? = some l.text :=
      exists_entry h (by omega) (by omega) (by omega) (by omega) (by omega)
    rwa [show r.first + i - 1 - start = i - first by omega] at hentry
  have hcount : (d.lines.slice start stop).length = last - first + 1 := by
    have hsize := h.last_le
    have hlen : r.length = r.last + 1 - r.first := rfl
    rw [Lines.size] at hsize
    rw [Lines.slice, List.length_drop, List.length_take]
    omega
  have hne : d.lines.slice start stop ≠ [] := List.ne_nil_of_length_pos (by omega)
  have hrows := rows_eq file (toString last).length target first last hne hlines
  constructor
  case file => rfl
  case line => show target = _; omega
  case first => show first = max 1 (target - before); omega
  case last => show last = min r.length (target + after); omega
  case ordered => exact hordered
  case length => rw [hrows, List.length_map, List.length_zipIdx, hcount]
  case row =>
    intro i hi hi'
    obtain ⟨l, hl, htext⟩ := htaken i hi hi'
    refine ⟨l.text, _, htext, by rw [hrows]; exact getElem?_rows _ target first hl, ?_⟩
    have hreads := rowReads_windowRow (toString last).length target (first + (i - first)) l.text
    have hnumber : first + (i - first) = i := Nat.add_sub_cancel' hi
    rw [hnumber] at hreads
    show RowReads _ _ _ (windowRow _ target (first + (i - first)) l.text).toList
    rw [hnumber]
    exact hreads
  case marked =>
    intro k row hk
    rw [hrows] at hk
    have hlt : k < (d.lines.slice start stop).length := by
      have := (List.getElem?_eq_some_iff.1 hk).1
      rwa [List.length_map, List.length_zipIdx] at this
    rw [getElem?_rows _ target first (List.getElem?_eq_getElem hlt)] at hk
    rw [← Option.some.inj hk]
    exact head?_windowRow_iff _ (by omega) k _

end

/-- **Windows stay in their file.** Whatever the text is, and whichever numbers are asked for, a file
that is listed under a name in normal form has a window. The line asked for is moved into the file, and
the window ends where the file does; its rows are those of the lines of the file from the first one
through the last, each with its number, and the one asked for is marked. And if the characters of the
text can be counted, no step of the computation fails, and the lines that are taken are in the range
of the file. -/
theorem contextWindow_shows (path : String) (modified : Nat) (text : String) {file : String}
    {r : FileRange} (hlisted : (file, r) ∈ (parse path modified text).files)
    (hname : Path.normalize file = file) (line before after : Nat) :
    let d := parse path modified text
    ∃ w, d.contextWindow file line before after = .ok w ∧
      d.ShowsFile file r line before after w ∧
      (text.length < countLimit →
        windowBounds? r line before after =
          some ⟨w.line, w.first, w.last, r.first + w.first - 1, r.first + w.last - 1⟩) ∧
      r.first ≤ r.first + w.first - 1 ∧ r.first + w.last - 1 ≤ r.last ∧ r.last ≤ d.lines.size := by
  intro d
  have hr : d.range? file = some r := (consistent_parse path modified text).mem_files_iff.1 hlisted
  have hrange : d.fileRange? file = some r := by rw [fileRange?, hname, hr]
  obtain ⟨hfirst, hle, hlast⟩ : 1 ≤ r.first ∧ r.first ≤ r.last ∧ r.last ≤ d.lines.size :=
    (rangesApart_parse path modified text).bounds file r hr
  have hin : InDocument d r := ⟨hfirst, hle, hlast⟩
  obtain ⟨w, hw, hshows⟩ :=
    exists_showsFile hin line before after (fun _ => Lines.not_mem_texts) hrange hname
  refine ⟨w, hw, hshows, fun htext => ?_, ?_⟩
  · exact hshows.windowBounds? hin (Nat.lt_of_le_of_lt (Lines.size_le_length text) htext)
  · have hlength : r.length = r.last + 1 - r.first := rfl
    have hordered := hshows.ordered
    omega

/-- The greatest numbers there are, in a file between others. -/
theorem contextWindow_shows_at_limits :
    let text := "h\n====================\nFILE: ./a.ts\n====================\nx\ny\n\n" ++
      "====================\nFILE: ./b.ts\n====================\nz\n"
    let d := parse "snapshot.txt" 0 text
    ("a.ts", ⟨5, 6⟩) ∈ d.files ∧ Path.normalize "a.ts" = "a.ts" ∧ text.length < countLimit ∧
      ∃ w, d.contextWindow "a.ts" countLimit countLimit countLimit = .ok w ∧
        d.ShowsFile "a.ts" ⟨5, 6⟩ countLimit countLimit countLimit w ∧
        windowBounds? ⟨5, 6⟩ countLimit countLimit countLimit =
          some ⟨w.line, w.first, w.last, 5 + w.first - 1, 5 + w.last - 1⟩ := by
  intro text d
  have hlisted : ("a.ts", (⟨5, 6⟩ : FileRange)) ∈ d.files := by decide +kernel
  have hname : Path.normalize "a.ts" = "a.ts" := by decide
  have htext : text.length < countLimit := by decide +kernel
  obtain ⟨w, hw, hshows, hbounds, -⟩ :=
    contextWindow_shows "snapshot.txt" 0 text hlisted hname countLimit countLimit countLimit
  exact ⟨hlisted, hname, htext, w, hw, hshows, hbounds htext⟩

end Document

end CodeSnapshot
