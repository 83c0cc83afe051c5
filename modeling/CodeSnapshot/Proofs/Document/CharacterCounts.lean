import CodeSnapshot.Document.Basic
import CodeSnapshot.Proofs.Document.LineCuts

/-!
# Character counts — what a document says about the length of its text

The number of characters of a document is made up from its last line: the characters before the line,
and those that the line says. The end of a line counts for the lines behind it, and so the end of the
last line is the only part of a text that can be missing.

* **`lineEnd`** — the end of the last line of a text; `content_append_lineEnd` is what it is to a line.
* **`chars_append`** — the lines in front of the last one count with their ends.
* **`chars_add_lineEnd`** — what is missing is the end of the last line.
* **`Terminated`** — where a line has come to its end.
* **`stats_chars_iff`** — the headline: which texts are counted as a whole.
-/

namespace CodeSnapshot

namespace Lines

variable {text front more piece : List Char}

/-! ## Ends of lines -/

/-- The end of the last line of a text: a line feed, with the carriage return before it if there is one,
or a carriage return that nothing follows. -/
def lineEnd (text : List Char) : List Char :=
  if ['\r', '\n'] <:+ text then ['\r', '\n']
  else if ['\n'] <:+ text then ['\n']
  else if ['\r'] <:+ text then ['\r']
  else []

/-- A line has come to its end where a part of a text ends: with its line feed, or with the text, by a
carriage return. -/
def Terminated (front text : List Char) : Prop :=
  front <+: text ∧ (front.getLast? = some '\n' ∨ front = text ∧ front.getLast? = some '\r')

theorem suffix_concat_iff {c d : Char} : [d] <:+ text ++ [c] ↔ c = d := by
  rw [List.singleton_suffix_iff_getLast?_eq_some, List.getLast?_concat, Option.some.injEq]

theorem return_suffix_concat_iff {c : Char} :
    ['\r', '\n'] <:+ text ++ [c] ↔ ['\r'] <:+ text ∧ c = '\n' := by
  constructor
  · rintro ⟨init, hinit⟩
    have hsplit : (init ++ ['\r']) ++ ['\n'] = text ++ [c] := by simpa using hinit
    obtain ⟨rfl, hc⟩ := List.append_inj' hsplit rfl
    exact ⟨List.suffix_append .., (List.singleton_inj.1 hc).symm⟩
  · rintro ⟨⟨init, rfl⟩, rfl⟩
    exact ⟨init, by simp⟩

/-- **What a line says and its end** are the whole of it. -/
theorem content_append_lineEnd (piece : List Char) : content piece ++ lineEnd piece = piece := by
  rcases List.eq_nil_or_concat' piece with rfl | ⟨init, c, rfl⟩
  · rfl
  · simp only [content, lineEnd, return_suffix_concat_iff, suffix_concat_iff]
    by_cases hfeed : c = '\n'
    · rw [hfeed, dropLast_concat]
      by_cases hreturn : ['\r'] <:+ init
      · obtain ⟨said, rfl⟩ := hreturn
        simp [dropLast_concat]
      · have hsame : dropLast '\r' init = init :=
          if_neg (mt List.singleton_suffix_iff_getLast?_eq_some.2 hreturn)
        simp [hreturn, hsame]
    · have hsame : dropLast '\n' (init ++ [c]) = init ++ [c] := by
        refine if_neg ?_
        rw [List.getLast?_concat, Option.some.injEq]
        exact hfeed
      rw [hsame, if_neg (fun hpair => hfeed hpair.2), if_neg hfeed]
      by_cases hreturn : c = '\r'
      · rw [hreturn, dropLast_concat, if_pos rfl]
      · rw [if_neg hreturn, List.append_nil]
        refine if_neg ?_
        rw [List.getLast?_concat, Option.some.injEq]
        exact hreturn

/-- The end of a text is that of its last line. -/
theorem lineEnd_append (hfront : Closed front) (hne : piece ≠ []) :
    lineEnd (front ++ piece) = lineEnd piece := by
  obtain ⟨init, c, rfl⟩ := (List.eq_nil_or_concat' piece).resolve_left hne
  -- a carriage return before the last character is in the last line as well
  have hreturn : ['\r'] <:+ front ++ init ↔ ['\r'] <:+ init := by
    rw [List.singleton_suffix_iff_getLast?_eq_some, List.singleton_suffix_iff_getLast?_eq_some,
      List.getLast?_append]
    cases hlast : init.getLast? with
    | some d => rw [Option.some_or]
    | none =>
      rw [Option.none_or]
      refine iff_of_false (fun hfrontLast => ?_) nofun
      rcases hfront with rfl | hfeed
      · cases hfrontLast
      · rw [hfeed] at hfrontLast
        exact absurd (Option.some.inj hfrontLast) (by decide)
  simp only [← List.append_assoc, lineEnd, return_suffix_concat_iff, suffix_concat_iff, hreturn]

/-! ## Counting -/

/-- The last line of a text that is not empty, with its end, and the lines before it. -/
theorem exists_last_piece (hne : text ≠ []) :
    ∃ front piece, text = front ++ piece ∧ piece ≠ [] ∧ Closed front ∧
      cut text = cut front ++ [piece] := by
  obtain ⟨front, last, rfl, hfront, hlast⟩ := exists_last_line text
  by_cases hopen : last = []
  · -- the text ends with a line feed, which belongs to the line that it ends
    rw [hopen, List.append_nil] at hne ⊢
    obtain ⟨before, rfl⟩ := List.getLast?_eq_some_iff.1 (hfront.resolve_left hne)
    obtain ⟨front, line, rfl, hfront', hline⟩ := exists_last_line before
    refine ⟨front, line ++ ['\n'], List.append_assoc .., by simp, hfront', ?_⟩
    rw [List.append_assoc, cut_append hfront', cut_line hline]
  · exact ⟨front, last, rfl, hopen, hfront, by rw [cut_append hfront, cut_of_not_mem hlast hopen]⟩

theorem getLast?_place (offset : Nat) (pieces : List (List Char)) (piece : List Char) :
    (place offset (pieces ++ [piece])).getLast? =
      some ⟨String.ofList (content piece), offset + pieces.flatten.length⟩ := by
  induction pieces generalizing offset with
  | nil => rfl
  | cons first pieces ih =>
    rw [List.cons_append, place, List.getLast?_cons, ih, Option.getD_some, List.flatten_cons,
      List.length_append, Nat.add_assoc]

/-- The count of a text, by its last line. -/
theorem chars_of_cut {text : String} (h : cut text.toList = cut front ++ [piece]) :
    (ofText text).chars = front.length + (content piece).length := by
  rw [chars, ofText, h, getLast?_place, flatten_cut, Nat.zero_add]
  show front.length + (String.ofList (content piece)).length = _
  rw [String.length_ofList]

/-- **The lines in front of the last one** count with their ends. -/
theorem chars_append (hfront : Closed front) (hne : more ≠ []) :
    (ofText (String.ofList (front ++ more))).chars =
      front.length + (ofText (String.ofList more)).chars := by
  obtain ⟨before, piece, -, -, hbefore, hcut⟩ := exists_last_piece hne
  have hwhole : cut (front ++ more) = cut (front ++ before) ++ [piece] := by
    rw [cut_append hfront, hcut, cut_append hfront, List.append_assoc]
  rw [← String.toList_ofList (l := front ++ more)] at hwhole
  rw [← String.toList_ofList (l := more)] at hcut
  rw [chars_of_cut hwhole, chars_of_cut hcut, List.length_append, Nat.add_assoc]

/-- **What is missing** in the count of a text is the end of its last line. -/
theorem chars_add_lineEnd (text : String) :
    (ofText text).chars + (lineEnd text.toList).length = text.length := by
  by_cases hne : text.toList = []
  · obtain rfl := String.toList_eq_nil_iff.1 hne
    rfl
  · obtain ⟨front, piece, htext, hpiece, hfront, hcut⟩ := exists_last_piece hne
    have hlength := congrArg List.length (content_append_lineEnd piece)
    rw [List.length_append] at hlength
    rw [chars_of_cut hcut, ← String.length_toList, htext, lineEnd_append hfront hpiece,
      List.length_append]
    omega

theorem chars_eq_length_iff (text : String) :
    (ofText text).chars = text.length ↔ lineEnd text.toList = [] := by
  rw [← chars_add_lineEnd text, ← List.length_eq_zero_iff]
  omega

/-- The whole text comes to the end of a line if it ends with one. -/
theorem terminated_self_iff : Terminated text text ↔ lineEnd text ≠ [] := by
  rcases List.eq_nil_or_concat' text with rfl | ⟨init, c, rfl⟩
  · simp [Terminated, lineEnd]
  · simp only [Terminated, lineEnd, return_suffix_concat_iff, suffix_concat_iff,
      List.getLast?_concat, Option.some.injEq, List.prefix_refl, true_and]
    by_cases hfeed : c = '\n'
    · by_cases hreturn : ['\r'] <:+ init <;> simp [hfeed, hreturn]
    · by_cases hreturn : c = '\r' <;> simp [hfeed, hreturn]

/-- The ends of all lines but the last are within the count. -/
theorem length_le_chars {text : String} (h : Terminated front text.toList)
    (hne : front ≠ text.toList) : front.length ≤ (ofText text).chars := by
  obtain ⟨⟨more, htext⟩, hlast⟩ := h
  have hclosed : Closed front := .inr (hlast.resolve_right fun hwhole => hne hwhole.1)
  have hmore : more ≠ [] := by
    rintro rfl
    rw [List.append_nil] at htext
    exact hne htext
  have hcount := chars_append hclosed hmore
  rw [htext, String.ofList_toList] at hcount
  rw [hcount]
  exact Nat.le_add_right ..

/-- The ends of all lines are within the count if the last line has none. -/
theorem forall_length_le_chars_iff (text : String) :
    (∀ front, Terminated front text.toList → front.length ≤ (ofText text).chars) ↔
      lineEnd text.toList = [] := by
  constructor
  · intro h
    by_contra hended
    have hle := h text.toList (terminated_self_iff.2 hended)
    have hcount := chars_add_lineEnd text
    have hpos := List.length_pos_iff.2 hended
    rw [String.length_toList] at hle
    omega
  · rintro hopen front ⟨hstarts, -⟩
    rw [(chars_eq_length_iff text).2 hopen, ← String.length_toList]
    exact hstarts.length_le

end Lines

namespace Document

/-- **The characters of a document** are all those of its text, but for the end of the last line. So the
text is counted as a whole, and no line ends behind the last character that counts, exactly if the text
ends with neither a line feed nor a carriage return; and whatever the text ends with, the ends of its
other lines are counted. -/
theorem stats_chars_iff (path : String) (modified : Nat) (text : String) :
    let count := (parse path modified text).stats.chars
    count + (Lines.lineEnd text.toList).length = text.length ∧
      (count = text.length ↔ Lines.lineEnd text.toList = []) ∧
      ((∀ front, Lines.Terminated front text.toList → front.length ≤ count) ↔
        Lines.lineEnd text.toList = []) ∧
      ∀ front, Lines.Terminated front text.toList → front ≠ text.toList → front.length ≤ count :=
  ⟨Lines.chars_add_lineEnd text, Lines.chars_eq_length_iff text, Lines.forall_length_le_chars_iff text,
    fun _ => Lines.length_le_chars⟩

/-- Lines that end in both ways, and a last one with a carriage return behind it. -/
theorem stats_chars_iff_of_mixed_ends :
    let text := "a\r\nb\nc\r"
    (parse "snap.txt" 0 text).stats.chars = 6 ∧ Lines.lineEnd text.toList = ['\r'] ∧
      Lines.Terminated "a\r\nb\n".toList text.toList ∧
      "a\r\nb\n".toList.length ≤ (parse "snap.txt" 0 text).stats.chars := by
  intro text
  obtain ⟨hcount, -, -, hearlier⟩ := stats_chars_iff "snap.txt" 0 text
  have hended : Lines.Terminated "a\r\nb\n".toList text.toList :=
    ⟨⟨"c\r".toList, by decide⟩, .inl rfl⟩
  have hlast : Lines.lineEnd text.toList = ['\r'] := by decide
  have hlength : text.length = 7 := by decide
  rw [hlast, hlength] at hcount
  exact ⟨Nat.succ.inj hcount, hlast, hended, hearlier _ hended (by decide)⟩

/-- A line feed at the end of a text is not counted, and the line ends behind what is. -/
theorem not_counted_of_final_newline :
    ¬ (parse "snap.txt" 0 "a\n").stats.chars = "a\n".length ∧
      ¬ ∀ front, Lines.Terminated front "a\n".toList →
        front.length ≤ (parse "snap.txt" 0 "a\n").stats.chars := by
  have hcount : (parse "snap.txt" 0 "a\n").stats.chars = 1 := by decide +kernel
  rw [hcount]
  refine ⟨by decide, fun h => ?_⟩
  exact absurd (h ['a', '\n'] ⟨⟨[], rfl⟩, .inl rfl⟩) (by decide)

end Document

end CodeSnapshot
