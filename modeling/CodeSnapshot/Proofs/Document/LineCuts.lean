import CodeSnapshot.Document.Lines
import CodeSnapshot.Text.Piece
import Mathlib.Data.List.Infix

/-!
# Line cuts — the lines of texts that are put together

A text is cut behind every line feed, so that the lines of a text are those of its parts wherever a
part ends with a line feed.

* **`Closed`** — a text that what follows cannot change the lines of.
* **`texts_append`** — the lines of a closed text come first, then those of what follows.
* **`texts_append_newline`** — a last line says the same with a line feed behind it and without.
* **`joined_texts`** — the lines of a plain text, put together, are the text.
* **`not_mem_texts`**, **`size_le_length`** — no line has a line feed in it, and there are no more lines
  than characters.
-/

namespace CodeSnapshot.Lines

/-! ## Pieces -/

/-- A text that has no open line at its end. -/
def Closed (text : List Char) : Prop :=
  text = [] ∨ text.getLast? = some '\n'

theorem closed_concat (text : List Char) : Closed (text ++ ['\n']) :=
  .inr List.getLast?_concat

theorem closed_append_newline (text : String) : Closed (text ++ "\n").toList := by
  rw [String.toList_append]
  exact closed_concat text.toList

theorem closed_iff (text : String) :
    Closed text.toList ↔ (text.isEmpty || text.endsWith "\n") = true := by
  have hend : text.endsWith "\n" = true ↔ text.toList.getLast? = some '\n' := by
    rw [String.endsWith_eq_endsWith_toSlice, String.Slice.endsWith_string_iff, String.copy_toSlice,
      show "\n".toList = ['\n'] from rfl, List.singleton_suffix_iff_getLast?_eq_some]
  rw [Bool.or_eq_true, hend, String.isEmpty_iff, ← String.toList_eq_nil_iff]
  rfl

theorem cut_cons_of_ne {c : Char} (h : c ≠ '\n') (text : List Char) :
    cut (c :: text) = match cut text with
      | [] => [[c]]
      | piece :: pieces => (c :: piece) :: pieces := by
  show (if c = '\n' then _ else _) = _
  rw [if_neg h]
  rfl

theorem cut_ne_nil {text : List Char} (h : text ≠ []) : cut text ≠ [] := by
  intro hnil
  rw [← flatten_cut text, hnil] at h
  exact h rfl

/-- **A closed text is cut by itself.** -/
theorem cut_append {front : List Char} (h : Closed front) (back : List Char) :
    cut (front ++ back) = cut front ++ cut back := by
  induction front with
  | nil => rfl
  | cons c front ih =>
    have hrest : Closed front := by
      cases front with
      | nil => exact .inl rfl
      | cons d front =>
        rw [Closed, List.getLast?_cons_cons] at h
        exact .inr (h.resolve_left (List.cons_ne_nil _ _))
    rw [List.cons_append]
    by_cases hc : c = '\n'
    · rw [hc, cut_cons_newline, cut_cons_newline, ih hrest, List.cons_append]
    · have hne : front ≠ [] := by
        rintro rfl
        simp [Closed, hc] at h
      obtain ⟨piece, pieces, hcut⟩ := List.exists_cons_of_ne_nil (cut_ne_nil hne)
      rw [cut_cons_of_ne hc, cut_cons_of_ne hc, ih hrest, hcut]
      rfl

theorem cut_line {line : List Char} (h : '\n' ∉ line) : cut (line ++ ['\n']) = [line ++ ['\n']] := by
  induction line with
  | nil => rfl
  | cons c line ih =>
    obtain ⟨hc, hline⟩ := not_or.1 fun hor => h (List.mem_cons.2 hor)
    rw [List.cons_append, cut_cons_of_ne (Ne.symm hc), ih hline]

theorem cut_of_not_mem {line : List Char} (h : '\n' ∉ line) (hne : line ≠ []) :
    cut line = [line] := by
  induction line with
  | nil => exact absurd rfl hne
  | cons c line ih =>
    obtain ⟨hc, hline⟩ := not_or.1 fun hor => h (List.mem_cons.2 hor)
    rw [cut_cons_of_ne (Ne.symm hc)]
    cases line with
    | nil => rfl
    | cons d line => rw [ih hline (List.cons_ne_nil d line)]

/-- A text is a closed one and the rest of its last line. -/
theorem exists_last_line (text : List Char) :
    ∃ front last, text = front ++ last ∧ Closed front ∧ '\n' ∉ last := by
  induction text with
  | nil => exact ⟨[], [], rfl, .inl rfl, nofun⟩
  | cons c text ih =>
    obtain ⟨front, last, rfl, hfront, hlast⟩ := ih
    cases front with
    | cons d front =>
      refine ⟨c :: d :: front, last, rfl, .inr ?_, hlast⟩
      rw [List.getLast?_cons_cons]
      exact hfront.resolve_left (List.cons_ne_nil d front)
    | nil =>
      by_cases hc : c = '\n'
      · exact ⟨['\n'], last, by rw [hc]; rfl, closed_concat [], hlast⟩
      · exact ⟨[], c :: last, rfl, .inl rfl, by simp [Ne.symm hc, hlast]⟩

/-! ## What lines say -/

theorem map_place (offset : Nat) (pieces : List (List Char)) :
    (place offset pieces).map (·.text) = pieces.map fun piece => String.ofList (content piece) := by
  induction pieces generalizing offset with
  | nil => rfl
  | cons piece pieces ih => rw [place, List.map_cons, List.map_cons, ih]

theorem texts_ofText (text : String) :
    (ofText text).texts = (cut text.toList).map fun piece => String.ofList (content piece) :=
  map_place 0 _

theorem dropLast_concat (c : Char) (text : List Char) : dropLast c (text ++ [c]) = text := by
  rw [dropLast, if_pos List.getLast?_concat, List.dropLast_concat]

theorem dropLast_of_not_mem {c : Char} {text : List Char} (h : c ∉ text) :
    dropLast c text = text :=
  if_neg fun hlast => h (List.mem_of_getLast? hlast)

theorem content_concat_newline {line : List Char} (h : '\n' ∉ line) :
    content (line ++ ['\n']) = content line := by
  rw [content, content, dropLast_concat, dropLast_of_not_mem h]

theorem texts_eq_nil_iff {text : String} : (ofText text).texts = [] ↔ text = "" := by
  constructor
  · intro h
    rw [texts_ofText, List.map_eq_nil_iff] at h
    have hflat := flatten_cut text.toList
    rw [h] at hflat
    exact String.toList_eq_nil_iff.1 hflat.symm
  · rintro rfl
    rfl

/-- **The lines of a closed text and of what follows.** -/
theorem texts_append {front : String} (h : Closed front.toList) (back : String) :
    (ofText (front ++ back)).texts = (ofText front).texts ++ (ofText back).texts := by
  rw [texts_ofText, String.toList_append, cut_append h, List.map_append, ← texts_ofText,
    ← texts_ofText]

theorem content_of_not_mem {line : List Char} (h : '\n' ∉ line)
    (hreturn : line.getLast? ≠ some '\r') : content line = line := by
  rw [content, dropLast_of_not_mem h]
  exact if_neg hreturn

/-- A line that does not end with a carriage return is read as it is written. -/
theorem texts_line {line : String} (h : '\n' ∉ line.toList)
    (hreturn : line.toList.getLast? ≠ some '\r') : (ofText (line ++ "\n")).texts = [line] := by
  rw [texts_ofText, String.toList_append, show "\n".toList = ['\n'] from rfl, cut_line h,
    List.map_singleton, content_concat_newline h, content_of_not_mem h hreturn,
    String.ofList_toList]

/-- **A line feed at the end of an open line changes nothing.** -/
theorem texts_append_newline {text : String} (h : ¬ Closed text.toList) :
    (ofText (text ++ "\n")).texts = (ofText text).texts := by
  obtain ⟨front, last, htext, hfront, hlast⟩ := exists_last_line text.toList
  have hne : last ≠ [] := by
    rintro rfl
    rw [htext, List.append_nil] at h
    exact h hfront
  rw [texts_ofText, texts_ofText, String.toList_append, show "\n".toList = ['\n'] from rfl, htext,
    List.append_assoc, cut_append hfront, cut_append hfront, cut_line hlast,
    cut_of_not_mem hlast hne, List.map_append, List.map_append, List.map_singleton,
    List.map_singleton, content_concat_newline hlast]

/-! ## Lines that are put together -/

/-- A text of which nothing is lost when it is read by lines: it does not end with a line feed, and no
line ends with a carriage return. -/
structure Plain (text : List Char) : Prop where
  unended : text.getLast? ≠ some '\n'
  noReturn : ¬ ['\r', '\n'] <:+: text ++ ['\n']

instance (text : List Char) : Decidable (Plain text) :=
  decidable_of_iff (text.getLast? ≠ some '\n' ∧ ¬ ['\r', '\n'] <:+: text ++ ['\n'])
    ⟨fun ⟨hend, hreturn⟩ => ⟨hend, hreturn⟩, fun h => ⟨h.unended, h.noReturn⟩⟩

/-- **The lines of a plain text, put together.** By what stands before the first line feed and what
stands behind it. -/
theorem intercalate_content {text : List Char} (h : Plain text) :
    ['\n'].intercalate ((cut text).map content) = text := by
  have hreturn (line rest : List Char) (heq : line ++ rest = text ++ ['\n'])
      (hrest : rest.head? = some '\n') : line.getLast? ≠ some '\r' := by
    intro hlast
    obtain ⟨init, rfl⟩ := List.getLast?_eq_some_iff.1 hlast
    obtain ⟨behind, rfl⟩ := List.head?_eq_some_iff.1 hrest
    refine h.noReturn ⟨init, behind, ?_⟩
    rw [← heq]
    simp
  by_cases hmem : '\n' ∈ text
  · obtain ⟨line, rest, rfl, hline⟩ := List.eq_append_cons_of_mem hmem
    have hne : rest ≠ [] := by
      rintro rfl
      exact h.unended List.getLast?_concat
    have hsplit : line ++ '\n' :: rest = (line ++ ['\n']) ++ rest := by simp
    have hplain : Plain rest := by
      constructor
      · have hlast := h.unended
        rwa [hsplit, List.getLast?_append, Option.or_of_isSome (by simpa using hne)] at hlast
      · intro hin
        refine h.noReturn (hin.trans ⟨line ++ ['\n'], [], ?_⟩)
        simp
    have hcut : cut (line ++ '\n' :: rest) = (line ++ ['\n']) :: cut rest := by
      rw [hsplit, cut_append (closed_concat line), cut_line hline]
      rfl
    have hcontent : content (line ++ ['\n']) = line := by
      rw [content_concat_newline hline]
      exact content_of_not_mem hline
        (hreturn line ('\n' :: (rest ++ ['\n'])) (by simp) rfl)
    have ih := intercalate_content hplain
    obtain ⟨piece, pieces, hpieces⟩ := List.exists_cons_of_ne_nil (cut_ne_nil hne)
    rw [hpieces] at ih
    rw [hcut, hpieces, List.map_cons, List.map_cons, List.intercalate_cons_cons, ← List.map_cons,
      ih, hcontent, hsplit]
  · by_cases hne : text = []
    · rw [hne]
      rfl
    · rw [cut_of_not_mem hmem hne, List.map_singleton, List.intercalate_singleton]
      exact content_of_not_mem hmem (hreturn text ['\n'] rfl rfl)
  termination_by text.length
  decreasing_by
    have hlength := congrArg List.length ‹text = _›
    rw [List.length_append, List.length_cons] at hlength
    omega

theorem joined_texts {text : String} (h : Plain text.toList) :
    Text.joined "\n" (ofText text).texts = text := by
  have hlines : (ofText text).texts.map String.toList = (cut text.toList).map content := by
    rw [texts_ofText, List.map_map]
    exact List.map_congr_left fun piece _ => String.toList_ofList
  rw [← String.toList_inj, Text.joined, String.toList_intercalate, hlines]
  exact intercalate_content h

/-! ## Any text -/

theorem mem_of_mem_dropLast {c d : Char} {text : List Char} (h : d ∈ dropLast c text) : d ∈ text := by
  rw [dropLast] at h
  split at h
  · exact List.mem_of_mem_dropLast h
  · exact h

/-- A piece has a line feed at its end or none at all. -/
theorem not_mem_dropLast_of_mem_cut {text piece : List Char} (h : piece ∈ cut text) :
    '\n' ∉ dropLast '\n' piece := by
  induction text generalizing piece with
  | nil => cases h
  | cons c text ih =>
    by_cases hc : c = '\n'
    · rw [hc, cut_cons_newline] at h
      rcases List.mem_cons.1 h with rfl | h
      · exact List.not_mem_nil
      · exact ih h
    · rw [cut_cons_of_ne hc] at h
      cases hcut : cut text with
      | nil =>
        rw [hcut] at h
        obtain rfl := List.mem_singleton.1 h
        exact fun hmem => hc (List.mem_singleton.1 (mem_of_mem_dropLast hmem)).symm
      | cons first pieces =>
        rw [hcut] at h ih
        rcases List.mem_cons.1 h with rfl | h
        · have hfirst := ih (List.mem_cons_self ..)
          cases first with
          | nil => exact fun hmem => hc (List.mem_singleton.1 (mem_of_mem_dropLast hmem)).symm
          | cons d first =>
            have hmore : dropLast '\n' (c :: d :: first) = c :: dropLast '\n' (d :: first) := by
              rw [dropLast, dropLast, List.getLast?_cons_cons]
              split <;> rfl
            rw [hmore, List.mem_cons, not_or]
            exact ⟨Ne.symm hc, hfirst⟩
        · exact ih (List.mem_cons_of_mem first h)

/-- **No line has a line feed in it.** -/
theorem not_mem_texts {text line : String} (h : line ∈ (ofText text).texts) :
    '\n' ∉ line.toList := by
  rw [texts_ofText] at h
  obtain ⟨piece, hpiece, rfl⟩ := List.mem_map.1 h
  rw [String.toList_ofList]
  exact fun hmem => not_mem_dropLast_of_mem_cut hpiece (mem_of_mem_dropLast hmem)

/-- **There are no more lines than characters.** -/
theorem size_le_length (text : String) : (ofText text).size ≤ text.length := by
  have hcut (cs : List Char) : (cut cs).length ≤ cs.length := by
    induction cs with
    | nil => exact Nat.le_refl 0
    | cons c cs ih =>
      by_cases hc : c = '\n'
      · rw [hc, cut_cons_newline]
        exact Nat.succ_le_succ ih
      · rw [cut_cons_of_ne hc]
        cases hpieces : cut cs with
        | nil => exact Nat.succ_le_succ (Nat.zero_le _)
        | cons piece pieces =>
          rw [hpieces] at ih
          exact Nat.le_succ_of_le ih
  rw [size, ofText, length_place, ← String.length_toList]
  exact hcut text.toList

/-! ## Parts of the lines -/

theorem length_texts (ls : Lines) : ls.texts.length = ls.size :=
  List.length_map ..

theorem texts_slice (ls : Lines) (first last : Nat) :
    (ls.slice first last).map (·.text) = (ls.texts.take last).drop (first - 1) := by
  rw [slice, texts, List.map_drop, List.map_take]

end CodeSnapshot.Lines
