import CodeSnapshot.Document.Search
import CodeSnapshot.Proofs.Document.LineCuts
import CodeSnapshot.Regex.Engine

/-!
# Hit scans — one list of matches behind all searches

A search within a limit stops early, and the search for a page goes on to the end but keeps only what
is on the page. Both take the matches of the lines in one order, which `hitsOf` lists, and what they
give is read off that list.

* **`findHits_none`**, **`findHits_some`** — a search without a limit gives the list, and one within a
  limit gives the front of it.
* **`page_eq`** — a page is a part of the list, cut where its numbers can no longer be counted.
* **`length_hits_ofText_le`** — the list is hardly longer than the text, if an engine finds no more in
  a line than there are places; `Pattern.length_all_le` says this of patterns.
-/

namespace CodeSnapshot

namespace Lines

/-- The matches of some lines, one line after the other. -/
def hitsOf (r : Regex) (lines : List (Nat × Line)) : List Hit :=
  lines.flatMap fun (number, line) => (r.all line.text).map (Hit.ofCaptures number line)

theorem hitsOf_cons (r : Regex) (number : Nat) (line : Line) (lines : List (Nat × Line)) :
    hitsOf r ((number, line) :: lines) =
      (r.all line.text).map (Hit.ofCaptures number line) ++ hitsOf r lines :=
  List.flatMap_cons ..

/-! ## Searching within a limit -/

/-- A limit that has not been passed. -/
def Fits (limit : Option Nat) (found : List Hit) : Prop :=
  ∀ n ∈ limit, found.length ≤ n

/-- What a limit leaves of a list, and whether it takes something off. -/
def within (limit : Option Nat) (all : List Hit) : Array Hit × Bool :=
  match limit with
  | none => (all.toArray, false)
  | some n => ((all.take n).toArray, n < all.length)

variable {r : Regex} {limit : Option Nat} {found : List Hit}

theorem within_of_fits (h : Fits limit found) : within limit found = (found.toArray, false) := by
  cases limit with
  | none => rfl
  | some n =>
    have hle : found.length ≤ n := h n rfl
    rw [within, List.take_of_length_le hle, decide_eq_false (Nat.not_lt.2 hle)]

/-- A list that is cut is cut in the same way with more behind it. -/
theorem fits_or_cut (limit : Option Nat) (all : List Hit) :
    Fits limit all ∨
      ∃ front, ∀ more, within limit (all ++ more) = (front, true) := by
  cases limit with
  | none => exact .inl nofun
  | some n =>
    rcases Nat.lt_or_ge n all.length with hlt | hle
    · refine .inr ⟨(all.take n).toArray, fun more => ?_⟩
      have hlonger : n < (all ++ more).length := by
        rw [List.length_append]
        omega
      rw [within, List.take_append_of_le_length (Nat.le_of_lt hlt), decide_eq_true hlonger]
    · left
      rintro _ ⟨⟩
      exact hle

/-- **One line.** Its matches go behind what was found before, as far as the limit allows. -/
theorem collect_eq (toHit : Captures → Hit) (cs : List Captures) (h : Fits limit found) :
    collect limit toHit cs found.toArray = within limit (found ++ cs.map toHit) := by
  induction cs generalizing found with
  | nil => rw [collect, List.map_nil, List.append_nil, within_of_fits h]
  | cons c cs ih =>
    rw [collect, List.size_toArray, List.push_toArray]
    cases limit with
    | none =>
      -- without a limit there is always room
      have hfits : Fits none (found ++ [toHit c]) := nofun
      rw [if_neg nofun, ih hfits, List.append_assoc]
      rfl
    | some n =>
      have hle : found.length ≤ n := h n rfl
      by_cases hfull : n ≤ found.length
      · -- there is no room, so the limit has been reached but not passed
        have heq : n = found.length := Nat.le_antisymm hfull hle
        have hlonger : n < (found ++ (c :: cs).map toHit).length := by
          rw [List.length_append, List.map_cons, List.length_cons]
          omega
        rw [if_pos (by simpa using hfull), within, decide_eq_true hlonger, heq, List.take_left]
      · have hfits : Fits (some n) (found ++ [toHit c]) := by
          rintro _ ⟨⟩
          rw [List.length_append, List.length_singleton]
          omega
        rw [if_neg (by simpa using hfull), ih hfits, List.append_assoc]
        rfl

/-- **All lines.** A search that is cut short in one line is not taken up again in the next. -/
theorem collectFrom_eq (lines : List (Nat × Line)) (h : Fits limit found) :
    collectFrom r limit lines found.toArray = within limit (found ++ hitsOf r lines) := by
  induction lines generalizing found with
  | nil => rw [collectFrom, hitsOf, List.flatMap_nil, List.append_nil, within_of_fits h]
  | cons entry lines ih =>
    obtain ⟨number, line⟩ := entry
    rw [collectFrom, collect_eq _ _ h, hitsOf_cons, ← List.append_assoc]
    generalize found ++ (r.all line.text).map (Hit.ofCaptures number line) = seen
    rcases fits_or_cut limit seen with hfits | ⟨front, hcut⟩
    · rw [within_of_fits hfits]
      exact ih hfits
    · -- what is cut already stays so, whatever the other lines hold
      have hhere := hcut []
      rw [List.append_nil] at hhere
      rw [hhere, hcut]

theorem findHits_eq (ls : Lines) (r : Regex) (limit : Option Nat) :
    ls.findHits r limit =
      ((within limit (hitsOf r ls.numbered)).1.toList,
        (within limit (hitsOf r ls.numbered)).2) := by
  have hfits : Fits limit [] := fun n _ => Nat.zero_le n
  have hfrom := collectFrom_eq (r := r) ls.numbered hfits
  rw [List.nil_append] at hfrom
  rw [findHits, hfrom]

theorem findHits_none (ls : Lines) (r : Regex) :
    ls.findHits r none = (hitsOf r ls.numbered, false) :=
  findHits_eq ls r none

theorem hits_eq (ls : Lines) (r : Regex) : ls.hits r = hitsOf r ls.numbered := by
  rw [hits, findHits_none]

theorem findHits_some (ls : Lines) (r : Regex) (n : Nat) :
    ls.findHits r (some n) = ((ls.hits r).take n, decide (n < (ls.hits r).length)) := by
  rw [findHits_eq, hits_eq]
  rfl

/-! ## How many matches there are -/

theorem dropLast_cons (d c : Char) (text : List Char) :
    dropLast d (c :: text) = [] ∨ dropLast d (c :: text) = c :: dropLast d text := by
  cases text with
  | nil =>
    rw [dropLast]
    split
    · exact .inl rfl
    · exact .inr rfl
  | cons c' text =>
    right
    rw [dropLast, dropLast, List.getLast?_cons_cons]
    split
    · rfl
    · rfl

theorem length_content_cons_le (c : Char) (piece : List Char) :
    (content (c :: piece)).length ≤ (content piece).length + 1 := by
  rw [content, content]
  rcases dropLast_cons '\n' c piece with h | h
  · rw [h]
    exact Nat.zero_le _
  · rw [h]
    rcases dropLast_cons '\r' c (dropLast '\n' piece) with h | h
    · rw [h]
      exact Nat.zero_le _
    · exact Nat.le_of_eq (congrArg List.length h)

/-- How many matches there can be in some lines: one for each character, and one at the end of each
line. -/
def placesIn : List String → Nat
  | [] => 0
  | line :: lines => line.length + 1 + placesIn lines

/-- Only the last line has no end in the text that makes up for the match at the end of it. -/
theorem placesIn_cut_le (text : List Char) :
    placesIn ((cut text).map fun piece => String.ofList (content piece)) ≤ text.length + 1 := by
  induction text with
  | nil => exact Nat.zero_le _
  | cons c text ih =>
    by_cases hc : c = '\n'
    · subst hc
      rw [cut_cons_newline, List.map_cons, placesIn, List.length_cons]
      have hempty : (String.ofList (content ['\n'])).length = 0 := rfl
      omega
    · rw [cut_cons_of_ne hc, List.length_cons]
      have hlonger : ∀ piece, (String.ofList (content (c :: piece))).length ≤
          (String.ofList (content piece)).length + 1 := by
        intro piece
        rw [String.length_ofList, String.length_ofList]
        exact length_content_cons_le c piece
      cases hpieces : cut text with
      | nil =>
        have hsingle := hlonger []
        have hempty : (String.ofList (content [])).length = 0 := rfl
        rw [List.map_cons, List.map_nil, placesIn, placesIn]
        omega
      | cons piece pieces =>
        have hpiece := hlonger piece
        rw [hpieces, List.map_cons, placesIn] at ih
        rw [List.map_cons, placesIn]
        omega

theorem length_hitsOf_le (hr : ∀ line, (r.all line).length ≤ line.length + 1)
    (lines : List (Nat × Line)) : (hitsOf r lines).length ≤ placesIn (lines.map (·.2.text)) := by
  induction lines with
  | nil => exact Nat.zero_le _
  | cons entry lines ih =>
    rw [hitsOf_cons, List.length_append, List.length_map, List.map_cons, placesIn]
    exact Nat.add_le_add (hr entry.2.text) ih

theorem map_numbered (ls : Lines) : ls.numbered.map (·.2.text) = ls.texts := by
  rw [numbered, texts, List.map_map, ← List.zipIdx_map_fst 0 ls.entries, List.map_map]
  simp

/-- A text has at most one match more than characters, also when it is searched line by line. -/
theorem length_hits_ofText_le (hr : ∀ line, (r.all line).length ≤ line.length + 1)
    (text : String) : ((ofText text).hits r).length ≤ text.length + 1 := by
  have hplaces := placesIn_cut_le text.toList
  rw [← texts_ofText, ← map_numbered, String.length_toList] at hplaces
  rw [hits_eq]
  exact Nat.le_trans (length_hitsOf_le hr _) hplaces

end Lines

/-- A pattern is found at each place of a line at most once. -/
theorem Pattern.length_all_le (p : Pattern) (line : String) :
    (p.regex.all line).length ≤ line.length + 1 := by
  have hline := p.length_matchesIn_le line.toList
  rw [String.length_toList] at hline
  exact Nat.le_trans (Nat.le_of_eq (List.length_map _)) hline

/-! ## Pages -/

namespace Document

/-- The scan for a page, after some matches. -/
def PageScan.ofSeen (options : SearchOptions) (seen : List Hit) : PageScan where
  count := seen.length
  hits := ((seen.take options.stop).drop options.offset).toArray

variable {options : SearchOptions}

/-- A part of a list changes with what is put at the end if that is in the part. -/
theorem drop_take_concat {α : Type} (offset stop : Nat) (seen : List α) (a : α) :
    ((seen ++ [a]).take stop).drop offset =
      if offset ≤ seen.length ∧ seen.length < stop then (seen.take stop).drop offset ++ [a]
      else (seen.take stop).drop offset := by
  rcases Nat.lt_or_ge seen.length stop with hstop | hstop
  · have hall : (seen ++ [a]).length ≤ stop := by
      rw [List.length_append]
      exact hstop
    rw [List.take_of_length_le hall, List.take_of_length_le (Nat.le_of_lt hstop)]
    split
    · rename_i hin
      rw [List.drop_append_of_le_length hin.1]
    · -- the part has not begun
      rename_i hout
      have hoffset : seen.length < offset := Nat.lt_of_not_le fun hle => hout ⟨hle, hstop⟩
      have hshort : (seen ++ [a]).length ≤ offset := by
        rw [List.length_append]
        exact hoffset
      rw [List.drop_of_length_le hshort, List.drop_of_length_le (Nat.le_of_lt hoffset)]
  · rw [if_neg fun hin => Nat.not_le.2 hin.2 hstop, List.take_append_of_le_length hstop]

/-- **One match.** -/
theorem PageScan.see_ofSeen (toHit : Captures → Hit) (seen : List Hit) (c : Captures) :
    (PageScan.ofSeen options seen).see options toHit c =
      PageScan.ofSeen options (seen ++ [toHit c]) := by
  rw [see, ofSeen, ofSeen, drop_take_concat, PageScan.mk.injEq, List.length_append]
  refine ⟨rfl, ?_⟩
  by_cases hin : options.offset ≤ seen.length ∧ seen.length < options.stop
  · have hsee : (options.offset ≤ seen.length && seen.length < options.stop) = true :=
      Bool.and_eq_true_iff.2 (hin.imp decide_eq_true decide_eq_true)
    rw [if_pos hsee, if_pos hin, List.push_toArray]
  · have hsee : ¬(options.offset ≤ seen.length && seen.length < options.stop) = true := fun h =>
      hin ((Bool.and_eq_true_iff.1 h).imp of_decide_eq_true of_decide_eq_true)
    rw [if_neg hsee, if_neg hin]

theorem PageScan.foldl_see (toHit : Captures → Hit) (cs : List Captures)
    (seen : List Hit) :
    cs.foldl (PageScan.see options toHit) (PageScan.ofSeen options seen) =
      PageScan.ofSeen options (seen ++ cs.map toHit) := by
  induction cs generalizing seen with
  | nil => rw [List.foldl_nil, List.map_nil, List.append_nil]
  | cons c cs ih =>
    rw [List.foldl_cons, PageScan.see_ofSeen, ih, List.map_cons, List.append_assoc]
    rfl

theorem PageScan.foldl_lines (r : Regex) (lines : List (Nat × Line)) (seen : List Hit) :
    lines.foldl
      (fun scan entry =>
        (r.all entry.2.text).foldl
          (PageScan.see options (Hit.ofCaptures entry.1 entry.2)) scan)
      (PageScan.ofSeen options seen) =
      PageScan.ofSeen options (seen ++ Lines.hitsOf r lines) := by
  induction lines generalizing seen with
  | nil => rw [List.foldl_nil, Lines.hitsOf, List.flatMap_nil, List.append_nil]
  | cons entry lines ih =>
    rw [List.foldl_cons, PageScan.foldl_see, ih, List.append_assoc, Lines.hitsOf_cons]

theorem page_eq (d : Document) (r : Regex) (options : SearchOptions) :
    d.page r options =
      { hits := ((d.lines.hits r).take options.stop).drop options.offset
        count := (d.lines.hits r).length
        offset := options.offset
        hasMore := options.stop < (d.lines.hits r).length } := by
  have hstart : PageScan.ofSeen options [] = {} := by
    rw [PageScan.ofSeen, List.take_nil, List.drop_nil]
    rfl
  have hscan := @PageScan.foldl_lines options r d.lines.numbered []
  rw [hstart, List.nil_append, ← Lines.hits_eq] at hscan
  rw [page, hscan]
  rfl

end Document

end CodeSnapshot
