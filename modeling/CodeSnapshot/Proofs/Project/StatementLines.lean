import CodeSnapshot.Proofs.Pattern.SettledPlaces
import CodeSnapshot.Proofs.Project.ExportedSymbols

/-!
# Statement lines — what a line of a source file exports

An export statement begins at the start of a line, and its record has the number of that line. Where
no export was begun before a line, what the line exports is told by the text from there on: each form
of declaration is tried at the start of the line, one after the other.

* **`lineOf_lineStarts`** — the number of a line by the line feeds before it.
* **`Found.filter_sorted`** — what stands at one position keeps its order.
* **`takes_export`** — where an export statement begins.
* **`filter_found`** — what a form finds at a place that no earlier match of it reaches over.
* **`filter_ofSource_line`** — the headline: the records of a line, form by form.
-/

namespace CodeSnapshot

open Pattern Statement

/-! ## Lines -/

namespace Statement

/-- The text before a place ends where a line starts. -/
def AtLineStart (front : List Char) : Prop :=
  ∀ c ∈ front.getLast?, c = '\n'

instance (front : List Char) : Decidable (AtLineStart front) :=
  decidable_of_iff (front.getLast?.all (· == '\n') = true) (by simp [AtLineStart, Option.all_eq_true])

/-- The last part of a text in front of a line has a line feed, unless it is empty. -/
theorem AtLineStart.newline_mem {first second : List Char} (h : AtLineStart (first ++ second))
    (hne : second ≠ []) : '\n' ∈ second := by
  obtain ⟨initial, c, rfl⟩ := (List.eq_nil_or_concat' second).resolve_left hne
  have hc : c = '\n' := h c (by rw [← List.append_assoc, List.getLast?_concat]; rfl)
  exact List.mem_append_right _ (List.mem_singleton.2 hc.symm)

/-- The start of a text, and the positions behind each occurrence of a mark in it. -/
def startsBehind {α : Type} [BEq α] (mark : α) (text : List α) : List Nat :=
  0 :: (text.zipIdx.filter (·.1 == mark)).map (·.2 + 1)

/-- How many of the starts are not behind a position: one more than there are marks before it. -/
theorem lineOf_startsBehind {α : Type} [BEq α] [LawfulBEq α] (mark : α) (text : List α) (offset : Nat) :
    lineOf (startsBehind mark text) offset = (text.take offset).count mark + 1 := by
  -- the starts in what is left of the text, which begins at `first`
  have hstep (c : α) (text : List α) (first : Nat) :
      (((c :: text).zipIdx first).filter (·.1 == mark)).map (·.2 + 1) =
        if c == mark then (first + 1) :: ((text.zipIdx (first + 1)).filter (·.1 == mark)).map (·.2 + 1)
        else ((text.zipIdx (first + 1)).filter (·.1 == mark)).map (·.2 + 1) := by
    rw [List.zipIdx_cons, List.filter_cons]
    split <;> rfl
  have hgo (text : List α) (first : Nat) :
      ((((text.zipIdx first).filter (·.1 == mark)).map (·.2 + 1)).takeWhile (· ≤ offset)).length =
        (text.take (offset - first)).count mark := by
    induction text generalizing first with
    | nil => rw [List.take_nil]; rfl
    | cons c text ih =>
      have hnext := ih (first + 1)
      rw [hstep]
      by_cases hin : first + 1 ≤ offset
      · have hmore : offset - first = offset - (first + 1) + 1 := by omega
        rw [hmore, List.take_succ_cons, List.count_cons, ← hnext]
        split
        · rw [List.takeWhile_cons, if_pos (decide_eq_true hin), List.length_cons]
        · rfl
      · have hnone : offset - first = 0 := by omega
        have hnone' : offset - (first + 1) = 0 := by omega
        rw [hnone', List.take_zero] at hnext
        rw [hnone, List.take_zero]
        split
        · rw [List.takeWhile_cons, if_neg (mt of_decide_eq_true hin)]
          rfl
        · exact hnext
  rw [lineOf, startsBehind, List.takeWhile_cons_of_pos (by simp), List.length_cons, hgo]
  rfl

/-- **The line of a position** is one more than there are line feeds before it. -/
theorem lineOf_lineStarts (text : List Char) (offset : Nat) :
    lineOf (lineStarts text) offset = (text.take offset).count '\n' + 1 :=
  lineOf_startsBehind '\n' text offset

/-- A line is told by its number. -/
theorem eq_of_count_eq {first second text : List Char} (hfirst : AtLineStart first)
    (hsecond : AtLineStart second) (hfirstIn : first <+: text) (hsecondIn : second <+: text)
    (hcount : first.count '\n' = second.count '\n') : first = second := by
  have hgo {short long : List Char} (hlong : AtLineStart long) (hstarts : short <+: long)
      (hcount : short.count '\n' = long.count '\n') : short = long := by
    obtain ⟨more, rfl⟩ := hstarts
    rcases List.eq_nil_or_concat' more with rfl | ⟨more, c, rfl⟩
    · exact (List.append_nil short).symm
    · obtain rfl : c = '\n' := by
        refine hlong c ?_
        rw [← List.append_assoc, List.getLast?_concat]
        rfl
      rw [List.count_append, List.count_append, List.count_singleton_self] at hcount
      omega
  rcases List.prefix_or_prefix_of_prefix hfirstIn hsecondIn with h | h
  · exact hgo hsecond h hcount
  · exact (hgo hfirst h hcount.symm).symm

end Statement

/-! ## Sorting -/

theorem Found.filter_sorted {α : Type} (xs : List (Found α)) (offset : Nat) :
    (sorted xs).filter (·.offset = offset) = xs.filter (·.offset = offset) := by
  refine filter_sortedBy (fun x y hx hy => ?_) xs
  rw [decide_eq_true_eq] at hx hy
  rw [hx, hy, decide_eq_true_eq]

/-! ## Where statements begin -/

section

variable {front piece rest : List Char} {ps : List Pattern}

theorem CharClass.contains_empty (c : Char) : CharClass.empty.contains c = false := by
  show (decide (1 ≤ c.toNat) && decide (c.toNat ≤ 0)) = false
  simp
  omega

theorem CharClass.contains_ofChars_iff {cs : List Char} {c : Char} :
    (CharClass.ofChars cs).contains c = true ↔ c ∈ cs := by
  induction cs with
  | nil => exact iff_of_false (Bool.eq_false_iff.1 (contains_empty c)) List.not_mem_nil
  | cons d cs ih =>
    have hunion : (CharClass.ofChars (d :: cs)).contains c =
        ((CharClass.single d).contains c || (CharClass.ofChars cs).contains c) := rfl
    rw [hunion, Bool.or_eq_true, ih, CharClass.contains_single, beq_iff_eq, List.mem_cons, eq_comm]

theorem takes_indent (h : indent.Takes front piece rest) :
    AtLineStart front ∧ ∀ c ∈ piece, c = ' ' ∨ c = '\t' := by
  obtain ⟨-, margin, rfl, ⟨rfl, hplace⟩, -, -, hmargin⟩ := h
  refine ⟨fun c hc => ?_, fun c hc => ?_⟩
  · have hbefore : front.getLast? = some c := hc
    simpa [Place.holdsAt, Cursor.behind, hbefore] using hplace
  · have hmem := CharClass.contains_ofChars_iff.1 (hmargin c hc)
    simpa using hmem

/-- **An export statement** begins at the start of a line, behind blanks at most. -/
theorem takes_export (h : (chain (indent :: word "export" :: ps)).Takes front piece rest) :
    AtLineStart front ∧ ∃ margin more, piece = margin ++ ("export".toList ++ more) ∧
      (∀ c ∈ margin, c = ' ' ∨ c = '\t') ∧
      TakesAll ps (front ++ margin ++ "export".toList) more rest := by
  obtain ⟨margin, -, rfl, hindent, mark, more, rfl, hword, hps⟩ := takesAll_of_chain h
  obtain rfl := eq_of_takes_word hword
  obtain ⟨hstart, hmargin⟩ := takes_indent hindent
  exact ⟨hstart, margin, more, rfl, hmargin, hps⟩

end

namespace ExportRecord

theorem exists_pattern_of_mem_forms :
    ∀ form ∈ forms, ∃ ps, form.pattern = chain (indent :: word "export" :: ps) := by
  simp only [forms, List.forall_mem_cons]
  exact ⟨⟨_, rfl⟩, ⟨_, rfl⟩, ⟨_, rfl⟩, ⟨_, rfl⟩, ⟨_, rfl⟩, ⟨_, rfl⟩, ⟨_, rfl⟩,
    List.forall_mem_nil _⟩

/-! ## The records of a line -/

/-- What a form finds in a text. -/
def Form.found (form : Form) (text : List Char) : List (Found Clause) :=
  (form.pattern.matchesIn text).filterMap fun m =>
    (form.clause m (text.drop m.whole.start)).map fun c => ⟨m.whole.start, c⟩

/-- What a form makes of the text from a place on. -/
def Form.clauseAt? (form : Form) (front rest : List Char) : Option Clause :=
  (form.pattern.matchAt? (.behind front rest)).bind fun m => form.clause m.1 rest

def ofClause (file : String) (line : Nat) (c : Clause) : ExportRecord :=
  { file, symbol := c.symbol, kind := c.kind, signature := c.signature, line }

variable {form : Form} {front rest : List Char}

theorem ofSource_eq (file content : String) :
    ofSource file content = (Found.sorted (forms.flatMap (·.found content.toList))).map fun f =>
      ofClause file (lineOf (lineStarts content.toList) f.offset) f.item := rfl

/-- What is found stands at the start of a line. -/
theorem atLineStart_of_mem_found (hform : form ∈ forms) {text : List Char} {f : Found Clause}
    (hf : f ∈ form.found text) :
    ∃ before, before <+: text ∧ before.length = f.offset ∧ AtLineStart before := by
  obtain ⟨m, hm, hclause⟩ := List.mem_filterMap.1 hf
  obtain ⟨c, -, rfl⟩ := Option.map_eq_some_iff.1 hclause
  obtain ⟨before, piece, rest, rfl, hwhole, htakes⟩ := exists_takes_of_mem_matchesIn hm
  obtain ⟨ps, hps⟩ := exists_pattern_of_mem_forms form hform
  rw [hps] at htakes
  exact ⟨before, List.prefix_append .., by rw [hwhole], (takes_export htakes).1⟩

/-- Before a line no statement was begun that could reach over its start. -/
theorem settled_of_no_export (hform : form ∈ forms) (hstart : AtLineStart front)
    (hfront : ¬ "export".toList <:+: front) : form.pattern.Settled front rest := by
  intro first second piece rest' hsplit hne htext htakes
  exfalso
  obtain ⟨ps, hps⟩ := exists_pattern_of_mem_forms form hform
  rw [hps] at htakes
  obtain ⟨-, margin, more, rfl, hmargin, -⟩ := takes_export htakes
  have hlast : '\n' ∈ second := AtLineStart.newline_mem (hsplit ▸ hstart) hne
  have hhead : second ++ rest = (margin ++ "export".toList) ++ (more ++ rest') := by
    rw [htext]
    simp only [List.append_assoc]
  rcases List.append_eq_append_iff.1 hhead with ⟨tail, htail, -⟩ | ⟨tail, htail, -⟩
  · -- the beginning of the statement would go over the end of the line
    have hin : '\n' ∈ margin ++ "export".toList := htail ▸ List.mem_append_left tail hlast
    rcases List.mem_append.1 hin with hin | hin
    · exact absurd (hmargin _ hin) (by decide)
    · exact absurd hin (by decide)
  · refine hfront ⟨first ++ margin, tail, ?_⟩
    rw [hsplit, htail]
    simp only [List.append_assoc]

theorem consumes_of_mem_forms : ∀ form ∈ forms, form.pattern.consumes = true := by decide

/-- **What a form finds at a settled place.** -/
theorem filter_found (hform : form ∈ forms) (hsettled : form.pattern.Settled front rest) :
    (form.found (front ++ rest)).filter (·.offset = front.length) =
      ((form.clauseAt? front rest).map fun c => ⟨front.length, c⟩).toList := by
  have hat := filter_matchesIn (consumes_of_mem_forms form hform) hsettled
  -- at that position the form is given the text from the place on
  have hclause (m : Match) :
      ((form.clause m ((front ++ rest).drop m.whole.start)).map
        fun c => (⟨m.whole.start, c⟩ : Found Clause)).filter (·.offset = front.length) =
      if decide (m.whole.start = front.length) = true then
        (form.clause m rest).map fun c => ⟨front.length, c⟩
      else none := by
    by_cases hm : m.whole.start = front.length
    · rw [if_pos (decide_eq_true hm), hm, List.drop_left]
      cases form.clause m rest <;> simp
    · rw [if_neg (by simpa using hm)]
      cases form.clause m ((front ++ rest).drop m.whole.start) <;> simp [hm]
  rw [Form.found, List.filter_filterMap]
  simp only [hclause]
  rw [← List.filterMap_filter, hat, Form.clauseAt?]
  cases form.pattern.matchAt? (.behind front rest) with
  | none => rfl
  | some found =>
    rw [Option.map_some, Option.toList_some, List.filterMap_cons, Option.bind_some]
    cases form.clause found.1 rest <;> rfl

/-- The records of a line are those of what stands at its start. -/
theorem filter_ofSource_start (file : String) (rest : List Char) (hstart : AtLineStart front) :
    (ofSource file (String.ofList (front ++ rest))).filter (·.line = front.count '\n' + 1) =
      (forms.flatMap fun form =>
        (form.found (front ++ rest)).filter (·.offset = front.length)).map
          fun f => ofClause file (front.count '\n' + 1) f.item := by
  have hline : lineOf (lineStarts (front ++ rest)) front.length = front.count '\n' + 1 := by
    rw [lineOf_lineStarts, List.take_left]
  have hsame : ∀ f ∈ Found.sorted (forms.flatMap (·.found (front ++ rest))),
      decide (lineOf (lineStarts (front ++ rest)) f.offset = front.count '\n' + 1) =
        decide (f.offset = front.length) := by
    intro f hf
    obtain ⟨form, hform, hf⟩ := List.mem_flatMap.1 (mem_sortedBy.1 hf)
    obtain ⟨before, hbefore, hoffset, hbeforeStart⟩ := atLineStart_of_mem_found hform hf
    refine decide_eq_decide.2 ⟨fun heq => ?_, fun heq => by rw [heq, hline]⟩
    rw [← hoffset, lineOf_lineStarts, ← List.prefix_iff_eq_take.1 hbefore] at heq
    rw [← hoffset, eq_of_count_eq hbeforeStart hstart hbefore (List.prefix_append ..)
      (Nat.succ.inj heq)]
  rw [ofSource_eq, String.toList_ofList, List.filter_map]
  show ((Found.sorted _).filter fun f => decide (lineOf _ f.offset = front.count '\n' + 1)).map _ = _
  rw [List.filter_congr hsame, Found.filter_sorted, List.filter_flatMap]
  refine List.map_congr_left fun f hf => ?_
  obtain ⟨form, -, hf⟩ := List.mem_flatMap.1 hf
  rw [of_decide_eq_true (List.mem_filter.1 hf).2, hline]

/-- **The records of a line**, where no earlier statement was begun: each form is tried at the start of
the line. -/
theorem filter_ofSource_line (file : String) (hstart : AtLineStart front)
    (hfront : ¬ "export".toList <:+: front) :
    (ofSource file (String.ofList (front ++ rest))).filter (·.line = front.count '\n' + 1) =
      (forms.filterMap (·.clauseAt? front rest)).map (ofClause file (front.count '\n' + 1)) := by
  have hforms {some : List Form} (hsome : ∀ form ∈ some, form ∈ forms) :
      (some.flatMap fun form => (form.found (front ++ rest)).filter (·.offset = front.length)).map
          (fun f => ofClause file (front.count '\n' + 1) f.item) =
        (some.filterMap (·.clauseAt? front rest)).map (ofClause file (front.count '\n' + 1)) := by
    induction some with
    | nil => rfl
    | cons form some ih =>
      obtain ⟨hform, hsome⟩ := List.forall_mem_cons.1 hsome
      rw [List.flatMap_cons, filter_found hform (settled_of_no_export hform hstart hfront),
        List.map_append, ih hsome, List.filterMap_cons]
      cases form.clauseAt? front rest <;> rfl
  rw [filter_ofSource_start file rest hstart, hforms fun _ hform => hform]

end ExportRecord

end CodeSnapshot
