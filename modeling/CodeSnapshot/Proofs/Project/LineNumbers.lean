import CodeSnapshot.Document.Lines
import CodeSnapshot.Project.Import
import CodeSnapshot.Proofs.Document.LineCuts
import CodeSnapshot.Proofs.Project.StatementLines

/-!
# Line numbers — the lines of imports and exports

What the patterns find in a source file is put in the order of positions, and each position is told the
number of its line: how many lines start there or before. Where the text is kept as bytes, the number
comes from a search among the bytes at which lines start, which may hit one of them or fall between two.

* **`Sought`** — what a search in an ascending list may answer; `line_of_answers` counts by it.
* **`line_of_byte`** — the line of a byte offset, wherever the offset lies; `line_of_front` is the same
  line by characters.
* **`Found.InOrder`** — in order of positions, and within one position in the order of the patterns.
* **`Numbered`** — records of what was found, each with the number of its line; `numbered_recordsOf`
  has them for whatever is found.
* **`lines_numbered`** — the headline: the lines by a search among bytes, and those of imports and
  exports.
-/

namespace CodeSnapshot

open Pattern Statement

namespace Statement

/-! ## Searching in an ascending list -/

/-- What a search comes to: the index of what was sought, or the index where it could be put in. -/
inductive Sought where
  | hit (index : Nat)
  | gap (index : Nat)
  deriving Repr, DecidableEq

/-- What a search in an ascending list may answer. -/
def Sought.Answers (xs : List Nat) (x : Nat) : Sought → Prop
  | hit i => ∃ front back, xs = front ++ x :: back ∧ front.length = i
  | gap i => ∃ front back, xs = front ++ back ∧ front.length = i ∧
      (∀ y ∈ front, y < x) ∧ ∀ y ∈ back, x < y

/-- The number of a line, counted from one, by a search among the starts of the lines. -/
def Sought.line : Sought → Nat
  | hit i => i + 1
  | gap i => i

section

variable {xs front back : List Nat} {x : Nat} {answer : Sought}

theorem lineOf_append (hfront : ∀ y ∈ front, y ≤ x) (hback : ∀ y ∈ back, x < y) :
    lineOf (front ++ back) x = front.length := by
  rw [lineOf, List.takeWhile_append_of_pos fun y hy => decide_eq_true (hfront y hy)]
  cases back with
  | nil => rw [List.takeWhile_nil, List.append_nil]
  | cons y back =>
    have hy : x < y := hback y (List.mem_cons_self ..)
    rw [List.takeWhile_cons_of_neg (by simpa using hy), List.append_nil]

/-- **Whatever a search answers**, it counts what is not greater than what was sought. -/
theorem line_of_answers (hxs : xs.Pairwise (· < ·)) (h : answer.Answers xs x) :
    answer.line = lineOf xs x := by
  cases answer with
  | gap i =>
    obtain ⟨front, back, rfl, rfl, hfront, hback⟩ := h
    exact (lineOf_append (fun y hy => Nat.le_of_lt (hfront y hy)) hback).symm
  | hit i =>
    obtain ⟨front, back, rfl, rfl⟩ := h
    obtain ⟨-, hback, hfront⟩ := List.pairwise_append.1 hxs
    have hthrough : ∀ y ∈ front ++ [x], y ≤ x := by
      intro y hy
      rcases List.mem_append.1 hy with hy | hy
      · exact Nat.le_of_lt (hfront y hy x (List.mem_cons_self ..))
      · exact Nat.le_of_eq (List.mem_singleton.1 hy)
    have hcount := lineOf_append hthrough (List.pairwise_cons.1 hback).1
    rw [← List.append_cons, List.length_append] at hcount
    exact hcount.symm

/-- A search has an answer. -/
theorem exists_answers (hxs : xs.Pairwise (· < ·)) (x : Nat) :
    ∃ answer : Sought, answer.Answers xs x := by
  by_cases hmem : x ∈ xs
  · obtain ⟨front, back, hsplit⟩ := List.append_of_mem hmem
    exact ⟨.hit front.length, front, back, hsplit, rfl⟩
  · suffices h : ∃ front back, xs = front ++ back ∧ (∀ y ∈ front, y < x) ∧ ∀ y ∈ back, x < y by
      obtain ⟨front, back, hsplit, hfront, hback⟩ := h
      exact ⟨.gap front.length, front, back, hsplit, rfl, hfront, hback⟩
    induction xs with
    | nil => exact ⟨[], [], rfl, nofun, nofun⟩
    | cons y xs ih =>
      obtain ⟨hy, hxs⟩ := List.pairwise_cons.1 hxs
      obtain ⟨hne, hmem⟩ := not_or.1 (mt List.mem_cons.2 hmem)
      rcases Nat.lt_or_gt_of_ne hne with hlt | hgt
      · exact ⟨[], y :: xs, rfl, nofun, List.forall_mem_cons.2 ⟨hlt, fun z hz => hlt.trans (hy z hz)⟩⟩
      · obtain ⟨front, back, rfl, hfront, hback⟩ := ih hxs hmem
        exact ⟨y :: front, back, rfl, List.forall_mem_cons.2 ⟨hgt, hfront⟩, hback⟩

end

/-! ## Starts of lines among bytes -/

theorem ascending_startsBehind {α : Type} [BEq α] (mark : α) (text : List α) :
    (startsBehind mark text).Pairwise (· < ·) := by
  have hindices : (text.zipIdx.map Prod.snd).Pairwise (· < ·) := by
    rw [List.zipIdx_map_snd]
    exact List.pairwise_lt_range' 1
  have hmarks : ((text.zipIdx.filter (·.1 == mark)).map Prod.snd).Pairwise (· < ·) :=
    hindices.sublist (List.filter_sublist.map Prod.snd)
  refine List.pairwise_cons.2 ⟨fun y hy => ?_, ?_⟩
  · obtain ⟨place, -, rfl⟩ := List.mem_map.1 hy
    exact Nat.succ_pos _
  · rw [show (fun place : α × Nat => place.2 + 1) = (· + 1) ∘ Prod.snd from rfl, ← List.map_map]
    exact hmarks.map (· + 1) fun _ _ hlt => Nat.succ_lt_succ hlt

/-- The bytes of a text in UTF-8. -/
def bytes (text : List Char) : List UInt8 :=
  text.flatMap String.utf8EncodeChar

/-- A line feed is one byte. -/
def newlineByte : UInt8 := 10

/-- **The byte of a line feed** belongs to no other character. -/
theorem count_utf8EncodeChar (c : Char) :
    (String.utf8EncodeChar c).count newlineByte = if c = '\n' then 1 else 0 := by
  have hbyte {n : Nat} (hn : n < 256) (hne : n ≠ 10) : (UInt8.ofNat n == newlineByte) = false := by
    refine beq_false_of_ne fun heq => hne ?_
    have hnat := congrArg UInt8.toNat heq
    rwa [UInt8.toNat_ofNat', Nat.mod_eq_of_lt hn] at hnat
  have hchar : c = '\n' ↔ c.val.toNat = 10 :=
    ⟨fun h => h ▸ rfl, fun h => Char.ext (UInt32.toNat_inj.1 h)⟩
  have hlast (n : Nat) : (UInt8.ofNat (n % 64 + 128) == newlineByte) = false :=
    hbyte (by omega) (by omega)
  rw [String.utf8EncodeChar]
  split
  · rename_i hsmall
    rw [List.count_singleton]
    by_cases hfeed : c = '\n'
    · rw [hfeed]; rfl
    · rw [if_neg hfeed, hbyte (by omega) (mt hchar.2 hfeed)]
      rfl
  · rename_i hlarge
    have hfeed : c ≠ '\n' := fun h => by have := hchar.1 h; omega
    rw [if_neg hfeed]
    split
    · simp only [List.count_cons, List.count_nil, hlast]
      rw [hbyte (by omega) (by omega)]
      rfl
    · split
      · simp only [List.count_cons, List.count_nil, hlast]
        rw [hbyte (by omega) (by omega)]
        rfl
      · simp only [List.count_cons, List.count_nil, hlast]
        rw [hbyte (by omega) (by omega)]
        rfl

theorem count_bytes (text : List Char) : (bytes text).count newlineByte = text.count '\n' := by
  induction text with
  | nil => rfl
  | cons c text ih =>
    have hcons : bytes (c :: text) = String.utf8EncodeChar c ++ bytes text := rfl
    rw [hcons, List.count_append, count_utf8EncodeChar, ih, List.count_cons, Nat.add_comm]
    by_cases hc : c = '\n' <;> simp [hc]

section

variable {front rest text : List Char} {offset : Nat} {answer : Sought}

/-- **The line of a byte offset**, which may lie within a character: one more than there are line feeds
before it. -/
theorem line_of_byte (h : answer.Answers (startsBehind newlineByte (bytes text)) offset) :
    answer.line = ((bytes text).take offset).count newlineByte + 1 := by
  rw [line_of_answers (ascending_startsBehind ..) h, lineOf_startsBehind]

/-- The line of a place between two characters is the same by bytes and by characters. -/
theorem line_of_front
    (h : answer.Answers (startsBehind newlineByte (bytes (front ++ rest))) (bytes front).length) :
    answer.line = lineOf (lineStarts (front ++ rest)) front.length := by
  have happend : bytes (front ++ rest) = bytes front ++ bytes rest := List.flatMap_append
  rw [line_of_byte h, happend, List.take_left, count_bytes, lineOf_lineStarts, List.take_left]

end

theorem length_lineStarts (text : List Char) : (lineStarts text).length = text.count '\n' + 1 := by
  have hmarks : text.zipIdx.countP (·.1 == '\n') = text.count '\n' := by
    rw [show (fun place : Char × Nat => place.1 == '\n') = (· == '\n') ∘ Prod.fst from rfl,
      ← List.countP_map, List.zipIdx_map_fst]
    rfl
  rw [lineStarts, List.length_cons, List.length_map, ← List.countP_eq_length_filter, hmarks]

/-- No position in a text is behind its last line. -/
theorem count_take_lt_size {text : String} {offset : Nat} (h : offset < text.toList.length) :
    (text.toList.take offset).count '\n' < (Lines.ofText text).size := by
  rw [Lines.size, Lines.ofText, Lines.length_place]
  revert h
  induction text.toList generalizing offset with
  | nil => exact fun h => absurd h (Nat.not_lt_zero offset)
  | cons c cs ih =>
    intro h
    cases offset with
    | zero => exact List.length_pos_iff.2 (Lines.cut_ne_nil (List.cons_ne_nil c cs))
    | succ offset =>
      have hcount := ih (Nat.lt_of_succ_lt_succ h)
      rw [List.take_succ_cons]
      by_cases hc : c = '\n'
      · rw [hc, Lines.cut_cons_newline, List.count_cons_self, List.length_cons]
        exact Nat.succ_lt_succ hcount
      · rw [Lines.cut_cons_of_ne hc, List.count_cons_of_ne hc]
        cases hcut : Lines.cut cs with
        | nil => exact absurd (hcut ▸ hcount) (Nat.not_lt_zero _)
        | cons piece pieces => rwa [hcut] at hcount

end Statement

/-! ## What was found, in order -/

section

variable {α β : Type}

/-- What patterns found that were tried one after the other: all of it in the order of positions, and
what was found at one position in the order in which the patterns were tried. -/
structure Found.InOrder (tried : List (List (Found α))) (found : List (Found α)) : Prop where
  perm : found.Perm tried.flatten
  ascending : found.Pairwise (·.offset ≤ ·.offset)
  ties : ∀ offset,
    found.filter (·.offset = offset) = tried.flatMap fun some => some.filter (·.offset = offset)

theorem Found.inOrder_sorted (tried : List (List (Found α))) : InOrder tried (sorted tried.flatten) where
  perm := perm_sortedBy ..
  ascending := by
    have hsorted := pairwise_sortedBy (fun x y : Found α => decide (x.offset ≤ y.offset))
      (fun x y => by simpa using Nat.le_total x.offset y.offset)
      (fun x y z => by simpa using Nat.le_trans) tried.flatten
    exact hsorted.imp fun h => of_decide_eq_true h
  ties offset := by
    rw [filter_sorted, List.filter_flatten, List.flatMap_def]

/-- The records of what patterns found in a text, by position, each with the number of its line. -/
def recordsOf (text : List Char) (record : Nat → α → β) (tried : List (List (Found α))) : List β :=
  (Found.sorted tried.flatten).map fun f =>
    record (lineOf (lineStarts text) f.offset) f.item

/-- Records of what patterns found in a text: in order, each with the number of its line, which is one
more than there are line feeds before it. -/
structure Numbered (text : List Char) (lines : Nat) (tried : List (List (Found α)))
    (record : Nat → α → β) (line : β → Nat) (records : List β) : Prop where
  recorded : ∃ found, Found.InOrder tried found ∧
    records = found.map fun f => record ((text.take f.offset).count '\n' + 1) f.item
  ascending : (records.map line).Pairwise (· ≤ ·)
  within : ∀ r ∈ records, 1 ≤ line r ∧ line r ≤ lines

variable {text : List Char} {tried : List (List (Found α))} {record : Nat → α → β} {line : β → Nat}
  {lines : Nat}

/-- **Whatever the patterns find**, the records of it are numbered. -/
theorem numbered_recordsOf (hline : ∀ n item, line (record n item) = n)
    (hlines : ∀ f ∈ tried.flatten, (text.take f.offset).count '\n' < lines) :
    Numbered text lines tried record line (recordsOf text record tried) := by
  have hinOrder := Found.inOrder_sorted tried
  simp only [recordsOf, lineOf_lineStarts]
  refine ⟨⟨_, hinOrder, rfl⟩, ?_, fun r hr => ?_⟩
  · rw [List.map_map, List.pairwise_map]
    refine hinOrder.ascending.imp fun {first second} hle => ?_
    rw [Function.comp_apply, Function.comp_apply, hline, hline]
    exact Nat.succ_le_succ ((List.take_prefix_take_left hle).sublist.count_le _)
  · obtain ⟨f, hf, rfl⟩ := List.mem_map.1 hr
    rw [hline]
    exact ⟨Nat.succ_pos _, hlines f (hinOrder.perm.mem_iff.1 hf)⟩

/-- No position is behind the last place where a line starts. -/
theorem numbered_recordsOf_of_any (hline : ∀ n item, line (record n item) = n) :
    Numbered text (lineStarts text).length tried record line (recordsOf text record tried) := by
  refine numbered_recordsOf hline fun f _ => ?_
  rw [length_lineStarts]
  exact Nat.lt_succ_of_le ((List.take_sublist ..).count_le _)

end

/-! ## Imports and exports -/

/-- A match of a pattern that consumes characters begins before the end of the text. -/
theorem start_lt_of_mem_matchesIn {p : Pattern} {text : List Char} {m : Match}
    (hp : p.consumes = true) (hm : m ∈ p.matchesIn text) : m.whole.start < text.length := by
  obtain ⟨front, piece, rest, rfl, hwhole, htakes⟩ := exists_takes_of_mem_matchesIn hm
  have hpos := List.length_pos_iff.2 (ne_nil_of_consumes hp htakes)
  rw [hwhole, List.length_append, List.length_append]
  show front.length < _
  omega

namespace ImportEdge

/-- What a form finds in a text. -/
def Form.found (form : Form) (text : List Char) : List (Found Clause) :=
  (form.pattern.matchesIn text).map fun m => ⟨m.whole.start, form.clause m⟩

def ofClause (file : String) (line : Nat) (c : Clause) : ImportEdge :=
  { source := file, specifier := c.specifier, symbols := c.symbols, isDefault := c.isDefault
    isType := c.isType, line }

theorem ofSource_eq (file content : String) :
    ofSource file content =
      recordsOf content.toList (ofClause file) (forms.map (·.found content.toList)) := rfl

theorem consumes_of_mem_forms : ∀ form ∈ forms, form.pattern.consumes = true := by decide

/-- **The imports of a file** are numbered. -/
theorem numbered_ofSource (file content : String) :
    Numbered content.toList (Lines.ofText content).size (forms.map (·.found content.toList))
      (ofClause file) (·.line) (ofSource file content) := by
  rw [ofSource_eq]
  refine numbered_recordsOf (fun _ _ => rfl) fun f hf => ?_
  obtain ⟨found, hfound, hf⟩ := List.mem_flatten.1 hf
  obtain ⟨form, hform, rfl⟩ := List.mem_map.1 hfound
  obtain ⟨m, hm, rfl⟩ := List.mem_map.1 hf
  exact count_take_lt_size (start_lt_of_mem_matchesIn (consumes_of_mem_forms form hform) hm)

end ImportEdge

namespace ExportRecord

theorem ofSource_eq_recordsOf (file content : String) :
    ofSource file content =
      recordsOf content.toList (ofClause file) (forms.map (·.found content.toList)) := by
  rw [ofSource_eq, List.flatMap_def]
  rfl

/-- **The exports of a file** are numbered. -/
theorem numbered_ofSource (file content : String) :
    Numbered content.toList (Lines.ofText content).size (forms.map (·.found content.toList))
      (ofClause file) (·.line) (ofSource file content) := by
  rw [ofSource_eq_recordsOf]
  refine numbered_recordsOf (fun _ _ => rfl) fun f hf => ?_
  obtain ⟨found, hfound, hf⟩ := List.mem_flatten.1 hf
  obtain ⟨form, hform, rfl⟩ := List.mem_map.1 hfound
  obtain ⟨m, hm, hclause⟩ := List.mem_filterMap.1 hf
  obtain ⟨c, -, rfl⟩ := Option.map_eq_some_iff.1 hclause
  exact count_take_lt_size (start_lt_of_mem_matchesIn (consumes_of_mem_forms form hform) hm)

end ExportRecord

/-- **The lines of imports and exports.** A search for the line of a byte offset has an answer, and any
answer it may have comes to one more than there are line feeds before the offset; between two characters
that is the line by which imports and exports are numbered. So, whatever the patterns find, the records
are in the order of lines, no line is missing in the text, and what was found at one position keeps the
order in which the patterns are tried. -/
theorem lines_numbered (file content : String) :
    (∀ offset : Nat,
      (∃ answer : Sought, answer.Answers (startsBehind newlineByte (bytes content.toList)) offset) ∧
      ∀ answer : Sought, answer.Answers (startsBehind newlineByte (bytes content.toList)) offset →
        answer.line = ((bytes content.toList).take offset).count newlineByte + 1 ∧
        ∀ front rest, content.toList = front ++ rest → (bytes front).length = offset →
          answer.line = lineOf (lineStarts content.toList) front.length) ∧
    (∀ tried, Numbered content.toList (lineStarts content.toList).length tried
      (ImportEdge.ofClause file) (·.line)
      (recordsOf content.toList (ImportEdge.ofClause file) tried)) ∧
    (∀ tried, Numbered content.toList (lineStarts content.toList).length tried
      (ExportRecord.ofClause file) (·.line)
      (recordsOf content.toList (ExportRecord.ofClause file) tried)) ∧
    Numbered content.toList (Lines.ofText content).size
      (ImportEdge.forms.map (·.found content.toList)) (ImportEdge.ofClause file) (·.line)
      (ImportEdge.ofSource file content) ∧
    Numbered content.toList (Lines.ofText content).size
      (ExportRecord.forms.map (·.found content.toList)) (ExportRecord.ofClause file) (·.line)
      (ExportRecord.ofSource file content) := by
  refine ⟨fun offset => ⟨?_, fun answer hanswer => ⟨line_of_byte hanswer, ?_⟩⟩,
    fun _ => numbered_recordsOf_of_any fun _ _ => rfl,
    fun _ => numbered_recordsOf_of_any fun _ _ => rfl,
    ImportEdge.numbered_ofSource file content, ExportRecord.numbered_ofSource file content⟩
  · exact exists_answers (ascending_startsBehind ..) offset
  · rintro front rest htext rfl
    rw [htext] at hanswer ⊢
    exact line_of_front hanswer

/-- A character of two bytes before a line feed, and two forms that find something at one position. -/
theorem lines_numbered_of_shared_place :
    let content := "é\nexport default function$x() \x7b\x7d\n"
    (Sought.hit 1).Answers (startsBehind newlineByte (bytes content.toList)) 3 ∧
      (Sought.hit 1).line = 2 ∧
      (ExportRecord.ofSource "a.ts" content).map (fun r => (r.kind, r.line)) =
        [(.function, 2), (.default, 2)] ∧
      Numbered content.toList (Lines.ofText content).size
        (ExportRecord.forms.map (·.found content.toList)) (ExportRecord.ofClause "a.ts") (·.line)
        (ExportRecord.ofSource "a.ts" content) := by
  intro content
  obtain ⟨hbytes, -, -, -, hexports⟩ := lines_numbered "a.ts" content
  have hanswer : (Sought.hit 1).Answers (startsBehind newlineByte (bytes content.toList)) 3 :=
    ⟨[0], [34], by decide +kernel, rfl⟩
  exact ⟨hanswer, ((hbytes 3).2 _ hanswer).1.trans (by decide +kernel),
    by decide +kernel, hexports⟩

end CodeSnapshot
