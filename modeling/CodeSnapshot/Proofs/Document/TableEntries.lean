import CodeSnapshot.Document.Metadata
import CodeSnapshot.Proofs.Document.Frames
import CodeSnapshot.Proofs.Document.LineCuts
import CodeSnapshot.Proofs.Path.NormalForm
import CodeSnapshot.Proofs.Sorted.LinkedSets
import CodeSnapshot.Proofs.Text.Splits

/-!
# Table entries — lines that are written and read again

An entry of a table is written as one line: the key, the mark of the table, and the members with
commas between them. Reading such a line cuts it at the first mark, and what is behind that at every
comma; blanks at the ends of the line, of the key and of the members are taken off.

* **`WritableName`**, **`WritableKey`** — the names that keep their place in a line. A file name may
  have blanks, equals signs and the marks of the tables in it; only the mark of its own table may not
  stand in a key.
* **`memberText`** — what is written behind a mark; `members_memberText` reads it.
* **`entryOf?_entryLine`** — a line gives its entry back.
* **`addLines_entryLines`** — the lines of a table give the table back.
* **`isSeparator_entryLine`**, **`texts_renderEntry`** — a line of a table is one line of a snapshot,
  and no frame begins with it.
-/

namespace CodeSnapshot

open Text

namespace Metadata

/-! ## Names that can be written -/

/-- A file name that keeps its place behind a mark. -/
structure WritableName (name : String) : Prop where
  ne_empty : name ≠ ""
  normalize_eq : Path.normalize name = name
  noComma : ',' ∉ name.toList
  oneLine : '\n' ∉ name.toList

structure WritableSymbol (symbol : String) : Prop where
  ne_empty : symbol ≠ ""
  trimmed : Text.trimmed symbol = symbol
  noColon : ':' ∉ symbol.toList
  oneLine : '\n' ∉ symbol.toList

/-- A key of a table: a symbol, or the name of a file in which the mark of the table does not
stand. -/
def WritableKey (table : Table) (key : String) : Prop :=
  match table with
  | .exportIndex => WritableSymbol key
  | table => WritableName key ∧ ¬ table.mark <:+: key.toList

instance (name : String) : Decidable (WritableName name) :=
  decidable_of_iff
    (name ≠ "" ∧ Path.normalize name = name ∧ ',' ∉ name.toList ∧ '\n' ∉ name.toList)
    ⟨fun ⟨hne, hnormal, hcomma, hline⟩ => ⟨hne, hnormal, hcomma, hline⟩,
      fun h => ⟨h.ne_empty, h.normalize_eq, h.noComma, h.oneLine⟩⟩

instance (symbol : String) : Decidable (WritableSymbol symbol) :=
  decidable_of_iff
    (symbol ≠ "" ∧ Text.trimmed symbol = symbol ∧ ':' ∉ symbol.toList ∧ '\n' ∉ symbol.toList)
    ⟨fun ⟨hne, htrim, hcolon, hline⟩ => ⟨hne, htrim, hcolon, hline⟩,
      fun h => ⟨h.ne_empty, h.trimmed, h.noColon, h.oneLine⟩⟩

instance (table : Table) (key : String) : Decidable (WritableKey table key) :=
  match table with
  | .exportIndex => inferInstanceAs (Decidable (WritableSymbol key))
  | .importGraph => inferInstanceAs
      (Decidable (WritableName key ∧ ¬ Table.importGraph.mark <:+: key.toList))
  | .whoImports => inferInstanceAs
      (Decidable (WritableName key ∧ ¬ Table.whoImports.mark <:+: key.toList))

theorem WritableName.isNormal {name : String} (h : WritableName name) :
    Path.IsNormal name.toList :=
  Path.isNormal_of_normalize_eq h.normalize_eq h.ne_empty

/-- What the reader of a line needs of a key, whichever table it is a key of. -/
structure ReadableKey (table : Table) (name : String) : Prop where
  ne_nil : name.toList ≠ []
  trim_eq : trim name.toList = name.toList
  key_eq : key table name.toList = name
  unmarked : ¬ table.mark <:+: name.toList
  oneLine : '\n' ∉ name.toList

theorem WritableKey.readable {table : Table} {name : String} (h : WritableKey table name) :
    ReadableKey table name := by
  have hnil (hne : name ≠ "") : name.toList ≠ [] :=
    fun heq => hne (String.toList_eq_nil_iff.1 heq)
  have hfile (hname : WritableName name) : String.ofList (Path.normalizeChars name.toList) = name :=
    hname.normalize_eq
  cases table with
  | exportIndex =>
    have htrim := congrArg String.toList h.trimmed
    rw [trimmed, String.toList_ofList] at htrim
    have hcolon : ¬ [':'] <:+: name.toList := by
      rintro ⟨front, back, heq⟩
      exact h.noColon (heq ▸ by simp)
    exact ⟨hnil h.ne_empty, htrim, String.ofList_toList, hcolon, h.oneLine⟩
  | importGraph | whoImports =>
    obtain ⟨hname, hmark⟩ := h
    exact ⟨hnil hname.ne_empty, hname.isNormal.trim, hfile hname, hmark, hname.oneLine⟩

/-! ## What stands behind a mark -/

/-- The members of an entry as they are written, with the blank before them. -/
def memberText (names : List String) : List Char :=
  ' ' :: (joined ", " names).toList

theorem memberText_singleton (name : String) : memberText [name] = ' ' :: name.toList := by
  rw [memberText, joined, String.intercalate_singleton]

theorem memberText_cons_cons (name next : String) (names : List String) :
    memberText (name :: next :: names) =
      ' ' :: name.toList ++ ',' :: memberText (next :: names) := by
  rw [memberText, joined, String.intercalate_cons_cons, String.toList_append,
    String.toList_append, List.append_assoc]
  rfl

variable {names : List String}

/-- One member after the other, from the last one on. -/
theorem memberText_induction {P : List String → List Char → Prop} (hne : names ≠ [])
    (h : ∀ name ∈ names, WritableName name)
    (hlast : ∀ name, WritableName name → P [name] (' ' :: name.toList))
    (hstep : ∀ name names text, WritableName name → P names text →
      P (name :: names) (' ' :: name.toList ++ ',' :: text)) : P names (memberText names) := by
  induction names with
  | nil => exact absurd rfl hne
  | cons name names ih =>
    obtain ⟨hname, hnames⟩ := List.forall_mem_cons.1 h
    cases names with
    | nil =>
      rw [memberText_singleton]
      exact hlast name hname
    | cons next names =>
      rw [memberText_cons_cons]
      exact hstep name _ _ hname (ih (List.cons_ne_nil _ _) hnames)

/-- The last member has no blank at its end. -/
theorem trimEnd_memberText (hne : names ≠ []) (h : ∀ name ∈ names, WritableName name) :
    trimEnd (memberText names) = memberText names := by
  refine memberText_induction (P := fun _ text => trimEnd text = text) hne h (fun name hname => ?_)
    fun name _ text _ ih => ?_
  · obtain ⟨init, c, htext, hc⟩ := hname.isNormal.exists_concat
    rw [htext]
    exact trimEnd_append (' ' :: init) hc []
  · rw [trimEnd_append _ (by decide), ih]

theorem splitAt_memberText (hne : names ≠ []) (h : ∀ name ∈ names, WritableName name) :
    splitAt ',' (memberText names) = names.map fun name => ' ' :: name.toList := by
  have hpiece {name : String} (hname : WritableName name) : ',' ∉ ' ' :: name.toList := by
    simp [hname.noComma]
  refine memberText_induction (P := fun names text =>
    splitAt ',' text = names.map fun name => ' ' :: name.toList) hne h (fun name hname => ?_)
    fun name names text hname ih => ?_
  · rw [splitAt_of_not_mem (hpiece hname)]
    rfl
  · rw [splitAt_append (hpiece hname), ih]
    rfl

theorem normalizeChars_cons_blank {c : Char} (hc : isBlank c = true) (cs : List Char) :
    Path.normalizeChars (c :: cs) = Path.normalizeChars cs := by
  rw [Path.normalizeChars, trim, trimStart_cons_of_blank cs hc]
  rfl

/-- **The members are read back.** Without any, a single empty piece is left, which counts for
none. -/
theorem members_memberText (h : ∀ name ∈ names, WritableName name) :
    ((((splitAt ',' (trimEnd (memberText names))).map Path.normalizeChars).filter
      (! ·.isEmpty)).map String.ofList) = names := by
  by_cases hne : names = []
  · subst hne
    decide
  · have hnormal : ∀ name ∈ names, Path.normalizeChars (' ' :: name.toList) = name.toList := by
      intro name hname
      have hchars := congrArg String.toList (h name hname).normalize_eq
      rw [Path.normalize, String.toList_ofList] at hchars
      rw [normalizeChars_cons_blank (by decide), hchars]
    have hkept : ∀ text ∈ names.map String.toList, (! text.isEmpty) = true := by
      intro text htext
      obtain ⟨name, hname, rfl⟩ := List.mem_map.1 htext
      have := (h name hname).isNormal.ne_nil
      simp [this]
    have hpieces : (names.map fun name => ' ' :: name.toList).map Path.normalizeChars =
        names.map String.toList := by
      rw [List.map_map]
      refine List.map_congr_left fun name hname => ?_
      rw [Function.comp_apply, hnormal name hname]
    have hback : (names.map String.toList).map String.ofList = names := by
      simp [List.map_map, Function.comp_def]
    rw [trimEnd_memberText hne h, splitAt_memberText hne h, hpieces, List.filter_eq_self.2 hkept,
      hback]

theorem not_mem_memberText (h : ∀ name ∈ names, WritableName name) : '\n' ∉ memberText names := by
  by_cases hne : names = []
  · subst hne
    decide
  · have hpiece {name : String} (hname : WritableName name) : '\n' ∉ ' ' :: name.toList := by
      simp [hname.oneLine]
    refine memberText_induction (P := fun _ text => '\n' ∉ text) hne h (fun _ => hpiece)
      fun name _ text hname ih => ?_
    rw [List.mem_append, not_or]
    exact ⟨hpiece hname, List.not_mem_cons_of_ne_of_not_mem (by decide) ih⟩

/-! ## Whole lines -/

/-- An entry as a line. -/
def entryLine (table : Table) (e : String × StringSet) : String :=
  e.1 ++ table.spacedMark ++ joined ", " e.2.toList

/-- The blank between a key and the mark. -/
def lead : Table → List Char
  | .exportIndex => []
  | _ => [' ']

theorem toList_entryLine (table : Table) (e : String × StringSet) :
    (entryLine table e).toList =
      e.1.toList ++ (lead table ++ (table.mark ++ memberText e.2.toList)) := by
  have hmark : table.spacedMark.toList = lead table ++ (table.mark ++ [' ']) := by
    cases table <;> decide
  rw [entryLine, String.toList_append, String.toList_append, hmark, memberText]
  simp only [List.append_assoc, List.singleton_append]

variable {table : Table} {e : String × StringSet}

theorem trimEnd_mark (table : Table) (front text : List Char) :
    trimEnd (front ++ (lead table ++ (table.mark ++ text))) =
      front ++ (lead table ++ (table.mark ++ trimEnd text)) := by
  have harrow {d c : Char} (hc : isBlank c = false) :
      trimEnd (front ++ ' ' :: d :: c :: text) = front ++ ' ' :: d :: c :: trimEnd text := by
    have h := trimEnd_append (front ++ [' ', d]) hc text
    rwa [List.append_assoc, List.append_assoc] at h
  cases table with
  | importGraph | whoImports => exact harrow (by decide)
  | exportIndex => exact trimEnd_append front (c := ':') (by decide) text

/-- Only at its end can there be a blank to take off: when there are no members. -/
theorem trim_entryLine (hkey : ReadableKey table e.1) :
    trim (entryLine table e).toList =
      e.1.toList ++ lead table ++ (table.mark ++ trimEnd (memberText e.2.toList)) := by
  have hmark := trimEnd_mark table [] (memberText e.2.toList)
  rw [List.nil_append, List.nil_append] at hmark
  rw [toList_entryLine, trim_append hkey.trim_eq hkey.ne_nil, hmark, List.append_assoc]

/-- The first mark of the line is the one behind the key: the blank between them keeps the last
character of the key and the first one of the mark apart. -/
theorem unmarked_lead (hkey : ReadableKey table e.1) :
    ¬ table.mark <:+: e.1.toList ++ lead table ++ table.mark.dropLast := by
  -- an arrow that is not in the key would have to end in the blank, or in its own first character
  have harrow {a b d : Char} (hb : b ≠ ' ') (hd : b ≠ d) (h : ¬ [a, b] <:+: e.1.toList) :
      ¬ [a, b] <:+: e.1.toList ++ [' '] ++ [d] := by
    have hend {last : Char} (hlast : b ≠ last) (text : List Char) :
        ¬ [a, b] <:+ text ++ [last] := by
      rintro ⟨front, heq⟩
      have := congrArg List.getLast? heq
      simp [hlast] at this
    rw [List.infix_concat_iff, List.infix_concat_iff]
    rintro (hin | hin | hin)
    · exact hend hd _ hin
    · exact hend hb _ hin
    · exact h hin
  have hmark := hkey.unmarked
  cases table with
  | importGraph => exact harrow (by decide) (by decide) hmark
  | exportIndex =>
    show ¬ [':'] <:+: e.1.toList ++ [] ++ []
    rwa [List.append_nil, List.append_nil]
  | whoImports => exact harrow (by decide) (by decide) hmark

/-- **A line gives its entry back.** -/
theorem entryOf?_entryLine (hkey : ReadableKey table e.1)
    (hmembers : ∀ name ∈ e.2.toList, WritableName name) :
    entryOf? table (entryLine table e) = some (e.1, e.2.toList) := by
  have hcut : cutAt? table.mark (trim (entryLine table e).toList) =
      some (e.1.toList ++ lead table, trimEnd (memberText e.2.toList)) := by
    rw [trim_entryLine hkey]
    exact cutAt?_append (unmarked_lead hkey) _
  have hfront : trim (e.1.toList ++ lead table) = e.1.toList := by
    have hlead : trimEnd (lead table) = [] := by cases table <;> decide
    rw [trim_append hkey.trim_eq hkey.ne_nil, hlead, List.append_nil]
  have hnonempty : e.1.toList.isEmpty = false := List.isEmpty_eq_false_iff.2 hkey.ne_nil
  rw [entryOf?, hcut]
  simp only [hfront, hnonempty, members_memberText hmembers, hkey.key_eq]
  rfl

/-- **The lines of a table give the table back** when it has been empty. -/
theorem addLines_entryLines {m : Metadata} {filled : StringMap StringSet}
    (hempty : m.get table = .empty)
    (h : ∀ e ∈ filled.entries,
      ReadableKey table e.1 ∧ ∀ name ∈ e.2.toList, WritableName name) :
    m.addLines table (filled.entries.map (entryLine table)) = m.set table filled := by
  rw [addLines, hempty, List.foldl_map]
  refine congrArg (m.set table) (.trans ?_ (StringMap.foldl_linkAll_entries filled))
  -- line by line, whatever has been read before
  refine List.foldl_ext _ _ _ fun acc e he => ?_
  obtain ⟨hkey, hmembers⟩ := h e he
  rw [entryOf?_entryLine hkey hmembers]

/-! ## Lines of a snapshot -/

/-- The mark is not made of equals signs. -/
theorem isSeparator_entryLine (table : Table) (e : String × StringSet) :
    Title.isSeparator (entryLine table e) = false := by
  obtain ⟨c, hc, hne⟩ : ∃ c ∈ table.mark, c ≠ '=' := by
    cases table with
    | importGraph | whoImports => exact ⟨'-', by decide, by decide⟩
    | exportIndex => exact ⟨':', by decide, by decide⟩
  have hin : c ∈ trimEnd (entryLine table e).toList := by
    rw [toList_entryLine, trimEnd_mark]
    simp [hc]
  rw [Title.isSeparator, Bool.and_eq_false_iff]
  exact .inr (List.all_eq_false.2 ⟨c, hin, by simpa using hne⟩)

theorem texts_renderEntry (hkey : ReadableKey table e.1)
    (hmembers : ∀ name ∈ e.2.toList, WritableName name) :
    (Lines.ofText (renderEntry table e)).texts = [entryLine table e] := by
  have hline : '\n' ∉ (entryLine table e).toList := by
    have hmark : '\n' ∉ lead table ∧ '\n' ∉ table.mark := by cases table <;> decide
    rw [toList_entryLine]
    simp only [List.mem_append, not_or]
    exact ⟨hkey.oneLine, hmark.1, hmark.2, not_mem_memberText hmembers⟩
  -- the line ends with the last member, or else with the blank behind the mark
  have hlast : ∃ init c, memberText e.2.toList = init ++ [c] ∧ c ≠ '\r' := by
    by_cases hne : e.2.toList = []
    · rw [hne]
      exact ⟨[], ' ', rfl, by decide⟩
    · obtain hnil | ⟨init, c, hconcat, hc⟩ := eq_nil_or_concat_of_trimEnd (memberText e.2.toList)
      · rw [trimEnd_memberText hne hmembers] at hnil
        cases hnil
      · rw [trimEnd_memberText hne hmembers] at hconcat
        refine ⟨init, c, hconcat, ?_⟩
        rintro rfl
        cases hc
  obtain ⟨init, c, hconcat, hc⟩ := hlast
  have hreturn : (entryLine table e).toList.getLast? ≠ some '\r' := by
    rw [toList_entryLine, hconcat, ← List.append_assoc, ← List.append_assoc, ← List.append_assoc,
      List.getLast?_concat]
    simpa using hc
  exact Lines.texts_line hline hreturn

end Metadata

end CodeSnapshot
