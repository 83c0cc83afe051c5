import CodeSnapshot.Project.Export
import CodeSnapshot.Proofs.Document.TableEntries
import CodeSnapshot.Proofs.Pattern.GroupTexts
import CodeSnapshot.Proofs.Sorted.SortedLists
import CodeSnapshot.Proofs.Unicode.WordBlanks

/-!
# Exported symbols — what a file can export

An export is found by a pattern, and its symbol is what a group of the pattern holds, or the word
`default`. The group stands for a name, so that a symbol has no blanks and no punctuation in it, and
is a key that a table can be written with.

* **`IsName`** — a word of name characters; `IsName.writable` is what tables need of it.
* **`isName_textOf`** — a group that stands for a name holds one, if it takes part.
* **`names_of_mem_forms`** — each form of an export declaration gives a name.
* **`isName_of_mem_ofSource`** — the headline: all symbols of a file are names.
-/

namespace CodeSnapshot

open Pattern Statement

/-! ## Names -/

/-- A name: at least one character, and none but those of names. -/
structure IsName (symbol : String) : Prop where
  ne_nil : symbol.toList ≠ []
  nameChar : ∀ c ∈ symbol.toList, nameChar.contains c = true

theorem not_isBlank_of_nameChar {c : Char} (h : nameChar.contains c = true) :
    Text.isBlank c = false := by
  refine Bool.eq_false_iff.2 fun hblank => ?_
  have hword : CharClass.word.contains c = false := CharClass.contains_word_of_isBlank hblank
  have hdollar : (CharClass.single '$').contains c = false := by
    rw [CharClass.contains_single]
    refine beq_false_of_ne ?_
    rintro rfl
    cases hblank
  have hneither : nameChar.contains c = (CharClass.word.contains c ||
      (CharClass.single '$').contains c) := rfl
  rw [hneither, hword, hdollar] at h
  cases h

theorem IsName.writable {symbol : String} (h : IsName symbol) : Metadata.WritableSymbol symbol where
  ne_empty := fun hempty => h.ne_nil (String.toList_eq_nil_iff.2 hempty)
  trimmed := by
    have hblank {c : Char} (hc : c ∈ symbol.toList) : Text.isBlank c = false :=
      not_isBlank_of_nameChar (h.nameChar c hc)
    have htrim : Text.trim symbol.toList = symbol.toList :=
      Text.stripped_eq_self_iff.2 ⟨fun _ hc => hblank (List.mem_of_mem_head? hc),
        fun _ hc => hblank (List.mem_of_getLast? hc)⟩
    rw [Text.trimmed, htrim, String.ofList_toList]
  noColon := fun hmem => absurd (h.nameChar ':' hmem) (by decide)
  oneLine := fun hmem => absurd (h.nameChar '\n' hmem) (by decide)

theorem isName_default : IsName ExportRecord.defaultName where
  ne_nil := by decide
  nameChar := by
    have hall : ExportRecord.defaultName.toList.all nameChar.contains = true := by decide
    exact List.all_eq_true.1 hall

/-! ## Groups that stand for names -/

/-- **A group that stands for a name holds one.** -/
theorem isName_textOf {p : Pattern} {m : Match} {text : List Char} {number : Nat}
    (h : m ∈ p.matchesIn text)
    (hparts : ∀ part ∈ p.parts, part.1 = number → part.2 = Statement.name)
    (hhas : has m number = true) : IsName (textOf m number) := by
  obtain ⟨held, hheld⟩ := Option.isSome_iff_exists.1 hhas
  obtain ⟨hne, hclass⟩ := groupText?_of_runs h hparts hheld
  have htext : (textOf m number).toList = held := by
    rw [textOf, hheld, String.toList_ofList]
    rfl
  exact ⟨htext ▸ hne, htext ▸ hclass⟩

namespace ExportRecord

/-! ## The forms of declarations -/

/-- A form whose matches give names. -/
def Form.Names (form : Form) : Prop :=
  ∀ text, ∀ m ∈ form.pattern.matchesIn text, ∀ behind clause,
    form.clause m behind = some clause → IsName clause.symbol

section

variable {form : Form} {number : Nat}

/-- A declaration that has a name. -/
theorem Form.names_of_group
    (hparts : ∀ part ∈ form.pattern.parts, part.1 = number → part.2 = Statement.name)
    (hgroup : form.pattern.hasAlways number = true)
    (hsymbol : ∀ m behind clause, form.clause m behind = some clause →
      clause.symbol = textOf m number) : form.Names := by
  intro text m hm behind clause hclause
  rw [hsymbol m behind clause hclause]
  exact isName_textOf hm hparts (isSome_groupText?_of_hasAlways hm hgroup)

/-- A declaration that may have no name. -/
theorem Form.names_of_named
    (hparts : ∀ part ∈ form.pattern.parts, part.1 = number → part.2 = Statement.name)
    (hnamed : ∀ m behind clause, form.clause m behind = some clause →
      ∃ kind signature, clause = named m number kind signature) : form.Names := by
  intro text m hm behind clause hclause
  obtain ⟨kind, signature, rfl⟩ := hnamed m behind clause hclause
  rw [named]
  split
  · rename_i hhas
    exact isName_textOf hm hparts hhas
  · exact isName_default

end

/-- **Each form gives names.** -/
theorem names_of_mem_forms : ∀ form ∈ forms, form.Names := by
  have hsecond {form : Form} {mark : Pattern}
      (hform : form.pattern.parts = [(1, mark), (2, Statement.name)]) :
      ∀ part ∈ form.pattern.parts, part.1 = 2 → part.2 = Statement.name := by
    rw [hform]
    simp
  have honly {form : Form} (hform : form.pattern.parts = [(1, Statement.name)]) :
      ∀ part ∈ form.pattern.parts, part.1 = 1 → part.2 = Statement.name := by
    rw [hform]
    simp
  simp only [forms, List.forall_mem_cons]
  refine ⟨?function, ?classType, ?value, ?typeName, ?interface, ?enum, ?anonymous, nofun⟩
  case function | classType =>
    refine Form.names_of_named (hsecond rfl) fun m behind clause hclause => ?_
    cases hclause
    exact ⟨_, _, rfl⟩
  case typeName | interface | enum =>
    refine Form.names_of_group (honly rfl) rfl fun m behind clause hclause => ?_
    cases hclause
    rfl
  case value =>
    refine Form.names_of_group (honly rfl) rfl fun m behind clause hclause => ?_
    obtain ⟨-, hsome⟩ := Option.ite_none_left_eq_some.1 hclause
    cases hsome
    rfl
  case anonymous =>
    -- the group holds what follows the word, and does not name what is exported
    intro text m _ behind clause hclause
    obtain ⟨-, hsome⟩ := Option.ite_none_left_eq_some.1 hclause
    cases hsome
    exact isName_default

end ExportRecord

/-- **All symbols that a file exports are names.** -/
theorem ExportRecord.isName_of_mem_ofSource {file content : String} {r : ExportRecord}
    (h : r ∈ ofSource file content) : IsName r.symbol := by
  obtain ⟨f, hf, rfl⟩ := List.mem_map.1 h
  obtain ⟨form, hform, hin⟩ := List.mem_flatMap.1 (mem_sortedBy.1 hf)
  obtain ⟨m, hm, hfound⟩ := List.mem_filterMap.1 hin
  obtain ⟨clause, hclause, rfl⟩ := Option.map_eq_some_iff.1 hfound
  exact names_of_mem_forms form hform _ m hm _ clause hclause

end CodeSnapshot
