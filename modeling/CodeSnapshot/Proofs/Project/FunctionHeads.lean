import CodeSnapshot.Proofs.Path.NormalForm
import CodeSnapshot.Proofs.Project.DefaultLines
import CodeSnapshot.Proofs.Project.ReturnTypes
import CodeSnapshot.Proofs.Text.Splits

/-!
# Function heads — the declarations of exported functions

The head of an exported function goes from the word `export` through its return type, and the body comes
behind it. The form of functions finds the head where its line starts, by the words in front of the name,
unless an earlier match reaches over the start of the line.

* **`FunctionHead`** — a head in its parts, and the text it has.
* **`settled_functionForm`** — no earlier match reaches over a line if the text before it does not end
  like a declaration of a function that was begun.
* **`clauseAt?_functionForm`** — what the form makes of a head.
* **`filter_ofSource_function`** — the headline: the one record of a function that a head has.
-/

namespace CodeSnapshot

open Pattern Statement Signature

namespace ExportRecord

/-! ## Heads -/

/-- A word and the gap behind it, if they are there. -/
def marker (w : String) : Option Gap → List Char
  | none => []
  | some gap => w.toList ++ gap.text

/-- The head of an exported function in its parts, up to the brace of the body. Between the name and the
parameters anything may stand that has no parenthesis, such as parameters for types. -/
structure FunctionHead where
  margin : List Char
  exportGap : Gap
  defaultGap : Option Gap
  asyncGap : Option Gap
  nameGap : Gap
  name : List Char
  generics : List Char
  parameters : Enclosed '(' ')'
  space : Blanks
  type : ReturnType
  margin_indents : ∀ c ∈ margin, c = ' ' ∨ c = '\t'
  name_ne_nil : name ≠ []
  name_chars : ∀ c ∈ name, nameChar.contains c = true
  generics_apart : ∀ c ∈ generics.head?, nameChar.contains c = false
  generics_open : '(' ∉ generics

namespace FunctionHead

variable (head : FunctionHead)

/-- The words that a declaration may have in front of what it declares. -/
def opening : List Char :=
  head.margin ++ ("export".toList ++ (head.exportGap.text ++ marker "default" head.defaultGap))

/-- The keyword and the name. -/
def named : List Char :=
  marker "async" head.asyncGap ++ ("function".toList ++ (head.nameGap.text ++ head.name))

/-- What stands between the name and the return type. -/
def called : List Char :=
  head.generics ++ '(' :: (head.parameters.text ++ ')' :: (head.space.text ++ [':']))

/-- What is declared: from the keyword through the return type. -/
def declared : List Char :=
  head.named ++ (head.called ++ head.type.text)

def text : List Char :=
  head.opening ++ head.declared

end FunctionHead

/-! ## Finding a head -/

section

variable {front rest : List Char} {w : String}

theorem marker_cases (w : String) (gap : Option Gap) :
    marker w gap = [] ∨ ∃ blanks, blanks ≠ [] ∧ (∀ c ∈ blanks, Text.isBlank c = true) ∧
      marker w gap = w.toList ++ blanks := by
  cases gap with
  | none => exact .inl rfl
  | some gap => exact .inr ⟨gap.text, gap.ne_nil, gap.blank, rfl⟩

/-- The word `default` is read if it is there, and otherwise nothing is. -/
theorem exists_prefers_defaultMark (number : Nat) (gap : Option Gap)
    (hrest : ∀ c ∈ rest.head?, Text.isBlank c = false) (hword : ¬ "default".toList <+: rest) :
    ∃ added, (defaultMark number).Prefers front (marker "default" gap) rest added := by
  rcases marker_cases "default" gap with hnone | ⟨blanks, hne, hblanks, hsome⟩
  · refine ⟨[], ?_⟩
    rw [hnone]
    refine prefers_maybe_nil fun piece rest' hsplit htakes => ?_
    obtain ⟨first, second, rfl, hfirst, -⟩ := htakes
    obtain rfl := eq_of_takes_word hfirst
    exact hword ⟨second ++ rest', by rw [hsplit, List.append_assoc]⟩
  · rw [hsome]
    exact ⟨_, prefers_defaultMark number hne hblanks hrest⟩

namespace FunctionHead

variable (head : FunctionHead) {before : List Char}

/-- What is declared begins with a character of one of the two words. -/
theorem exists_named_eq_cons :
    ∃ c more, head.named = c :: more ∧ Text.isBlank c = false ∧ c ≠ 'd' := by
  rcases marker_cases "async" head.asyncGap with hnone | ⟨blanks, -, -, hsome⟩
  · exact ⟨'f', "unction".toList ++ (head.nameGap.text ++ head.name), by rw [named, hnone]; rfl,
      by decide, by decide⟩
  · exact ⟨'a', "sync".toList ++ blanks ++ ("function".toList ++ (head.nameGap.text ++ head.name)),
      by rw [named, hsome]; rfl, by decide, by decide⟩

theorem begins_named (rest : List Char) :
    Begins "async" "function" (head.named ++ rest) (head.nameGap.text ++ (head.name ++ rest)) := by
  refine ⟨fun c hc => ?_, ?_⟩
  · rw [List.head?_append_of_ne_nil _ head.nameGap.ne_nil] at hc
    have hblank := head.nameGap.blank c (List.mem_of_mem_head? hc)
    exact Bool.eq_false_iff.2 fun hword => by
      rw [not_isBlank_of_nameChar (nameChar_of_word hword)] at hblank
      cases hblank
  · rcases marker_cases "async" head.asyncGap with hnone | ⟨blanks, hne, hblanks, hsome⟩
    · refine .inl ?_
      rw [named, hnone]
      simp only [List.append_assoc, List.nil_append]
    · refine .inr ⟨blanks, hne, hblanks, ?_⟩
      rw [named, hsome]
      simp only [List.append_assoc]

/-- **The form of functions finds a head** with its name, wherever a line starts. -/
theorem matchAt?_functionForm (hstart : AtLineStart before)
    (hrest : ∀ c ∈ rest.head?, nameChar.contains c = false) :
    ∃ place others stop,
      functionForm.pattern.matchAt? (.behind before (head.opening ++ (head.named ++ rest))) =
        some (⟨⟨before.length, head.opening ++ head.named⟩, (2, ⟨place, head.name⟩) :: others⟩,
          stop) := by
  have hname : ∀ c ∈ (head.name ++ rest).head?, nameChar.contains c = true := by
    intro c hc
    rw [List.head?_append_of_ne_nil _ head.name_ne_nil] at hc
    exact head.name_chars c (List.mem_of_mem_head? hc)
  have hnameBlank : ∀ c ∈ (head.name ++ rest).head?, Text.isBlank c = false :=
    fun c hc => not_isBlank_of_nameChar (hname c hc)
  obtain ⟨hfirst, hbehind⟩ := span_append head.name_chars hrest
  -- behind the keyword comes the name, and no star
  obtain ⟨lead, hlead, htail⟩ := exists_behindStar hnameBlank
  have hstar : behindStar (head.name ++ rest) = head.name ++ rest := by
    rw [behindStar]
    exact fun more hmore => absurd (hname '*' (by rw [hmore]; rfl)) (by decide)
  rw [hstar] at hlead htail
  obtain rfl : lead = [] := List.append_left_eq_self.1 hlead.symm
  rw [show firstWord (head.name ++ rest) = head.name from hfirst, hbehind] at htail
  obtain ⟨taken, front', htaken, hkeyword⟩ := prefersAll_of_begins keywords_function
    (head.begins_named rest) (span_append head.nameGap.blank hnameBlank).2 htail
    (before ++ head.margin ++ "export".toList ++ head.exportGap.text ++ marker "default" head.defaultGap)
  obtain rfl := List.append_cancel_right htaken
  obtain ⟨c, more, hnamed, hblank, hd⟩ := head.exists_named_eq_cons
  have hnamedBlank : ∀ c ∈ (head.named ++ rest).head?, Text.isBlank c = false := by
    rw [hnamed]
    rintro _ ⟨⟩
    exact hblank
  have hword : ¬ "default".toList <+: head.named ++ rest := by
    rw [hnamed]
    exact fun hstarts => hd (List.cons_prefix_cons.1 hstarts).1.symm
  obtain ⟨added, hmarked⟩ := exists_prefers_defaultMark 1 head.defaultGap hnamedBlank hword
  have hmarkedBlank : ∀ c ∈ (marker "default" head.defaultGap ++ head.named ++ rest).head?,
      Text.isBlank c = false := by
    rw [List.append_assoc]
    rcases marker_cases "default" head.defaultGap with hnone | ⟨blanks, -, -, hsome⟩
    · rwa [hnone]
    · rw [hsome, List.append_assoc]
      exact unindented_default.not_isBlank _
  have hexport : Unindented "export".toList := by decide
  have hall := PrefersAll.cons (prefers_indent hstart head.margin_indents ?_)
    (.cons (prefers_word "export") (.cons
      (prefers_gap head.exportGap.ne_nil head.exportGap.blank hmarkedBlank) (.cons hmarked hkeyword)))
  · have hmatch := matchAt?_of_prefers hall.chain
    rw [nameGroup, if_neg head.name_ne_nil] at hmatch
    simp only [opening, List.append_assoc] at hmatch ⊢
    exact ⟨_, _, _, hmatch⟩
  · rw [List.append_assoc]
    exact hexport.not_isBlank _

/-- What the form makes of a head. -/
theorem clauseAt?_functionForm (hstart : AtLineStart before)
    (hrest : ∀ c ∈ rest.head?, nameChar.contains c = false) :
    functionForm.clauseAt? before (head.opening ++ (head.named ++ rest)) =
      some
        { symbol := String.ofList head.name
          kind := .function
          signature := Signature.ofDeclaration? (head.opening ++ (head.named ++ rest))
            (head.opening ++ head.named).length } := by
  obtain ⟨place, others, stop, hmatch⟩ := head.matchAt?_functionForm hstart hrest
  rw [Form.clauseAt?, hmatch]
  rfl

end FunctionHead

end

/-! ## Matches that were begun before -/

section

variable {p : Pattern} {ps : List Pattern} {k : Char → Prop} {before front piece rest : List Char}

/-- All characters that a pattern takes are of a kind. -/
def TakesOnly (k : Char → Prop) (p : Pattern) : Prop :=
  ∀ front piece rest, p.Takes front piece rest → ∀ c ∈ piece, k c

theorem forall_mem_of_takesAll (hps : ∀ p ∈ ps, TakesOnly k p) (h : TakesAll ps front piece rest) :
    ∀ c ∈ piece, k c := by
  induction ps generalizing front piece with
  | nil =>
    obtain rfl : piece = [] := h
    nofun
  | cons p ps ih =>
    obtain ⟨hp, hps⟩ := List.forall_mem_cons.1 hps
    obtain ⟨first, second, rfl, hfirst, hsecond⟩ := h
    exact fun c hc => (List.mem_append.1 hc).elim (hp _ _ _ hfirst c) (ih hps hsecond c)

theorem TakesOnly.maybe (h : TakesOnly k p) : TakesOnly k (maybe p) := by
  intro front piece rest htakes
  rcases takes_maybe htakes with rfl | htakes
  · nofun
  · exact h front piece rest htakes

/-- The characters of declarations, up to the name that is declared. -/
def IsHeadChar (c : Char) : Prop :=
  Text.isBlank c = true ∨ nameChar.contains c = true ∨ c = '*'

theorem takesOnly_word {w : String} (hw : w.toList.all nameChar.contains = true) :
    TakesOnly IsHeadChar (word w) := by
  intro front piece rest htakes c hc
  rw [eq_of_takes_word htakes] at hc
  exact .inr (.inl (List.all_eq_true.1 hw c hc))

theorem takesOnly_gap : TakesOnly IsHeadChar gap :=
  fun _ _ _ htakes c hc => .inl ((takes_gap htakes).2 c hc)

theorem takesOnly_space : TakesOnly IsHeadChar space :=
  fun _ _ _ htakes c hc => .inl (CharClass.contains_blank c ▸ htakes.2.2 c hc)

theorem takesOnly_modifier {w : String} (hw : w.toList.all nameChar.contains = true) :
    TakesOnly IsHeadChar (modifier w) := by
  refine TakesOnly.maybe ?_
  rintro front _ rest ⟨first, second, rfl, hfirst, hsecond⟩ c hc
  exact (List.mem_append.1 hc).elim (takesOnly_word hw _ _ _ hfirst c) (takesOnly_gap _ _ _ hsecond c)

/-- The form of functions takes such characters only. -/
theorem isHeadChar_of_takes (h : functionForm.pattern.Takes front piece rest) :
    ∀ c ∈ piece, IsHeadChar c := by
  have hindent : TakesOnly IsHeadChar indent := by
    intro front piece rest htakes c hc
    rcases (takes_indent htakes).2 c hc with rfl | rfl <;> exact .inl (by decide)
  have hedge : TakesOnly IsHeadChar edge := by
    rintro front piece rest ⟨rfl, -⟩
    nofun
  have hstar : TakesOnly IsHeadChar (char '*') := by
    rintro front _ rest ⟨d, rfl, hd⟩ c hc
    rw [CharClass.contains_single, beq_iff_eq] at hd
    exact .inr (.inr ((List.mem_singleton.1 hc).trans hd.symm))
  have hname : TakesOnly IsHeadChar (.group 2 Statement.name) :=
    fun _ _ _ htakes c hc => .inr (.inl (htakes.2.2 c hc))
  have hall : (chain [indent, word "export", gap, defaultMark 1, modifier "async", word "function", edge,
      space, maybe (char '*'), space, maybe (.group 2 Statement.name)]).Takes front piece rest := h
  refine forall_mem_of_takesAll ?_ (takesAll_of_chain hall)
  simp only [List.forall_mem_cons]
  exact ⟨hindent, takesOnly_word (by decide), takesOnly_gap, takesOnly_modifier (by decide),
    takesOnly_modifier (by decide), takesOnly_word (by decide), hedge, takesOnly_space, hstar.maybe,
    takesOnly_space, hname.maybe, List.forall_mem_nil _⟩

/-- A statement that reaches over the end of a line has begun on it: not all that it takes of the line is
blank. -/
theorem not_blank_of_takes_export {second reach : List Char}
    (h : (chain (indent :: word "export" :: ps)).Takes front (second ++ reach) rest)
    (hline : '\n' ∈ second) : ¬ ∀ c ∈ second, Text.isBlank c = true := by
  intro hblank
  obtain ⟨-, margin, more, hpiece, hmargin, -⟩ := takes_export h
  have hin : '\n' ∈ margin := by
    rcases List.append_eq_append_iff.1 hpiece with ⟨left, rfl, -⟩ | ⟨left, rfl, hmore⟩
    · exact List.mem_append_left left hline
    · -- what is left of the line would begin with the word
      cases left with
      | nil => rwa [List.append_nil] at hline
      | cons d left =>
        have hd : 'e' = d := (List.cons.inj hmore).1
        have hnot := hblank d (List.mem_append_right margin (List.mem_cons_self ..))
        rw [← hd] at hnot
        cases hnot
  rcases hmargin _ hin with h | h <;> cases h

/-- **No earlier match reaches over a line** if what stands last before it, blanks aside, can be neither
in a name nor a star. -/
theorem settled_functionForm (hstart : AtLineStart before)
    (hended : ∀ c ∈ (Text.trimEnd before).getLast?, nameChar.contains c = false ∧ c ≠ '*') :
    functionForm.pattern.Settled before rest := by
  intro first second piece rest' hsplit hne htext htakes
  by_contra hlong
  obtain ⟨reach, rfl⟩ : ∃ reach, piece = second ++ reach := by
    rcases List.append_eq_append_iff.1 htext with ⟨reach, hpiece, -⟩ | ⟨left, hsecond, -⟩
    · exact ⟨reach, hpiece⟩
    · exact absurd (hsecond ▸ (List.prefix_append piece left).length_le) hlong
  obtain ⟨blanks, hblanks, hsecond⟩ := Text.exists_trimEnd_append second
  rcases Text.eq_nil_or_concat_of_trimEnd second with hnil | ⟨init, c, hconcat, hc⟩
  · obtain ⟨ps, hps⟩ := exists_pattern_of_mem_forms functionForm (by simp [forms])
    rw [hps] at htakes
    rw [hnil, List.nil_append] at hsecond
    exact not_blank_of_takes_export htakes (AtLineStart.newline_mem (hsplit ▸ hstart) hne)
      (hsecond ▸ hblanks)
  · -- what stands last before the line would be part of a declaration
    have hbehind : second = init ++ c :: blanks := by
      rw [hconcat, List.append_assoc] at hsecond
      exact hsecond
    have htrim : Text.trimEnd before = first ++ Text.trimEnd second := by
      rw [hsplit, hbehind, ← List.append_assoc, Text.trimEnd_append _ hc, Text.trimEnd_append _ hc,
        List.append_assoc]
    have hlast : (Text.trimEnd before).getLast? = some c := by
      rw [htrim, hconcat, ← List.append_assoc, List.getLast?_concat]
    have hmem : c ∈ second := hbehind ▸ List.mem_append_right init (List.mem_cons_self ..)
    obtain ⟨hname, hstar⟩ := hended c hlast
    rcases isHeadChar_of_takes htakes c (List.mem_append_left reach hmem) with h | h | h
    · rw [hc] at h
      cases h
    · rw [hname] at h
      cases h
    · exact hstar h

end

/-! ## The records of functions -/

section

variable {front rest text : List Char} {form : Form}

/-- Only the form of functions has functions under their names. -/
theorem kind_ne_function (hform : form ∈ forms.tail) {m : Match} {c : Clause}
    (h : form.clause m text = some c) : c.kind ≠ .function := by
  have hsome {d : Clause} (hd : some d = some c) (hkind : d.kind ≠ .function) : c.kind ≠ .function :=
    Option.some.inj hd ▸ hkind
  simp only [forms, List.tail_cons, List.mem_cons, List.not_mem_nil, or_false] at hform
  rcases hform with rfl | rfl | rfl | rfl | rfl | rfl
  · refine hsome h ?_
    rw [ExportRecord.named]
    split <;> simp
  · exact hsome (Option.ite_none_left_eq_some.1 h).2 (by simp)
  · exact hsome h (by simp)
  · exact hsome h (by simp)
  · exact hsome h (by simp)
  · exact hsome (Option.ite_none_left_eq_some.1 h).2 (by simp)

theorem filter_kind_found (hform : form ∈ forms.tail) :
    (form.found text).filter (·.item.kind = .function) = [] := by
  refine List.filter_eq_nil_iff.2 fun f hf => ?_
  obtain ⟨m, -, hclause⟩ := List.mem_filterMap.1 hf
  obtain ⟨c, hc, rfl⟩ := Option.map_eq_some_iff.1 hclause
  simpa using kind_ne_function hform hc

/-- **The records of functions on a line** that no earlier match reaches over. -/
theorem filter_ofSource_function (file : String) (hstart : AtLineStart front)
    (hsettled : functionForm.pattern.Settled front rest) :
    ((ofSource file (String.ofList (front ++ rest))).filter
        fun r => r.kind = .function ∧ r.line = front.count '\n' + 1) =
      ((functionForm.clauseAt? front rest).toList.filter (·.kind = .function)).map
        (ofClause file (front.count '\n' + 1)) := by
  have hothers : (forms.tail.flatMap fun form =>
      (form.found (front ++ rest)).filter (·.offset = front.length)).filter (·.item.kind = .function) =
        [] := by
    rw [List.filter_flatMap]
    refine List.flatMap_eq_nil_iff.2 fun form hform => ?_
    rw [List.filter_comm, filter_kind_found hform, List.filter_nil]
  have hfunction := filter_found (by simp [forms] : functionForm ∈ forms) hsettled
  simp only [Bool.decide_and]
  rw [← List.filter_filter, filter_ofSource_start file rest hstart, List.filter_map,
    show forms = functionForm :: forms.tail from rfl, List.flatMap_cons]
  show (((_ : List (Found Clause)) ++ _).filter fun f => decide (f.item.kind = .function)).map _ = _
  rw [List.filter_append, hothers, hfunction, List.append_nil]
  cases functionForm.clauseAt? front rest with
  | none => rfl
  | some c => by_cases hkind : c.kind = .function <;> simp [hkind]

end

end ExportRecord

end CodeSnapshot
