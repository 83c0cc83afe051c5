import CodeSnapshot.Proofs.Project.CommentedWords
import CodeSnapshot.Proofs.Project.DefaultLines
import CodeSnapshot.Proofs.Project.SourceOrder

/-!
# Default exports — which of them are recorded

A line with `export default` exports one thing: the function or class that is declared there, under its
name if it has one, or whatever the expression gives, under the name `default`. Three forms of export
declarations share such a line. The form for expressions leaves out what begins with a word of the other
two, and these take up what such a word begins, but not all of it.

* **`declaredName`** — the name that is declared on a line, whatever comments there are.
* **`DefaultLine.Misread`** — the lines that the forms do not share out as they should.
* **`DefaultLine.Outcome`** — what a form of declarations can make of a line.
* **`sharedOut`** — which lines the three forms share out, outcome by outcome.
* **`defaultLine_recorded_iff`** — the headline: the line has exactly one record, under the name that it
  should have, unless it is misread; and then the file is found among the exporters of that name.
-/

namespace CodeSnapshot

open Pattern Statement

namespace ExportRecord

/-! ## Names -/

/-- The words that may follow the keyword of a class without a name. -/
def heritageWords : List String := ["extends", "implements"]

/-- The words that stand before a keyword on its line, and are names elsewhere. -/
def modifiers : List String := ["async", "abstract"]

/-- The name behind the keyword at the start of a text, whatever blanks there are between its words;
nothing where there is none. -/
def nameBehind (body : List Char) : List Char :=
  match behindKeyword? "async" "function" body, behindKeyword? "abstract" "class" body with
  | some text, _ => firstWord (behindStar text)
  | none, some text =>
    if heritageWords.contains (String.ofList (firstWord text)) then [] else firstWord text
  | none, none => []

/-- A modifier ends its line, and stands for itself there. -/
def EndsLine (body : List Char) : Prop :=
  (∃ w ∈ modifiers, firstWord body = w.toList) ∧
    '\n' ∈ (body.dropWhile nameChar.contains).takeWhile Text.isBlank

instance (body : List Char) : Decidable (EndsLine body) :=
  inferInstanceAs (Decidable (_ ∧ _))

/-- The name that is declared at the start of a text, comments aside; nothing where none is. -/
def declaredName (body : List Char) : List Char :=
  let text := (withoutComments body).dropWhile Text.isBlank
  if EndsLine text then [] else nameBehind text

/-! ## Lines that are misread -/

/-- The first word is kept from the form for expressions, and begins no declaration. -/
def Overlooked (body : List Char) : Prop :=
  (∃ w ∈ modifiers, firstWord body = w.toList) ∧
    behindKeyword? "async" "function" body = none ∧ behindKeyword? "abstract" "class" body = none

/-- A name is taken for a keyword with a name behind it. -/
def Doubled (body : List Char) : Prop :=
  ∃ keyword ∈ ["function", "class"], keyword.toList ++ ['$'] <+: body

/-- What a class without a name extends or implements is taken for its name. -/
def Misnamed (body : List Char) : Prop :=
  ∃ text ∈ behindKeyword? "abstract" "class" body,
    heritageWords.contains (String.ofList (firstWord text)) = true

/-- Another name is read than the one that is declared: a modifier that ends its line is taken for that
of the keyword on a later line, or a comment stands in front of the name or of the keyword. -/
def Diverted (body : List Char) : Prop :=
  symbolOf (nameBehind body) ≠ symbolOf (declaredName body)

/-- A line that the forms do not share out as they should. The first of the reasons is that a line may be
indented by other blanks than spaces and tabs. -/
def DefaultLine.Misread (d : DefaultLine) : Prop :=
  ¬ d.Indented ∨ Overlooked d.body ∨ Doubled d.body ∨ Misnamed d.body ∨ Diverted d.body

instance (body : List Char) : Decidable (Overlooked body) :=
  inferInstanceAs (Decidable (_ ∧ _ ∧ _))

instance (body : List Char) : Decidable (Doubled body) :=
  inferInstanceAs (Decidable (∃ keyword ∈ ["function", "class"], keyword.toList ++ ['$'] <+: body))

instance (body : List Char) : Decidable (Misnamed body) :=
  inferInstanceAs (Decidable (∃ text ∈ behindKeyword? "abstract" "class" body,
    heritageWords.contains (String.ofList (firstWord text)) = true))

instance (body : List Char) : Decidable (Diverted body) :=
  inferInstanceAs (Decidable (_ ≠ _))

instance (d : DefaultLine) : Decidable d.Misread :=
  inferInstanceAs (Decidable (_ ∨ _ ∨ _ ∨ _ ∨ _))

section

variable (d : DefaultLine) {m k w : String}

/-! ## Lines where nothing is declared -/

theorem declaredName_of_nameBehind {body : List Char} (hfirst : firstWord body ≠ [])
    (h : nameBehind (withoutComments body) = []) : declaredName body = [] := by
  rw [declaredName, dropBlanks_of_firstWord hfirst, h, ite_self]

/-- Where neither keyword stands, and none behind a comment, nothing is declared. -/
theorem declaredName_of_behindKeyword? {body : List Char} (hfirst : firstWord body ≠ [])
    (hasync : firstWord body = "async".toList → ∀ c ∈ (behindWord body).head?, c ≠ '/')
    (habstract : firstWord body = "abstract".toList → ∀ c ∈ (behindWord body).head?, c ≠ '/')
    (hbehind : behindKeyword? "async" "function" body = none)
    (hbehind' : behindKeyword? "abstract" "class" body = none) : declaredName body = [] := by
  have hnone : behindKeyword? "async" "function" (withoutComments body) = none := by
    rw [behindKeyword?_withoutComments hasync (by simp [hbehind]), hbehind, Option.map_none]
  have hnone' : behindKeyword? "abstract" "class" (withoutComments body) = none := by
    rw [behindKeyword?_withoutComments habstract (by simp [hbehind']), hbehind', Option.map_none]
  exact declaredName_of_nameBehind hfirst (by rw [nameBehind, hnone, hnone'])

/-- What a class without a name extends or implements is not declared. -/
theorem declaredName_of_misnamed {body : List Char} (h : Misnamed body) : declaredName body = [] := by
  obtain ⟨text, hclass, hheritage⟩ := h
  have hfilled : firstWord text ≠ [] := by
    have hwords : ∀ w ∈ heritageWords, w.toList ≠ [] := by decide
    have hword := hwords _ (List.mem_of_elem_eq_true hheritage)
    rwa [String.toList_ofList] at hword
  obtain ⟨w, hw, hfirst⟩ := firstWord_of_behindKeyword? (Option.mem_def.1 hclass)
  obtain ⟨hempty, hasync, hfunction⟩ : w.toList ≠ [] ∧ w.toList ≠ "async".toList ∧
      w.toList ≠ "function".toList := by
    have hwords : ∀ w ∈ ["abstract", "class"], w.toList ≠ [] ∧ w.toList ≠ "async".toList ∧
        w.toList ≠ "function".toList := by decide
    exact hwords w hw
  have hgap : firstWord body = "abstract".toList → ∀ c ∈ (behindWord body).head?, c ≠ '/' := by
    obtain ⟨back, hbegins⟩ := exists_begins_of_behindKeyword? keywords_class
      (Option.ne_none_iff_exists'.2 ⟨text, hclass⟩)
    exact hbegins.ne_slash keywords_class
  have hback : ∀ back ∈ behindKeyword? "abstract" "class" body, ∀ c ∈ back.head?, c ≠ '/' := by
    intro back hsome c hc
    rw [Option.mem_unique hsome hclass] at hc
    exact ne_slash_of_nameChar (nameChar_of_firstWord hfilled c hc)
  refine declaredName_of_nameBehind (hfirst ▸ hempty) ?_
  rw [nameBehind, behindKeyword?_withoutComments hgap hback, Option.mem_def.1 hclass,
    Option.map_some, behindKeyword?_eq_none (by rwa [firstWord_withoutComments, hfirst])
      (by rwa [firstWord_withoutComments, hfirst])]
  exact if_pos (by rwa [firstWord_withoutComments])

/-! ## Sharing out a line -/

/-- What a form of declarations makes of a line, and which word the line then begins with: it finds the
declaration that is there, or takes a name for its keyword, or finds nothing. -/
inductive DefaultLine.Outcome (d : DefaultLine) (form : Form) (modifier keyword : String)
    (read : List Char → List Char) : Prop where
  | declared {text : List Char} (behind : behindKeyword? modifier keyword d.body = some text)
      (found : d.symbol? form = some (symbolOf (read text)))
  | mistaken {symbol : String} (behind : behindKeyword? modifier keyword d.body = none)
      (found : d.symbol? form = some symbol) (ne : symbol ≠ defaultName)
      (first : firstWord d.body = modifier.toList ∨ keyword.toList ++ ['$'] <+: d.body)
      (next : firstWord d.body = modifier.toList → ∀ c ∈ (behindWord d.body).head?, c ≠ '/')
  | absent (behind : behindKeyword? modifier keyword d.body = none) (found : d.symbol? form = none)
      (first : firstWord d.body ≠ keyword.toList) (dollar : ¬ keyword.toList ++ ['$'] <+: d.body)

theorem outcome_of_cases (hw : Keywords m k) {form : Form} {read : List Char → List Char}
    (hfound : ∀ back, Begins m k d.body back →
      d.symbol? form = some (symbolOf (read (back.dropWhile Text.isBlank))))
    (hnone : (∀ back, ¬ Begins m k d.body back) → d.symbol? form = none)
    (hread : ∀ back, read ('$' :: back) = firstWord ('$' :: back)) : d.Outcome form m k read := by
  rcases begins_cases hw d.body with ⟨back, hbegins, hbehind⟩ |
    ⟨back, hbegins, hbehind, hfirst⟩ | ⟨habsent, hbehind, hfirst⟩
  · exact .declared hbehind (hfound back hbegins)
  · refine .mistaken hbehind (hfound _ hbegins) ?_ hfirst (hbegins.ne_slash hw)
    rw [List.dropWhile_cons_of_neg (by decide), hread, firstWord,
      List.takeWhile_cons_of_pos (by decide), symbolOf, if_neg (List.cons_ne_nil _ _)]
    intro hdefault
    have hchars := congrArg String.toList hdefault
    rw [String.toList_ofList] at hchars
    cases hchars
  · refine .absent hbehind (hnone habsent) hfirst fun hdollar => ?_
    obtain ⟨tail, htail⟩ := hdollar
    refine habsent ('$' :: tail) ⟨fun c hc => ?_, .inl ?_⟩
    · cases hc
      decide
    · rw [← htail, List.append_assoc]
      rfl

theorem outcome_functionForm (hindented : d.Indented) :
    d.Outcome functionForm "async" "function" fun text => firstWord (behindStar text) := by
  refine outcome_of_cases d keywords_function (fun _ => symbol?_functionForm d hindented) (fun h => ?_)
    fun _ => rfl
  refine symbol?_eq_none d fun piece rest hrest htakes => ?_
  obtain ⟨back, hback⟩ :=
    begins_of_takes d keywords_function (by decide) htakes hrest
  exact h back hback

theorem outcome_classForm (hindented : d.Indented) :
    d.Outcome classForm "abstract" "class" firstWord := by
  refine outcome_of_cases d keywords_class (fun _ => symbol?_classForm d hindented) (fun h => ?_)
    fun _ => rfl
  refine symbol?_eq_none d fun piece rest hrest htakes => ?_
  obtain ⟨back, hback⟩ := begins_of_takes d keywords_class (by decide) htakes hrest
  exact h back hback

theorem prefix_of_first {body : List Char} (hfirst : firstWord body = w.toList) : w.toList <+: body :=
  hfirst ▸ List.takeWhile_prefix _

/-- A line where a name is taken for a keyword begins with a word of the form. -/
theorem exists_prefix {body : List Char}
    (h : firstWord body = m.toList ∨ k.toList ++ ['$'] <+: body) : ∃ w ∈ [m, k], w.toList <+: body := by
  rcases h with hfirst | hdollar
  · exact ⟨m, List.mem_cons_self .., prefix_of_first hfirst⟩
  · exact ⟨k, by simp, (List.prefix_append ..).trans hdollar⟩

theorem mem_declarationWords (hw : w ∈ ["async", "function"] ∨ w ∈ ["abstract", "class"]) :
    w ∈ declarationWords := by
  have hall : ∀ w ∈ ["async", "function"] ++ ["abstract", "class"], w ∈ declarationWords := by decide
  exact hall w (List.mem_append.2 hw)

theorem firstWord_ne_nil {body : List Char} (hw : w ∈ declarationWords) (h : w.toList <+: body) :
    firstWord body ≠ [] := by
  have hwords : ∀ w ∈ declarationWords,
      w.toList ≠ [] ∧ w.toList.all nameChar.contains = true := by decide
  obtain ⟨hne, hname⟩ := hwords w hw
  obtain ⟨tail, rfl⟩ := h
  rw [firstWord, List.takeWhile_append_of_pos (List.all_eq_true.1 hname)]
  exact List.append_ne_nil_of_left_ne_nil hne _

/-- Where none of its words stands, a form of declarations finds nothing. -/
theorem DefaultLine.Outcome.nothing {d : DefaultLine} {form : Form} {read : List Char → List Char}
    (h : d.Outcome form m k read) (hapart : ∀ w ∈ [m, k], ¬ w.toList <+: d.body) :
    behindKeyword? m k d.body = none ∧ d.symbol? form = none := by
  cases h with
  | declared hbehind =>
    obtain ⟨w, hw, hfirst⟩ := firstWord_of_behindKeyword? hbehind
    exact absurd (prefix_of_first hfirst) (hapart w hw)
  | mistaken _ _ _ hfirst _ =>
    obtain ⟨w, hw, hstarts⟩ := exists_prefix hfirst
    exact absurd hstarts (hapart w hw)
  | absent hbehind hfound => exact ⟨hbehind, hfound⟩

/-- A line does not begin with words of both kinds of declarations. -/
theorem not_prefix_of_prefix {body : List Char} {v w : String}
    (hvw : (v ∈ ["async", "function"] ∧ w ∈ ["abstract", "class"]) ∨
      v ∈ ["abstract", "class"] ∧ w ∈ ["async", "function"])
    (hv : v.toList <+: body) : ¬ w.toList <+: body := by
  have hapart : ∀ a ∈ ["async", "function"], ∀ b ∈ ["abstract", "class"],
      ¬ a.toList <+: b.toList ∧ ¬ b.toList <+: a.toList := by decide
  intro hw
  rcases hvw with ⟨hv', hw'⟩ | ⟨hv', hw'⟩ <;>
    rcases List.prefix_or_prefix_of_prefix hv hw with hvw | hvw
  · exact (hapart v hv' w hw').1 hvw
  · exact (hapart v hv' w hw').2 hvw
  · exact (hapart w hw' v hv').2 hvw
  · exact (hapart w hw' v hv').1 hvw

/-- Words that begin declarations are kept from the form for expressions. -/
theorem symbol?_defaultForm_of_first (hindented : d.Indented)
    (hw : w ∈ declarationWords) (hfirst : firstWord d.body = w.toList) :
    d.symbol? defaultForm = none := by
  rw [symbol?_defaultForm d hindented, hfirst, String.ofList_toList, if_pos (List.elem_eq_true_of_mem hw)]

theorem not_doubled_of_first {body : List Char} (hw : w ∈ declarationWords)
    (hfirst : firstWord body = w.toList) : ¬ Doubled body := by
  have hwords : ∀ keyword ∈ ["function", "class"],
      (keyword.toList ++ ['$']).all nameChar.contains = true ∧
        ∀ w ∈ declarationWords, ¬ keyword.toList ++ ['$'] <+: w.toList := by decide
  rintro ⟨keyword, hkeyword, tail, rfl⟩
  obtain ⟨hname, hapart⟩ := hwords keyword hkeyword
  rw [firstWord, List.takeWhile_append_of_pos (List.all_eq_true.1 hname)] at hfirst
  exact hapart w hw ⟨_, hfirst⟩

/-- What the three forms find on a line. -/
def DefaultLine.symbols (d : DefaultLine) : List String :=
  [functionForm, classForm, defaultForm].filterMap d.symbol?

/-- The forms find the name behind the keyword, and only that, or else what is not declared. -/
structure DefaultLine.SharedOut (d : DefaultLine) : Prop where
  read : ¬ (Overlooked d.body ∨ Doubled d.body ∨ Misnamed d.body) →
    d.symbols = [symbolOf (nameBehind d.body)]
  missed : Overlooked d.body ∨ Doubled d.body ∨ Misnamed d.body →
    d.symbols ≠ [symbolOf (declaredName d.body)]

/-- A function is found by its own form only. -/
theorem sharedOut_of_function (hindented : d.Indented) {text : List Char}
    (hbehind : behindKeyword? "async" "function" d.body = some text)
    (hfound : d.symbol? functionForm = some (symbolOf (firstWord (behindStar text)))) :
    d.SharedOut := by
  obtain ⟨w, hw, hfirst⟩ := firstWord_of_behindKeyword? hbehind
  obtain ⟨hbehind', hfound'⟩ := (outcome_classForm d hindented).nothing fun v hv =>
    not_prefix_of_prefix (.inl ⟨hw, hv⟩) (prefix_of_first hfirst)
  have hword : w ∈ declarationWords := mem_declarationWords (.inl hw)
  have hname : nameBehind d.body = firstWord (behindStar text) := by rw [nameBehind, hbehind]
  have hlist : d.symbols = [symbolOf (nameBehind d.body)] := by
    simp only [DefaultLine.symbols, List.filterMap_cons, hfound, hfound', List.filterMap_nil, hname,
      symbol?_defaultForm_of_first d hindented hword hfirst]
  refine ⟨fun _ => hlist, ?_⟩
  rintro (⟨-, hnone, -⟩ | hdoubled | ⟨text', hclass, -⟩)
  · rw [hbehind] at hnone
    cases hnone
  · exact absurd hdoubled (not_doubled_of_first hword hfirst)
  · rw [hbehind'] at hclass
    cases hclass

/-- A class is found by its own form only, and under its name if it has one. -/
theorem sharedOut_of_class (hindented : d.Indented) {text : List Char}
    (hbehind : behindKeyword? "abstract" "class" d.body = some text)
    (hfound : d.symbol? classForm = some (symbolOf (firstWord text))) : d.SharedOut := by
  obtain ⟨w, hw, hfirst⟩ := firstWord_of_behindKeyword? hbehind
  obtain ⟨hbehind', hfound'⟩ := (outcome_functionForm d hindented).nothing fun v hv =>
    not_prefix_of_prefix (.inr ⟨hw, hv⟩) (prefix_of_first hfirst)
  have hword : w ∈ declarationWords := mem_declarationWords (.inr hw)
  have hlist : d.symbols = [symbolOf (firstWord text)] := by
    simp only [DefaultLine.symbols, List.filterMap_cons, hfound, hfound', List.filterMap_nil,
      symbol?_defaultForm_of_first d hindented hword hfirst]
  have hname : nameBehind d.body =
      if heritageWords.contains (String.ofList (firstWord text)) then [] else firstWord text := by
    rw [nameBehind, hbehind, hbehind']
  by_cases hheritage : heritageWords.contains (String.ofList (firstWord text)) = true
  · have hmisnamed : Misnamed d.body := ⟨text, hbehind, hheritage⟩
    have hne : symbolOf (firstWord text) ≠ defaultName := by
      have hwords : ∀ w ∈ heritageWords, w ≠ defaultName ∧ w.toList ≠ [] := by decide
      obtain ⟨hdifferent, hfilled⟩ := hwords _ (List.mem_of_elem_eq_true hheritage)
      rw [String.toList_ofList] at hfilled
      rwa [symbolOf, if_neg hfilled]
    refine ⟨fun hnot => absurd (.inr (.inr hmisnamed)) hnot, fun _ heq => hne ?_⟩
    rw [hlist, declaredName_of_misnamed hmisnamed] at heq
    exact List.singleton_inj.1 heq
  · rw [if_neg hheritage] at hname
    refine ⟨fun _ => by rw [hlist, hname], ?_⟩
    rintro (⟨-, -, hnone⟩ | hdoubled | ⟨text', hclass, hheritage'⟩)
    · rw [hbehind] at hnone
      cases hnone
    · exact absurd hdoubled (not_doubled_of_first hword hfirst)
    · rw [hbehind] at hclass
      cases hclass
      exact absurd hheritage' hheritage

/-- A name that is taken for a keyword gives a symbol, though nothing is declared. -/
theorem sharedOut_of_mistaken {form : Form} {symbol : String} (hform : form ∈ [functionForm, classForm])
    (hfound : d.symbol? form = some symbol) (hne : symbol ≠ defaultName)
    (hnone : declaredName d.body = [])
    (hwrong : Overlooked d.body ∨ Doubled d.body) : d.SharedOut := by
  refine ⟨fun hnot => absurd (hwrong.imp_right .inl) hnot, fun _ hlist => hne ?_⟩
  have hmem : symbol ∈ d.symbols :=
    List.mem_filterMap.2 ⟨form, List.mem_append_left [defaultForm] hform, hfound⟩
  rw [hlist, hnone] at hmem
  exact List.mem_singleton.1 hmem

/-- Where nothing is declared, the form for expressions finds the export, unless it is overlooked. -/
theorem sharedOut_of_nothing (hindented : d.Indented)
    (hbehind : behindKeyword? "async" "function" d.body = none)
    (hbehind' : behindKeyword? "abstract" "class" d.body = none)
    (hfound : d.symbol? functionForm = none) (hfound' : d.symbol? classForm = none)
    (hfirst : ∀ w ∈ ["function", "class"], firstWord d.body ≠ w.toList ∧
      ¬ w.toList ++ ['$'] <+: d.body) : d.SharedOut := by
  have hname : nameBehind d.body = [] := by rw [nameBehind, hbehind, hbehind']
  have hlist : d.symbols = (if declarationWords.contains (String.ofList (firstWord d.body)) then none
      else some defaultName).toList := by
    simp only [DefaultLine.symbols, List.filterMap_cons, hfound, hfound',
      symbol?_defaultForm d hindented, List.filterMap_nil]
    generalize (if declarationWords.contains _ = true then none else some defaultName) = symbol
    cases symbol <;> rfl
  by_cases hword : declarationWords.contains (String.ofList (firstWord d.body)) = true
  · rw [if_pos hword] at hlist
    refine ⟨fun hnot => absurd (.inl ⟨?_, hbehind, hbehind'⟩) hnot, fun _ => by rw [hlist]; nofun⟩
    obtain ⟨w, hw, hfirstWord⟩ : ∃ w ∈ declarationWords, firstWord d.body = w.toList :=
      ⟨_, List.mem_of_elem_eq_true hword, String.toList_ofList.symm⟩
    have hwords : ∀ w ∈ declarationWords, w ∈ modifiers ∨ w ∈ ["function", "class"] := by
      decide
    exact ⟨w, (hwords w hw).resolve_right fun hw => (hfirst w hw).1 hfirstWord, hfirstWord⟩
  · rw [if_neg hword] at hlist
    refine ⟨fun _ => by rw [hlist, hname]; rfl, ?_⟩
    rintro (⟨⟨w, hw, hfirstWord⟩, -⟩ | ⟨keyword, hkeyword, hdollar⟩ | ⟨text, hclass, -⟩)
    · have hwords : ∀ w ∈ modifiers, declarationWords.contains w = true := by decide
      rw [hfirstWord, String.ofList_toList] at hword
      exact absurd (hwords w hw) hword
    · exact absurd hdollar (hfirst keyword hkeyword).2
    · rw [hbehind'] at hclass
      cases hclass

/-- **Which lines are shared out as they should be**, of those that begin a statement. -/
theorem sharedOut (hindented : d.Indented) : d.SharedOut := by
  cases outcome_functionForm d hindented with
  | declared hbehind hfound => exact sharedOut_of_function d hindented hbehind hfound
  | mistaken hbehind hfound hne hfirst hnext =>
    obtain ⟨v, hv, hstarts⟩ := exists_prefix hfirst
    have hother (w : String) (hw : w ∈ ["abstract", "class"]) : firstWord d.body ≠ w.toList :=
      fun hfirst => not_prefix_of_prefix (.inl ⟨hv, hw⟩) hstarts (prefix_of_first hfirst)
    have hbehind' : behindKeyword? "abstract" "class" d.body = none :=
      behindKeyword?_eq_none (hother _ (by simp)) (hother _ (by simp))
    refine sharedOut_of_mistaken d (.head _) hfound hne ?_ ?_
    · exact declaredName_of_behindKeyword? (firstWord_ne_nil (mem_declarationWords (.inl hv)) hstarts) hnext
        (fun h => absurd h (hother _ (by simp))) hbehind hbehind'
    · exact hfirst.imp (⟨⟨"async", by decide, ·⟩, hbehind, hbehind'⟩) (⟨"function", by decide, ·⟩)
  | absent hbehind hfound hfirst hdollar =>
    cases outcome_classForm d hindented with
    | declared hbehind' hfound' => exact sharedOut_of_class d hindented hbehind' hfound'
    | mistaken hbehind' hfound' hne' hfirst' hnext' =>
      obtain ⟨v, hv, hstarts⟩ := exists_prefix hfirst'
      have hother : firstWord d.body ≠ "async".toList := fun hfirst =>
        not_prefix_of_prefix (.inr ⟨hv, by simp⟩) hstarts (prefix_of_first hfirst)
      refine sharedOut_of_mistaken d (.tail _ (.head _)) hfound' hne' ?_ ?_
      · exact declaredName_of_behindKeyword? (firstWord_ne_nil (mem_declarationWords (.inr hv)) hstarts) (fun h => absurd h hother)
          hnext' hbehind hbehind'
      · exact hfirst'.imp (⟨⟨"abstract", by decide, ·⟩, hbehind, hbehind'⟩) (⟨"class", by decide, ·⟩)
    | absent hbehind' hfound' hfirst' hdollar' =>
      refine sharedOut_of_nothing d hindented hbehind hbehind' hfound hfound' ?_
      simpa using ⟨⟨hfirst, hdollar⟩, hfirst', hdollar'⟩

/-- **What is found is what is declared**, unless the line is misread. -/
theorem symbols_eq_iff (hindented : d.Indented) :
    d.symbols = [symbolOf (declaredName d.body)] ↔ ¬ d.Misread := by
  have hshared := sharedOut d hindented
  rw [DefaultLine.Misread]
  by_cases hwrong : Overlooked d.body ∨ Doubled d.body ∨ Misnamed d.body
  · refine iff_of_false (hshared.missed hwrong) (not_not_intro (.inr ?_))
    rcases hwrong with h | h | h
    · exact .inl h
    · exact .inr (.inl h)
    · exact .inr (.inr (.inl h))
  · rw [hshared.read hwrong, List.singleton_inj]
    refine ⟨fun hsame hmisread => ?_, fun hread => ?_⟩
    · rcases hmisread with h | h | h | h | h
      · exact h hindented
      · exact hwrong (.inl h)
      · exact hwrong (.inr (.inl h))
      · exact hwrong (.inr (.inr h))
      · exact h hsame
    · by_contra hdiverted
      exact hread (.inr (.inr (.inr (.inr hdiverted))))

/-- **Default exports are recorded**, unless their lines are misread: a line has exactly one record, under
the name of the function or class that is declared there, or `default`, if and only if it is none of
those. The file is then found among the exporters of that name, in every project that it is read into. -/
theorem defaultLine_recorded_iff (file : String) :
    (((ofSource file d.content).filter (·.line = d.line)).map (·.symbol) =
        [symbolOf (declaredName d.body)] ↔ ¬ d.Misread) ∧
      (¬ d.Misread → ∀ sources, (file, d.content) ∈ Project.supported sources →
        file ∈ (Project.ofSources sources).exportersOf (symbolOf (declaredName d.body))) := by
  have hiff : ((ofSource file d.content).filter (·.line = d.line)).map (·.symbol) =
      [symbolOf (declaredName d.body)] ↔ ¬ d.Misread := by
    rw [symbols_of_line]
    by_cases hindented : d.Indented
    · exact symbols_eq_iff d hindented
    · rw [symbols_of_not_indented d hindented]
      exact iff_of_false nofun (not_not_intro (.inl hindented))
  refine ⟨hiff, fun hread sources hsource => ?_⟩
  have hmem : symbolOf (declaredName d.body) ∈
      ((ofSource file d.content).filter (·.line = d.line)).map (·.symbol) :=
    hiff.2 hread ▸ List.mem_singleton_self _
  obtain ⟨r, hr, hsymbol⟩ := List.mem_map.1 hmem
  have hr : r ∈ ofSource file d.content := (List.mem_filter.1 hr).1
  rw [← hsymbol, Project.exportersOf, (isName_of_mem_ofSource hr).writable.trimmed]
  exact Project.exports_ofSources_iff.2 ⟨d.content, hsource, r, hr, rfl⟩

end

/-- A generator function behind other lines, indented, with blanks on both sides of its star. -/
theorem defaultLine_recorded_iff_of_generator :
    let d : DefaultLine :=
      { before := "// loads\n\n".toList, margin := ['\t'], gap := [' '], space := [' ', ' ']
        body := "async function * load() \x7b\x7d\n".toList
        atLineStart := by decide, no_export := by decide
        margin_blank := List.forall_mem_singleton.2 (by decide)
        gap_ne_nil := by decide, gap_blank := List.all_eq_true.1 (by decide)
        space_ne_nil := by decide, space_blank := List.all_eq_true.1 (by decide)
        body_unindented := by decide }
    d.line = 3 ∧ ¬ d.Misread ∧
      ((ofSource "src/load.ts" d.content).filter (·.line = 3)).map (·.symbol) = ["load"] ∧
      "src/load.ts" ∈ (Project.ofSources [("./src/load.ts", d.content)]).exportersOf "load" := by
  intro d
  have hread : ¬ d.Misread := by decide
  have hsource : ("src/load.ts", d.content) ∈ Project.supported [("./src/load.ts", d.content)] := by
    decide
  obtain ⟨hiff, hexporters⟩ := defaultLine_recorded_iff d "src/load.ts"
  exact ⟨rfl, hread, hiff.2 hread, hexporters hread _ hsource⟩

/-- An arrow function whose first word is kept from the form for expressions has no record. -/
theorem not_recorded_of_async_arrow :
    let d : DefaultLine :=
      { before := [], margin := [], gap := [' '], space := [' ']
        body := "async () => \x7b\x7d\n".toList
        atLineStart := by decide, no_export := by decide, margin_blank := nofun
        gap_ne_nil := by decide, gap_blank := List.all_eq_true.1 (by decide)
        space_ne_nil := by decide, space_blank := List.all_eq_true.1 (by decide)
        body_unindented := by decide }
    symbolOf (declaredName d.body) = "default" ∧
      ¬ ((ofSource "a.ts" d.content).filter (·.line = d.line)).map (·.symbol) = ["default"] := by
  decide +kernel

end ExportRecord

end CodeSnapshot