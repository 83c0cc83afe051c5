import CodeSnapshot.Proofs.Project.DeclarationHeads

/-!
# Default lines — what each form finds on a line with `export default`

Each form of export declaration is tried at the start of the line. The forms that begin with words of
their own find nothing behind `export`. Those of functions and of classes find a declaration where their
keyword stands by its edge, and read the name behind it; that of expressions finds whatever does not
begin with one of the words that it leaves to them.

* **`DefaultLine`** — a text with such a line, and no export before it.
* **`not_takes_of_opens`**, **`begins_of_takes`** — what the forms take of the line.
* **`matchAt?_of_begins`** — a declaration is found where its keyword stands.
* **`symbol?_functionForm`**, **`symbol?_classForm`**, **`symbol?_defaultForm`** — the symbols that the
  three forms find.
* **`symbols_of_line`** — the symbols of the records of the line.
-/

namespace CodeSnapshot

open Pattern Statement

namespace ExportRecord

/-! ## Lines -/

/-- A text with a line that begins with `export default`, and with no export before that line. The body
is the rest of the text behind the two words. -/
structure DefaultLine where
  before : List Char
  margin : List Char
  gap : List Char
  space : List Char
  body : List Char
  atLineStart : AtLineStart before
  no_export : ¬ "export".toList <:+: before
  margin_blank : ∀ c ∈ margin, Text.isBlank c = true ∧ c ≠ '\n'
  gap_ne_nil : gap ≠ []
  gap_blank : ∀ c ∈ gap, Text.isBlank c = true
  space_ne_nil : space ≠ []
  space_blank : ∀ c ∈ space, Text.isBlank c = true
  body_unindented : Unindented body

namespace DefaultLine

/-- The text behind the word `export`. -/
def clause (d : DefaultLine) : List Char :=
  d.gap ++ ("default".toList ++ (d.space ++ d.body))

/-- The text from the line on. -/
def rest (d : DefaultLine) : List Char :=
  d.margin ++ ("export".toList ++ d.clause)

def content (d : DefaultLine) : String :=
  String.ofList (d.before ++ d.rest)

/-- The number of the line. -/
def line (d : DefaultLine) : Nat :=
  d.before.count '\n' + 1

/-- The line is indented as the forms have it, by spaces and tabs. -/
def Indented (d : DefaultLine) : Prop :=
  ∀ c ∈ d.margin, c = ' ' ∨ c = '\t'

instance (d : DefaultLine) : Decidable d.Indented :=
  decidable_of_iff (d.margin.all fun c => c == ' ' || c == '\t') (by simp [Indented])

end DefaultLine

/-! ## Names -/

/-- What stands behind the star of a generator function, if there is one. -/
def behindStar : List Char → List Char
  | '*' :: text => text.dropWhile Text.isBlank
  | text => text

/-- The symbol of an export under a name, or of one without a name. -/
def symbolOf (name : List Char) : String :=
  if name = [] then defaultName else String.ofList name

/-! ## What the forms take -/

/-- A word that cannot be read where the word `default` stands. -/
structure Foreign (w : String) : Prop where
  unindented : Unindented w.toList
  not_prefix : ¬ w.toList <+: "default".toList
  not_extension : ¬ "default".toList <+: w.toList

theorem foreign_iff {w : String} : Foreign w ↔ Unindented w.toList ∧
    ¬ w.toList <+: "default".toList ∧ ¬ "default".toList <+: w.toList :=
  ⟨fun h => ⟨h.1, h.2, h.3⟩, fun h => ⟨h.1, h.2.1, h.2.2⟩⟩

instance (w : String) : Decidable (Foreign w) :=
  decidable_of_iff _ foreign_iff.symm

section

variable (d : DefaultLine) {ps : List Pattern} {ws : List String} {m k w : String}
  {front piece rest back : List Char}

theorem keywords_function : Keywords "async" "function" where
  modifier_word := List.all_eq_true.1 (by decide)
  keyword_word := List.all_eq_true.1 (by decide)
  keyword_ne_nil := by decide
  modifier_apart := by decide
  keyword_apart := by decide

theorem keywords_class : Keywords "abstract" "class" where
  modifier_word := List.all_eq_true.1 (by decide)
  keyword_word := List.all_eq_true.1 (by decide)
  keyword_ne_nil := by decide
  modifier_apart := by decide
  keyword_apart := by decide

theorem unindented_default : Unindented "default".toList := by decide

theorem Foreign.apart (h : Foreign w) (text : List Char) :
    ¬ w.toList <+: "default".toList ++ text := by
  intro hstarts
  rcases List.prefix_or_prefix_of_prefix hstarts (List.prefix_append ..) with hw | hw
  · exact h.not_prefix hw
  · exact h.not_extension hw

/-- What a form goes on with behind the word `export`. A line that is indented otherwise than by spaces
and tabs begins no statement. -/
theorem takesAll_clause (h : (chain (indent :: word "export" :: ps)).Takes d.before piece rest)
    (hrest : d.rest = piece ++ rest) :
    d.Indented ∧ ∃ front more, more ++ rest = d.clause ∧ TakesAll ps front more rest := by
  obtain ⟨-, margin, more, rfl, hmargin, hps⟩ := takes_export h
  have hexport : Unindented "export".toList := by decide
  have hblank : ∀ c ∈ margin, Text.isBlank c = true := by
    intro c hc
    rcases hmargin c hc with rfl | rfl <;> decide
  rw [DefaultLine.rest, List.append_assoc, List.append_assoc] at hrest
  obtain ⟨hmargins, hclauses⟩ :=
    span_append (fun c hc => (d.margin_blank c hc).1) (hexport.not_isBlank d.clause)
  obtain ⟨hmargins', hclauses'⟩ := span_append hblank (hexport.not_isBlank (more ++ rest))
  rw [hrest] at hmargins hclauses
  rw [hclauses'] at hclauses
  rw [hmargins'] at hmargins
  rw [DefaultLine.Indented, ← hmargins]
  exact ⟨hmargin, _, more, List.append_cancel_left hclauses, hps⟩

/-- **Forms of other words** take nothing of a line with `export default`. -/
theorem not_takes_of_opens (hopens : Opens ws ps) (hws : ∀ w ∈ ws, Foreign w)
    (hrest : d.rest = piece ++ rest) :
    ¬ (chain (indent :: word "export" :: gap :: ps)).Takes d.before piece rest := by
  intro htakes
  obtain ⟨-, front, more, hmore, hps⟩ := takesAll_clause d htakes hrest
  obtain ⟨front', more', hmore', hps⟩ := takesAll_gap hopens (fun w hw => (hws w hw).unindented) hps
    hmore d.gap_blank (unindented_default.not_isBlank _)
  obtain ⟨w, hw, tail, rfl⟩ := hopens _ _ _ hps
  exact (hws w hw).apart _ ⟨tail ++ rest, by rw [← List.append_assoc, hmore']⟩

/-- **Forms of declarations** take a line only if the keyword stands behind the two words. -/
theorem begins_of_takes (hw : Keywords m k) (hforeign : ∀ w ∈ [m, k], Foreign w)
    (h : (chain (indent :: word "export" :: gap :: defaultMark 1 :: modifier m :: word k :: edge ::
      ps)).Takes d.before piece rest) (hrest : d.rest = piece ++ rest) :
    ∃ back, Begins m k d.body back := by
  have hopens : Opens [m, k] (modifier m :: word k :: edge :: ps) := (opens_word k _).modifier m
  have hunindented : ∀ w ∈ [m, k], Unindented w.toList := fun w hw => (hforeign w hw).unindented
  obtain ⟨-, front, more, hmore, hps⟩ := takesAll_clause d h hrest
  obtain ⟨front', more', hmore', hps⟩ := takesAll_gap (hopens.defaultMark 1)
    (List.forall_mem_cons.2 ⟨unindented_default, hunindented⟩) hps hmore d.gap_blank
    (unindented_default.not_isBlank _)
  rcases takesAll_defaultMark hps with hps | ⟨behind, rfl, hmarked⟩
  · -- the keyword would stand where `default` stands
    obtain ⟨w, hw, tail, rfl⟩ := hopens _ _ _ hps
    exact absurd ⟨tail ++ rest, by rw [← List.append_assoc, hmore']⟩ ((hforeign w hw).apart _)
  · rw [List.append_assoc] at hmore'
    have hbody : ∀ c ∈ d.body.head?, Text.isBlank c = false :=
      List.append_nil d.body ▸ d.body_unindented.not_isBlank []
    obtain ⟨_, piece', hpiece, hdeclared⟩ := takesAll_gap hopens hunindented hmarked
      (List.append_cancel_left hmore') d.space_blank hbody
    rw [← hpiece]
    exact begins_of_takesAll hw hdeclared

/-! ## What the forms find -/

theorem prefers_indent {margin : List Char} (hstart : AtLineStart front)
    (hmargin : ∀ c ∈ margin, c = ' ' ∨ c = '\t') (hrest : ∀ c ∈ rest.head?, Text.isBlank c = false) :
    indent.Prefers front margin rest [] := by
  have hplace : Place.holdsAt .lineStart (.behind front (margin ++ rest)) = true := by
    rw [Place.holdsAt, Cursor.behind]
    cases hlast : front.getLast? with
    | none => rfl
    | some c => rw [hstart c hlast]; rfl
  refine (prefers_place hplace).seq (prefers_many (fun c hc => ?_) fun c hc => ?_)
  · exact CharClass.contains_ofChars_iff.2 (by simpa using hmargin c hc)
  · refine Bool.eq_false_iff.2 fun hin => ?_
    have hblank : c = ' ' ∨ c = '\t' := by simpa using CharClass.contains_ofChars_iff.1 hin
    have hnot := hrest c hc
    rcases hblank with rfl | rfl <;> cases hnot

/-- What matches from the word `default` on matches on the line. -/
theorem matchAt?_of_prefersAll (hindented : d.Indented) {taken : List Char}
    {added : List (Nat × Piece)}
    (htext : "default".toList ++ (d.space ++ d.body) = taken ++ rest)
    (hps : PrefersAll ps (d.before ++ d.margin ++ "export".toList ++ d.gap) taken rest added) :
    ∃ whole stop, (chain (indent :: word "export" :: gap :: ps)).matchAt? (.behind d.before d.rest) =
      some (⟨whole, added⟩, stop) := by
  have hexport : Unindented "export".toList := by decide
  have hgap : gap.Prefers (d.before ++ d.margin ++ "export".toList) d.gap (taken ++ rest) [] :=
    prefers_gap d.gap_ne_nil d.gap_blank (htext ▸ unindented_default.not_isBlank _)
  have hall := PrefersAll.cons (prefers_indent d.atLineStart hindented ?_)
    (.cons (prefers_word "export") (.cons hgap hps))
  · have hmatch := matchAt?_of_prefers hall.chain
    have hrest : d.margin ++ ("export".toList ++ (d.gap ++ taken)) ++ rest = d.rest := by
      rw [DefaultLine.rest, DefaultLine.clause, htext]
      simp only [List.append_assoc]
    rw [hrest] at hmatch
    simp only [List.append_nil] at hmatch
    exact ⟨_, _, hmatch⟩
  · rw [List.append_assoc]
    exact hexport.not_isBlank _

/-- What a declaration finds where its keyword stands. -/
theorem matchAt?_of_begins (hindented : d.Indented) (hw : Keywords m k)
    (h : Begins m k d.body back) {added : List Char → List (Nat × Piece)}
    (hback : back.dropWhile Text.isBlank = piece ++ rest)
    (htail : ∀ front, PrefersAll ps front piece rest (added front)) :
    ∃ whole mark front stop,
      (chain (indent :: word "export" :: gap :: defaultMark 1 :: modifier m :: word k :: edge ::
        space :: ps)).matchAt? (.behind d.before d.rest) =
          some (⟨whole, added front ++ [(1, mark)]⟩, stop) := by
  obtain ⟨taken, front', htaken, hall⟩ := prefersAll_of_begins hw h hback htail
    (d.before ++ d.margin ++ "export".toList ++ d.gap ++ ("default".toList ++ d.space))
  have hbody : ∀ c ∈ (taken ++ rest).head?, Text.isBlank c = false := by
    rw [← htaken, ← List.append_nil d.body]
    exact d.body_unindented.not_isBlank []
  have htext : "default".toList ++ (d.space ++ d.body) =
      "default".toList ++ d.space ++ taken ++ rest := by
    rw [htaken]
    simp only [List.append_assoc]
  obtain ⟨whole, stop, hmatch⟩ := matchAt?_of_prefersAll d hindented htext
    (.cons (prefers_defaultMark 1 d.space_ne_nil d.space_blank hbody) hall)
  exact ⟨whole, _, front', stop, hmatch⟩

/-- The group of a name, if there is a name. -/
def nameGroup (front name : List Char) : List (Nat × Piece) :=
  if name = [] then [] else [(2, ⟨front.length, name⟩)]

theorem prefers_name (front text : List Char) :
    (maybe (.group 2 Statement.name)).Prefers front (firstWord text)
      (text.dropWhile nameChar.contains) (nameGroup front (firstWord text)) := by
  have hstop := head?_dropWhile nameChar.contains text
  by_cases hnone : firstWord text = []
  · rw [nameGroup, if_pos hnone, hnone]
    refine prefers_maybe_nil fun piece rest hrest htakes => ?_
    obtain ⟨hleast, -, hname⟩ := htakes
    obtain ⟨c, piece, rfl⟩ := List.exists_cons_of_ne_nil (List.length_pos_iff.1 hleast)
    have hc := hname c (List.mem_cons_self ..)
    rw [hstop c (by rw [hrest]; rfl)] at hc
    cases hc
  · rw [nameGroup, if_neg hnone]
    have hname : ∀ c ∈ firstWord text, nameChar.contains c = true :=
      List.all_eq_true.1 List.all_takeWhile
    exact ((prefers_many1 hnone hname hstop).group 2).maybe

/-- The symbol of a declaration whose name is in the second group. -/
theorem symbol_named (whole mark : Piece) (front name : List Char) (kind : ExportKind)
    (signature : Option String) :
    (named ⟨whole, nameGroup front name ++ [(1, mark)]⟩ 2 kind signature).symbol = symbolOf name := by
  by_cases hnone : name = []
  · rw [nameGroup, if_pos hnone, symbolOf, if_pos hnone]
    rfl
  · rw [nameGroup, if_neg hnone, symbolOf, if_neg hnone]
    rfl

/-! ## The symbols of a line -/

/-- The symbol that a form finds on the line. -/
def DefaultLine.symbol? (d : DefaultLine) (form : Form) : Option String :=
  (form.clauseAt? d.before d.rest).map (·.symbol)

theorem symbol?_eq_none {form : Form}
    (h : ∀ piece rest, d.rest = piece ++ rest → ¬ form.pattern.Takes d.before piece rest) :
    d.symbol? form = none := by
  rw [DefaultLine.symbol?, Form.clauseAt?, matchAt?_eq_none h]
  rfl

theorem symbol?_of_match (form : Form) {found : Match × Cursor}
    (h : form.pattern.matchAt? (.behind d.before d.rest) = some found) :
    d.symbol? form = (form.clause found.1 d.rest).map (·.symbol) := by
  rw [DefaultLine.symbol?, Form.clauseAt?, h, Option.bind_some]

/-- Behind the keyword of a function come a star, if it is a generator, and its name. -/
theorem exists_behindStar {text : List Char} (htext : ∀ c ∈ text.head?, Text.isBlank c = false) :
    ∃ lead, text = lead ++ behindStar text ∧ ∀ front,
      PrefersAll [maybe (char '*'), space, maybe (.group 2 Statement.name)] front
        (lead ++ firstWord (behindStar text)) ((behindStar text).dropWhile nameChar.contains)
        (nameGroup (front ++ lead) (firstWord (behindStar text))) := by
  -- the star, the blanks behind it, and a text that begins with the name if there is one
  obtain ⟨star, blanks, hlead, hstar, hblanks, hstop⟩ : ∃ star blanks,
      text = star ++ (blanks ++ behindStar text) ∧
      (∀ front, (maybe (char '*')).Prefers front star (blanks ++ behindStar text) []) ∧
      (∀ c ∈ blanks, Text.isBlank c = true) ∧
      ∀ c ∈ (behindStar text).head?, Text.isBlank c = false := by
    by_cases hstar : ∃ more, text = '*' :: more
    · obtain ⟨more, rfl⟩ := hstar
      have hone : (CharClass.single '*').contains '*' = true := by
        rw [CharClass.contains_single, beq_self_eq_true]
      refine ⟨['*'], more.takeWhile Text.isBlank, ?_, fun front => (prefers_one hone).maybe,
        List.all_eq_true.1 List.all_takeWhile, head?_dropWhile _ _⟩
      rw [behindStar, List.takeWhile_append_dropWhile]
      rfl
    · have hsame : behindStar text = text := by
        rw [behindStar]
        exact fun more h => hstar ⟨more, h⟩
      rw [hsame]
      refine ⟨[], [], rfl, fun front => prefers_maybe_nil fun piece rest hsplit htakes => ?_, nofun,
        htext⟩
      obtain ⟨c, rfl, hc⟩ := htakes
      rw [CharClass.contains_single, beq_iff_eq] at hc
      exact hstar ⟨rest, by rw [hc]; exact hsplit⟩
  refine ⟨star ++ blanks, by rw [List.append_assoc]; exact hlead, fun front => ?_⟩
  rw [firstWord_append_dropWhile (behindStar text)] at hstop hstar
  have hname := PrefersAll.cons (prefers_name (front ++ star ++ blanks) (behindStar text)) .nil
  rw [List.append_nil] at hname
  have hall := PrefersAll.cons (List.append_assoc .. ▸ hstar front)
    (.cons (prefers_space hblanks hstop) hname)
  simpa only [List.append_assoc, List.append_nil, List.nil_append] using hall

theorem symbol?_functionForm (hindented : d.Indented)
    (h : Begins "async" "function" d.body back) :
    d.symbol? functionForm =
      some (symbolOf (firstWord (behindStar (back.dropWhile Text.isBlank)))) := by
  obtain ⟨lead, hlead, htail⟩ := exists_behindStar (head?_dropWhile Text.isBlank back)
  rw [firstWord_append_dropWhile (behindStar _), ← List.append_assoc] at hlead
  obtain ⟨whole, mark, front, stop, hmatch⟩ :=
    matchAt?_of_begins d hindented keywords_function h hlead htail
  have hform : functionForm.pattern.matchAt? (.behind d.before d.rest) = _ := hmatch
  rw [symbol?_of_match d functionForm hform]
  exact congrArg some (symbol_named ..)

theorem symbol?_classForm (hindented : d.Indented)
    (h : Begins "abstract" "class" d.body back) :
    d.symbol? classForm = some (symbolOf (firstWord (back.dropWhile Text.isBlank))) := by
  have htail (front : List Char) : PrefersAll [maybe (.group 2 Statement.name)] front
      (firstWord (back.dropWhile Text.isBlank))
      ((back.dropWhile Text.isBlank).dropWhile nameChar.contains)
      (nameGroup front (firstWord (back.dropWhile Text.isBlank))) := by
    have hall := PrefersAll.cons (prefers_name front (back.dropWhile Text.isBlank)) .nil
    rwa [List.append_nil, List.nil_append] at hall
  obtain ⟨whole, mark, front, stop, hmatch⟩ :=
    matchAt?_of_begins d hindented keywords_class h (firstWord_append_dropWhile _) htail
  have hform : classForm.pattern.matchAt? (.behind d.before d.rest) = _ := hmatch
  rw [symbol?_of_match d classForm hform]
  exact congrArg some (symbol_named ..)

theorem symbol?_defaultForm (hindented : d.Indented) :
    d.symbol? defaultForm =
      if declarationWords.contains (String.ofList (firstWord d.body)) then none
      else some defaultName := by
  have hbody : ∀ c ∈ (firstWord d.body ++ d.body.dropWhile nameChar.contains).head?,
      Text.isBlank c = false := by
    rw [← firstWord_append_dropWhile, ← List.append_nil d.body]
    exact d.body_unindented.not_isBlank []
  have hname : ∀ c ∈ firstWord d.body, nameChar.contains c = true :=
    List.all_eq_true.1 List.all_takeWhile
  have hall (front : List Char) : PrefersAll [word "default", gap, .group 1 (many nameChar)] front
      ("default".toList ++ (d.space ++ firstWord d.body)) (d.body.dropWhile nameChar.contains)
      [(1, ⟨(front ++ "default".toList ++ d.space).length, firstWord d.body⟩)] := by
    have hgroup : (Pattern.group 1 (many nameChar)).Prefers (front ++ "default".toList ++ d.space)
        (firstWord d.body) (d.body.dropWhile nameChar.contains) _ :=
      (prefers_many hname (head?_dropWhile nameChar.contains d.body)).group 1
    have hword := PrefersAll.cons hgroup .nil
    rw [List.append_nil] at hword
    exact .cons (prefers_word "default")
      (.cons (prefers_gap d.space_ne_nil d.space_blank hbody) hword)
  have htext : "default".toList ++ (d.space ++ d.body) =
      "default".toList ++ (d.space ++ firstWord d.body) ++ d.body.dropWhile nameChar.contains := by
    rw [List.append_assoc, List.append_assoc, ← firstWord_append_dropWhile]
  obtain ⟨whole, stop, hmatch⟩ := matchAt?_of_prefersAll d hindented htext (hall _)
  have hform : defaultForm.pattern.matchAt? (.behind d.before d.rest) = _ := hmatch
  rw [symbol?_of_match d defaultForm hform]
  show (if declarationWords.contains (String.ofList (firstWord d.body)) then none
    else some { symbol := defaultName, kind := .default : Clause }).map (·.symbol) = _
  split <;> rfl

/-- A statement does not begin behind blanks other than spaces and tabs. -/
theorem symbols_of_not_indented (hindented : ¬ d.Indented) :
    [functionForm, classForm, defaultForm].filterMap d.symbol? = [] := by
  have hforms : ∀ form ∈ [functionForm, classForm, defaultForm], form ∈ forms := by
    simp [forms]
  refine List.filterMap_eq_nil_iff.2 fun form hform => ?_
  obtain ⟨ps, hps⟩ := exists_pattern_of_mem_forms form (hforms form hform)
  refine symbol?_eq_none d fun piece rest hrest htakes => ?_
  rw [hps] at htakes
  exact hindented (takesAll_clause d htakes hrest).1

/-- **The symbols of a line**: three of the forms can find one. -/
theorem symbols_of_line (file : String) :
    ((ofSource file d.content).filter (·.line = d.line)).map (·.symbol) =
      [functionForm, classForm, defaultForm].filterMap d.symbol? := by
  -- the others begin with words that cannot be read where `default` stands
  have hnone {form : Form} {ws : List String} {ps : List Pattern} (hopens : Opens ws ps)
      (hws : ∀ w ∈ ws, Foreign w)
      (hform : form.pattern = chain (indent :: word "export" :: gap :: ps)) :
      d.symbol? form = none :=
    symbol?_eq_none d fun _ _ hrest => hform ▸ not_takes_of_opens d hopens hws hrest
  have hvariable : d.symbol? variableForm = none :=
    hnone (opens_firstOf ["const", "let", "var"] _) (by decide) rfl
  have htype : d.symbol? typeForm = none := hnone (opens_word "type" _) (by decide) rfl
  have hinterface : d.symbol? interfaceForm = none :=
    hnone (opens_word "interface" _) (by decide) rfl
  have henum : d.symbol? enumForm = none :=
    hnone (((opens_word "enum" _).modifier "const").modifier "declare") (by decide) rfl
  rw [DefaultLine.content, DefaultLine.line, filter_ofSource_line file d.atLineStart d.no_export,
    List.map_map, List.map_filterMap]
  show forms.filterMap d.symbol? = _
  simp only [forms, List.filterMap_cons, hvariable, htype, hinterface, henum]

end

end ExportRecord

end CodeSnapshot
