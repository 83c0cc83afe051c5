import CodeSnapshot.Proofs.Query.OpenLists

/-!
# Command extraction — what is found in free text is what can be read

`Command.find?` looks for a command in a reply by its first word and its parentheses; `Expr.parse`
reads a command as a whole. The headline **`find?_agrees_with_parse`** says that neither knows a
command that the other does not: what is found is read as an application of an operator, unless it
is nested too deeply, and every such command is found as a whole, whatever stands around it.
-/

namespace CodeSnapshot

open Token

theorem Operator.mem_all (op : Operator) : op ∈ Operator.all := by
  cases op <;> decide

namespace Command

/-! ## The first word -/

theorem startsWithOperator_iff {text : List Char} :
    startsWithOperator text = true ↔ ∃ op : Operator, headWord text = op.name.toList := by
  simp only [startsWithOperator, List.any_eq_true, beq_iff_eq]
  constructor
  · rintro ⟨op, -, hname⟩
    exact ⟨op, hname.symm⟩
  · rintro ⟨op, hname⟩
    exact ⟨op, op.mem_all, hname.symm⟩

/-- What stands behind a character at which a word ends does not belong to the word. -/
theorem takeWhile_append_of_stop {p : Char → Bool} {d : Char} (hd : p d = false)
    (front rest : List Char) :
    (front ++ [d] ++ rest).takeWhile p = (front ++ [d]).takeWhile p := by
  induction front with
  | nil => simp [hd]
  | cons x front ih =>
    simp only [List.cons_append, List.takeWhile_cons]
    rw [ih]

theorem headWord_append_of_closing (front rest : List Char) :
    headWord (front ++ [')'] ++ rest) = headWord (front ++ [')']) := by
  induction front with
  | nil =>
    have hb : Text.isBlank ')' = false := by decide
    have hd : isDelimiter ')' = true := by decide
    rw [List.nil_append, List.singleton_append, headWord_cons_of_isDelimiter _ hb hd,
      headWord_cons_of_isDelimiter _ hb hd]
  | cons x front ih =>
    by_cases hb : Text.isBlank x = true
    · rw [List.cons_append, List.cons_append, headWord_cons_of_isBlank _ hb,
        headWord_cons_of_isBlank _ hb, ih]
    · have hb : Text.isBlank x = false := by simpa using hb
      rw [headWord, headWord, List.cons_append, List.cons_append,
        Text.trimStart_cons_of_not_blank _ hb, Text.trimStart_cons_of_not_blank _ hb]
      exact takeWhile_append_of_stop (by decide) (x :: front) rest

/-! ## The search -/

/-- What is found is a piece of the text, at which the search would stop in any case. -/
theorem split_of_findChars? {text command : List Char} (h : findChars? text = some command) :
    ∃ front inside rest, text = front ++ command ++ rest ∧ command = '(' :: inside ∧
      startsWithOperator (inside ++ rest) = true ∧
      balanced? 1 .plain (inside ++ rest) = some inside := by
  induction text with
  | nil => simp [findChars?] at h
  | cons c text ih =>
    -- a character that begins no command is left out
    have skip (h : findChars? text = some command) :
        ∃ front inside rest, c :: text = front ++ command ++ rest ∧ command = '(' :: inside ∧
          startsWithOperator (inside ++ rest) = true ∧
          balanced? 1 .plain (inside ++ rest) = some inside := by
      obtain ⟨front, inside, rest, htext, hcommand⟩ := ih h
      exact ⟨c :: front, inside, rest, by rw [htext]; rfl, hcommand⟩
    rw [findChars?] at h
    by_cases hstart : (c = '(' && startsWithOperator text) = true
    · rw [if_pos hstart] at h
      obtain ⟨rfl, hop⟩ : c = '(' ∧ startsWithOperator text = true := by simpa using hstart
      cases hcut : balanced? 0 .plain ('(' :: text) with
      | none =>
        rw [hcut] at h
        exact skip h
      | some cut =>
        rw [hcut] at h
        obtain rfl : cut = command := by simpa using h
        obtain ⟨inside, hinside, rfl⟩ : ∃ inside, balanced? 1 .plain text = some inside ∧
            '(' :: inside = cut := by
          simpa using hcut
        obtain ⟨_, rest, -, rfl⟩ := split_of_balanced? hinside
        exact ⟨[], inside, rest, rfl, rfl, hop, hinside⟩
    · rw [if_neg hstart] at h
      exact skip h

/-- The search passes over a text without opening parentheses. -/
theorem findChars?_append_of_not_mem {front : List Char} (h : '(' ∉ front) (text : List Char) :
    findChars? (front ++ text) = findChars? text := by
  induction front with
  | nil => rfl
  | cons c front ih =>
    simp only [List.mem_cons, not_or] at h
    rw [List.cons_append, findChars?]
    simpa [Ne.symm h.1] using ih h.2

/-- The search stops at an operator whose list is closed. -/
theorem findChars?_opening {inside rest : List Char}
    (hop : startsWithOperator (inside ++ rest) = true)
    (hcut : balanced? 1 .plain (inside ++ rest) = some inside) :
    findChars? ('(' :: (inside ++ rest)) = some ('(' :: inside) := by
  have : balanced? 0 .plain ('(' :: (inside ++ rest)) = some ('(' :: inside) := by
    simp [hcut]
  simp [findChars?, hop, this]

/-! ## Reading what is found -/

/-- A command is read from the tokens inside its first parenthesis. -/
theorem parse_of_opening {command : String} {inside : List Char}
    (hcommand : command.toList = '(' :: inside) :
    Expr.parse command = (scan 1 .between inside).bind fun ts =>
      Expr.ofTokens command.utf8ByteSize [] ((0, .opening) :: ts) := by
  have hb : Text.isBlank '(' = false := by decide
  rw [Expr.parse, hcommand, Token.ofChars, scan_between_cons, hb, if_neg (by decide), if_pos rfl,
    show 0 + '('.utf8Size = 1 from rfl]
  cases scan 1 .between inside <;> rfl

/-- The tokens of what is found begin with the operator's name, and they close. -/
theorem tokens_of_balanced? {inside rest : List Char} {op : Operator}
    (hop : headWord (inside ++ rest) = op.name.toList)
    (hcut : balanced? 1 .plain (inside ++ rest) = some inside) :
    ∃ p ts, scan 1 .between inside = .ok ((p, .atom op.name.toList) :: ts) ∧
      Closes 1 ((p, .atom op.name.toList) :: ts) := by
  obtain ⟨ts, hts, hclose⟩ := scan_of_balanced? 1 .between hcut
  obtain ⟨front, _, rfl, -⟩ := split_of_balanced? hcut
  rw [headWord_append_of_closing] at hop
  have hname : op.name.toList ≠ [] := by cases op <;> decide
  obtain ⟨p, hp⟩ := (head?_scan_between hts).2 ⟨hname, hop⟩
  obtain ⟨ts', rfl⟩ := List.head?_eq_some_iff.1 hp
  exact ⟨p, ts', hts, hclose⟩

/-- **What is found is read as an application of an operator, unless it is nested too deeply.** -/
theorem yieldsList_parse_of_find? {text command : String} (h : find? text = some command) :
    command.toList <:+: text.toList ∧
      ∃ op : Operator, Expr.YieldsList [.symbol op.name] (Expr.parse command) := by
  obtain ⟨chars, hchars, rfl⟩ := Option.map_eq_some_iff.1 h
  obtain ⟨front, inside, rest, htext, rfl, hstart, hcut⟩ := split_of_findChars? hchars
  obtain ⟨op, hop⟩ := startsWithOperator_iff.1 hstart
  obtain ⟨p, ts, hts, hclose⟩ := tokens_of_balanced? hop hcut
  refine ⟨⟨front, rest, ?_⟩, op, ?_⟩
  · rw [String.toList_ofList, htext]
  · rw [parse_of_opening String.toList_ofList, hts, ← Expr.ofAtom_name]
    exact Expr.yieldsList_of_atom hclose

/-- **A command that can be read is found as a whole**, with any text behind it. -/
theorem findChars?_of_parse {command : String} {inside : List Char} {op : Operator}
    {args : List Expr} (hcommand : command.toList = '(' :: (inside ++ [')']))
    (hparse : Expr.parse command = .ok (.list (.symbol op.name :: args))) (rest : List Char) :
    findChars? (command.toList ++ rest) = some command.toList := by
  rw [parse_of_opening hcommand] at hparse
  cases hts : scan 1 .between (inside ++ [')']) with
  | error e =>
    rw [hts] at hparse
    simp [Except.bind] at hparse
  | ok ts =>
    rw [hts] at hparse
    obtain ⟨hclose, hhead⟩ := Expr.head?_of_ofTokens hparse
    have hword := ((head?_scan_between hts).1 hhead).2
    have hstart : startsWithOperator (inside ++ [')'] ++ rest) = true :=
      startsWithOperator_iff.2 ⟨op, by rw [headWord_append_of_closing, hword]⟩
    rw [hcommand]
    exact findChars?_opening hstart (balanced?_of_scan hts hclose)

/-- **Finding and reading agree.** What is found in a text is a piece of it, and is read as an
application of an operator or fails for its depth alone; and a command that is read as such an
application is found behind any text without an opening parenthesis and before any text at all. -/
theorem find?_agrees_with_parse :
    (∀ text command : String, find? text = some command →
      command.toList <:+: text.toList ∧
        ((∃ (op : Operator) (args : List Expr),
            Expr.parse command = .ok (.list (.symbol op.name :: args))) ∨
          ∃ position fault, Expr.parse command = .error (.malformed position fault) ∧
            fault.message = "expression nested too deeply")) ∧
    (∀ (front command back : String) (op : Operator) (args : List Expr),
      '(' ∉ front.toList → command.toList.head? = some '(' → command.toList.getLast? = some ')' →
      Expr.parse command = .ok (.list (.symbol op.name :: args)) →
      find? (front ++ command ++ back) = some command) := by
  constructor
  · intro text command h
    obtain ⟨hpiece, op, hyields⟩ := yieldsList_parse_of_find? h
    refine ⟨hpiece, ?_⟩
    rcases hyields with ⟨args, hok⟩ | ⟨p, hdeep⟩
    · exact .inl ⟨op, args, hok⟩
    · exact .inr ⟨p, .tooDeep, hdeep, rfl⟩
  · intro front command back op args hfront hopen hclosing hparse
    obtain ⟨tail, htail⟩ := List.head?_eq_some_iff.1 hopen
    obtain ⟨inside, hinside⟩ : ∃ inside, command.toList = '(' :: (inside ++ [')']) := by
      obtain ⟨init, hinit⟩ := List.getLast?_eq_some_iff.1 hclosing
      cases init with
      | nil => rw [hinit] at hopen; simp at hopen
      | cons c init =>
        rw [hinit] at hopen
        obtain rfl : c = '(' := by simpa using hopen
        exact ⟨init, hinit⟩
    rw [find?, String.toList_append, String.toList_append, List.append_assoc,
      findChars?_append_of_not_mem hfront, findChars?_of_parse hinside hparse back.toList]
    simp

/-- A parenthesis in prose before the command, one inside quotes, and an open quote behind it. -/
theorem find?_agrees_with_parse_at_grep :
    (find? "First (briefly): (grep \"f\\\"(\" ) or \"" = some "(grep \"f\\\"(\" )" ∧
      "(grep \"f\\\"(\" )".toList <:+: "First (briefly): (grep \"f\\\"(\" ) or \"".toList ∧
      ((∃ (op : Operator) (args : List Expr),
          Expr.parse "(grep \"f\\\"(\" )" = .ok (.list (.symbol op.name :: args))) ∨
        ∃ position fault, Expr.parse "(grep \"f\\\"(\" )" = .error (.malformed position fault) ∧
          fault.message = "expression nested too deeply")) ∧
    ('(' ∉ "so \") ".toList ∧ "(count (files))".toList.head? = some '(' ∧
      "(count (files))".toList.getLast? = some ')' ∧
      Expr.parse "(count (files))" =
        .ok (.list (.symbol Operator.count.name :: [.list [.symbol "files"]])) ∧
      find? ("so \") " ++ "(count (files))" ++ ") (files)") = some "(count (files))") :=
  ⟨⟨by decide, find?_agrees_with_parse.1 _ _ (by decide)⟩,
    by decide, by decide, by decide, rfl,
    find?_agrees_with_parse.2 "so \") " "(count (files))" ") (files)" .count [.list [.symbol "files"]]
      (by decide) (by decide) (by decide) rfl⟩

end Command

end CodeSnapshot
