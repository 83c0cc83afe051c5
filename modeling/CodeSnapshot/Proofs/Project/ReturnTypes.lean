import CodeSnapshot.Project.Signature
import Mathlib.Data.Bool.AllAny

/-!
# Return types — how far a type is read in front of a function body

Behind the parameters of a function its return type is read up to the brace that opens the body. A brace
can open an object type too, and which of the two it is goes by one flag: whether the type still expects
an operand. Inside of brackets any brace belongs to the type.

* **`nested`** — brackets that nest; `Enclosed` is what stands between two of them.
* **`TypeTerm`** — return types as they are put together, to any depth, and the texts they have.
* **`Passes`** — a text that is read as a whole, whatever follows it; `passes_enclosed` has it for the
  contents of brackets.
* **`TypeTerm.exposes`** — an object type stands behind `is`, outside of all brackets.
* **`TypeTerm.passes_text`**, **`TypeTerm.stops_in_text`** — the headlines: a type that exposes no brace
  is read as a whole, and the reading of one that does stops at a brace inside of it.
-/

namespace CodeSnapshot.Signature

open Text

/-! ## Brackets -/

/-- Whether brackets nest: none is closed that was not opened before, and in the end all of them are
closed. The arrow of a function type is no bracket. -/
def nested (openers closers : List Char) : (opened : Nat) → List Char → Bool
  | opened, [] => opened = 0
  | opened, '=' :: '>' :: rest => nested openers closers opened rest
  | opened, c :: rest =>
    if openers.contains c then nested openers closers (opened + 1) rest
    else if closers.contains c then 0 < opened && nested openers closers (opened - 1) rest
    else nested openers closers opened rest

/-- The characters that say something about the structure of a type. -/
def marks : List Char := openers ++ closers ++ operators ++ [';', '=']

/-! ## Pieces of types -/

/-- Any number of blanks. -/
structure Blanks where
  text : List Char
  blank : ∀ c ∈ text, isBlank c = true

/-- At least one blank. -/
structure Gap extends Blanks where
  ne_nil : text ≠ []

/-- A name, of characters that have no other meaning in types. -/
structure TypeName where
  text : List Char
  ne_nil : text ≠ []
  plain : ∀ c ∈ text, isBlank c = false ∧ c ∉ marks

/-- What stands between two brackets: any text in which brackets of that kind nest. -/
structure Enclosed (opener closer : Char) where
  text : List Char
  balanced : nested [opener] [closer] 0 text = true

/-- The operators that make one type of two. -/
inductive Combination where
  | union
  | intersection

def Combination.mark : Combination → Char
  | union => '|'
  | intersection => '&'

/-! ## Types -/

/-- Whether there is one type, or a list of types. -/
inductive Arity where
  | one
  | list

/-- Types, as they are put together from names and object types, and lists of types. -/
inductive TypeTerm : Arity → Type where
  | named (name : TypeName) : TypeTerm .one
  | object (content : Enclosed '\x7b' '\x7d') : TypeTerm .one
  | array (element : TypeTerm .one) : TypeTerm .one
  | combined (combination : Combination) (left right : TypeTerm .one) : TypeTerm .one
  | applied (name : TypeName) (arguments : TypeTerm .list) : TypeTerm .one
  | function (parameters : Enclosed '(' ')') (space : Blanks) (result : TypeTerm .one) : TypeTerm .one
  | predicate (subject : TypeName) (before behind : Gap) (type : TypeTerm .one) : TypeTerm .one
  | grouped (type : TypeTerm .one) : TypeTerm .one
  | spaced (before : Blanks) (type : TypeTerm .one) (behind : Blanks) : TypeTerm .one
  | last (type : TypeTerm .one) : TypeTerm .list
  | more (type : TypeTerm .one) (others : TypeTerm .list) : TypeTerm .list

abbrev ReturnType := TypeTerm .one

namespace TypeTerm

def text : {arity : Arity} → TypeTerm arity → List Char
  | _, named name => name.text
  | _, object content => '\x7b' :: (content.text ++ ['\x7d'])
  | _, array element => element.text ++ ['[', ']']
  | _, combined combination left right => left.text ++ combination.mark :: right.text
  | _, applied name arguments => name.text ++ '<' :: (arguments.text ++ ['>'])
  | _, function parameters space result =>
    '(' :: (parameters.text ++ [')']) ++ (space.text ++ '=' :: '>' :: result.text)
  | _, predicate subject before behind type =>
    subject.text ++ (before.text ++ ("is".toList ++ (behind.text ++ type.text)))
  | _, grouped type => '(' :: (type.text ++ [')'])
  | _, spaced before type behind => before.text ++ (type.text ++ behind.text)
  | _, last type => type.text
  | _, more type others => type.text ++ ',' :: others.text

/-- Whether the brackets of all kinds, taken together, nest in object types and between the parentheses of
parameters. -/
def nests : {arity : Arity} → TypeTerm arity → Bool
  | _, named _ => true
  | _, object content => nested openers closers 0 content.text
  | _, array element => element.nests
  | _, combined _ left right => left.nests && right.nests
  | _, applied _ arguments => arguments.nests
  | _, function parameters _ result => nested openers closers 0 parameters.text && result.nests
  | _, predicate _ _ _ type => type.nests
  | _, grouped type => type.nests
  | _, spaced _ type _ => type.nests
  | _, last type => type.nests
  | _, more type others => type.nests && others.nests

/-- Whether a type begins with an object type. -/
def opens : {arity : Arity} → TypeTerm arity → Bool
  | _, named _ => false
  | _, object _ => true
  | _, array element => element.opens
  | _, combined _ left _ => left.opens
  | _, applied _ _ => false
  | _, function _ _ _ => false
  | _, predicate _ _ _ _ => false
  | _, grouped _ => false
  | _, spaced _ type _ => type.opens
  | _, last type => type.opens
  | _, more type _ => type.opens

/-- Whether an object type stands directly behind the word `is`, outside of all brackets. -/
def exposes : {arity : Arity} → TypeTerm arity → Bool
  | _, named _ => false
  | _, object _ => false
  | _, array element => element.exposes
  | _, combined _ left right => left.exposes || right.exposes
  | _, applied _ _ => false
  | _, function _ _ result => result.exposes
  | _, predicate _ _ _ type => type.opens || type.exposes
  | _, grouped _ => false
  | _, spaced _ type _ => type.exposes
  | _, last type => type.exposes
  | _, more type others => type.exposes || others.exposes

end TypeTerm

/-! ## Reading character by character -/

section

variable {depth opened : Nat} {expects expects' expects'' : Bool} {c opener closer : Char}
  {rest first second content : List Char}

theorem typeLength_cons (h : ∀ more, c = '=' → rest = '>' :: more → False) :
    typeLength depth expects (c :: rest) =
      if isBlank c then typeLength depth expects rest + 1
      else if c = '\x7b' && depth = 0 && !expects then 0
      else if c = ';' && depth = 0 then 0
      else if openers.contains c then typeLength (depth + 1) expects rest + 1
      else if closers.contains c then typeLength (depth - 1) false rest + 1
      else if operators.contains c then typeLength depth true rest + 1
      else typeLength depth false rest + 1 := by
  rw [typeLength]
  exact h

theorem typeLength_of_isBlank (hc : isBlank c = true) :
    typeLength depth expects (c :: rest) = typeLength depth expects rest + 1 := by
  have hne : c ≠ '=' := by
    rintro rfl
    exact absurd hc (by decide)
  rw [typeLength_cons fun _ h _ => hne h, if_pos hc]

/-- The brace of a body. -/
theorem typeLength_body (rest : List Char) : typeLength 0 false ('\x7b' :: rest) = 0 := by
  rw [typeLength_cons fun _ h _ => absurd h (by decide)]
  rfl

theorem typeLength_of_opener (hc : c ∈ openers) (hin : c = '\x7b' → 0 < depth ∨ expects = true) :
    typeLength depth expects (c :: rest) = typeLength (depth + 1) expects rest + 1 := by
  have hopeners : ∀ c ∈ openers, isBlank c = false ∧ c ≠ '=' ∧ c ≠ ';' :=
    List.all_iff_forall_prop.1 (by decide)
  obtain ⟨hblank, hequal, hsemicolon⟩ := hopeners c hc
  have hbody : (c = '\x7b' && depth = 0 && !expects) = false := by
    by_cases hbrace : c = '\x7b'
    · rcases hin hbrace with hdepth | rfl
      · simp [Nat.ne_of_gt hdepth]
      · simp
    · simp [hbrace]
  rw [typeLength_cons fun _ h _ => hequal h]
  simp [hblank, hbody, hsemicolon, hc]

theorem typeLength_of_closer (hc : c ∈ closers) :
    typeLength depth expects (c :: rest) = typeLength (depth - 1) false rest + 1 := by
  have hclosers : ∀ c ∈ closers,
      isBlank c = false ∧ c ≠ '=' ∧ c ≠ '\x7b' ∧ c ≠ ';' ∧ c ∉ openers :=
    List.all_iff_forall_prop.1 (by decide)
  obtain ⟨hblank, hequal, hbrace, hsemicolon, hopener⟩ := hclosers c hc
  rw [typeLength_cons fun _ h _ => hequal h]
  simp [hblank, hbrace, hsemicolon, hopener, hc]

theorem typeLength_of_operator (hc : c ∈ operators) :
    typeLength depth expects (c :: rest) = typeLength depth true rest + 1 := by
  have hoperators : ∀ c ∈ operators,
      isBlank c = false ∧ c ≠ '=' ∧ c ≠ '\x7b' ∧ c ≠ ';' ∧ c ∉ openers ∧ c ∉ closers :=
    List.all_iff_forall_prop.1 (by decide)
  obtain ⟨hblank, hequal, hbrace, hsemicolon, hopener, hcloser⟩ := hoperators c hc
  rw [typeLength_cons fun _ h _ => hequal h]
  simp [hblank, hbrace, hsemicolon, hopener, hcloser, hc]

theorem typeLength_of_plain (hblank : isBlank c = false) (hc : c ∉ marks) :
    typeLength depth expects (c :: rest) = typeLength depth false rest + 1 := by
  simp only [marks, List.mem_append, List.mem_cons, List.not_mem_nil, or_false, not_or] at hc
  obtain ⟨⟨⟨hopener, hcloser⟩, hoperator⟩, hsemicolon, hequal⟩ := hc
  have hbrace : c ≠ '\x7b' := by
    rintro rfl
    exact hopener (by decide)
  rw [typeLength_cons fun _ h _ => hequal h]
  simp [hblank, hbrace, hsemicolon, hopener, hcloser, hoperator]

/-- Inside of brackets anything that is no bracket is read on from. -/
theorem exists_typeLength_of_not_bracket (depth : Nat) (expects : Bool) (hopener : c ∉ openers)
    (hcloser : c ∉ closers) (h : ∀ more, c = '=' → rest = '>' :: more → False) :
    ∃ expects',
      typeLength (depth + 1) expects (c :: rest) = typeLength (depth + 1) expects' rest + 1 := by
  rw [typeLength_cons h]
  simp only [List.contains_iff_mem, hopener, hcloser]
  simp only [Nat.succ_ne_zero, decide_false, Bool.and_false, Bool.false_and, Bool.false_eq_true,
    if_false]
  split
  · exact ⟨expects, rfl⟩
  · split
    · exact ⟨true, rfl⟩
    · exact ⟨false, rfl⟩

/-! ## Reading a text -/

/-- A text is read as a whole, whatever follows it. What brackets it opens, it closes. -/
def Passes (depth : Nat) (expects : Bool) (text : List Char) (expects' : Bool) : Prop :=
  ∀ rest, typeLength depth expects (text ++ rest) = text.length + typeLength depth expects' rest

theorem passes_nil : Passes depth expects [] expects := fun _ => (Nat.zero_add _).symm

theorem Passes.append (h : Passes depth expects first expects')
    (h' : Passes depth expects' second expects'') : Passes depth expects (first ++ second) expects'' := by
  intro rest
  rw [List.append_assoc, h, h', List.length_append, Nat.add_assoc]

theorem Passes.cons
    (h : ∀ rest, typeLength depth expects (c :: rest) = typeLength depth expects' rest + 1)
    (h' : Passes depth expects' second expects'') : Passes depth expects (c :: second) expects'' := by
  intro rest
  rw [List.cons_append, h, h', List.length_cons]
  omega

theorem passes_blanks (blanks : Blanks) : Passes depth expects blanks.text expects := by
  obtain ⟨text, hblank⟩ := blanks
  show Passes depth expects text expects
  induction text with
  | nil => exact passes_nil
  | cons c text ih =>
    obtain ⟨hc, htext⟩ := List.forall_mem_cons.1 hblank
    exact .cons (fun _ => typeLength_of_isBlank hc) (ih htext)

theorem passes_plain (hne : content ≠ []) (hplain : ∀ c ∈ content, isBlank c = false ∧ c ∉ marks) :
    Passes depth expects content false := by
  induction content generalizing expects with
  | nil => exact absurd rfl hne
  | cons c content ih =>
    obtain ⟨⟨hblank, hc⟩, hcontent⟩ := List.forall_mem_cons.1 hplain
    refine .cons (fun _ => typeLength_of_plain hblank hc) ?_
    by_cases hnil : content = []
    · exact hnil ▸ passes_nil
    · exact ih hnil hcontent

theorem passes_operator (hc : c ∈ operators) (h : Passes depth true second expects') :
    Passes depth expects (c :: second) expects' :=
  .cons (fun _ => typeLength_of_operator hc) h

theorem passes_arrow (h : Passes depth true second expects') :
    Passes depth expects ('=' :: '>' :: second) expects' := by
  intro rest
  rw [List.cons_append, List.cons_append, typeLength, h, List.length_cons, List.length_cons]
  omega

/-- **What stands between two brackets** is read from one to the other. -/
theorem passes_enclosed (hopener : opener ∈ openers) (hcloser : closer ∈ closers)
    (hin : opener = '\x7b' → 0 < depth ∨ expects = true)
    (hcontent : ∀ rest, ∃ expects', typeLength (depth + 1) expects (content ++ closer :: rest) =
      content.length + typeLength (depth + 1) expects' (closer :: rest)) :
    Passes depth expects (opener :: (content ++ [closer])) false := by
  intro rest
  obtain ⟨expects', hread⟩ := hcontent rest
  rw [List.cons_append, List.append_assoc, List.singleton_append, typeLength_of_opener hopener hin, hread,
    typeLength_of_closer hcloser, Nat.add_sub_cancel, List.length_cons, List.length_append,
    List.length_singleton]
  omega

theorem passes_enclosed_of_passes (hopener : opener ∈ openers) (hcloser : closer ∈ closers)
    (hin : opener = '\x7b' → 0 < depth ∨ expects = true)
    (hcontent : Passes (depth + 1) expects content expects') :
    Passes depth expects (opener :: (content ++ [closer])) false :=
  passes_enclosed hopener hcloser hin fun rest => ⟨expects', hcontent (closer :: rest)⟩

/-- Brackets that nest are read from the bracket around them to the one that closes it. Induction along
the nesting: as many brackets as it counts are open in addition. -/
theorem exists_typeLength_of_nested (h : nested openers closers opened content = true)
    (hrest : ∀ more, rest ≠ '>' :: more) (expects : Bool) :
    ∃ expects', typeLength (depth + opened + 1) expects (content ++ rest) =
      content.length + typeLength (depth + 1) expects' rest := by
  fun_induction nested openers closers opened content generalizing expects with
  | case1 opened =>
    obtain rfl : opened = 0 := of_decide_eq_true h
    exact ⟨expects, (Nat.zero_add _).symm⟩
  | case2 opened content ih =>
    obtain ⟨expects', hread⟩ := ih h true
    refine ⟨expects', ?_⟩
    rw [List.cons_append, List.cons_append, typeLength, hread, List.length_cons, List.length_cons]
    omega
  | case3 opened c content harrow hc ih =>
    obtain ⟨expects', hread⟩ := ih h expects
    refine ⟨expects', ?_⟩
    rw [List.cons_append, typeLength_of_opener (List.contains_iff_mem.1 hc) fun _ => .inl (by omega),
      show depth + opened + 1 + 1 = depth + (opened + 1) + 1 by omega, hread, List.length_cons]
    omega
  | case4 opened c content harrow hopener hc ih =>
    obtain ⟨hopened, h⟩ := Bool.and_eq_true_iff.1 h
    obtain ⟨expects', hread⟩ := ih h false
    refine ⟨expects', ?_⟩
    have hopened : 0 < opened := of_decide_eq_true hopened
    rw [List.cons_append, typeLength_of_closer (List.contains_iff_mem.1 hc),
      show depth + opened + 1 - 1 = depth + (opened - 1) + 1 by omega, hread, List.length_cons]
    omega
  | case5 opened c content harrow hopener hcloser ih =>
    have harrow' : ∀ more, c = '=' → content ++ rest = '>' :: more → False := by
      intro more hc hmore
      cases content with
      | nil => exact hrest more hmore
      | cons d content =>
        obtain ⟨rfl, -⟩ := List.cons.inj hmore
        exact harrow content hc rfl
    obtain ⟨between, hstep⟩ := exists_typeLength_of_not_bracket (depth + opened) expects
      (mt List.contains_iff_mem.2 hopener) (mt List.contains_iff_mem.2 hcloser) harrow'
    obtain ⟨expects', hread⟩ := ih h between
    refine ⟨expects', ?_⟩
    rw [List.cons_append, hstep, hread, List.length_cons]
    omega

end

/-! ## Reading a type -/

/-- A text in which the reading stops, at a brace. -/
def Stops (expects : Bool) (text : List Char) : Prop :=
  ∃ front back, text = front ++ '\x7b' :: back ∧
    ∀ rest, typeLength 0 expects (text ++ rest) = front.length

section

variable {expects expects' : Bool} {first second : List Char}

theorem Stops.append (h : Stops expects first) (second : List Char) :
    Stops expects (first ++ second) := by
  obtain ⟨front, back, hfirst, hread⟩ := h
  refine ⟨front, back ++ second, by rw [hfirst, List.append_assoc]; rfl, fun rest => ?_⟩
  rw [List.append_assoc, hread]

theorem Passes.stops (h : Passes 0 expects first expects') (h' : Stops expects' second) :
    Stops expects (first ++ second) := by
  obtain ⟨front, back, rfl, hread⟩ := h'
  refine ⟨first ++ front, back, (List.append_assoc ..).symm, fun rest => ?_⟩
  rw [List.append_assoc, h, hread, List.length_append]

theorem passes_parameters {depth : Nat} {parameters : List Char}
    (h : nested openers closers 0 parameters = true) :
    Passes depth expects ('(' :: (parameters ++ [')'])) false :=
  passes_enclosed (by decide) (by decide) (by simp) fun rest =>
    exists_typeLength_of_nested h (by simp) expects

theorem passes_is {depth : Nat} : Passes depth expects "is".toList false :=
  passes_plain (by decide) (List.all_iff_forall_prop.1 (by decide))

theorem Combination.mark_mem_operators (combination : Combination) : combination.mark ∈ operators := by
  cases combination <;> decide

end

namespace TypeTerm

variable {arity : Arity} {depth : Nat} {expects : Bool}

/-- **A type is read as a whole** inside of brackets, and outside of them if no brace in it can be taken
for that of the body. Induction on the type. -/
theorem passes_text (t : TypeTerm arity) (hnests : t.nests = true)
    (h : depth = 0 → (t.opens = true → expects = true) ∧ t.exposes = false) :
    Passes depth expects t.text false := by
  induction t generalizing depth expects with
  | named name => exact passes_plain name.ne_nil name.plain
  | object content =>
    refine passes_enclosed (by decide) (by decide) (fun _ => ?_) fun rest => ?_
    · rcases Nat.eq_zero_or_pos depth with hdepth | hdepth
      · exact .inr ((h hdepth).1 rfl)
      · exact .inl hdepth
    · exact exists_typeLength_of_nested hnests (by simp) expects
  | array element ih =>
    exact (ih hnests h).append (passes_enclosed_of_passes (by decide) (by decide) (by simp) passes_nil)
  | combined combination left right ihleft ihright =>
    obtain ⟨hleft, hright⟩ := Bool.and_eq_true_iff.1 hnests
    have hexposes (hdepth : depth = 0) := Bool.or_eq_false_iff.1 (h hdepth).2
    have hfirst := ihleft hleft fun hdepth => ⟨(h hdepth).1, (hexposes hdepth).1⟩
    have hsecond : Passes depth true right.text false :=
      ihright hright fun hdepth => ⟨fun _ => rfl, (hexposes hdepth).2⟩
    exact hfirst.append (passes_operator combination.mark_mem_operators hsecond)
  | applied name arguments ih =>
    have harguments : Passes (depth + 1) false arguments.text false := ih hnests (by simp)
    exact (passes_plain name.ne_nil name.plain).append
      (passes_enclosed_of_passes (by decide) (by decide) (by simp) harguments)
  | function parameters space result ih =>
    obtain ⟨hparameters, hresult⟩ := Bool.and_eq_true_iff.1 hnests
    have hsecond : Passes depth true result.text false :=
      ih hresult fun hdepth => ⟨fun _ => rfl, (h hdepth).2⟩
    exact (passes_parameters hparameters).append ((passes_blanks space).append (passes_arrow hsecond))
  | predicate subject before behind type ih =>
    have hexposes (hdepth : depth = 0) := Bool.or_eq_false_iff.1 (h hdepth).2
    have htype : Passes depth false type.text false := ih hnests fun hdepth =>
      ⟨fun hopens => absurd hopens (Bool.eq_false_iff.1 (hexposes hdepth).1), (hexposes hdepth).2⟩
    exact (passes_plain subject.ne_nil subject.plain).append ((passes_blanks before.toBlanks).append
      (passes_is.append ((passes_blanks behind.toBlanks).append htype)))
  | grouped type ih =>
    have htype : Passes (depth + 1) expects type.text false := ih hnests (by simp)
    exact passes_enclosed_of_passes (by decide) (by decide) (by simp) htype
  | spaced before type behind ih =>
    exact (passes_blanks before).append ((ih hnests h).append (passes_blanks behind))
  | last type ih => exact ih hnests h
  | more type others ih ihothers =>
    obtain ⟨htype, hothers⟩ := Bool.and_eq_true_iff.1 hnests
    have hexposes (hdepth : depth = 0) := Bool.or_eq_false_iff.1 (h hdepth).2
    have hfirst := ih htype fun hdepth => ⟨(h hdepth).1, (hexposes hdepth).1⟩
    have hsecond : Passes depth true others.text false :=
      ihothers hothers fun hdepth => ⟨fun _ => rfl, (hexposes hdepth).2⟩
    exact hfirst.append (passes_operator (by decide) hsecond)

/-- The reading stops in one of two types with an operator between them. -/
theorem stops_of_operator {left : TypeTerm arity} {mark : Char} {second : List Char} {exposed : Bool}
    (hleft : left.nests = true) (hmark : mark ∈ operators)
    (ihleft : left.opens = true ∧ expects = false ∨ left.exposes = true → Stops expects left.text)
    (ihsecond : exposed = true → Stops true second)
    (h : left.opens = true ∧ expects = false ∨ (left.exposes || exposed) = true) :
    Stops expects (left.text ++ mark :: second) := by
  by_cases hstops : left.opens = true ∧ expects = false ∨ left.exposes = true
  · exact (ihleft hstops).append _
  · obtain ⟨hopens, hexposes⟩ := not_or.1 hstops
    have hpasses : Passes 0 expects left.text false := left.passes_text hleft fun _ =>
      ⟨fun h => by simpa [h] using hopens, Bool.eq_false_iff.2 hexposes⟩
    have hoperator : Passes 0 false [mark] true := passes_operator hmark passes_nil
    have hexposed := (Bool.or_eq_true_iff.1 (h.resolve_left hopens)).resolve_left hexposes
    exact hpasses.stops (hoperator.stops (ihsecond hexposed))

/-- **The reading stops in a type** that exposes a brace, and where an operand is not expected, in one
that begins with an object type. Induction on the type. -/
theorem stops_in_text (t : TypeTerm arity) (hnests : t.nests = true)
    (h : t.opens = true ∧ expects = false ∨ t.exposes = true) : Stops expects t.text := by
  induction t generalizing expects with
  | named name => simp [opens, exposes] at h
  | object content =>
    rcases h with ⟨-, rfl⟩ | hexposes
    · exact ⟨[], content.text ++ ['\x7d'], rfl, fun rest => typeLength_body _⟩
    · cases hexposes
  | array element ih => exact (ih hnests h).append _
  | combined combination left right ihleft ihright =>
    obtain ⟨hleft, hright⟩ := Bool.and_eq_true_iff.1 hnests
    exact stops_of_operator hleft combination.mark_mem_operators (ihleft hleft)
      (fun hexposed => ihright hright (.inr hexposed)) h
  | applied name arguments ih => simp [opens, exposes] at h
  | function parameters space result ih =>
    obtain ⟨hparameters, hresult⟩ := Bool.and_eq_true_iff.1 hnests
    have hresult : Stops true result.text := ih hresult (.inr (h.resolve_left (by simp [opens])))
    have harrow : Passes 0 false ['=', '>'] true := passes_arrow passes_nil
    exact (passes_parameters hparameters).stops ((passes_blanks space).stops (harrow.stops hresult))
  | predicate subject before behind type ih =>
    have htype : Stops false type.text := ih hnests
      ((Bool.or_eq_true_iff.1 (h.resolve_left (by simp [opens]))).imp_left fun hopens => ⟨hopens, rfl⟩)
    exact (passes_plain subject.ne_nil subject.plain).stops ((passes_blanks before.toBlanks).stops
      (passes_is.stops ((passes_blanks behind.toBlanks).stops htype)))
  | grouped type ih => simp [opens, exposes] at h
  | spaced before type behind ih => exact (passes_blanks before).stops ((ih hnests h).append _)
  | last type ih => exact ih hnests h
  | more type others ih ihothers =>
    obtain ⟨htype, hothers⟩ := Bool.and_eq_true_iff.1 hnests
    exact stops_of_operator htype (by decide) (ih htype)
      (fun hexposed => ihothers hothers (.inr hexposed)) h

end TypeTerm

end CodeSnapshot.Signature
