import CodeSnapshot.Proofs.Query.OpenLists
import CodeSnapshot.Proofs.Query.WrittenTokens

/-!
# Written forms — the parser reads the whole language, up to its depth

A command is written as a tree of texts, atoms and lists. The parser gives back every such tree that
is not too deep, in whichever way it is written, and it accepts nothing else.

* **`Form`** — the trees; `Form.tokens` and `Form.IsWritten` say how they are written.
* **`Pushes`** — what the tokens of some items do while a list is open: the items go into the list,
  or the first of them that is too deep stops the parser. `pushes_tokens` says that the tokens of
  every form do this, by one lemma for each kind of form.
* **`exists_forms_of_ofTokens`**, **`exists_form_of_ofTokens`** — the converse: what is read has the
  tokens of a form.
* **`parses_written`** — the headline.
-/

namespace CodeSnapshot

open Token

/-! ## Trees -/

/-- What is written: a text, an atom, or a list. -/
inductive Form where
  | text (s : String)
  | atom (a : { chars : List Char // IsAtom chars })
  | list (items : List Form)

namespace Form

mutual

/-- What a form stands for. -/
def toExpr : Form → Expr
  | text s => .text s
  | atom a => .ofAtom a.1
  | list items => .list (toExprs items)

def toExprs : List Form → List Expr
  | [] => []
  | item :: items => item.toExpr :: toExprs items

end

mutual

def tokens : Form → List Token
  | text s => [.text s.toList]
  | atom a => [.atom a.1]
  | list items => .opening :: (tokensAll items ++ [.closing])

def tokensAll : List Form → List Token
  | [] => []
  | item :: items => item.tokens ++ tokensAll items

end

def depth (f : Form) : Nat :=
  f.toExpr.depth

/-- A way to write a form: texts between quotes, atoms as they are and lists in parentheses, with
blanks between the items of a list and, if there are any, in front of and behind everything else. -/
def IsWritten (f : Form) (cs : List Char) : Prop :=
  WrittenOut f.tokens cs

theorem exists_isWritten (f : Form) : ∃ cs, f.IsWritten cs := by
  obtain ⟨cs, hcs⟩ := exists_writtenOut f.tokens
  exact ⟨' ' :: cs, hcs⟩

mutual

theorem isProper_of_mem_tokens (f : Form) : ∀ t ∈ f.tokens, t.IsProper := by
  cases f with
  | text s => exact List.forall_mem_singleton.2 trivial
  | atom a => exact List.forall_mem_singleton.2 a.2
  | list items =>
    show ∀ t ∈ Token.opening :: (tokensAll items ++ [.closing]), t.IsProper
    refine List.forall_mem_cons.2 ⟨trivial, List.forall_mem_append.2 ⟨?_, ?_⟩⟩
    · exact isProper_of_mem_tokensAll items
    · exact List.forall_mem_singleton.2 trivial

theorem isProper_of_mem_tokensAll (items : List Form) : ∀ t ∈ tokensAll items, t.IsProper := by
  cases items with
  | nil => exact nofun
  | cons item items =>
    exact List.forall_mem_append.2
      ⟨isProper_of_mem_tokens item, isProper_of_mem_tokensAll items⟩

end

end Form

namespace Expr

theorem depth_ofAtom (chars : List Char) : (ofAtom chars).depth = 0 := by
  rw [ofAtom]
  split
  · split
    · rfl
    · rfl
  · rfl

theorem depthAll_append (es fs : List Expr) :
    depthAll (es ++ fs) = max (depthAll es) (depthAll fs) := by
  induction es with
  | nil => simp [depthAll]
  | cons e es ih => simp [depthAll, ih, Nat.max_assoc]

/-! ## Tokens with a list open -/

/-- What placed tokens do while a list is open: they put some items into it, if these are not too
deep there, and the parser fails otherwise. -/
def Pushes (stop : Nat) (items : List Expr) (placed : List (Nat × Token)) : Prop :=
  ∀ (l : OpenList) (opened : List OpenList) (rest : List (Nat × Token)),
    opened.length < depthLimit →
    (opened.length + 1 + depthAll items ≤ depthLimit →
      ofTokens stop (l :: opened) (placed ++ rest) =
        ofTokens stop ({ l with items := items.reverse ++ l.items } :: opened) rest) ∧
    (depthLimit < opened.length + 1 + depthAll items →
      ∃ p, ofTokens stop (l :: opened) (placed ++ rest) = .error (.malformed p .tooDeep))

variable {stop p q : Nat} {e : Expr} {items more : List Expr} {placed after : List (Nat × Token)}

theorem pushes_nil : Pushes stop [] [] := by
  intro l opened rest hroom
  refine ⟨fun _ => rfl, fun hdeep => ?_⟩
  simp only [depthAll] at hdeep
  omega

theorem pushes_singleton {t : Token} (hdepth : e.depth = 0)
    (ht : ∀ l opened rest, ofTokens stop (l :: opened) ((p, t) :: rest) =
      ofTokens stop ({ l with items := e :: l.items } :: opened) rest) :
    Pushes stop [e] [(p, t)] := by
  intro l opened rest hroom
  refine ⟨fun _ => ht l opened rest, fun hdeep => ?_⟩
  simp only [depthAll, hdepth] at hdeep
  omega

theorem Pushes.append (h : Pushes stop items placed) (hmore : Pushes stop more after) :
    Pushes stop (items ++ more) (placed ++ after) := by
  intro l opened rest hroom
  rw [depthAll_append, List.append_assoc, List.reverse_append, List.append_assoc]
  obtain ⟨hfits, hdeep⟩ := h l opened (after ++ rest) hroom
  obtain ⟨hfits', hdeep'⟩ := hmore { l with items := items.reverse ++ l.items } opened rest hroom
  -- what stops the parser in front stops it before it comes to the rest
  by_cases hitems : opened.length + 1 + depthAll items ≤ depthLimit
  · rw [hfits hitems]
    exact ⟨fun _ => hfits' (by omega), fun _ => hdeep' (by omega)⟩
  · exact ⟨fun _ => absurd hitems (by omega), fun _ => hdeep (by omega)⟩

/-- The items of a list go into the list, and the list into the one around it. -/
theorem Pushes.list (h : Pushes stop items placed) :
    Pushes stop [.list items] ((p, .opening) :: (placed ++ [(q, .closing)])) := by
  intro l opened rest hroom
  have hdepth : depthAll [Expr.list items] = depthAll items + 1 := Nat.max_zero _
  rw [hdepth, List.cons_append, List.append_assoc, ofTokens_opening]
  by_cases hfull : depthLimit ≤ (l :: opened).length
  · rw [if_pos hfull]
    rw [List.length_cons] at hfull
    exact ⟨fun _ => absurd hfull (by omega), fun _ => ⟨p, rfl⟩⟩
  · rw [if_neg hfull]
    have hroom : (l :: opened).length < depthLimit := Nat.not_le.1 hfull
    obtain ⟨hfits, hdeep⟩ := h ⟨p, []⟩ (l :: opened) ([(q, .closing)] ++ rest) hroom
    rw [List.length_cons] at hfits hdeep
    refine ⟨fun hfit => ?_, fun hdeep' => hdeep (by omega)⟩
    rw [hfits (by omega), List.singleton_append, ofTokens_closing, List.append_nil,
      List.reverse_reverse]
    rfl

/-- What is read in the end is not too deep anywhere. -/
theorem Pushes.of_ok (h : Pushes stop items placed) {l : OpenList} {opened : List OpenList}
    {rest : List (Nat × Token)} (hroom : opened.length < depthLimit)
    (hok : ofTokens stop (l :: opened) (placed ++ rest) = .ok e) :
    ofTokens stop ({ l with items := items.reverse ++ l.items } :: opened) rest = .ok e := by
  obtain ⟨hfits, hdeep⟩ := h l opened rest hroom
  by_cases hdepth : opened.length + 1 + depthAll items ≤ depthLimit
  · rw [← hfits hdepth]
    exact hok
  · obtain ⟨p', hp'⟩ := hdeep (Nat.not_le.1 hdepth)
    rw [hp'] at hok
    cases hok

end Expr

namespace Form

open CodeSnapshot.Expr

variable {stop : Nat} {placed : List (Nat × Token)}

theorem eq_of_map_eq_singleton {t : Token} (h : placed.map (·.2) = [t]) :
    ∃ p, placed = [(p, t)] := by
  obtain ⟨⟨p, t'⟩, rfl, ht⟩ := List.map_eq_singleton_iff.1 h
  obtain rfl : t' = t := ht
  exact ⟨p, rfl⟩

theorem eq_of_map_eq_list {items : List Form} (h : placed.map (·.2) = (list items).tokens) :
    ∃ p inner q, placed = (p, .opening) :: (inner ++ [(q, .closing)]) ∧
      inner.map (·.2) = tokensAll items := by
  obtain ⟨⟨p, t⟩, placed, rfl, ht, hplaced⟩ := List.map_eq_cons_iff.1 h
  obtain ⟨inner, last, rfl, hinner, hlast⟩ := List.map_eq_append_iff.1 hplaced
  obtain ⟨q, rfl⟩ := eq_of_map_eq_singleton hlast
  obtain rfl : t = .opening := ht
  exact ⟨p, inner, q, rfl, hinner⟩

mutual

/-- **The tokens of a form** put the form into the list that is open. -/
theorem pushes_tokens (f : Form) {placed : List (Nat × Token)}
    (hplaced : placed.map (·.2) = f.tokens) : Pushes stop [f.toExpr] placed := by
  cases f with
  | text s =>
    obtain ⟨p, rfl⟩ := eq_of_map_eq_singleton hplaced
    refine pushes_singleton rfl fun l opened rest => ?_
    rw [ofTokens_text, String.ofList_toList]
    rfl
  | atom a =>
    obtain ⟨p, rfl⟩ := eq_of_map_eq_singleton hplaced
    exact pushes_singleton (depth_ofAtom a.1) fun l opened rest =>
      ofTokens_atom stop p l opened rest a.1
  | list items =>
    obtain ⟨p, inner, q, rfl, hitems⟩ := eq_of_map_eq_list hplaced
    exact (pushes_tokensAll items hitems).list

theorem pushes_tokensAll (items : List Form) {placed : List (Nat × Token)}
    (hplaced : placed.map (·.2) = tokensAll items) : Pushes stop (toExprs items) placed := by
  cases items with
  | nil =>
    obtain rfl := List.map_eq_nil_iff.1 hplaced
    exact pushes_nil
  | cons item items =>
    obtain ⟨placed, after, rfl, hitem, hitems⟩ := List.map_eq_append_iff.1 hplaced
    exact (pushes_tokens item hitem).append (pushes_tokensAll items hitems)

end

/-! ## Tokens without a list open -/

/-- **The tokens of a form** are read as the form, or as one that is too deep. -/
theorem ofTokens_tokens (f : Form) (hplaced : placed.map (·.2) = f.tokens) :
    (f.depth ≤ depthLimit → ofTokens stop [] placed = .ok f.toExpr) ∧
    (depthLimit < f.depth → ∃ p, ofTokens stop [] placed = .error (.malformed p .tooDeep)) := by
  cases f with
  | text s =>
    obtain ⟨p, rfl⟩ := eq_of_map_eq_singleton hplaced
    refine ⟨fun _ => ?_, fun hdeep => absurd hdeep (Nat.not_lt_zero _)⟩
    show Except.ok (Expr.text (String.ofList s.toList)) = _
    rw [String.ofList_toList]
    rfl
  | atom a =>
    obtain ⟨p, rfl⟩ := eq_of_map_eq_singleton hplaced
    have hdepth : (atom a).depth = 0 := depth_ofAtom a.1
    refine ⟨fun _ => rfl, fun hdeep => ?_⟩
    rw [hdepth] at hdeep
    exact absurd hdeep (Nat.not_lt_zero _)
  | list items =>
    obtain ⟨p, inner, q, rfl, hitems⟩ := eq_of_map_eq_list hplaced
    have hdepth : (list items).depth = depthAll (toExprs items) + 1 := rfl
    have hpushes : Pushes stop (toExprs items) inner := pushes_tokensAll items hitems
    obtain ⟨hfits, hdeep⟩ := hpushes ⟨p, []⟩ [] [(q, .closing)] (by decide)
    rw [List.length_nil] at hfits hdeep
    rw [hdepth, ofTokens_opening, if_neg (by decide)]
    refine ⟨fun hroom => ?_, fun hdeep' => hdeep (by omega)⟩
    rw [hfits (by omega), ofTokens_closing_last, List.append_nil, List.reverse_reverse]
    rfl

/-! ## What is read -/

/-- **What is read with a list open** has the tokens of the items that the list still gets, and then
its end. -/
theorem exists_forms_of_ofTokens {e : Expr} {l : OpenList} {opened : List OpenList}
    (ts : List (Nat × Token)) (h : ofTokens stop (l :: opened) ts = .ok e)
    (hroom : opened.length < depthLimit) (hproper : ∀ t ∈ ts, t.2.IsProper) :
    ∃ items placed q rest, ts = placed ++ (q, .closing) :: rest ∧
      placed.map (·.2) = tokensAll items := by
  match ts with
  | [] => cases h
  | (q, .closing) :: rest => exact ⟨[], [], q, rest, rfl, rfl⟩
  | (p, .text chars) :: rest =>
    rw [ofTokens_text] at h
    obtain ⟨items, placed, q, rest', rfl, hitems⟩ :=
      exists_forms_of_ofTokens rest h hroom (List.forall_mem_cons.1 hproper).2
    refine ⟨.text (String.ofList chars) :: items, (p, .text chars) :: placed, q, rest', rfl, ?_⟩
    rw [List.map_cons, hitems, tokensAll, tokens, String.toList_ofList]
    rfl
  | (p, .atom chars) :: rest =>
    obtain ⟨hatom, hproper⟩ := List.forall_mem_cons.1 hproper
    rw [ofTokens_atom] at h
    obtain ⟨items, placed, q, rest', rfl, hitems⟩ := exists_forms_of_ofTokens rest h hroom hproper
    refine ⟨.atom ⟨chars, hatom⟩ :: items, (p, .atom chars) :: placed, q, rest', rfl, ?_⟩
    rw [List.map_cons, hitems, tokensAll, tokens]
    rfl
  | (p, .opening) :: rest =>
    rw [ofTokens_opening] at h
    split at h
    · cases h
    · next hfull =>
      have hfull : (l :: opened).length < depthLimit := Nat.not_le.1 hfull
      have hproper := (List.forall_mem_cons.1 hproper).2
      obtain ⟨inner, placed, q, rest', rfl, hinner⟩ :=
        exists_forms_of_ofTokens rest h hfull hproper
      -- the list is complete, and what follows it is read with the one around it
      have h := (pushes_tokensAll inner hinner).of_ok hfull h
      rw [ofTokens_closing] at h
      obtain ⟨items, placed', q', rest, rfl, hitems⟩ := exists_forms_of_ofTokens rest' h hroom
        fun t ht => hproper t (List.mem_append_right _ (List.mem_cons_of_mem _ ht))
      refine ⟨.list inner :: items, (p, .opening) :: (placed ++ (q, .closing) :: placed'), q', rest,
        by simp, ?_⟩
      rw [List.map_cons, List.map_append, List.map_cons, hinner, hitems, tokensAll, tokens]
      simp
  termination_by ts.length

/-- **What is read at all** has the tokens of a form. -/
theorem exists_form_of_ofTokens {e : Expr} {ts : List (Nat × Token)}
    (h : ofTokens stop [] ts = .ok e) (hproper : ∀ t ∈ ts, t.2.IsProper) :
    ∃ f : Form, ts.map (·.2) = f.tokens := by
  match ts with
  | [] => cases h
  | (p, .closing) :: rest => cases h
  | (p, .text chars) :: rest =>
    cases rest with
    | nil => exact ⟨.text (String.ofList chars), by rw [tokens, String.toList_ofList]; rfl⟩
    | cons t rest => cases h
  | (p, .atom chars) :: rest =>
    cases rest with
    | nil => exact ⟨.atom ⟨chars, (List.forall_mem_cons.1 hproper).1⟩, rfl⟩
    | cons t rest => cases h
  | (p, .opening) :: rest =>
    rw [ofTokens_opening, if_neg (by decide)] at h
    obtain ⟨items, placed, q, rest', rfl, hitems⟩ :=
      exists_forms_of_ofTokens rest h (by decide) (List.forall_mem_cons.1 hproper).2
    have h := (pushes_tokensAll items hitems).of_ok (by decide) h
    rw [ofTokens_closing_last] at h
    cases rest' with
    | nil => exact ⟨.list items, by rw [List.map_cons, List.map_append, hitems, tokens]; rfl⟩
    | cons t rest' => cases h

/-! ## Texts -/

variable {f : Form} {cs : List Char}

theorem IsWritten.parse_eq (h : f.IsWritten cs) :
    ∃ stop placed, parse (String.ofList cs) = ofTokens stop [] placed ∧
      placed.map (·.2) = f.tokens := by
  obtain ⟨placed, hscan, hplaced⟩ := scan_of_writtenOut h (isProper_of_mem_tokens f) 0
  refine ⟨(String.ofList cs).utf8ByteSize, placed, ?_, hplaced⟩
  rw [parse, ofChars, String.toList_ofList, hscan]

theorem IsWritten.parse_of_le (h : f.IsWritten cs) (hdepth : f.depth ≤ depthLimit) :
    parse (String.ofList cs) = .ok f.toExpr := by
  obtain ⟨stop, placed, hparse, hplaced⟩ := h.parse_eq
  rw [hparse]
  exact (ofTokens_tokens f hplaced).1 hdepth

theorem IsWritten.parse_of_lt (h : f.IsWritten cs) (hdepth : depthLimit < f.depth) :
    ∃ position, parse (String.ofList cs) = .error (.malformed position .tooDeep) := by
  obtain ⟨stop, placed, hparse, hplaced⟩ := h.parse_eq
  rw [hparse]
  exact (ofTokens_tokens f hplaced).2 hdepth

/-- **What is accepted** has the tokens of a form that is not too deep, and is read as that form. -/
theorem exists_form_of_parse {source : String} {e : Expr} (h : parse source = .ok e) :
    ∃ (placed : List (Nat × Token)) (f : Form),
      ofChars source.toList = .ok placed ∧ placed.map (·.2) = f.tokens ∧
      f.depth ≤ depthLimit ∧ f.toExpr = e := by
  rw [parse] at h
  cases hscan : ofChars source.toList with
  | error fault =>
    rw [hscan] at h
    cases h
  | ok placed =>
    rw [hscan] at h
    have h : ofTokens source.utf8ByteSize [] placed = .ok e := h
    have hproper : ∀ t ∈ placed, t.2.IsProper := isProper_of_scan hscan trivial
    obtain ⟨f, hplaced⟩ := exists_form_of_ofTokens h hproper
    obtain ⟨hfits, hdeep⟩ := ofTokens_tokens f hplaced
    have hdepth : f.depth ≤ depthLimit := by
      apply Nat.not_lt.1
      intro hlt
      obtain ⟨p, hp⟩ := hdeep hlt
      rw [hp] at h
      cases h
    exact ⟨placed, f, rfl, hplaced, hdepth, Except.ok.inj ((hfits hdepth).symm.trans h)⟩

end Form

/-- **The parser reads what is written**, up to its depth, and nothing else. Every form that is not
too deep is read back from whatever it is written with, and every other one is refused as too deep;
and what the parser accepts has the tokens of a form that is not too deep, and is read alike when
these tokens are written in another way. -/
theorem parses_written :
    (∀ f : Form, ∃ cs, f.IsWritten cs) ∧
    (∀ (f : Form) (cs : List Char), f.IsWritten cs →
      (f.depth ≤ Expr.depthLimit → Expr.parse (String.ofList cs) = .ok f.toExpr) ∧
      (Expr.depthLimit < f.depth → ∃ position fault,
        Expr.parse (String.ofList cs) = .error (.malformed position fault) ∧
        fault.message = "expression nested too deeply")) ∧
    ∀ (source : String) (e : Expr), Expr.parse source = .ok e →
      e.depth ≤ Expr.depthLimit ∧
      ∃ (placed : List (Nat × Token)) (f : Form), Token.ofChars source.toList = .ok placed ∧
        placed.map (·.2) = f.tokens ∧ f.toExpr = e ∧
        ∀ cs, f.IsWritten cs → Expr.parse (String.ofList cs) = .ok e := by
  refine ⟨Form.exists_isWritten, fun f cs h => ⟨h.parse_of_le, fun hdepth => ?_⟩, ?_⟩
  · obtain ⟨position, hparse⟩ := h.parse_of_lt hdepth
    exact ⟨position, .tooDeep, hparse, rfl⟩
  · intro source e h
    obtain ⟨placed, f, hscan, hplaced, hdepth, rfl⟩ := Form.exists_form_of_parse h
    exact ⟨hdepth, placed, f, hscan, hplaced, rfl, fun cs hcs => hcs.parse_of_le hdepth⟩

example : Expr.parse " ( grep\t\"\\\\w\\\"\" ()) " =
    .ok (.list [.symbol "grep", .text "\\w\"", .list []]) := by
  rfl

end CodeSnapshot
