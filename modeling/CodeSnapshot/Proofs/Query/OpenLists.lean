import CodeSnapshot.Proofs.Query.TokenBalance
import CodeSnapshot.Query.Parser

/-!
# Open lists — what the parser makes of closing tokens

The parser keeps the lists that are still open on a stack (`Expr.ofTokens`). This module ties the
height of that stack to `Token.Closes`.

* **`yieldsList_of_closes`** — closing tokens are read as a list, which begins with the items that
  the outermost open list has by now; the only way to fail is to nest too deeply.
* **`closes_of_ofTokens`** — the converse: what is read with lists open has closing tokens.
* **`head?_of_ofTokens`** — a list begins with a symbol only if its first token is the atom that the
  symbol is written with.
-/

namespace CodeSnapshot

open Token

namespace Expr

/-- A list that begins with some items, or the failure of too many lists inside each other. -/
def YieldsList (items : List Expr) (r : Except QueryError Expr) : Prop :=
  (∃ more, r = .ok (.list (items ++ more))) ∨ ∃ p, r = .error (.malformed p .tooDeep)

theorem YieldsList.of_append {items more : List Expr} {r : Except QueryError Expr}
    (h : YieldsList (items ++ more) r) : YieldsList items r := by
  rcases h with ⟨more', rfl⟩ | hdeep
  · exact .inl ⟨more ++ more', by rw [List.append_assoc]⟩
  · exact .inr hdeep

/-- The first item that is known is the first item of what is read. -/
theorem YieldsList.head_eq {e e' : Expr} {items args : List Expr}
    (h : YieldsList (e :: items) (.ok (.list (e' :: args)))) : e = e' := by
  rcases h with ⟨more, hmore⟩ | ⟨p, hp⟩
  · exact (List.cons.inj (Expr.list.inj (Except.ok.inj hmore))).1.symm
  · simp at hp

/-! ## One token

What a token does to the stack, while a list is open. -/

section

variable (stop p : Nat) (l : OpenList) (opened : List OpenList) (rest : List (Nat × Token))

theorem ofTokens_text (chars : List Char) :
    ofTokens stop (l :: opened) ((p, .text chars) :: rest) =
      ofTokens stop ({ l with items := .text (String.ofList chars) :: l.items } :: opened) rest := rfl

theorem ofTokens_atom (chars : List Char) :
    ofTokens stop (l :: opened) ((p, .atom chars) :: rest) =
      ofTokens stop ({ l with items := ofAtom chars :: l.items } :: opened) rest := rfl

/-- The innermost list goes into the one around it. -/
theorem ofTokens_closing (outer : OpenList) :
    ofTokens stop (l :: outer :: opened) ((p, .closing) :: rest) =
      ofTokens stop ({ outer with items := .list l.items.reverse :: outer.items } :: opened) rest := rfl

/-- The outermost list is the result, and no token may follow. -/
theorem ofTokens_closing_last :
    ofTokens stop [l] ((p, .closing) :: rest) =
      match rest with
      | [] => .ok (.list l.items.reverse)
      | (p', _) :: _ => .error (.malformed p' .trailingInput) := by
  cases rest <;> rfl

theorem ofTokens_opening :
    ofTokens stop opened ((p, .opening) :: rest) =
      if depthLimit ≤ opened.length then .error (.malformed p .tooDeep)
      else ofTokens stop (⟨p, []⟩ :: opened) rest := by
  cases opened <;> rfl

end

/-! ## Closing tokens are read as a list -/

/-- What the lists that are open inside the outermost one come to: one item of it, if there are any. -/
def innerItems (items : List Expr) : List OpenList → List Expr
  | [] => []
  | _ :: _ => [.list items]

/-- **Closing tokens are read as a list**, which begins with the items of the outermost open list,
and goes on with what the lists inside it come to. Induction on the tokens: the stack is as high as
the number of lists that they close. -/
theorem yieldsList_of_closes (stop : Nat) {ts : List (Nat × Token)} :
    ∀ (inner : List OpenList) (outer : OpenList), Closes (inner.length + 1) ts →
      ∃ items, YieldsList (outer.items.reverse ++ innerItems items inner)
        (ofTokens stop (inner ++ [outer]) ts) := by
  induction ts with
  | nil => exact fun _ _ h => absurd h not_closes_nil
  | cons t rest ih =>
    obtain ⟨p, t⟩ := t
    intro inner outer h
    -- an item of the outermost list stands before all that follow
    have pushOuter (e : Expr) (h : Closes 1 rest) :
        YieldsList (outer.items.reverse ++ [e])
          (ofTokens stop [{ outer with items := e :: outer.items }] rest) := by
      obtain ⟨items, hyields⟩ := ih [] { outer with items := e :: outer.items } h
      rw [List.reverse_cons] at hyields
      exact hyields.of_append
    -- an item that is complete goes into the innermost list, which may be the outermost one
    have push (e : Expr) (h : Closes (inner.length + 1) rest)
        (heq : ∀ l opened, ofTokens stop (l :: opened) ((p, t) :: rest) =
          ofTokens stop ({ l with items := e :: l.items } :: opened) rest) :
        ∃ items, YieldsList (outer.items.reverse ++ innerItems items inner)
          (ofTokens stop (inner ++ [outer]) ((p, t) :: rest)) := by
      cases inner with
      | nil =>
        rw [List.nil_append, heq]
        exact ⟨[], (List.append_nil _).symm ▸ (pushOuter e h).of_append⟩
      | cons l inner =>
        rw [List.cons_append, heq]
        exact ih ({ l with items := e :: l.items } :: inner) outer h
    cases t with
    | text chars =>
      exact push _ h.of_text fun l opened => ofTokens_text stop p l opened rest chars
    | atom chars =>
      exact push _ h.of_atom fun l opened => ofTokens_atom stop p l opened rest chars
    | opening =>
      rw [ofTokens_opening]
      by_cases hdeep : depthLimit ≤ (inner ++ [outer]).length
      · rw [if_pos hdeep]
        exact ⟨[], .inr ⟨p, rfl⟩⟩
      · rw [if_neg hdeep]
        obtain ⟨items, hyields⟩ := ih (⟨p, []⟩ :: inner) outer h.of_opening
        cases inner with
        | nil => exact ⟨[], (List.append_nil _).symm ▸ hyields.of_append⟩
        | cons l inner => exact ⟨items, hyields⟩
    | closing =>
      match inner, h with
      | [], h =>
        obtain rfl := Closes.eq_nil_of_last h
        rw [List.nil_append, ofTokens_closing_last]
        exact ⟨[], .inl ⟨[], by simp [innerItems]⟩⟩
      | [l], h =>
        rw [List.singleton_append, ofTokens_closing]
        exact ⟨l.items.reverse, pushOuter _ h.of_closing⟩
      | l :: l' :: inner, h =>
        rw [List.cons_append, List.cons_append, ofTokens_closing]
        exact ih ({ l' with items := .list l.items.reverse :: l'.items } :: inner) outer h.of_closing

/-! ## What is read as a list has closing tokens -/

/-- **What is read with lists open has closing tokens.** -/
theorem closes_of_ofTokens {stop : Nat} {e : Expr} {ts : List (Nat × Token)} :
    ∀ (l : OpenList) (opened : List OpenList), ofTokens stop (l :: opened) ts = .ok e →
      Closes (opened.length + 1) ts := by
  induction ts with
  | nil =>
    intro l opened h
    cases h
  | cons t rest ih =>
    obtain ⟨p, t⟩ := t
    intro l opened h
    cases t with
    | text chars =>
      rw [ofTokens_text] at h
      exact .text p chars (ih _ _ h)
    | atom chars =>
      rw [ofTokens_atom] at h
      exact .atom p chars (ih _ _ h)
    | opening =>
      rw [ofTokens_opening] at h
      split at h
      · simp at h
      · exact .opening p (ih _ _ h)
    | closing =>
      cases opened with
      | nil =>
        rw [ofTokens_closing_last] at h
        cases rest with
        | nil => exact .last p
        | cons t rest => simp at h
      | cons outer opened =>
        rw [ofTokens_closing] at h
        exact .closing p (ih _ _ h)

/-! ## The head of a list -/

/-- A name that no number begins with is read as itself. -/
theorem ofAtom_name (op : Operator) : ofAtom op.name.toList = .symbol op.name := by
  cases op <;> rfl

theorem eq_toList_of_ofAtom {chars : List Char} {name : String} (h : ofAtom chars = .symbol name) :
    chars = name.toList := by
  have hname : String.ofList chars = name := by
    rw [ofAtom] at h
    split at h
    · split at h
      · simp at h
      · exact Expr.symbol.inj h
    · exact Expr.symbol.inj h
  rw [← hname, String.toList_ofList]

/-- An atom that opens a list is its first item. -/
theorem yieldsList_of_atom {stop p p' : Nat} {chars : List Char} {ts : List (Nat × Token)}
    (h : Closes 1 ((p', .atom chars) :: ts)) :
    YieldsList [ofAtom chars] (ofTokens stop [] ((p, .opening) :: (p', .atom chars) :: ts)) := by
  rw [ofTokens_opening, if_neg (by decide), ofTokens_atom]
  obtain ⟨items, hyields⟩ := yieldsList_of_closes stop [] ⟨p, [ofAtom chars]⟩ h.of_atom
  exact hyields.of_append

/-- **A list begins with a symbol only if it is written with that atom first.** Any other first
token gives a text or a list as the first item, or no item. -/
theorem head?_of_ofTokens {stop p : Nat} {name : String} {args : List Expr}
    {ts : List (Nat × Token)}
    (h : ofTokens stop [] ((p, .opening) :: ts) = .ok (.list (.symbol name :: args))) :
    Closes 1 ts ∧ ∃ p', ts.head? = some (p', .atom name.toList) := by
  rw [ofTokens_opening, if_neg (by decide)] at h
  have hclose := closes_of_ofTokens _ _ h
  refine ⟨hclose, ?_⟩
  match ts, h, hclose with
  | [], _, hclose => exact absurd hclose not_closes_nil
  | (p', .atom chars) :: ts, h, hclose =>
    rw [ofTokens_atom] at h
    obtain ⟨items, hyields⟩ := yieldsList_of_closes stop [] ⟨p, [ofAtom chars]⟩ hclose.of_atom
    have hname : ofAtom chars = .symbol name := YieldsList.head_eq (h ▸ hyields)
    exact ⟨p', by rw [eq_toList_of_ofAtom hname]; rfl⟩
  | (p', .text chars) :: ts, h, hclose =>
    rw [ofTokens_text] at h
    obtain ⟨items, hyields⟩ :=
      yieldsList_of_closes stop [] ⟨p, [.text (String.ofList chars)]⟩ hclose.of_text
    exact absurd (YieldsList.head_eq (h ▸ hyields)) (by simp)
  | (p', .opening) :: ts, h, hclose =>
    rw [ofTokens_opening, if_neg (by simp [depthLimit])] at h
    obtain ⟨items, hyields⟩ := yieldsList_of_closes stop [⟨p', []⟩] ⟨p, []⟩ hclose.of_opening
    exact absurd (YieldsList.head_eq (h ▸ hyields)) (by simp)
  | (p', .closing) :: ts, h, hclose =>
    obtain rfl := hclose.eq_nil_of_last
    rw [ofTokens_closing_last] at h
    simp at h

end Expr

end CodeSnapshot
