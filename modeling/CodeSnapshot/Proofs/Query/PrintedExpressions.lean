import CodeSnapshot.Proofs.Decimal.WrittenNumbers
import CodeSnapshot.Proofs.Query.PrintedTokens
import CodeSnapshot.Proofs.Query.WrittenForms

/-!
# Printed expressions — what a printed expression is read back as

An expression is printed with its texts quoted and its numbers written in full. What is printed can
always be read, but it is not always the same expression.

* **`Expr.reread`** — what an expression is read back as; **`Expr.Legible`** — the expressions that
  are read back as themselves.
* **`ofAtom_toText`** — a number is read back, if it is finite.
* **`Form.exists_reads`** — what is printed for a form is cut into the tokens of another one.
* **`Expr.parse_render`** — the headline, for whatever can be parsed.
-/

namespace CodeSnapshot

open Token

namespace Expr

mutual

/-- What an expression is read back as. -/
def reread : Expr → Expr
  | text s => text (String.ofList (s.toList.flatMap Text.rereadChar))
  | number x => if x.isFinite then number x else symbol (String.ofList x.toText)
  | symbol name => symbol name
  | list items => list (rereadAll items)

def rereadAll : List Expr → List Expr
  | [] => []
  | item :: items => item.reread :: rereadAll items

end

/-- An expression whose texts show all their characters, but for tabs and line ends, and whose
numbers are finite. -/
inductive Legible : Expr → Prop where
  | text (s : String) (h : ∀ c ∈ s.toList, Text.IsLegible c) : Legible (text s)
  | number (x : Double) (h : x.isFinite = true) : Legible (number x)
  | symbol (name : String) : Legible (symbol name)
  | list (items : List Expr) (h : ∀ item ∈ items, Legible item) : Legible (list items)

end Expr

/-! ## Numbers -/

namespace Expr

theorem isAtom_toText (x : Double) : IsAtom x.toText := by
  by_cases hx : x.isFinite = true
  · rw [Double.toText_of_isFinite hx]
    obtain ⟨r, htext, -⟩ := Decimal.isPlainText_writeInFull (of_decide_eq_true hx)
    obtain ⟨c, rest, hcons, -⟩ := htext.exists_cons
    have hplain : ∀ d ∈ Decimal.binary64.writeInFull x.magnitude, isDelimiter d = false := by
      intro d hd
      rcases htext.isDigit_or_eq_of_mem hd with hdigit | rfl
      · exact isDelimiter_of_isDigit hdigit
      · rfl
    split
    · exact IsAtom.cons hplain rfl
    · exact ⟨by rw [hcons]; exact List.cons_ne_nil c rest, hplain⟩
  · have hword {word : List Char} (hne : word ≠ [])
        (hplain : word.all (! isDelimiter ·) = true) : IsAtom word :=
      ⟨hne, fun c hc => by simpa using List.all_eq_true.1 hplain c hc⟩
    rcases Double.toText_of_not_isFinite hx with h | h | h
    all_goals
      rw [h]
      exact hword (List.cons_ne_nil _ _) rfl

theorem startsNumeric_of_isDigit {c : Char} (rest : List Char) (hc : Decimal.isDigit c = true) :
    startsNumeric (c :: rest) = true ∧ startsNumeric ('-' :: c :: rest) = true := by
  refine ⟨?_, hc⟩
  unfold startsNumeric
  split
  · next heq =>
    obtain ⟨rfl, -⟩ := List.cons.inj heq
    cases hc
  · next heq =>
    obtain ⟨rfl, -⟩ := List.cons.inj heq
    exact hc
  · next heq => cases heq

/-- A number that is not finite is printed as a word, and read back as a symbol. -/
theorem ofAtom_toText (x : Double) : ofAtom x.toText = (number x).reread := by
  rw [reread]
  by_cases hx : x.isFinite = true
  · have hstarts : startsNumeric x.toText = true := by
      obtain ⟨r, htext, -⟩ := Decimal.isPlainText_writeInFull (of_decide_eq_true hx)
      obtain ⟨c, rest, hcons, hc⟩ := htext.exists_cons
      obtain ⟨hplain, hminus⟩ := startsNumeric_of_isDigit rest hc
      rw [Double.toText_of_isFinite hx, hcons]
      split
      · exact hminus
      · exact hplain
    rw [if_pos hx, ofAtom, if_pos hstarts, Double.ofText?_toText hx]
  · have hstarts : startsNumeric x.toText = false := by
      rcases Double.toText_of_not_isFinite hx with h | h | h
      all_goals
        rw [h]
        rfl
    rw [if_neg hx, ofAtom, hstarts]
    rfl

theorem ofAtom_cases (chars : List Char) :
    (∃ x, ofAtom chars = number x) ∨ ofAtom chars = symbol (String.ofList chars) := by
  rw [ofAtom]
  split
  · split
    · next x hx => exact .inl ⟨x, rfl⟩
    · exact .inr rfl
  · exact .inr rfl

end Expr

/-! ## Expressions -/

namespace Form

open CodeSnapshot.Expr

mutual

/-- **What is printed for a form** is cut into the tokens of what it is read back as. -/
theorem exists_reads (f : Form) :
    ∃ g : Form, g.toExpr = f.toExpr.reread ∧ Reads f.toExpr.render.toList g.tokens := by
  cases f with
  | text s =>
    refine ⟨.text (String.ofList (s.toList.flatMap Text.rereadChar)), rfl, ?_⟩
    rw [tokens, String.toList_ofList]
    show Reads (Text.quoted s).toList _
    rw [Text.quoted, String.toList_ofList]
    exact .text s.toList
  | atom a =>
    rw [toExpr]
    rcases ofAtom_cases a.1 with ⟨x, hx⟩ | hsymbol
    · refine ⟨.atom ⟨x.toText, isAtom_toText x⟩, ?_, ?_⟩
      · rw [hx]
        exact ofAtom_toText x
      · rw [hx, render, String.toList_ofList]
        exact .atom (isAtom_toText x)
    · refine ⟨.atom a, ?_, ?_⟩
      · rw [toExpr, hsymbol, reread]
      · rw [hsymbol, render, String.toList_ofList]
        exact .atom a.2
  | list items =>
    obtain ⟨gs, hgs, hreads⟩ := exists_reads_all items
    refine ⟨.list gs, ?_, ?_⟩
    · rw [toExpr, toExpr, reread, hgs]
    · have hrender : (toExpr (.list items)).render.toList =
          '(' :: ((" ".intercalate (renderAll (toExprs items))).toList ++ [')']) := by
        rw [toExpr, render, String.toList_append, String.toList_append]
        rfl
      rw [hrender]
      exact hreads.list

theorem exists_reads_all (items : List Form) :
    ∃ gs : List Form, toExprs gs = rereadAll (toExprs items) ∧
      Reads (" ".intercalate (renderAll (toExprs items))).toList (tokensAll gs) := by
  match items with
  | [] => exact ⟨[], rfl, by simpa [toExprs, renderAll, tokensAll] using Reads.nil⟩
  | [f] =>
    obtain ⟨g, hg, hreads⟩ := exists_reads f
    refine ⟨[g], by simp [toExprs, rereadAll, hg], ?_⟩
    simpa [toExprs, renderAll, tokensAll] using hreads
  | f :: f' :: items =>
    obtain ⟨g, hg, hreads⟩ := exists_reads f
    obtain ⟨gs, hgs, hreads'⟩ := exists_reads_all (f' :: items)
    refine ⟨g :: gs, by rw [toExprs, hg, hgs]; rfl, ?_⟩
    have hrender : (" ".intercalate (renderAll (toExprs (f :: f' :: items)))).toList =
        f.toExpr.render.toList ++ ' ' ::
          (" ".intercalate (renderAll (toExprs (f' :: items)))).toList := by
      simp [toExprs, renderAll]
    rw [hrender]
    exact hreads.append hreads'

end

end Form

namespace Expr

mutual

theorem depth_reread (e : Expr) : e.reread.depth = e.depth := by
  cases e with
  | text | symbol => rfl
  | number x =>
    rw [reread]
    split
    · rfl
    · rfl
  | list items => rw [reread, depth, depth, depthAll_rereadAll]

theorem depthAll_rereadAll (items : List Expr) : depthAll (rereadAll items) = depthAll items := by
  cases items with
  | nil => rfl
  | cons item items => rw [rereadAll, depthAll, depthAll, depth_reread, depthAll_rereadAll]

end

theorem flatMap_rereadChar_eq_iff (cs : List Char) :
    cs.flatMap Text.rereadChar = cs ↔ ∀ c ∈ cs, Text.IsLegible c := by
  induction cs with
  | nil => simp
  | cons c cs ih =>
    rw [List.forall_mem_cons, ← ih, ← Text.rereadChar_eq_iff, List.flatMap_cons]
    constructor
    · intro h
      -- no character is read back as nothing, so that none can make up for another
      have hlength := congrArg List.length h
      have hhead : (Text.rereadChar c).length = 1 := by
        have hcs := Text.length_le_length_flatMap_rereadChar cs
        have hc := Text.length_rereadChar_pos c
        rw [List.length_append, List.length_cons] at hlength
        omega
      obtain ⟨d, hd⟩ := List.length_eq_one_iff.1 hhead
      rw [hd] at h ⊢
      obtain ⟨rfl, hcs⟩ := List.cons.inj h
      exact ⟨rfl, hcs⟩
    · rintro ⟨hc, hcs⟩
      rw [hc, hcs]
      rfl

mutual

theorem reread_eq_iff (e : Expr) : e.reread = e ↔ e.Legible := by
  cases e with
  | text s =>
    rw [reread, Expr.text.injEq, ← String.toList_inj, String.toList_ofList,
      flatMap_rereadChar_eq_iff]
    exact ⟨.text s, fun | .text _ h => h⟩
  | number x =>
    rw [reread]
    split
    · next hx => exact ⟨fun _ => .number x hx, fun _ => rfl⟩
    · next hx => exact ⟨nofun, fun | .number _ h => absurd h hx⟩
  | symbol name => exact ⟨fun _ => .symbol name, fun _ => rfl⟩
  | list items =>
    rw [reread, Expr.list.injEq, rereadAll_eq_iff]
    exact ⟨.list items, fun | .list _ h => h⟩

theorem rereadAll_eq_iff (items : List Expr) :
    rereadAll items = items ↔ ∀ item ∈ items, item.Legible := by
  cases items with
  | nil => simp [rereadAll]
  | cons item items =>
    rw [rereadAll, List.cons.injEq, reread_eq_iff, rereadAll_eq_iff, List.forall_mem_cons]

end

mutual

theorem legible_reread (e : Expr) : e.reread.Legible := by
  cases e with
  | text s =>
    refine .text _ fun d hd => ?_
    rw [String.toList_ofList] at hd
    obtain ⟨c, -, hd⟩ := List.mem_flatMap.1 hd
    exact Text.isLegible_of_mem_rereadChar hd
  | number x =>
    rw [reread]
    split
    · next hx => exact .number x hx
    · exact .symbol _
  | symbol name => exact .symbol name
  | list items => exact .list _ (legible_rereadAll items)

theorem legible_rereadAll (items : List Expr) : ∀ item ∈ rereadAll items, item.Legible := by
  cases items with
  | nil => exact nofun
  | cons item items =>
    exact List.forall_mem_cons.2 ⟨legible_reread item, legible_rereadAll items⟩

end

/-- **What can be parsed can be printed and parsed again.** It comes back as itself exactly if its
texts show all their characters, but for tabs and line ends, and its numbers are finite; and what
comes back has only such texts and numbers. -/
theorem parse_render {source : String} {e : Expr} (h : parse source = .ok e) :
    parse e.render = .ok e.reread ∧ (e.reread = e ↔ e.Legible) ∧ e.reread.Legible := by
  obtain ⟨-, f, -, -, hdepth, rfl⟩ := Form.exists_form_of_parse h
  obtain ⟨g, hg, hreads⟩ := f.exists_reads
  obtain ⟨next, placed, hplaced, hscan⟩ := hreads 0 [] nofun
  have hgdepth : g.depth ≤ depthLimit := by
    rw [Form.depth, hg, depth_reread]
    exact hdepth
  refine ⟨?_, reread_eq_iff _, legible_reread _⟩
  rw [List.append_nil, scan_between_nil] at hscan
  rw [parse, ofChars, hscan]
  show ofTokens _ [] (placed ++ []) = _
  rw [List.append_nil, (Form.ofTokens_tokens g hplaced).1 hgdepth, hg]

theorem parse_render_of_take :
    let e : Expr := .list [.symbol "take", .list [.symbol "grep", .text "a\t\\w"],
      .number ⟨0x4004000000000000⟩]
    parse "(take (grep \"a\\t\\w\") 2.50)" = .ok e ∧
      parse e.render = .ok e.reread ∧ (e.reread = e ↔ e.Legible) ∧ e.reread.Legible := by
  intro e
  have h : parse "(take (grep \"a\\t\\w\") 2.50)" = .ok e := by rfl
  exact ⟨h, parse_render h⟩

/-- A carriage return is printed as an escape that is not read, and a number that is too large as a
word. -/
theorem not_parse_render_of_hidden :
    parse "\"\r\"" = .ok (.text "\r") ∧ (Expr.text "\r").render = "\"\\r\"" ∧
      parse "\"\\r\"" = .ok (.text "\\r") ∧ Expr.text "\\r" ≠ .text "\r" ∧
      parse "1e999" = .ok (.number .infinity) ∧ (Expr.number .infinity).render = "inf" ∧
      parse "inf" = .ok (.symbol "inf") := by
  refine ⟨rfl, rfl, rfl, ?_, rfl, rfl, rfl⟩
  simp

end Expr

end CodeSnapshot
