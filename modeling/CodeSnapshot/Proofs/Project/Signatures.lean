import CodeSnapshot.Proofs.Project.FunctionHeads

/-!
# Signatures — what is recorded of a function head

The signature of an exported function is its declaration up to the brace of the body, on one line. It ends
where the parentheses of the parameters and then the return type have been read, and so it is the whole
declaration exactly if the return type is read as a whole.

* **`throughParameters?_eq`** — the parameters are read up to the parenthesis that closes them.
* **`collapse_opening`** — the words in front of a declaration, and the blanks around it, are left out.
* **`count_collapse`** — on one line a text has the same characters, apart from blanks.
* **`ofDeclaration?_text`** — the signature of a head, by how far its return type is read.
* **`signature_eq_iff`** — the headline: which heads have the whole declaration for a signature.
-/

namespace CodeSnapshot

open Pattern Statement Text
open Signature (Blanks Gap ReturnType Enclosed)

namespace Signature

/-! ## Parameters -/

section

variable {c : Char} {opened : Nat} {content rest : List Char}

theorem throughClose?_of_ne (hopener : c ≠ '(') (hcloser : c ≠ ')') :
    throughClose? opened (c :: rest) = (throughClose? opened rest).map (· + 1) := by
  rw [throughClose?]
  · exact hopener
  · exact hcloser

/-- Parentheses that nest are read up to the one that closes those around them. -/
theorem throughClose?_of_nested (h : nested ['('] [')'] opened content = true) :
    throughClose? (opened + 1) (content ++ ')' :: rest) = some (content.length + 1) := by
  fun_induction nested ['('] [')'] opened content with
  | case1 opened =>
    obtain rfl : opened = 0 := of_decide_eq_true h
    rfl
  | case2 opened content ih =>
    rw [List.cons_append, List.cons_append, throughClose?_of_ne (by decide) (by decide),
      throughClose?_of_ne (by decide) (by decide), ih h]
    rfl
  | case3 opened c content harrow hc ih =>
    obtain rfl := List.mem_singleton.1 (List.contains_iff_mem.1 hc)
    rw [List.cons_append, throughClose?, ih h]
    rfl
  | case4 opened c content harrow hopener hc ih =>
    obtain rfl := List.mem_singleton.1 (List.contains_iff_mem.1 hc)
    obtain ⟨hopened, h⟩ := Bool.and_eq_true_iff.1 h
    obtain ⟨opened, rfl⟩ := Nat.exists_eq_add_one.2 (of_decide_eq_true hopened)
    have hread := ih h
    rw [Nat.add_sub_cancel] at hread
    rw [List.cons_append, throughClose?, if_neg (by omega), Nat.add_sub_cancel, hread]
    rfl
  | case5 opened c content harrow hopener hcloser ih =>
    rw [List.cons_append, throughClose?_of_ne (by simpa using hopener) (by simpa using hcloser), ih h]
    rfl

/-- **The parameters** are read up to the parenthesis that closes them. -/
theorem throughParameters?_eq {generics : List Char} (hopen : '(' ∉ generics)
    (parameters : Enclosed '(' ')') (rest : List Char) :
    throughParameters? (generics ++ '(' :: (parameters.text ++ ')' :: rest)) =
      some (generics.length + parameters.text.length + 2) := by
  have hfront : (generics ++ '(' :: (parameters.text ++ ')' :: rest)).takeWhile (· ≠ '(') = generics := by
    refine (span_append (fun c hc => ?_) ?_).1
    · have hne : c ≠ '(' := by
        rintro rfl
        exact hopen hc
      simpa using hne
    · rintro _ ⟨⟩
      rfl
  rw [throughParameters?, hfront, List.drop_left, throughClose?,
    throughClose?_of_nested parameters.balanced]
  simp only [Option.map_some, Option.some.injEq]
  omega

end

/-! ## One line -/

theorem trimStart_append {blanks text : List Char} (hblanks : ∀ c ∈ blanks, isBlank c = true)
    (htext : ∀ c ∈ text.head?, isBlank c = false) : trimStart (blanks ++ text) = text :=
  (span_append hblanks htext).2

theorem dropWord_append (w : String) (text : List Char) :
    dropWord w (w.toList ++ text) = trimStart text := by
  rw [dropWord, after?_eq_some_iff.2 rfl]
  rfl

theorem collapse_trimEnd (text : List Char) : collapse (trimEnd text) = collapse text := by
  rw [collapse, words_trimEnd]
  rfl

/-- **On one line** a text has the same characters, apart from blanks. -/
theorem count_collapse {c : Char} (hc : isBlank c = false) (text : List Char) :
    (collapse text).toList.count c = text.count c := by
  have hspace : c ≠ ' ' := by
    rintro rfl
    exact absurd hc (by decide)
  have hgo (pieces : List (List Char)) : ([' '].intercalate pieces).count c = pieces.flatten.count c := by
    induction pieces with
    | nil => rfl
    | cons piece pieces ih =>
      cases pieces with
      | nil => simp
      | cons next pieces =>
        have hnone : [' '].count c = 0 := List.count_eq_zero_of_not_mem (by simpa using hspace)
        rw [List.intercalate_cons_cons, List.count_append, List.count_append, hnone, ih]
        exact List.count_append.symm
  have hpieces (pieces : List (List Char)) : (pieces.map String.ofList).map String.toList = pieces := by
    simp [Function.comp_def]
  rw [collapse, joined, String.toList_intercalate, hpieces]
  exact (hgo (words text)).trans (count_flatten_words hc text)

end Signature

namespace ExportRecord

/-! ## The words in front of a declaration -/

theorem marker_unindented {w : String} (hw : Unindented w.toList) (gap : Option Gap) {c : Char}
    (hc : isBlank c = false) (text : List Char) :
    ∀ d ∈ (marker w gap ++ c :: text).head?, isBlank d = false := by
  rcases marker_cases w gap with hnone | ⟨blanks, -, -, hsome⟩
  · rw [hnone]
    rintro _ ⟨⟩
    exact hc
  · rw [hsome, List.append_assoc]
    exact hw.not_isBlank _

/-- A word that may be there is left out, with the blanks behind it. -/
theorem dropWord_marker (w : String) (gap : Option Gap) {c : Char} (hc : isBlank c = false)
    (hother : ∀ d ∈ w.toList.head?, d ≠ c) (hw : w.toList ≠ []) (text : List Char) :
    Signature.dropWord w (marker w gap ++ c :: text) = c :: text := by
  rcases marker_cases w gap with hnone | ⟨blanks, -, hblanks, hsome⟩
  · have hafter : after? w.toList (c :: text) = none := by
      refine Option.eq_none_iff_forall_ne_some.2 fun rest hrest => ?_
      obtain ⟨d, word, hword⟩ := List.exists_cons_of_ne_nil hw
      rw [after?_eq_some_iff, hword] at hrest
      exact hother d (by rw [hword]; rfl) (List.cons.inj hrest).1.symm
    rw [hnone, List.nil_append, Signature.dropWord, hafter]
    exact trimStart_cons_of_not_blank text hc
  · rw [hsome, List.append_assoc, Signature.dropWord_append, Signature.trimStart_append hblanks]
    rintro _ ⟨⟩
    exact hc

namespace FunctionHead

variable (head : FunctionHead) {body : List Char}

theorem trim_opening {c : Char} (hc : isBlank c = false) (text : List Char) :
    trim (head.opening ++ c :: text) = "export".toList ++ (head.exportGap.text ++
      (marker "default" head.defaultGap ++ c :: trimEnd text)) := by
  have hmargin : ∀ c ∈ head.margin, isBlank c = true := by
    intro c hc
    rcases head.margin_indents c hc with rfl | rfl <;> rfl
  have hexport : Unindented "export".toList := by decide
  have hstart : trimStart (head.opening ++ c :: text) = "export".toList ++ (head.exportGap.text ++
      (marker "default" head.defaultGap ++ c :: text)) := by
    rw [opening, List.append_assoc, Signature.trimStart_append hmargin]
    · simp only [List.append_assoc]
    · rw [List.append_assoc]
      exact hexport.not_isBlank _
  rw [trim, hstart, ← List.append_assoc, ← List.append_assoc, trimEnd_append _ hc]
  simp only [List.append_assoc]

/-- **The words in front of a declaration** are left out, and so are the blanks around it. -/
theorem collapse_opening (behind : List Char) :
    Signature.collapse (Signature.dropWord "default" (Signature.dropWord "export"
      (trim (head.opening ++ (head.named ++ behind))))) = Signature.collapse (head.named ++ behind) := by
  -- the declaration begins with a character that nothing is taken off from
  obtain ⟨c, more, hnamed, hblank, hd⟩ := head.exists_named_eq_cons
  have hdeclared : head.named ++ behind = c :: (more ++ behind) := by rw [hnamed]; rfl
  have hother : ∀ d ∈ "default".toList.head?, d ≠ c := by
    rintro _ ⟨⟩
    exact hd.symm
  have hexported := Signature.trimStart_append head.exportGap.blank
    (marker_unindented unindented_default head.defaultGap hblank (trimEnd (more ++ behind)))
  rw [hdeclared, head.trim_opening hblank, Signature.dropWord_append, hexported,
    dropWord_marker _ _ hblank hother (by decide), ← Signature.collapse_trimEnd (c :: (more ++ behind))]
  exact congrArg Signature.collapse (trimEnd_append [] hblank _).symm

/-- The name ends where the parameters begin. -/
theorem called_apart (behind : List Char) :
    ∀ c ∈ (head.called ++ behind).head?, nameChar.contains c = false := by
  rw [called, List.append_assoc]
  cases hgenerics : head.generics with
  | nil =>
    rintro _ ⟨⟩
    decide
  | cons d generics =>
    rintro _ ⟨⟩
    exact head.generics_apart d (by rw [hgenerics]; rfl)

/-- A head up to the parenthesis that closes its parameters. -/
def throughParameters : List Char :=
  head.opening ++ head.named ++ (head.generics ++ '(' :: (head.parameters.text ++ [')']))

theorem throughParameters_append (behind : List Char) :
    head.throughParameters ++ (head.space.text ++ ':' :: behind) =
      head.opening ++ (head.named ++ (head.called ++ behind)) := by
  simp only [throughParameters, called, List.append_assoc, List.cons_append, List.nil_append]

theorem length_throughParameters :
    head.throughParameters.length = (head.opening ++ head.named).length +
      (head.generics.length + head.parameters.text.length + 2) := by
  simp only [throughParameters, List.length_append, List.length_cons, List.length_nil]
  omega

/-- **The signature of a head** ends where the reading of its return type does. -/
theorem ofDeclaration?_text {length : Nat}
    (hread : Signature.typeLength 0 true (head.type.text ++ '\x7b' :: body) = length)
    (hlength : length ≤ head.type.text.length) :
    Signature.ofDeclaration? (head.text ++ '\x7b' :: body) (head.opening ++ head.named).length =
      some (Signature.collapse (head.named ++ (head.called ++ head.type.text.take length))) := by
  have htext : head.text ++ '\x7b' :: body =
      head.throughParameters ++ (head.space.text ++ ':' :: (head.type.text ++ '\x7b' :: body)) := by
    rw [throughParameters_append]
    simp only [text, declared, List.append_assoc]
  have hthrough : Signature.throughParameters?
      ((head.text ++ '\x7b' :: body).drop (head.opening ++ head.named).length) =
        some (head.generics.length + head.parameters.text.length + 2) := by
    rw [htext, throughParameters, List.append_assoc, List.drop_left, List.append_assoc, List.cons_append,
      List.append_assoc]
    exact Signature.throughParameters?_eq head.generics_open head.parameters _
  have htype : Signature.typeLength 0 false
      (head.space.text ++ ':' :: (head.type.text ++ '\x7b' :: body)) =
        head.space.text.length + (length + 1) := by
    rw [Signature.passes_blanks head.space, Signature.typeLength_of_operator (by decide), hread]
  have hwhole : (head.text ++ '\x7b' :: body).take
      (head.throughParameters.length + (head.space.text.length + (length + 1))) =
        head.opening ++ (head.named ++ (head.called ++ head.type.text.take length)) := by
    rw [htext, List.take_length_add_append, List.take_length_add_append, List.take_succ_cons,
      List.take_append_of_le_length hlength, throughParameters_append]
  have hfilled : (Signature.collapse
      (head.named ++ (head.called ++ head.type.text.take length))).isEmpty = false := by
    obtain ⟨c, more, hnamed, hblank, -⟩ := head.exists_named_eq_cons
    refine Bool.eq_false_iff.2 fun hempty => ?_
    have hcount := Signature.count_collapse hblank
      (head.named ++ (head.called ++ head.type.text.take length))
    rw [String.toList_eq_nil_iff.2 (String.isEmpty_iff.1 hempty), hnamed, List.cons_append,
      List.count_cons_self] at hcount
    cases hcount
  rw [Signature.ofDeclaration?, hthrough]
  dsimp only
  rw [← length_throughParameters, htext, List.drop_left, htype, ← htext, hwhole, collapse_opening,
    hfilled]
  rfl

/-- How much of a return type is read: all of it, or what stands before a brace that it exposes. -/
theorem exists_typeLength (hnests : head.type.nests = true) (body : List Char) :
    ∃ length ≤ head.type.text.length,
      Signature.typeLength 0 true (head.type.text ++ '\x7b' :: body) = length ∧
      ((head.type.exposes = false ∧ length = head.type.text.length) ∨
        (head.type.exposes = true ∧ ∃ front back, head.type.text = front ++ '\x7b' :: back ∧
          length = front.length)) := by
  cases hexposes : head.type.exposes with
  | false =>
    have hpasses : Signature.Passes 0 true head.type.text false :=
      head.type.passes_text hnests fun _ => ⟨fun _ => rfl, hexposes⟩
    refine ⟨_, Nat.le_refl _, ?_, .inl ⟨rfl, rfl⟩⟩
    rw [hpasses, Signature.typeLength_body]
    rfl
  | true =>
    obtain ⟨front, back, htype, hread⟩ := head.type.stops_in_text hnests (.inr hexposes)
    refine ⟨front.length, ?_, hread _, .inr ⟨rfl, front, back, htype, rfl⟩⟩
    rw [htype]
    exact (List.prefix_append ..).length_le

end FunctionHead

/-- **The signature of an exported function.** Wherever a line of a source file begins with the head of an
exported function, and no earlier match reaches over its start, there is one record of a function on that
line, under its name. Its signature is the whole declaration, from the keyword through the return type, on
one line, exactly if the return type has no object type directly behind `is`, outside of all brackets. One
that has is cut off at such a brace. -/
theorem signature_eq_iff (head : FunctionHead) (file : String) {before body : List Char}
    (hstart : AtLineStart before)
    (hsettled : functionForm.pattern.Settled before (head.text ++ '\x7b' :: body))
    (hnests : head.type.nests = true) :
    ∃ signature,
      ((ofSource file (String.ofList (before ++ (head.text ++ '\x7b' :: body)))).filter
        fun r => r.kind = .function ∧ r.line = before.count '\n' + 1) =
          [{ file, symbol := String.ofList head.name, kind := .function, signature := some signature
             line := before.count '\n' + 1 }] ∧
      (signature = Signature.collapse head.declared ↔ head.type.exposes = false) ∧
      (head.type.exposes = true → ∃ front back, head.type.text = front ++ '\x7b' :: back ∧
        signature = Signature.collapse (head.named ++ (head.called ++ front))) := by
  obtain ⟨length, hlength, hread, hcases⟩ := head.exists_typeLength hnests body
  refine ⟨Signature.collapse (head.named ++ (head.called ++ head.type.text.take length)), ?_, ?_, ?_⟩
  · have htext : head.text ++ '\x7b' :: body =
        head.opening ++ (head.named ++ (head.called ++ (head.type.text ++ '\x7b' :: body))) := by
      simp only [FunctionHead.text, FunctionHead.declared, List.append_assoc]
    rw [filter_ofSource_function file hstart hsettled, htext,
      head.clauseAt?_functionForm hstart (head.called_apart _), ← htext,
      head.ofDeclaration?_text hread hlength]
    rfl
  · rcases hcases with ⟨hexposes, rfl⟩ | ⟨hexposes, front, back, htype, rfl⟩
    · rw [List.take_length]
      exact iff_of_true rfl hexposes
    · refine iff_of_false (fun heq => ?_) (by simp [hexposes])
      -- the brace where it is cut off is missing
      have hcount := congrArg (fun signature : String => signature.toList.count '\x7b') heq
      rw [FunctionHead.declared, htype, List.take_left] at hcount
      simp only [Signature.count_collapse (show isBlank '\x7b' = false from rfl), List.count_append,
        List.count_cons_self] at hcount
      omega
  · intro hexposes
    rcases hcases with ⟨hnot, -⟩ | ⟨-, front, back, htype, rfl⟩
    · rw [hexposes] at hnot
      cases hnot
    · refine ⟨front, back, htype, ?_⟩
      rw [htype, List.take_left]

/-! ## Heads of either kind -/

/-- One blank. -/
def oneSpace : Gap where
  text := [' ']
  blank := List.all_eq_true.1 (by decide)
  ne_nil := by decide

/-- `export function f(…): …`, or `export default async function f(…): …`. -/
def sampleHead (gap : Option Gap) (parameters : Enclosed '(' ')') (type : ReturnType) : FunctionHead where
  margin := []
  exportGap := oneSpace
  defaultGap := gap
  asyncGap := gap
  nameGap := oneSpace
  name := ['f']
  generics := []
  parameters := parameters
  space := ⟨[], nofun⟩
  type := .spaced oneSpace.toBlanks type oneSpace.toBlanks
  margin_indents := nofun
  name_ne_nil := by decide
  name_chars := List.all_eq_true.1 (by decide)
  generics_apart := by simp
  generics_open := by decide

/-- A parameter that is a function, and an object that is promised or an array of objects. -/
def unionHead : FunctionHead :=
  sampleHead (some oneSpace) ⟨"a: (n: T) => void".toList, by decide⟩ (.combined .union
    (.spaced ⟨[], nofun⟩ (.applied ⟨"Promise".toList, by decide, List.all_iff_forall_prop.1 (by decide)⟩
      (.last (.object ⟨" ok: T ".toList, by decide⟩))) oneSpace.toBlanks)
    (.spaced oneSpace.toBlanks (.array (.object ⟨" err: T ".toList, by decide⟩)) ⟨[], nofun⟩))

/-- A head behind another function, which is recorded as a whole. -/
theorem signature_eq_iff_of_union :
    let before := "export function g() \x7b\x7d\n".toList
    let body := " return g(); \x7d\n".toList
    AtLineStart before ∧ functionForm.pattern.Settled before (unionHead.text ++ '\x7b' :: body) ∧
      unionHead.type.nests = true ∧ unionHead.type.exposes = false ∧
      Signature.collapse unionHead.declared =
        "async function f(a: (n: T) => void): Promise<\x7b ok: T \x7d> | \x7b err: T \x7d[]" ∧
      ((ofSource "a.ts" (String.ofList (before ++ (unionHead.text ++ '\x7b' :: body)))).filter
        fun r => r.kind = .function ∧ r.line = 2) =
          [{ file := "a.ts", symbol := "f", kind := .function
             signature := some (Signature.collapse unionHead.declared), line := 2 }] := by
  intro before body
  have hstart : AtLineStart before := by decide
  have hsettled : functionForm.pattern.Settled before (unionHead.text ++ '\x7b' :: body) := by
    refine settled_functionForm hstart ?_
    rw [show (trimEnd before).getLast? = some '\x7d' by decide]
    rintro _ ⟨⟩
    decide
  obtain ⟨signature, hrecords, hiff, -⟩ := signature_eq_iff unionHead "a.ts" hstart hsettled (by decide)
  rw [hiff.2 (by decide)] at hrecords
  exact ⟨hstart, hsettled, by decide, by decide, by decide +kernel, hrecords⟩

/-- A head is cut off at an object type behind `is`; and behind a bracket in the text of a literal, which
is no bracket of the type, it goes on through the body. -/
theorem signature_ne_of_type_guard :
    let guarded := sampleHead none ⟨"x: any".toList, by decide⟩
      (.predicate ⟨['x'], by decide, List.all_iff_forall_prop.1 (by decide)⟩ oneSpace oneSpace
        (.object ⟨" a: number ".toList, by decide⟩))
    let literal := sampleHead none ⟨[], by decide⟩ (.object ⟨" op: \"<\" ".toList, by decide⟩)
    let signatures (head : FunctionHead) :=
      (ofSource "a.ts" (String.ofList head.text ++ "\x7b return x; \x7d\n")).map (·.signature)
    signatures guarded = [some "function f(x: any): x is"] ∧
      Signature.collapse guarded.declared = "function f(x: any): x is \x7b a: number \x7d" ∧
      signatures literal = [some "function f(): \x7b op: \"<\" \x7d \x7b return x; \x7d"] ∧
      Signature.collapse literal.declared = "function f(): \x7b op: \"<\" \x7d" := by
  decide +kernel

end ExportRecord

end CodeSnapshot
