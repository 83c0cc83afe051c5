import CodeSnapshot.Pattern.Escape

/-!
# Bracketed classes

A class between brackets is a union of characters, ranges, named classes and nested classes. Unions
can be joined by `&&`, `--` and `~~`, which bind less tightly and group to the left. How deeply
classes are nested is counted along, because a pattern may only nest so far.
-/

namespace CodeSnapshot.Pattern

open Text

/-- A part of a bracketed class, and how deeply things are nested in it. -/
structure ClassPart where
  kind : CharClass
  nesting : Nat
  deriving Repr

/-- The union of the items that stand side by side, newest first. -/
def unionOf (items : List ClassPart) : ClassPart :=
  match items with
  | [] => ⟨CharClass.empty, 0⟩
  | [item] => item
  | items =>
    ⟨items.foldr (fun item k => .union k item.kind) CharClass.empty,
     1 + items.foldr (fun item n => max item.nesting n) 0⟩

inductive ClassOperator where
  | intersection
  | difference
  | symmetricDifference
  deriving Repr, DecidableEq

/-- Applies the operator that is waiting for its right operand. -/
def joinPending (f : Flags) (pending : Option (ClassOperator × ClassPart)) (right : ClassPart) :
    ClassPart :=
  match pending with
  | none => right
  | some (operator, left) =>
    let a := f.adjust false left.kind
    let b := f.adjust false right.kind
    let kind :=
      match operator with
      | .intersection => CharClass.inter a b
      | .difference => a.diff b
      | .symmetricDifference => a.symmDiff b
    ⟨kind, 1 + max left.nesting right.nesting⟩

/-- The start of a class behind its opening bracket: whether it is negated, and the hyphens or the
closing bracket that stand for themselves there. -/
def openBracket? (f : Flags) (text : List Char) : Option (Bool × List ClassPart × List Char) :=
  let text := f.skip text
  let (negated, text) :=
    match text with
    | '^' :: rest => (true, f.skip rest)
    | _ => (false, text)
  let (hyphens, text) := leadingHyphens (text.length) [] text
  match hyphens, text with
  | _, [] => none
  | [], ']' :: rest =>
    match f.skip rest with
    | [] => none
    | rest => some (negated, [⟨CharClass.single ']', 0⟩], rest)
  | hyphens, text => some (negated, hyphens, text)
where
  leadingHyphens : Nat → List ClassPart → List Char → List ClassPart × List Char
    | fuel + 1, items, '-' :: rest =>
      leadingHyphens fuel (⟨CharClass.single '-', 0⟩ :: items) (f.skip rest)
    | _, items, text => (items, text)

/-- A class of ASCII such as `[:alpha:]`, and the text behind it. -/
def asciiItem? (f : Flags) (text : List Char) : Option (ClassPart × List Char) :=
  match text with
  | '[' :: ':' :: rest =>
    let (negated, rest) :=
      match rest with
      | '^' :: more => (true, more)
      | _ => (false, rest)
    match cutAt? [':'] rest with
    | some (name, ']' :: more) =>
      (asciiClass? name).map fun k => (⟨f.adjust negated k, 0⟩, more)
    | _ => none
  | _ => none

/-- One character, escape or range of a class. -/
def rangeAtom? (f : Flags) : List Char → Option (Atom × List Char)
  | [] => none
  | '\\' :: rest => escape? f rest
  | c :: rest => some (.char c false, rest)

/-- Whether a character may stand in a class under the flags. -/
def Flags.admits (f : Flags) (c : Char) : Bool :=
  f.unicode || c.toNat < 0x80

/-- An item of a class that is not itself a class between brackets. -/
def rangeItem? (f : Flags) (text : List Char) : Option (ClassPart × List Char) :=
  match rangeAtom? f text with
  | none => none
  | some (first, rest) =>
    let rest := f.skip rest
    let single : Option (ClassPart × List Char) :=
      match first with
      | .char c _ => if f.admits c then some (⟨CharClass.single c, 0⟩, rest) else none
      | .kind k => some (⟨k, 0⟩, rest)
      | .place _ => none
    match rest with
    | [] => none
    | '-' :: more =>
      match f.skip more with
      | ']' :: _ | '-' :: _ => single
      | [] => none
      | more =>
        match first, rangeAtom? f more with
        | .char low _, some (.char high _, rest) =>
          if low ≤ high && f.admits low && f.admits high then
            some (⟨.range low.toNat high.toNat, 0⟩, rest)
          else none
        | _, _ => none
    | _ => single

/-- The items of a class up to its closing bracket; `fuel` bounds how many there are. -/
def bracketItems? (f : Flags) : (fuel : Nat) → (negated : Bool) →
    (pending : Option (ClassOperator × ClassPart)) → (items : List ClassPart) → List Char →
    Option (ClassPart × List Char)
  | 0, _, _, _, _ => none
  | fuel + 1, negated, pending, items, text =>
    let operator (op : ClassOperator) (rest : List Char) :=
      bracketItems? f fuel negated (some (op, joinPending f pending (unionOf items))) [] rest
    match f.skip text with
    | [] => none
    | ']' :: rest =>
      let part := joinPending f pending (unionOf items)
      some (⟨f.adjust negated part.kind, part.nesting + 1⟩, rest)
    | '&' :: '&' :: rest => operator .intersection rest
    | '-' :: '-' :: rest => operator .difference rest
    | '~' :: '~' :: rest => operator .symmetricDifference rest
    | '[' :: rest =>
      match asciiItem? f ('[' :: rest) with
      | some (part, rest) => bracketItems? f fuel negated pending (part :: items) rest
      | none =>
        match openBracket? f rest with
        | none => none
        | some (inner, start, rest) =>
          match bracketItems? f fuel inner none start rest with
          | none => none
          | some (part, rest) => bracketItems? f fuel negated pending (part :: items) rest
    | text =>
      match rangeItem? f text with
      | none => none
      | some (part, rest) => bracketItems? f fuel negated pending (part :: items) rest

/-- Whether a class holds no byte beyond ASCII. -/
def staysAscii (k : CharClass) : Bool :=
  (List.range 0x80).all fun n => !k.holds (0x80 + n)

/-- The class behind an opening bracket, and the text behind it. Where classes range over bytes, one
that holds a byte beyond ASCII is refused. -/
def bracket? (f : Flags) (text : List Char) : Option (ClassPart × List Char) :=
  match openBracket? f text with
  | none => none
  | some (negated, items, rest) =>
    match bracketItems? f (text.length + 1) negated none items rest with
    | none => none
    | some (part, rest) => if f.unicode || staysAscii part.kind then some (part, rest) else none

end CodeSnapshot.Pattern
