import CodeSnapshot.Decimal.Power
import CodeSnapshot.Pattern.Bracket

/-!
# Reading patterns

The text of a pattern is read from left to right into the parts of the alternative at hand; opening
a group puts the work so far aside and closing it takes it up again. A pattern is refused when it is
malformed, when it is nested too deeply, or when it would grow too large with its counted
repetitions written out.
-/

namespace CodeSnapshot.Pattern

open Text

/-- A part of a pattern, how deeply things are nested in it, and whether it may be repeated. -/
structure Part where
  pattern : Pattern
  nesting : Nat
  repeatable : Bool
  deriving Repr

/-- The parts of one alternative, newest first, as one part. -/
def sequenceOf (parts : List Part) : Part :=
  match parts with
  | [] => ⟨.empty, 0, false⟩
  | [part] => part
  | parts =>
    ⟨chain (parts.reverse.map (·.pattern)), 1 + parts.foldr (fun p n => max p.nesting n) 0, true⟩

/-- Alternatives, newest first, as one part. -/
def alternativesOf (branches : List Part) : Part :=
  match branches with
  | [] => ⟨.empty, 0, false⟩
  | [branch] => branch
  | branches =>
    ⟨firstOf (branches.reverse.map (·.pattern)),
     1 + branches.foldr (fun p n => max p.nesting n) 0, true⟩

/-- What was put aside when a group was opened. -/
structure OpenGroup where
  parts : List Part
  branches : List Part
  flags : Flags
  number : Option Nat
  deriving Repr

/-- The state of reading. -/
structure Reading where
  rest : List Char
  flags : Flags
  parts : List Part := []
  branches : List Part := []
  opened : List OpenGroup := []
  groups : Nat := 0
  names : List (List Char) := []
  deriving Repr

namespace Reading

def push (s : Reading) (pattern : Pattern) (nesting : Nat) (rest : List Char) : Reading :=
  { s with parts := ⟨pattern, nesting, true⟩ :: s.parts, rest }

/-- Sets or clears the flag of a letter. -/
def setFlag? (f : Flags) (letter : Char) (value : Bool) : Option Flags :=
  match letter with
  | 'i' => some { f with caseless := value }
  | 'm' => some { f with multiLine := value }
  | 's' => some { f with dotAll := value }
  | 'U' => some { f with swapGreed := value }
  | 'u' => some { f with unicode := value }
  | 'R' => some { f with carriageReturn := value }
  | 'x' => some { f with extended := value }
  | _ => none

/-- Flag letters and at most one hyphen up to `:` or `)`. No letter stands twice, and one follows
the hyphen. -/
def flags? (seen : List Char) (f : Flags) : List Char → Option (Flags × List Char × List Char)
  | [] => none
  | c :: rest =>
    if c = ':' || c = ')' then
      if seen.head? = some '-' then none else some (f, seen, c :: rest)
    else if seen.contains c then none
    else if c = '-' then flags? (c :: seen) f rest
    else
      match setFlag? f c (!seen.contains '-') with
      | none => none
      | some f => flags? (c :: seen) f rest

/-- The letters that may begin a group's name, beside the underscore. -/
def isLetter (c : Char) : Bool :=
  c.isAlpha || (c.toNat ≥ 0x80 && Unicode.alphabetic.contains c.toNat)

/-- The numbers that may stand in a group's name. -/
def isNumeric (c : Char) : Bool :=
  c.isDigit || (c.toNat ≥ 0x80 &&
    [Unicode.Category.decimalNumber, .letterNumber, .otherNumber].any (·.contains c.toNat))

/-- The name of a group up to `>`, and the text behind it. -/
def groupName? (text : List Char) : Option (List Char × List Char) :=
  match cutAt? ['>'] text with
  | none => none
  | some (name, rest) =>
    match name with
    | [] => none
    | first :: more =>
      if (first = '_' || isLetter first)
          && more.all (fun c => c = '_' || c = '.' || c = '[' || c = ']' || isLetter c
            || isNumeric c) then
        some (name, rest)
      else none

/-- Puts the work so far aside for the inside of a group. -/
def openGroup (s : Reading) (number : Option Nat) (inside : Flags) (rest : List Char) : Reading :=
  { s with
    rest, flags := inside, parts := [], branches := []
    opened := ⟨s.parts, s.branches, s.flags, number⟩ :: s.opened }

def openNumbered (s : Reading) (rest : List Char) : Reading :=
  { s.openGroup (some (s.groups + 1)) s.flags rest with groups := s.groups + 1 }

def openNamed? (s : Reading) (text : List Char) : Option Reading :=
  match groupName? text with
  | none => none
  | some (name, rest) =>
    if s.names.contains name then none
    else some { s.openNumbered rest with names := name :: s.names }

/-- What follows an opening parenthesis: a group, or flags for the rest of the group at hand. There
are no conditions on what precedes or follows. -/
def open? (s : Reading) (text : List Char) : Option Reading :=
  match s.flags.skip text with
  | '?' :: '=' :: _ | '?' :: '!' :: _ | '?' :: '<' :: '=' :: _ | '?' :: '<' :: '!' :: _ => none
  | '?' :: 'P' :: '<' :: rest | '?' :: '<' :: rest => s.openNamed? rest
  | '?' :: rest =>
    match flags? [] s.flags rest with
    | some (f, seen, ')' :: rest) =>
      if seen.isEmpty then none
      else some { s with parts := ⟨.empty, 0, false⟩ :: s.parts, flags := f, rest }
    | some (f, _, _ :: rest) => some (s.openGroup none f rest)
    | _ => none
  | text => some (s.openNumbered text)

/-- The part that the alternatives at hand make up. -/
def inside (s : Reading) : Part :=
  alternativesOf (sequenceOf s.parts :: s.branches)

/-- Takes up the work from before the group that is closed. -/
def close? (s : Reading) (rest : List Char) : Option Reading :=
  match s.opened with
  | [] => none
  | g :: opened =>
    let part := s.inside
    let pattern :=
      match g.number with
      | some n => Pattern.group n part.pattern
      | none => part.pattern
    some { s with
      rest, opened, flags := g.flags, branches := g.branches
      parts := ⟨pattern, part.nesting + 1, true⟩ :: g.parts }

/-- A repeated pattern: none for no rounds, itself for one round, and a run for one class. -/
def repetition (n : Rounds) (p : Pattern) : Pattern :=
  if n.most = some 0 then .empty
  else if n.least = 1 && n.most = some 1 then p
  else
    match p with
    | .one k => .run k n
    | p => .repeated n p

/-- Repeats the last part. A question mark behind the repetition turns its preference. -/
def repeat? (s : Reading) (least : Nat) (most : Option Nat) (rest : List Char) : Option Reading :=
  let (turned, rest) :=
    match rest with
    | '?' :: more => (true, more)
    | _ => (false, rest)
  match s.parts with
  | [] => none
  | part :: parts =>
    if part.repeatable then
      let n : Rounds := ⟨least, most, turned == s.flags.swapGreed⟩
      some { s with
        rest, parts := ⟨repetition n part.pattern, part.nesting + 1, true⟩ :: parts }
    else none

/-- Decimal digits with blanks around them. -/
def count? (f : Flags) (text : List Char) : Option (Nat × List Char) :=
  let rec digits (fuel : Nat) (found : List Char) (text : List Char) : List Char × List Char :=
    match fuel, text with
    | fuel + 1, c :: rest =>
      if c.isDigit then digits fuel (c :: found) (f.skip rest) else (found.reverse, text)
    | _, text => (found.reverse, text)
  let (found, rest) := digits (text.length + 1) [] (trimStart text)
  let value := found.foldl (fun n c => 10 * n + (c.toNat - '0'.toNat)) 0
  if found.isEmpty || Decimal.twoTo 32 ≤ value then none else some (value, f.skip (trimStart rest))

/-- A counted repetition behind its opening brace. -/
def counted? (s : Reading) (text : List Char) : Option Reading :=
  let f := s.flags
  let finish (least : Nat) (most : Option Nat) (rest : List Char) :=
    if most.any (· < least) then none else s.repeat? least most (f.skip rest)
  match count? f (f.skip text) with
  | none => none
  | some (least, '\x7d' :: rest) => finish least (some least) rest
  | some (least, ',' :: rest) =>
    match f.skip rest with
    | '\x7d' :: rest => finish least none rest
    | rest =>
      match count? f rest with
      | some (most, '\x7d' :: rest) => finish least (some most) rest
      | _ => none
  | _ => none

/-- The class of a character that stands for itself. -/
def charClass (f : Flags) (c : Char) : CharClass :=
  f.adjust false (CharClass.single c)

/-- What `.` stands for. -/
def dotClass (f : Flags) : CharClass :=
  if f.dotAll then CharClass.any
  else
    .complement (CharClass.ofChars (if f.carriageReturn then ['\r', '\n'] else ['\n']))

def lineStart (f : Flags) : Place :=
  if f.multiLine then (if f.carriageReturn then .anyLineStart else .lineStart) else .textStart

def lineEnd (f : Flags) : Place :=
  if f.multiLine then (if f.carriageReturn then .anyLineEnd else .lineEnd) else .textEnd

/-- Reads an escape as a part. -/
def escaped? (s : Reading) (text : List Char) : Option Reading :=
  match escape? s.flags text with
  | none => none
  | some (.char c byte, rest) =>
    if byte && !s.flags.unicode && 0x80 ≤ c.toNat then none
    else some (s.push (.one (charClass s.flags c)) 0 rest)
  | some (.kind k, rest) => some (s.push (.one k) 0 rest)
  | some (.place p, rest) => some (s.push (.place p) 0 rest)

/-- Reads the next part. -/
def step? (s : Reading) : Option Reading :=
  let f := s.flags
  match s.rest with
  | [] => some s
  | '(' :: rest => s.open? rest
  | ')' :: rest => s.close? rest
  | '|' :: rest =>
    some { s with rest, branches := sequenceOf s.parts :: s.branches, parts := [] }
  | '[' :: rest =>
    (bracket? f rest).map fun (part, rest) => s.push (.one part.kind) part.nesting rest
  | '?' :: rest => s.repeat? 0 (some 1) rest
  | '*' :: rest => s.repeat? 0 none rest
  | '+' :: rest => s.repeat? 1 none rest
  | '\x7b' :: rest => s.counted? rest
  | '\\' :: rest => s.escaped? rest
  | '.' :: rest => if f.unicode then some (s.push (.one (dotClass f)) 0 rest) else none
  | '^' :: rest => some (s.push (.place (lineStart f)) 0 rest)
  | '$' :: rest => some (s.push (.place (lineEnd f)) 0 rest)
  | c :: rest => some (s.push (.one (charClass f c)) 0 rest)

/-- Reads part after part; each takes at least one character, so `fuel` bounds their number. -/
def run? : (fuel : Nat) → Reading → Option Reading
  | 0, _ => none
  | fuel + 1, s =>
    let s := { s with rest := s.flags.skip s.rest }
    if s.rest.isEmpty then some s
    else
      match s.step? with
      | none => none
      | some s => run? fuel s

end Reading

/-! ## Limits -/

/-- How deeply the parts of a pattern may be nested. -/
def nestingLimit : Nat := 250

/-- The room that a written out pattern may take. -/
def weightLimit : Nat := 10485760

/-- The room for one place in a pattern. -/
def placeWeight : Nat := 32

/-- The room for a class. -/
def classWeight : CharClass → Nat
  | .range _ last => if last < 0x80 then 8 else 64
  | .table points => 32 * points.length
  | .union a b | .inter a b => classWeight a + classWeight b
  | .complement a => 256 + classWeight a
  | .caseless a | .asciiCaseless a => classWeight a

/-- The room that a pattern takes with its repetitions written out. -/
def weight : Pattern → Nat
  | .empty => 0
  | .one k => placeWeight + classWeight k
  | .run k n => (placeWeight + classWeight k) * rounds n
  | .place _ => placeWeight
  | .seq a b => a.weight + b.weight
  | .either a b => placeWeight + a.weight + b.weight
  | .group _ a => 2 * placeWeight + a.weight
  | .repeated n a => (placeWeight + a.weight) * rounds n
where
  rounds (n : Rounds) : Nat := max 1 (max n.least (n.most.getD 0))

/-- Reads a pattern under the given flags; `none` when it is no pattern or goes beyond a limit. -/
def read? (f : Flags) (text : List Char) : Option Pattern :=
  match Reading.run? (text.length + 1) { rest := text, flags := f } with
  | none => none
  | some s =>
    if s.opened.isEmpty then
      let part := s.inside
      if part.nesting ≤ nestingLimit && part.pattern.weight ≤ weightLimit then some part.pattern
      else none
    else none

end CodeSnapshot.Pattern
