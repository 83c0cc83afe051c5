import CodeSnapshot.Query.Parser
import CodeSnapshot.Query.Scope
import CodeSnapshot.Query.Sorting

/-!
# Evaluating commands

A command is evaluated against one document in a scope of names; neither is changed. The number of
arguments and the shape of a lambda are checked before any argument is evaluated, and arguments are
evaluated from left to right. A symbol without a value stands for its own name.
-/

namespace CodeSnapshot

/-- What commands are evaluated against: a document, and how many matches one search may give. -/
structure Source where
  document : Document
  maxHits : Nat := 1000

namespace Source

/-- The source with a limit on matches; at least one is given. -/
def withMaxHits (s : Source) (n : Nat) : Source :=
  { s with maxHits := max n 1 }

end Source

/-- A value or the reason why there is none. -/
abbrev Evaluated := Except QueryError Value

namespace Evaluated

/-- The items of a list; `null` has none. -/
def items (op : Operator) (r : Evaluated) : Except QueryError (List Value) :=
  r.bind fun
    | .list items => .ok items
    | .null => .ok []
    | v => .error (.wrongKind op .list v.kind)

/-- A text, or a number as text. -/
def text (op : Operator) (r : Evaluated) : Except QueryError String :=
  r.bind fun
    | .text s => .ok s
    | .number x => .ok (Value.numberText x)
    | v => .error (.wrongKind op .text v.kind)

/-- A number, or a text that writes one. -/
def number (op : Operator) (r : Evaluated) : Except QueryError Double :=
  r.bind fun
    | .number x => .ok x
    | .text s =>
      match Double.ofText? (Text.trim s.toList) with
      | some x => .ok x
      | none => .error (.notNumeric op s)
    | v => .error (.wrongKind op .number v.kind)

end Evaluated

namespace Source

/-- The flags that letters set; `g` is allowed and changes nothing. -/
def grepFlags (letters : List Char) : Except QueryError Pattern.Flags :=
  letters.foldlM
    (fun flags letter =>
      match letter with
      | 'i' => .ok { flags with caseless := true }
      | 'm' => .ok { flags with multiLine := true }
      | 's' => .ok { flags with dotAll := true }
      | 'x' => .ok { flags with extended := true }
      | 'g' => .ok flags
      | other => .error (.unsupportedFlag .grep other))
    {}

/-- A compiled pattern, or the error of an operator that it is none. -/
def pattern [Regexes] (op : Operator) (text : String) (flags : Pattern.Flags) :
    Except QueryError Regex :=
  (Regexes.compile flags text).mapError (.invalidPattern op)

/-- The first matches of a pattern in the document. -/
def grep [Regexes] (s : Source) (text flags : String) : Evaluated := do
  let flags ← grepFlags flags.toList
  let r ← pattern .grep text flags
  return .list ((s.document.lines.firstHits r s.maxHits).1.map .hit)

/-- What a group holds in the first match of a pattern; group zero is the match itself. -/
def groupOf (r : Regex) (subject : String) (group : Double) : Value :=
  if group.belowZero || !group.isIntegral then .null
  else
    let range := (r.first? subject).bind fun c => c.group? group.toNat
    Value.ofText? (range.map fun range => String.ofList (range.textIn subject.toList))

/-- A whole line as a match. -/
def lineHit (number : Nat) (line : Line) : Hit :=
  { matched := line.text, line := line.text, lineNumber := number, index := line.offset
    groups := [] }

/-- The lines from one number through another. -/
def lines (s : Source) (first last : Double) : Value :=
  let first := max 1 first.toNat
  let last := min last.toNat s.document.lines.size
  .list ((s.document.lines.slice first last).zipIdx.map fun (line, i) =>
    .hit (lineHit (first + i) line))

/-- The files of the document with their first and last lines. -/
def files (s : Source) : Value :=
  .list (s.document.files.map fun (path, range) =>
    Value.ofFields
      [("path", .text path), ("start", .ofNat range.first), ("end", .ofNat range.last)])

/-- The number of items of a list or of characters of a text; zero for anything else. -/
def countOf : Value → Nat
  | .list items => items.length
  | .text s => s.length
  | _ => 0

/-- A field of a value, or of each item of a list. -/
def fieldOf (v : Value) (name : String) : Value :=
  match v with
  | .list items => .list (items.map (·.field name))
  | v => v.field name

/-- The key by which values are sorted or summed: a field, or the value itself. -/
def keyOf (name : Option String) (v : Value) : Value :=
  match name with
  | some name => v.field name
  | none => v

/-- Values in the order of their keys. -/
def sorted [Sorting] (key : Option String) (items : List Value) : Evaluated :=
  match Value.sortBy (keyOf key) items with
  | some items => .ok (.list items)
  | none => .error (.brokenOff .sort)

/-- The items that a test finds true. -/
def keep (test : Value → Evaluated) (items : List Value) : Except QueryError (List Value) :=
  items.filterMapM fun v => (test v).map fun r => if r.isTruthy then some v else none

/-- Evaluates an expression in a scope. -/
def eval [Regexes] [Sorting] (s : Source) : Expr → Scope → Evaluated
  | .text t, _ => .ok (.text t)
  | .number x, _ => .ok (.number x)
  | .symbol name, scope => .ok ((scope.lookup? name).getD (.text name))
  | .list items, scope =>
    match items with
    | [] => .error (.malformed 0 .emptyApplication)
    | .symbol name :: args =>
      match Operator.ofName? name with
      | none => .error (.unknownOperator name)
      | some op =>
        match op, args with
        | .grep, [pattern] =>
          (Evaluated.text op (s.eval pattern scope)).bind fun pattern => s.grep pattern ""
        | .grep, [pattern, flags] =>
          (Evaluated.text op (s.eval pattern scope)).bind fun pattern =>
            (Evaluated.text op (s.eval flags scope)).bind fun flags => s.grep pattern flags
        | .count, [x] => (s.eval x scope).map fun v => .ofNat (countOf v)
        | .map, [x, .list [.symbol "lambda", .list [.symbol param], body]] =>
          (Evaluated.items op (s.eval x scope)).bind fun items =>
            (items.mapM fun v => s.eval body (scope.child param v)).map .list
        | .filter, [x, .list [.symbol "lambda", .list [.symbol param], body]] =>
          (Evaluated.items op (s.eval x scope)).bind fun items =>
            (keep (fun v => s.eval body (scope.child param v)) items).map .list
        | .map, [_, found] | .filter, [_, found] => .error (.lambdaShape op found)
        | .first, [x] =>
          (Evaluated.items op (s.eval x scope)).map fun items => items.head?.getD .null
        | .last, [x] =>
          (Evaluated.items op (s.eval x scope)).map fun items => items.getLast?.getD .null
        | .take, [x, n] =>
          (Evaluated.items op (s.eval x scope)).bind fun items =>
            (Evaluated.number op (s.eval n scope)).map fun n => .list (items.take n.toNat)
        | .sort, [x] => (Evaluated.items op (s.eval x scope)).bind fun items => sorted none items
        | .sort, [x, key] =>
          (Evaluated.items op (s.eval x scope)).bind fun items =>
            (Evaluated.text op (s.eval key scope)).bind fun key => sorted (some key) items
        | .capture, [x, pattern] =>
          (s.eval x scope).bind fun v =>
            (Evaluated.text op (s.eval pattern scope)).bind fun text =>
              (Source.pattern op text {}).map fun r => groupOf r v.subject Double.zero
        | .capture, [x, pattern, group] =>
          (s.eval x scope).bind fun v =>
            (Evaluated.text op (s.eval pattern scope)).bind fun text =>
              (Evaluated.number op (s.eval group scope)).bind fun group =>
                (Source.pattern op text {}).map fun r => groupOf r v.subject group
        | .lines, [first, last] =>
          (Evaluated.number op (s.eval first scope)).bind fun first =>
            (Evaluated.number op (s.eval last scope)).map fun last => s.lines first last
        | .files, [] => .ok s.files
        | .get, [x, name] =>
          (s.eval x scope).bind fun v =>
            (Evaluated.text op (s.eval name scope)).map fun name => fieldOf v name
        | .sum, [x] =>
          (Evaluated.items op (s.eval x scope)).map fun items => .number (Value.sum items)
        | .sum, [x, key] =>
          (Evaluated.items op (s.eval x scope)).bind fun items =>
            (Evaluated.text op (s.eval key scope)).map fun key =>
              .number (Value.sum (items.map (·.field key)))
        | .not, [x] => (s.eval x scope).map fun v => .bool (!v.isTruthy)
        | op, args => .error (.arity op args.length)
    | head :: _ => .error (.unknownOperator head.render)
termination_by structural e => e

/-- Evaluates one command in the names of a session. -/
def execute [Regexes] [Sorting] (s : Source) (command : String) (session : Bindings) :
    Evaluated :=
  (Expr.parse command).bind fun e => s.eval e (Scope.root session)

end Source

end CodeSnapshot
