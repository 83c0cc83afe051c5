import CodeSnapshot.Document.Search
import CodeSnapshot.Json.Basic
import CodeSnapshot.Query.Error

/-!
# Values of the query language

What a command evaluates to, what counts as true, the fields of a value, how values are written and
compared. A whole number below 2^53 is written without a fraction.
-/

namespace CodeSnapshot

/-- A value. The fields of a record are listed in ascending order of their names. -/
inductive Value where
  | null
  | bool (b : Bool)
  | number (x : Double)
  | text (s : String)
  | hit (m : Hit)
  | list (items : List Value)
  | record (fields : List (String × Value))
  deriving Repr, Inhabited

namespace Value

def ofNat (n : Nat) : Value :=
  number (Double.ofNat n)

/-- A text, or `null` where there is none. -/
def ofText? (s : Option String) : Value :=
  match s with
  | some s => text s
  | none => null

/-- A record with these fields. -/
def ofFields (fields : List (String × Value)) : Value :=
  record (StringMap.ofList fields).entries

def kind : Value → Kind
  | null => .null
  | bool _ => .bool
  | number _ => .number
  | text _ => .text
  | hit _ => .hit
  | list _ => .list
  | record _ => .record

/-- `null`, `false`, zero, NaN and the empty text do not count as true; everything else does, also
an empty list. -/
def isTruthy : Value → Bool
  | null => false
  | bool b => b
  | number x => !x.isZero && !x.isNaN
  | text s => !s.isEmpty
  | hit _ | list _ | record _ => true

def number? : Value → Option Double
  | number x => some x
  | _ => none

def list? : Value → Option (List Value)
  | list items => some items
  | _ => none

/-- A field of a match. -/
def hitField (m : Hit) (name : String) : Value :=
  if name = "match" then text m.matched
  else if name = "line" then text m.line
  else if name = "lineNum" then ofNat m.lineNumber
  else if name = "index" then ofNat m.index
  else if name = "groups" then list (m.groups.map ofText?)
  else null

/-- A field of a match or of a record; anything else has no fields. -/
def field (v : Value) (name : String) : Value :=
  match v with
  | hit m => hitField m name
  | record fields => ((fields.find? (·.1 == name)).map (·.2)).getD null
  | _ => null

/-! ## Writing -/

/-- A match in a data format. -/
def hitJson (m : Hit) : Json :=
  .object
    [("match", .text m.matched), ("line", .text m.line), ("lineNum", .nat m.lineNumber),
     ("index", .nat m.index),
     ("groups", .list (m.groups.map fun g => Json.orNull (g.map .text)))]

/-- A number in a data format: whole numbers below 2^53 have no fraction. -/
def numberJson (x : Double) : Json :=
  match x.toInt? with
  | some n => .int n
  | none => .double x

mutual

def toJson : Value → Json
  | null => .null
  | bool b => .bool b
  | number x => numberJson x
  | text s => .text s
  | hit m => hitJson m
  | list items => .list (itemsJson items)
  | record fields => .object (fieldsJson fields)

def itemsJson : List Value → List Json
  | [] => []
  | v :: vs => v.toJson :: itemsJson vs

def fieldsJson : List (String × Value) → List (String × Json)
  | [] => []
  | (name, v) :: fields => (name, v.toJson) :: fieldsJson fields

end

/-- A number as text. -/
def numberText (x : Double) : String :=
  match x.toInt? with
  | some n => toString n
  | none => String.ofList x.toText

/-- A value as text: a match is its line, a list or record is written in a data format. -/
def toText (v : Value) : String :=
  match v with
  | null => "null"
  | bool b => if b then "true" else "false"
  | number x => numberText x
  | text s => s
  | hit m => m.line
  | list _ | record _ => v.toJson.compact

/-- The text that a pattern is matched against: the line of a match, the `line` of a record that has
one as text, and otherwise the value as text. -/
def subject (v : Value) : String :=
  match v with
  | hit m => m.line
  | text s => s
  | record _ =>
    match v.field "line" with
    | text line => line
    | _ => v.toText
  | _ => v.toText

/-! ## Order -/

/-- The order in which values are sorted: `null` comes first, two numbers compare as numbers, and
anything else compares as text, character by character. -/
def compare (a b : Value) : Ordering :=
  match a, b with
  | null, null => .eq
  | null, _ => .lt
  | _, null => .gt
  | number x, number y => x.compare y
  | a, b => Ord.compare a.toText b.toText

/-- The sum of the numbers among some values. -/
def sum (vs : List Value) : Double :=
  (vs.filterMap number?).foldl Double.add (Double.ofMagnitude true 0)

end Value

end CodeSnapshot
