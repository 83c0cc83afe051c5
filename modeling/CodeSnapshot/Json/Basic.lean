import CodeSnapshot.Decimal.Double

/-!
# JSON values

The values that are written to other programs, and how they are written: on one line without
blanks, or indented by two spaces a level. The fields of an object keep the order they were given.
-/

namespace CodeSnapshot

/-- A JSON value to be written. -/
inductive Json where
  | null
  | bool (b : Bool)
  | int (n : Int)
  /-- a double precision number; one that is not finite is written as `null` -/
  | double (x : Double)
  /-- a single precision number; one that is not finite is written as `null` -/
  | single (x : Single)
  | text (s : String)
  | list (items : List Json)
  | object (fields : List (String × Json))
  deriving Repr, Inhabited

namespace Json

def nat (n : Nat) : Json := .int n

/-- A list of texts. -/
def texts (ss : List String) : Json := .list (ss.map .text)

/-- A value or `null`. -/
def orNull (value : Option Json) : Json := value.getD .null

/-! ## Strings -/

/-- Four hexadecimal digits. -/
def hex4 (n : Nat) : List Char :=
  let digits := Nat.toDigits 16 n
  List.replicate (4 - digits.length) '0' ++ digits

/-- A character as it stands in a string. -/
def escape (c : Char) : List Char :=
  match c with
  | '"' => ['\\', '"']
  | '\\' => ['\\', '\\']
  | '\n' => ['\\', 'n']
  | '\r' => ['\\', 'r']
  | '\t' => ['\\', 't']
  | '\x08' => ['\\', 'b']
  | '\x0C' => ['\\', 'f']
  | c => if c.toNat < 0x20 then '\\' :: 'u' :: hex4 c.toNat else [c]

/-- A text between double quotes. -/
def quote (s : String) : String :=
  String.ofList ('"' :: (s.toList.flatMap escape ++ ['"']))

/-! ## On one line -/

/-- A number, or `null` for one that is not finite. -/
def writeDouble (x : Double) : String :=
  if x.isFinite then String.ofList x.toShortText else "null"

def writeSingle (x : Single) : String :=
  if x.isFinite then String.ofList x.toShortText else "null"

mutual

/-- A value on one line. -/
def compact : Json → String
  | .null => "null"
  | .bool b => if b then "true" else "false"
  | .int n => toString n
  | .double x => writeDouble x
  | .single x => writeSingle x
  | .text s => quote s
  | .list items => "[" ++ ",".intercalate (compactItems items) ++ "]"
  | .object fields => "\x7b" ++ ",".intercalate (compactFields fields) ++ "\x7d"

def compactItems : List Json → List String
  | [] => []
  | item :: items => item.compact :: compactItems items

def compactFields : List (String × Json) → List String
  | [] => []
  | (name, value) :: fields => (quote name ++ ":" ++ value.compact) :: compactFields fields

end

/-! ## Indented -/

/-- A new line at a depth. -/
def newLine (depth : Nat) : String :=
  "\n" ++ String.ofList (List.replicate (2 * depth) ' ')

/-- Entries between brackets, each on a line of its own; nothing stands between the brackets when
there are none. -/
def block (opening closing : String) (depth : Nat) (entries : List String) : String :=
  match entries with
  | [] => opening ++ closing
  | entries =>
    opening ++ newLine (depth + 1) ++ ("," ++ newLine (depth + 1)).intercalate entries
      ++ newLine depth ++ closing

mutual

/-- A value on several lines, which starts at the given depth. -/
def prettyAt (depth : Nat) : Json → String
  | .list items => block "[" "]" depth (prettyItems (depth + 1) items)
  | .object fields => block "\x7b" "\x7d" depth (prettyFields (depth + 1) fields)
  | .null => "null"
  | .bool b => if b then "true" else "false"
  | .int n => toString n
  | .double x => writeDouble x
  | .single x => writeSingle x
  | .text s => quote s

def prettyItems (depth : Nat) : List Json → List String
  | [] => []
  | item :: items => prettyAt depth item :: prettyItems depth items

def prettyFields (depth : Nat) : List (String × Json) → List String
  | [] => []
  | (name, value) :: fields =>
    (quote name ++ ": " ++ prettyAt depth value) :: prettyFields depth fields

end

/-- A value on several lines, indented by two spaces a level. -/
def pretty (value : Json) : String :=
  prettyAt 0 value

end Json

end CodeSnapshot
