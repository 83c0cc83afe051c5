import CodeSnapshot.Json.Basic
import CodeSnapshot.Text.Quoted

/-!
# What can go wrong when JSON is read

A document may not be JSON, or it may be JSON of another shape than the reader expects. Every error
names the line and the column of a place; columns are counted in bytes.
-/

namespace CodeSnapshot.Json

/-- What a document has where something else is expected. -/
inductive Found where
  | null
  | bool (b : Bool)
  | int (n : Int)
  | double (x : Double)
  | text (s : String)
  | list
  | object
  deriving Repr, DecidableEq

def Found.describe : Found → String
  | null => "null"
  | bool b => s!"boolean `{b}`"
  | int n => s!"integer `{n}`"
  | double x => "floating point `" ++ String.ofList x.toShortText ++ "`"
  | text s => "string " ++ Text.quoted s
  | list => "sequence"
  | object => "map"

/-- Why a document cannot be read. -/
inductive Fault where
  | endInValue
  | endInList
  | endInObject
  | endInText
  | expectedColon
  | expectedCommaInList
  | expectedCommaInObject
  | expectedWord
  | expectedValue
  | invalidEscape
  | invalidNumber
  | numberOutOfRange
  | controlCharacter
  | nameNotText
  | loneSurrogate
  | trailingComma
  | trailingCharacters
  | unfinishedSurrogatePair
  | wrongType (found : Found) (expected : String)
  | wrongValue (found : Found) (expected : String)
  | wrongLength (length : Nat) (expected : String)
  | missingField (name : String)
  | repeatedField (name : String)
  deriving Repr, DecidableEq

def Fault.message : Fault → String
  | endInValue => "EOF while parsing a value"
  | endInList => "EOF while parsing a list"
  | endInObject => "EOF while parsing an object"
  | endInText => "EOF while parsing a string"
  | expectedColon => "expected `:`"
  | expectedCommaInList => "expected `,` or `]`"
  | expectedCommaInObject => "expected `,` or `\x7d`"
  | expectedWord => "expected ident"
  | expectedValue => "expected value"
  | invalidEscape => "invalid escape"
  | invalidNumber => "invalid number"
  | numberOutOfRange => "number out of range"
  | controlCharacter => "control character (\\u0000-\\u001F) found while parsing a string"
  | nameNotText => "key must be a string"
  | loneSurrogate => "lone leading surrogate in hex escape"
  | trailingComma => "trailing comma"
  | trailingCharacters => "trailing characters"
  | unfinishedSurrogatePair => "unexpected end of hex escape"
  | wrongType found expected => "invalid type: " ++ found.describe ++ ", expected " ++ expected
  | wrongValue found expected => "invalid value: " ++ found.describe ++ ", expected " ++ expected
  | wrongLength length expected => s!"invalid length {length}, expected " ++ expected
  | missingField name => "missing field `" ++ name ++ "`"
  | repeatedField name => "duplicate field `" ++ name ++ "`"

/-- A place in a document: a line, counted from one, and how many bytes of it precede the place. -/
structure Place where
  line : Nat := 1
  column : Nat := 0
  deriving Repr, DecidableEq, Inhabited

namespace Place

/-- The place behind a character. -/
def after (p : Place) (c : Char) : Place :=
  if c = '\n' then ⟨p.line + 1, 0⟩ else ⟨p.line, p.column + c.utf8Size⟩

/-- The place behind the first byte of a character. -/
def afterByte (p : Place) (c : Char) : Place :=
  if c = '\n' then ⟨p.line + 1, 0⟩ else ⟨p.line, p.column + 1⟩

/-- The place `bytes` bytes further on in a text, if the text has as many. -/
def advance? (p : Place) : (bytes : Nat) → List Char → Option Place
  | 0, _ => some p
  | _ + 1, [] => none
  | bytes + 1, c :: rest =>
    if c.utf8Size ≤ bytes + 1 then advance? (p.after c) (bytes + 1 - c.utf8Size) rest
    else some ⟨p.line, p.column + bytes + 1⟩

end Place

/-- Why and where a document cannot be read. -/
structure ReadError where
  fault : Fault
  place : Place
  deriving Repr, DecidableEq

def ReadError.message (e : ReadError) : String :=
  e.fault.message ++ s!" at line {e.place.line} column {e.place.column}"

end CodeSnapshot.Json
