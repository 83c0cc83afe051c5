import CodeSnapshot.Json.Error
import CodeSnapshot.Json.Number
import CodeSnapshot.Text.Hex

/-!
# Reading JSON

A reader goes through a document from left to right and knows what it expects at each place, so an
error is found at the first place where the document is no JSON or has another shape. The parts here
are put together to readers of records (`Json.Shape`).

Faults of the contents of a list or of an object that have no place of their own (a field that is
missing, say) are placed behind its closing bracket.
-/

namespace CodeSnapshot.Json

/-- What is left of a document, and the place where it starts. -/
structure Cursor where
  rest : List Char
  place : Place := {}
  deriving Repr, DecidableEq

/-- The cursor behind the characters that pass a test. -/
def Cursor.skipWhile (test : Char → Bool) : List Char → Place → Cursor
  | [], place => ⟨[], place⟩
  | c :: rest, place =>
    if test c then skipWhile test rest (place.after c) else ⟨c :: rest, place⟩

/-- A fault whose place may still have to be found. -/
structure Problem where
  fault : Fault
  place : Option Place
  deriving Repr, DecidableEq

/-- A reader of a part of a document. -/
abbrev Reader := ExceptT Problem (StateM Cursor)

namespace Reader

variable {α σ : Type}

/-! ## Places -/

/-- Fails where the reader stands. -/
def failHere (fault : Fault) : Reader α := do
  throw ⟨fault, (← get).place⟩

/-- Fails behind the next byte, if there is one. -/
def failNext (fault : Fault) : Reader α := do
  match (← get).rest with
  | [] => failHere fault
  | c :: _ => throw ⟨fault, (← get).place.afterByte c⟩

/-- Fails without a place. -/
def failAnywhere (fault : Fault) : Reader α :=
  throw ⟨fault, none⟩

/-! ## Characters -/

/-- The next character. -/
def peek : Reader (Option Char) := do
  return (← get).rest.head?

/-- Goes over the next character. -/
def skip : Reader Unit :=
  modify fun
    | ⟨[], place⟩ => ⟨[], place⟩
    | ⟨c :: rest, place⟩ => ⟨rest, place.after c⟩

/-- How many characters are left. -/
def left : Reader Nat := do
  return (← get).rest.length

/-- Blank space between the parts of a document. -/
def isSpace (c : Char) : Bool :=
  c == ' ' || c == '\n' || c == '\t' || c == '\r'

/-- The next character that is no space. -/
def peekPart : Reader (Option Char) := do
  modify fun c => Cursor.skipWhile isSpace c.rest c.place
  peek

/-- The digits that follow. -/
def digits : Reader (List Char) := do
  let found := (← get).rest.takeWhile Decimal.isDigit
  modify fun c => Cursor.skipWhile Decimal.isDigit c.rest c.place
  return found

/-- Goes over the rest of a word of which the first letter has been read. -/
def wordEnd : List Char → Reader Unit
  | [] => pure ()
  | expected :: more => do
    match ← peek with
    | none => failHere .endInValue
    | some c => if c = expected then skip; wordEnd more else failNext .expectedWord

/-! ## Strings -/

/-- Four hexadecimal digits. -/
def hex4 : Reader Nat := do
  let cursor ← get
  match cursor.place.advance? 4 cursor.rest with
  | none =>
    set (Cursor.skipWhile (fun _ => true) cursor.rest cursor.place)
    failHere .endInText
  | some stop =>
    match Text.hexNumber? (cursor.rest.take 4) with
    | none => throw ⟨.invalidEscape, some stop⟩
    | some n =>
      set (⟨cursor.rest.drop 4, stop⟩ : Cursor)
      return n

def isHighSurrogate (n : Nat) : Bool := 0xD800 ≤ n && n ≤ 0xDBFF

def isLowSurrogate (n : Nat) : Bool := 0xDC00 ≤ n && n ≤ 0xDFFF

/-- Goes over the given character, the next one of a surrogate pair. -/
def pairPart (expected : Char) : Reader Unit := do
  match ← peek with
  | none => failHere .endInText
  | some c => if c = expected then skip else failNext .unfinishedSurrogatePair

/-- The character of an escape with a number, behind `\u`. -/
def unicodeEscape : Reader Char := do
  let n ← hex4
  if isLowSurrogate n then failHere .loneSurrogate
  else if isHighSurrogate n then
    pairPart '\\'
    pairPart 'u'
    let low ← hex4
    if isLowSurrogate low then
      return Char.ofNat (0x10000 + (n - 0xD800) * 0x400 + (low - 0xDC00))
    else failHere .loneSurrogate
  else return Char.ofNat n

/-- The character of an escape that is a single letter. -/
def escaped? (c : Char) : Option Char :=
  match c with
  | '"' => some '"'
  | '\\' => some '\\'
  | '/' => some '/'
  | 'b' => some '\x08'
  | 'f' => some '\x0C'
  | 'n' => some '\n'
  | 'r' => some '\r'
  | 't' => some '\t'
  | _ => none

/-- The letter behind a backslash: of an escape that is a single letter its character, and nothing
for an escape with a number. -/
def escapeLetter : Reader (Option Char) := do
  match ← peek with
  | none => failHere .endInText
  | some 'u' => skip; return none
  | some c =>
    match escaped? c with
    | some e => skip; return some e
    | none => failNext .invalidEscape

/-- The rest of a string, behind its opening quote. -/
def textChars : (fuel : Nat) → Reader (List Char)
  | 0 => return []
  | fuel + 1 => do
    match ← peek with
    | none => failHere .endInText
    | some '"' => skip; return []
    | some '\\' =>
      skip
      let c ← match ← escapeLetter with
        | some c => pure c
        | none => unicodeEscape
      return c :: (← textChars fuel)
    | some c =>
      if c.toNat < 0x20 then failNext .controlCharacter
      else
        skip
        return c :: (← textChars fuel)

/-- A string, from its opening quote on. -/
def quotedText : Reader String := do
  skip
  return String.ofList (← textChars ((← left) + 1))

/-- Goes over the rest of a string; an escape may stand for half of a surrogate pair. -/
def skipTextChars : (fuel : Nat) → Reader Unit
  | 0 => return
  | fuel + 1 => do
    match ← peek with
    | none => failHere .endInText
    | some '"' => skip
    | some '\\' =>
      skip
      if (← escapeLetter).isNone then discard hex4
      skipTextChars fuel
    | some c =>
      if c.toNat < 0x20 then failHere .controlCharacter
      else
        skip
        skipTextChars fuel

/-- Goes over a string, from its opening quote on. -/
def skipText : Reader Unit := do
  skip
  skipTextChars ((← left) + 1)

/-! ## Numbers -/

/-- A number: a whole one that sixty-four bits hold, or a double precision one. -/
inductive Number where
  | int (n : Int)
  | double (x : Double)
  deriving Repr, DecidableEq

def Number.found : Number → Found
  | int n => .int n
  | double x => .double x

/-- A number with a fraction, an exponent, or too many digits. -/
def scaled (negative : Bool) (digits : Nat) (exponent : Int) : Reader Number := do
  match scaledMagnitude? digits exponent with
  | some m => return .double (Double.ofMagnitude negative m)
  | none => failHere .numberOutOfRange

/-- The greatest exponent that is looked at. -/
def exponentLimit : Nat := Decimal.twoTo 31 - 1

/-- The exponent of a number, from the letter on. -/
def exponentPart (negative : Bool) (significand : Nat) (start : Int) : Reader Number := do
  skip
  let down ← match ← peek with
    | some '+' => skip; pure false
    | some '-' => skip; pure true
    | _ => pure false
  match ← peek with
  | none => failHere .endInValue
  | some c =>
    if !Decimal.isDigit c then failNext .invalidNumber
    else
      let n := Decimal.natOfDigits (← digits)
      if exponentLimit < n then
        if significand ≠ 0 && !down then failHere .numberOutOfRange
        else return .double (Double.ofMagnitude negative 0)
      else scaled negative significand (if down then start - n else start + n)

/-- An exponent if there is one, else the number as it is. -/
def maybeExponent (negative : Bool) (significand : Nat) (exponent : Int) : Reader Number := do
  match ← peek with
  | some 'e' | some 'E' => exponentPart negative significand exponent
  | _ => scaled negative significand exponent

/-- The fraction of a number, from the point on. -/
def fractionPart (negative : Bool) (significand : Nat) (dropped : Nat) : Reader Number := do
  skip
  let places ← digits
  let (all, excess) := leadingDigits significand places
  if places.isEmpty then
    match ← peek with
    | none => failHere .endInValue
    | some _ => failNext .invalidNumber
  else maybeExponent negative all ((dropped : Int) - (places.length - excess : Nat))

/-- What follows the whole part of a number. -/
def afterWhole (negative : Bool) (whole : List Char) : Reader Number := do
  let (significand, excess) := leadingDigits 0 whole
  match ← peek with
  | some '.' => fractionPart negative significand excess
  | some 'e' | some 'E' => exponentPart negative significand excess
  | _ =>
    if 0 < excess then scaled negative significand excess
    else if !negative then return .int significand
    else if significand = 0 || Decimal.twoTo 63 < significand then
      return .double (Double.ofMagnitude true (Decimal.binary64.ofRatio significand 1))
    else return .int (-(significand : Int))

/-- A number from its first digit on. -/
def unsigned (negative : Bool) : Reader Number := do
  match ← peek with
  | none => failHere .endInValue
  | some '0' =>
    skip
    match ← peek with
    | some c => if Decimal.isDigit c then failNext .invalidNumber else afterWhole negative ['0']
    | none => afterWhole negative ['0']
  | some c =>
    if Decimal.isDigit c then afterWhole negative (← digits) else failNext .invalidNumber

/-- A number. -/
def number : Reader Number := do
  match ← peek with
  | some '-' => skip; unsigned true
  | _ => unsigned false

/-- Goes over an exponent, from the letter on. -/
def skipExponent : Reader Unit := do
  skip
  match ← peek with
  | some '+' | some '-' => skip
  | _ => pure ()
  if (← digits).isEmpty then failNext .invalidNumber

/-- Goes over a fraction and an exponent, if they are there. -/
def skipAfterWhole : Reader Unit := do
  match ← peek with
  | some '.' =>
    skip
    if (← digits).isEmpty then failNext .invalidNumber
    match ← peek with
    | some 'e' | some 'E' => skipExponent
    | _ => pure ()
  | some 'e' | some 'E' => skipExponent
  | _ => pure ()

/-- Goes over a number. -/
def skipNumber : Reader Unit := do
  match ← peek with
  | some '-' => skip
  | _ => pure ()
  match ← peek with
  | some '0' =>
    skip
    match ← peek with
    | some c => if Decimal.isDigit c then failNext .invalidNumber else skipAfterWhole
    | none => skipAfterWhole
  | _ => if (← digits).isEmpty then failNext .invalidNumber else skipAfterWhole

/-! ## Values that nobody looks at -/

mutual

/-- Goes over a value. -/
def skipValue : (fuel : Nat) → Reader Unit
  | 0 => return
  | fuel + 1 => do
    match ← peekPart with
    | none => failNext .endInValue
    | some 'n' => skip; wordEnd "ull".toList
    | some 't' => skip; wordEnd "rue".toList
    | some 'f' => skip; wordEnd "alse".toList
    | some '"' => skipText
    | some '[' =>
      skip
      match ← peekPart with
      | none => failNext .endInList
      | some ']' => skip
      | some _ => skipItems fuel
    | some '\x7b' =>
      skip
      match ← peekPart with
      | none => failNext .endInObject
      | some '\x7d' => skip
      | some _ => skipFields fuel
    | some c => if c = '-' || Decimal.isDigit c then skipNumber else failNext .expectedValue

/-- Goes over the items of a list that has some, up to its end. -/
def skipItems : (fuel : Nat) → Reader Unit
  | 0 => return
  | fuel + 1 => do
    skipValue fuel
    match ← peekPart with
    | none => failNext .endInList
    | some ',' => skip; skipItems fuel
    | some ']' => skip
    | some _ => failNext .expectedCommaInList

/-- Goes over the fields of an object that has some, up to its end. -/
def skipFields : (fuel : Nat) → Reader Unit
  | 0 => return
  | fuel + 1 => do
    match ← peekPart with
    | none => failNext .endInObject
    | some '"' => skipText
    | some _ => failNext .nameNotText
    match ← peekPart with
    | none => failNext .endInObject
    | some ':' => skip
    | some _ => failNext .expectedColon
    skipValue fuel
    match ← peekPart with
    | none => failNext .endInObject
    | some ',' => skip; skipFields fuel
    | some '\x7d' => skip
    | some _ => failNext .expectedCommaInObject

end

/-- Goes over a value of any shape. -/
def ignored : Reader Unit := do
  skipValue (2 * (← left) + 2)

/-! ## Values -/

/-- Goes over what stands where something else is expected (the brackets of a list and of an object
excepted), and fails behind it. -/
def wrongType (expected : String) : Reader α := do
  let found : Found ← match ← peek with
    | some 'n' => skip; wordEnd "ull".toList; pure .null
    | some 't' => skip; wordEnd "rue".toList; pure (.bool true)
    | some 'f' => skip; wordEnd "alse".toList; pure (.bool false)
    | some '"' => do pure (.text (← quotedText))
    | some '[' => pure .list
    | some '\x7b' => pure .object
    | some c =>
      if c = '-' || Decimal.isDigit c then do pure (← number).found else failNext .expectedValue
    | none => failNext .expectedValue
  failHere (.wrongType found expected)

/-- A string. -/
def text : Reader String := do
  match ← peekPart with
  | none => failNext .endInValue
  | some '"' => quotedText
  | some _ => wrongType "a string"

/-- A whole number from zero to 2^64 − 1. -/
def nat64 : Reader Nat := do
  match ← peekPart with
  | none => failNext .endInValue
  | some c =>
    if c = '-' || Decimal.isDigit c then
      match ← number with
      | .int n =>
        if n < 0 then failHere (.wrongValue (.int n) "u64") else return n.toNat
      | .double x => failHere (.wrongType (.double x) "u64")
    else wrongType "u64"

/-- A value or `null`. -/
def optional (value : Reader α) : Reader (Option α) := do
  match ← peekPart with
  | some 'n' => skip; wordEnd "ull".toList; return none
  | _ => return some (← value)

/-! ## Lists and objects -/

/-- Reads contents and then their closing bracket. A fault of the contents without a place is placed
where the reader stands after that. -/
def closed (contents : Reader α) (close : Reader Unit) : Reader α := fun cursor =>
  let (result, cursor) := contents.run cursor
  let (closing, cursor) := close.run cursor
  match result, closing with
  | .ok a, .ok _ => (.ok a, cursor)
  | .error problem, _ => (.error { problem with place := problem.place.getD cursor.place }, cursor)
  | .ok _, .error problem => (.error problem, cursor)

/-- The closing bracket of a list. -/
def closeList : Reader Unit := do
  match ← peekPart with
  | some ']' => skip
  | some ',' =>
    skip
    match ← peekPart with
    | some ']' => failNext .trailingComma
    | _ => failNext .trailingCharacters
  | some _ => failNext .trailingCharacters
  | none => failNext .endInList

/-- The closing brace of an object. -/
def closeObject : Reader Unit := do
  match ← peekPart with
  | some '\x7d' => skip
  | some ',' => failNext .trailingComma
  | some _ => failNext .trailingCharacters
  | none => failNext .endInObject

/-- Whether a list has one more item; goes over the comma before it. -/
def hasItem (first : Bool) : Reader Bool := do
  match ← peekPart with
  | none => failNext .endInList
  | some ']' => return false
  | some ',' =>
    if first then return true
    else
      skip
      match ← peekPart with
      | some ']' => failNext .trailingComma
      | some _ => return true
      | none => failNext .endInValue
  | some _ => if first then return true else failNext .expectedCommaInList

/-- The name of the next field of an object, if there is one. -/
def fieldName? (first : Bool) : Reader (Option String) := do
  match ← peekPart with
  | none => failNext .endInObject
  | some '\x7d' => return none
  | some c =>
    if first then
      if c = '"' then return some (← quotedText) else failNext .nameNotText
    else if c = ',' then
      skip
      match ← peekPart with
      | some '"' => return some (← quotedText)
      | some '\x7d' => failNext .trailingComma
      | some _ => failNext .nameNotText
      | none => failNext .endInValue
    else failNext .expectedCommaInObject

/-- The colon behind a name. -/
def colon : Reader Unit := do
  match ← peekPart with
  | some ':' => skip
  | some _ => failNext .expectedColon
  | none => failNext .endInObject

/-- The items of a list, up to its closing bracket. -/
def items (item : Reader α) : (fuel : Nat) → (first : Bool) → Reader (List α)
  | 0, _ => return []
  | fuel + 1, first => do
    if ← hasItem first then
      let a ← item
      return a :: (← items item fuel false)
    else return []

/-- A list. -/
def list (item : Reader α) : Reader (List α) := do
  match ← peekPart with
  | none => failNext .endInValue
  | some '[' =>
    skip
    closed (items item ((← left) + 1) true) closeList
  | some _ => wrongType "a sequence"

end Reader

/-! ## Records -/

/-- How a record is read: what it is called in errors, what is known of it at the start, which
fields it has, its fields in order when it is written as a list, and how it is put together. -/
structure Shape (σ α : Type) where
  title : String
  start : σ
  /-- reads a field, unless its name is unknown -/
  field : String → σ → Option (Reader σ)
  /-- reads the fields in order; the number counts those that precede -/
  listed : Reader σ
  finish : σ → Except Fault α

namespace Shape

open Reader

variable {σ α : Type}

/-- The fields of an object. Unknown ones are passed over. -/
def fields (shape : Shape σ α) : (fuel : Nat) → (first : Bool) → σ → Reader σ
  | 0, _, s => return s
  | fuel + 1, first, s => do
    match ← fieldName? first with
    | none => return s
    | some name =>
      match shape.field name s with
      | some value => do fields shape fuel false (← value)
      | none =>
        colon
        ignored
        fields shape fuel false s

/-- The record that is known, or the fault that keeps it from being one. -/
def finished (shape : Shape σ α) (s : σ) : Reader α :=
  match shape.finish s with
  | .ok a => pure a
  | .error fault => failAnywhere fault

/-- A record, written as an object or as a list of its fields. -/
def read (shape : Shape σ α) : Reader α := do
  match ← peekPart with
  | none => failNext .endInValue
  | some '[' =>
    skip
    closed (do shape.finished (← shape.listed)) closeList
  | some '\x7b' =>
    skip
    closed (do shape.finished (← shape.fields ((← left) + 1) true shape.start)) closeObject
  | some _ => wrongType shape.title

/-- A field that may be given once. -/
def once {β : Type} (name : String) (known : Option β) (value : Reader β) : Reader β := do
  if known.isSome then failAnywhere (.repeatedField name)
  colon
  value

/-- The next item of a record that is written as a list: `index` items precede it. -/
def nextItem {β : Type} (index : Nat) (missing : Except Fault β) (value : Reader β) : Reader β := do
  if ← hasItem (index = 0) then value
  else
    match missing with
    | .ok b => return b
    | .error fault => failAnywhere fault

end Shape

/-- The record that a document is, with nothing but space around it. -/
def readAll {α : Type} (value : Reader α) (document : String) : Except ReadError α :=
  let whole : Reader α := do
    let a ← value
    match ← Reader.peekPart with
    | none => return a
    | some _ => Reader.failNext .trailingCharacters
  match (whole.run ⟨document.toList, {}⟩).1 with
  | .ok a => .ok a
  | .error problem => .error ⟨problem.fault, problem.place.getD {}⟩

end CodeSnapshot.Json
