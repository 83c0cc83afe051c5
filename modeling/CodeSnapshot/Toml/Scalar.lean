import CodeSnapshot.Text.Hex
import CodeSnapshot.Text.Piece
import CodeSnapshot.Toml.Basic

/-!
# Strings, numbers and dates in TOML

Readers of the values that hold no other values. A reader goes over the characters that it takes;
nothing is told about a document that cannot be read.
-/

namespace CodeSnapshot.Toml

/-- A reader of a part of a document. -/
abbrev Reader := StateT (List Char) Option

namespace Reader

/-! ## Characters -/

/-- The next character; it stays. -/
def peek : Reader (Option Char) := do
  return (← get).head?

/-- The next character. -/
def next : Reader Char := do
  match ← get with
  | [] => failure
  | c :: rest => set rest; return c

/-- Goes over a word if it comes next. -/
def accept (word : String) : Reader Bool := do
  match Text.after? word.toList (← get) with
  | some rest => set rest; return true
  | none => return false

/-- Goes over a word. -/
def expect (word : String) : Reader Unit := do
  guard (← accept word)

/-- The characters that pass a test. -/
def takeWhile (test : Char → Bool) : Reader (List Char) := do
  let text ← get
  set (text.dropWhile test)
  return text.takeWhile test

/-- How many characters are left. -/
def left : Reader Nat := do
  return (← get).length

def isSpace (c : Char) : Bool := c == ' ' || c == '\t'

/-- Goes over blank space within a line. -/
def spaces : Reader Unit := do
  discard (takeWhile isSpace)

/-- Goes over a line break if it comes next. -/
def lineBreak : Reader Bool := do
  if ← accept "\n" then return true else accept "\r\n"

/-- Whether a character may stand in a comment and, but for quotes and backslashes, in a string: no
control character but the tab may. -/
def isPlain (c : Char) : Bool :=
  c == '\t' || (0x20 ≤ c.toNat && c.toNat ≠ 0x7F)

/-- Goes over a comment if it comes next. -/
def comment : Reader Unit := do
  if ← accept "#" then discard (takeWhile isPlain)

/-- Goes over what may follow on a line, and its end. -/
def lineEnd : Reader Unit := do
  spaces
  comment
  guard ((← peek).isNone || (← lineBreak))

/-! ## Strings -/

/-- The character with a number of so many hexadecimal digits. -/
def numbered (count : Nat) : Reader Char := do
  let digits := (← get).take count
  guard (digits.length = count)
  let n ← StateT.lift (Text.hexNumber? digits)
  guard n.isValidChar
  modify (·.drop count)
  return Char.ofNat n

/-- The character of an escape, behind its backslash. -/
def escape : Reader Char := do
  match ← next with
  | 'b' => return '\x08'
  | 't' => return '\t'
  | 'n' => return '\n'
  | 'f' => return '\x0C'
  | 'r' => return '\r'
  | '"' => return '"'
  | '\\' => return '\\'
  | 'u' => numbered 4
  | 'U' => numbered 8
  | _ => failure

/-- The rest of a string between quotes. -/
def quoted : (fuel : Nat) → Reader (List Char)
  | 0 => failure
  | fuel + 1 => do
    match ← next with
    | '"' => return []
    | '\\' => return (← escape) :: (← quoted fuel)
    | c =>
      guard (isPlain c)
      return c :: (← quoted fuel)

/-- The rest of a string between apostrophes, which has no escapes. -/
def literal : Reader (List Char) := do
  let chars ← takeWhile fun c => isPlain c && c != '\''
  expect "'"
  return chars

/-- The end of a string of several lines, from its quotes on: of at most five, the last three close
the string, and those before belong to it. -/
def closing (quote : Char) : Reader (List Char) := do
  let own := min ((← get).takeWhile (· == quote)).length 5 - 3
  modify (·.drop (own + 3))
  return List.replicate own quote

/-- Goes over the end of a line that is continued, behind its backslash, if it comes next. -/
def continuation : Reader Bool := do
  let start ← get
  spaces
  if ← lineBreak then
    blankLines ((← left) + 1)
    return true
  else
    set start
    return false
where
  /-- Goes over spaces and line breaks. -/
  blankLines : (fuel : Nat) → Reader Unit
    | 0 => return
    | fuel + 1 => do
      spaces
      if ← lineBreak then blankLines fuel

/-- The rest of a string of several lines between threefold quotes. -/
def quotedLines : (fuel : Nat) → Reader (List Char)
  | 0 => failure
  | fuel + 1 => do
    if (Text.after? "\"\"\"".toList (← get)).isSome then closing '"'
    else if ← lineBreak then return '\n' :: (← quotedLines fuel)
    else
      match ← next with
      | '\\' =>
        if ← continuation then quotedLines fuel
        else return (← escape) :: (← quotedLines fuel)
      | c =>
        guard (isPlain c)
        return c :: (← quotedLines fuel)

/-- The rest of a string of several lines between threefold apostrophes. -/
def literalLines : (fuel : Nat) → Reader (List Char)
  | 0 => failure
  | fuel + 1 => do
    if (Text.after? "'''".toList (← get)).isSome then closing '\''
    else if ← lineBreak then return '\n' :: (← literalLines fuel)
    else
      let c ← next
      guard (isPlain c)
      return c :: (← literalLines fuel)

/-- A string on one line. -/
def shortText : Reader String := do
  let fuel := (← left) + 1
  if ← accept "\"" then return String.ofList (← quoted fuel)
  else
    expect "'"
    return String.ofList (← literal)

/-- A string. A line break at the start of several lines is no part of them. -/
def text : Reader String := do
  let fuel := (← left) + 1
  if ← accept "\"\"\"" then
    discard lineBreak
    return String.ofList (← quotedLines fuel)
  else if ← accept "'''" then
    discard lineBreak
    return String.ofList (← literalLines fuel)
  else shortText

/-! ## Numbers -/

/-- The digits at the start of a text, and the rest. An underscore may stand between two digits; it
is left out. `within` tells that a digit precedes. -/
def digitRun (test : Char → Bool) : (within : Bool) → List Char → List Char × List Char
  | _, [] => ([], [])
  | within, c :: rest =>
    if test c then
      let (digits, rest) := digitRun test true rest
      (c :: digits, rest)
    else if within && c == '_' && rest.head?.any test then digitRun test false rest
    else ([], c :: rest)

/-- Some digits, at least one. -/
def digits (test : Char → Bool) : Reader (List Char) := do
  let (found, rest) := digitRun test false (← get)
  guard (!found.isEmpty)
  set rest
  return found

/-- A sign if it comes next: whether it is a minus. -/
def sign? : Reader (Option Bool) := do
  match ← peek with
  | some '+' => discard next; return some false
  | some '-' => discard next; return some true
  | _ => return none

/-- Whether a whole number has sixty-four bits. -/
def isInt64 (n : Int) : Bool :=
  -(Decimal.twoTo 63 : Int) ≤ n && n < (Decimal.twoTo 63 : Int)

def int64 (n : Int) : Reader Toml := do
  guard (isInt64 n)
  return .int n

/-- A whole number in base 16, 8 or 2, behind its two first characters. -/
def radixNumber (base : Nat) : Reader Toml := do
  let found ← digits fun c => (Text.hexDigit? c).any (· < base)
  int64 ((found.filterMap Text.hexDigit?).foldl (fun n d => base * n + d) 0 : Nat)

/-- The whole part of a decimal number; no zero stands before other digits. -/
def wholePart : Reader (List Char) := do
  if ← accept "0" then return ['0'] else digits Decimal.isDigit

/-- The digits of a fraction, if there is one. -/
def fraction? : Reader (Option (List Char)) := do
  if ← accept "." then return some (← digits Decimal.isDigit) else return none

/-- The exponent of a number, if there is one. -/
def exponent? : Reader (Option Int) := do
  match ← peek with
  | some 'e' | some 'E' =>
    discard next
    let down := (← sign?).getD false
    let n := Decimal.natOfDigits (← digits Decimal.isDigit)
    return some (if down then -(n : Int) else n)
  | _ => return none

/-- A number with a fraction or an exponent; only a negative one may be too large. -/
def double (negative : Bool) (digits : List Char) (exponent : Int) : Reader Toml := do
  let x := Double.ofMagnitude negative
    (Decimal.binary64.ofDecimal (Decimal.natOfDigits digits) exponent)
  guard (negative || x.isFinite)
  return .double x

/-- A decimal number, or one of the words `inf` and `nan`. -/
def decimal : Reader Toml := do
  let negative := (← sign?).getD false
  if ← accept "inf" then
    return .double (Double.ofMagnitude negative Decimal.binary64.infinity)
  else if ← accept "nan" then return .double (Double.ofMagnitude negative Double.nanMagnitude)
  else
    let whole ← wholePart
    let fraction ← fraction?
    let exponent ← exponent?
    let places := fraction.getD []
    if fraction.isNone && exponent.isNone then
      let n := Decimal.natOfDigits whole
      int64 (if negative then -(n : Int) else n)
    else double negative (whole ++ places) (exponent.getD 0 - places.length)

/-- A number. -/
def number : Reader Toml := do
  if ← accept "0x" then radixNumber 16
  else if ← accept "0o" then radixNumber 8
  else if ← accept "0b" then radixNumber 2
  else decimal

/-! ## Dates and times -/

/-- Whether a text starts with so many digits and then a character. -/
def startsWithDigits (count : Nat) (stop : Char) (text : List Char) : Bool :=
  (text.take count).length = count && (text.take count).all Decimal.isDigit
    && (text.drop count).head? == some stop

/-- A number of so many digits, which is not less than one number and not greater than another. -/
def bounded (count least greatest : Nat) : Reader Nat := do
  let digits := (← get).take count
  guard (digits.length = count && digits.all Decimal.isDigit)
  modify (·.drop count)
  let n := Decimal.natOfDigits digits
  guard (least ≤ n && n ≤ greatest)
  return n

def isLeapYear (year : Nat) : Bool :=
  year % 4 = 0 && (year % 100 ≠ 0 || year % 400 = 0)

def daysOf (year month : Nat) : Nat :=
  if month = 2 then if isLeapYear year then 29 else 28
  else if [4, 6, 9, 11].contains month then 30
  else 31

/-- Goes over a date. -/
def date : Reader Unit := do
  let year ← bounded 4 0 9999
  expect "-"
  let month ← bounded 2 1 12
  expect "-"
  discard (bounded 2 1 (daysOf year month))

/-- Goes over a time of the day. -/
def time : Reader Unit := do
  discard (bounded 2 0 23)
  expect ":"
  discard (bounded 2 0 59)
  expect ":"
  discard (bounded 2 0 60)
  if ← accept "." then
    guard !(← takeWhile Decimal.isDigit).isEmpty

/-- Goes over the distance from the standard time, if it comes next. -/
def offset : Reader Unit := do
  match ← peek with
  | some 'Z' | some 'z' => discard next
  | some '+' | some '-' =>
    discard next
    discard (bounded 2 0 23)
    expect ":"
    discard (bounded 2 0 59)
  | _ => return

/-- Whether a text begins like the time that follows a date. -/
def startsTimeOfDate (text : List Char) : Bool :=
  match text with
  | c :: rest => (c == 'T' || c == 't' || c == ' ') && startsWithDigits 2 ':' rest
  | [] => false

/-- A date, a time, or both. -/
def moment : Reader Toml := do
  if startsWithDigits 4 '-' (← get) then
    date
    if startsTimeOfDate (← get) then
      discard next
      time
      offset
  else time
  return .moment

/-! ## Together -/

/-- Goes over a word that is a value. -/
def word (spelling : String) (value : Toml) : Reader Toml := do
  expect spelling
  return value

/-- A value that holds no other values. -/
def scalar : Reader Toml := do
  match ← peek with
  | some '"' | some '\'' => return .text (← text)
  | some 't' => word "true" (.bool true)
  | some 'f' => word "false" (.bool false)
  | _ =>
    let rest ← get
    if startsWithDigits 4 '-' rest || startsWithDigits 2 ':' rest then moment else number

end Reader

end CodeSnapshot.Toml
