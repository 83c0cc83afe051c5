import CodeSnapshot.Toml.Scalar

/-!
# TOML documents

Keys, the values that hold other values, and the lines of a document.
-/

namespace CodeSnapshot.Toml

namespace Reader

/-- Neither brackets nor the parts of a key may be as many on the way to one value. -/
def depthLimit : Nat := 80

/-! ## Keys -/

/-- Whether a character may stand in a key without quotes. -/
def isBare (c : Char) : Bool :=
  c.isAlphanum || c == '_' || c == '-'

/-- A part of a key. -/
def keyPart : Reader String := do
  match ← peek with
  | some '"' | some '\'' => shortText
  | _ =>
    let chars ← takeWhile isBare
    guard !chars.isEmpty
    return String.ofList chars

/-- The parts of a key. -/
def keyParts : (fuel : Nat) → Reader (List String)
  | 0 => failure
  | fuel + 1 => do
    spaces
    let part ← keyPart
    spaces
    if ← accept "." then return part :: (← keyParts fuel) else return [part]

/-- A key. -/
def key : Reader (List String) := do
  let parts ← keyParts ((← left) + 1)
  guard (parts.length < depthLimit)
  return parts

/-- A key and its value. -/
def entry (value : Reader Toml) : Reader (List String × Toml) := do
  let key ← key
  expect "="
  spaces
  return (key, ← value)

/-! ## Values -/

/-- Goes over blank space, line breaks and comments. -/
def gap : (fuel : Nat) → Reader Unit
  | 0 => return
  | fuel + 1 => do
    spaces
    if (← peek) = some '#' then
      comment
      guard (← lineBreak)
      gap fuel
    else if ← lineBreak then gap fuel

/-- The rest of a list; a comma may follow the last item. -/
def items (value : Reader Toml) : (fuel : Nat) → Reader (List Toml)
  | 0 => failure
  | fuel + 1 => do
    gap fuel
    if ← accept "]" then return []
    else
      let item ← value
      gap fuel
      if ← accept "," then return item :: (← items value fuel)
      else
        expect "]"
        return [item]

/-- The entries of a table between braces that has some. -/
def entries (value : Reader Toml) : (fuel : Nat) → Reader (List (List String × Toml))
  | 0 => failure
  | fuel + 1 => do
    let first ← entry value
    spaces
    if ← accept "," then return first :: (← entries value fuel)
    else
      expect "\x7d"
      return [first]

/-- The rest of a table between braces. -/
def braces (value : Reader Toml) : Reader Toml := do
  spaces
  let all ← if ← accept "\x7d" then pure [] else entries value ((← left) + 1)
  return .table .braces (← StateT.lift (Fields.ofEntries all))

/-- A value in which so many brackets may be open at a time. -/
def value : (depth : Nat) → Reader Toml
  | 0 => scalar
  | depth + 1 => do
    if ← accept "[" then return .list (← items (value depth) ((← left) + 1))
    else if ← accept "\x7b" then braces (value depth)
    else scalar

/-! ## Lines -/

/-- A line that says something, up to its end. -/
def line : Reader Line := do
  if ← accept "[[" then
    let key ← key
    expect "]]"
    return .listedTable key
  else if ← accept "[" then
    let key ← key
    expect "]"
    return .table key
  else
    let (key, value) ← entry (value (depthLimit - 1))
    return .entry key value

/-- Whether a line that starts so says nothing. -/
def startsIdle (c : Char) : Bool :=
  c == '#' || c == '\n' || c == '\r'

/-- The lines of a document that say something. -/
def lines : (fuel : Nat) → Reader (List Line)
  | 0 => failure
  | fuel + 1 => do
    spaces
    match ← peek with
    | none => return []
    | some c =>
      if startsIdle c then
        lineEnd
        lines fuel
      else
        let first ← line
        lineEnd
        return first :: (← lines fuel)

end Reader

/-- The table that a document is. A byte order mark may stand at its start. -/
def parse? (document : String) : Option Toml := do
  let chars := (Text.after? ['\uFEFF'] document.toList).getD document.toList
  let (lines, _) ← (Reader.lines (chars.length + 1)).run chars
  ofLines lines

end CodeSnapshot.Toml
