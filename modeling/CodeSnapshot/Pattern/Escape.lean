import CodeSnapshot.Pattern.Basic
import CodeSnapshot.Pattern.Named
import CodeSnapshot.Text.Piece

/-!
# Escapes and flags of the pattern language

What a pattern's text means depends on flags that can change inside it. This module holds the flags,
the space that may be ignored between the parts of a pattern, and everything that begins with a
backslash.
-/

namespace CodeSnapshot.Pattern

open Text

/-- The flags of the pattern language. -/
structure Flags where
  /-- letters match in either case -/
  caseless : Bool := false
  /-- `^` and `$` match at line ends too -/
  multiLine : Bool := false
  /-- `.` matches a line feed too -/
  dotAll : Bool := false
  /-- repetitions prefer fewer rounds, and more with `?` behind them -/
  swapGreed : Bool := false
  /-- classes range over all of Unicode -/
  unicode : Bool := true
  /-- a carriage return ends a line too -/
  carriageReturn : Bool := false
  /-- blanks and comments do not count -/
  extended : Bool := false
  deriving Repr, DecidableEq

/-- The text behind blanks and comments; a comment runs from `#` through the end of its line. -/
def skipIgnored : (inComment : Bool) → List Char → List Char
  | _, [] => []
  | true, c :: rest => skipIgnored (c != '\n') rest
  | false, c :: rest =>
    if isBlank c then skipIgnored false rest
    else if c = '#' then skipIgnored true rest
    else c :: rest

/-- The text behind what the flags say to ignore. -/
def Flags.skip (f : Flags) (text : List Char) : List Char :=
  if f.extended then skipIgnored false text else text

/-- What one item of a pattern or of a bracketed class is. -/
inductive Atom where
  /-- a character; `byte` when it is written as two hexadecimal digits -/
  | char (c : Char) (byte : Bool)
  | kind (k : CharClass)
  | place (p : Place)
  deriving Repr

def isHexDigit (c : Char) : Bool :=
  ('0' ≤ c && c ≤ '9') || ('a' ≤ c && c ≤ 'f') || ('A' ≤ c && c ≤ 'F')

/-- The character with a code point, if there is one. -/
def charOf? (n : Nat) : Option Char :=
  if n.isValidChar then some (Char.ofNat n) else none

/-- Exactly `count` hexadecimal digits. -/
def fixedHex? (f : Flags) : (count : Nat) → (value : Nat) → List Char → Option (Nat × List Char)
  | 0, value, text => some (value, text)
  | _ + 1, _, [] => none
  | count + 1, value, c :: rest =>
    if isHexDigit c then fixedHex? f count (16 * value + Unicode.Run.digitValue c) (f.skip rest)
    else none

/-- Hexadecimal digits up to a closing brace; `fuel` bounds how many. -/
def bracedHex? (f : Flags) : (fuel : Nat) → (digits : List Char) → List Char →
    Option (List Char × List Char)
  | 0, _, _ => none
  | _ + 1, _, [] => none
  | fuel + 1, digits, c :: rest =>
    if c = '\x7d' then some (digits.reverse, f.skip rest)
    else if isHexDigit c then bracedHex? f fuel (c :: digits) (f.skip rest)
    else none

/-- The character written by `x`, `u` or `U` and hexadecimal digits, of which there are `count`
unless braces hold them. -/
def hexChar? (f : Flags) (count : Nat) (text : List Char) : Option (Atom × List Char) :=
  match f.skip text with
  | [] => none
  | '\x7b' :: rest =>
    match bracedHex? f (rest.length + 1) [] (f.skip rest) with
    | none => none
    | some (digits, rest) =>
      if digits.isEmpty then none
      else (charOf? (Unicode.Run.ofHex digits)).map fun c => (.char c false, rest)
  | text =>
    match fixedHex? f count 0 text with
    | none => none
    | some (value, rest) => (charOf? value).map fun c => (.char c (count == 2), rest)

/-- The text up to a closing brace, and the text behind it. -/
def bracedName? (f : Flags) : (fuel : Nat) → (name : List Char) → List Char →
    Option (List Char × List Char)
  | 0, _, _ => none
  | _ + 1, _, [] => none
  | fuel + 1, name, c :: rest =>
    if c = '\x7d' then some (name.reverse, rest) else bracedName? f fuel (c :: name) (f.skip rest)

/-- The class that the text between the braces of `\p` means; the flag tells whether it is
negated. -/
def classOfName? (name : List Char) : Option (Bool × CharClass) :=
  match cutAt? ['!', '='] name with
  | some (key, value) => (classWithValue? key value).map (true, ·)
  | none =>
    match cutAt? [':'] name <|> cutAt? ['='] name with
    | some (key, value) => (classWithValue? key value).map (false, ·)
    | none => (classNamed? name).map (false, ·)

/-- The class as the flags and a negation say. -/
def Flags.adjust (f : Flags) (negated : Bool) (k : CharClass) : CharClass :=
  let k := if f.caseless then (if f.unicode then .caseless k else .asciiCaseless k) else k
  if negated then (if f.unicode then .complement k else .inter (.range 0 0xFF) (.complement k))
  else k

/-- What follows `\p` or `\P`. -/
def namedClass? (f : Flags) (negated : Bool) (text : List Char) : Option (Atom × List Char) :=
  if !f.unicode then none
  else
    match f.skip text with
    | [] => none
    | '\x7b' :: rest =>
      match bracedName? f (rest.length + 1) [] (f.skip rest) with
      | none => none
      | some (name, rest) =>
        (classOfName? name).map fun (inverse, k) =>
          (.kind (f.adjust (negated != inverse) k), rest)
    | c :: rest =>
      if c = '\\' then none
      else (classNamed? [c]).map fun k => (.kind (f.adjust negated k), f.skip rest)

/-- The class of a one-letter escape (digits, blanks or word characters). -/
def letterClass? (f : Flags) (letter : Char) : Option CharClass :=
  match letter with
  | 'd' => some (if f.unicode then CharClass.digit else CharClass.asciiDigit)
  | 's' =>
    some (if f.unicode then CharClass.blank else CharClass.ofRanges [('\t', '\r'), (' ', ' ')])
  | 'w' => some (if f.unicode then CharClass.word else CharClass.asciiWord)
  | _ => none

/-- The characters that have a meaning of their own in patterns. -/
def isMeta (c : Char) : Bool :=
  "\\.+*?()|[]\x7b\x7d^$#&-~".toList.contains c

/-- Whether a character may stand behind a backslash to mean itself. -/
def isEscapable (c : Char) : Bool :=
  isMeta c || (c.toNat < 0x80 && !c.isAlphanum && c != '<' && c != '>')

/-- The control character of a one-letter escape. -/
def controlChar? (letter : Char) : Option Char :=
  match letter with
  | 'a' => some '\x07'
  | 'f' => some '\x0C'
  | 't' => some '\t'
  | 'n' => some '\n'
  | 'r' => some '\r'
  | 'v' => some '\x0B'
  | _ => none

/-- The word characters that word edges are about. -/
def Flags.wordClass (f : Flags) : CharClass :=
  if f.unicode then CharClass.word else CharClass.asciiWord

def isEdgeNameChar (c : Char) : Bool :=
  c.isAlpha || c == '-'

/-- The name of a special word edge up to its closing brace. -/
def edgeName? (f : Flags) : (fuel : Nat) → (name : List Char) → List Char →
    Option (List Char × List Char)
  | 0, _, _ => none
  | _ + 1, _, [] => none
  | fuel + 1, name, c :: rest =>
    if c = '\x7d' then some (name.reverse, rest)
    else if isEdgeNameChar c then edgeName? f fuel (c :: name) (f.skip rest)
    else none

/-- What follows `\b`: a word edge, or one of the special edges named in braces. Braces that do not
begin with a name belong to a repetition. -/
def wordEdge? (f : Flags) (text : List Char) : Option (Atom × List Char) :=
  let w := f.wordClass
  match text with
  | '\x7b' :: rest =>
    match f.skip rest with
    | [] => none
    | c :: more =>
      if !isEdgeNameChar c then some (.place (.wordEdge w), text)
      else
        match edgeName? f (more.length + 2) [] (c :: more) with
        | none => none
        | some (name, rest) =>
          if name = "start".toList then some (.place (.wordStart w), rest)
          else if name = "end".toList then some (.place (.wordEnd w), rest)
          else if name = "start-half".toList then some (.place (.noWordBefore w), rest)
          else if name = "end-half".toList then some (.place (.noWordAfter w), rest)
          else none
  | _ => some (.place (.wordEdge w), text)

/-- What a backslash and the text behind it mean, and what follows. -/
def escape? (f : Flags) : List Char → Option (Atom × List Char)
  | [] => none
  | c :: rest =>
    match c with
    | 'x' => hexChar? f 2 rest
    | 'u' => hexChar? f 4 rest
    | 'U' => hexChar? f 8 rest
    | 'p' => namedClass? f false rest
    | 'P' => namedClass? f true rest
    | 'A' => some (.place .textStart, rest)
    | 'z' => some (.place .textEnd, rest)
    | 'b' => wordEdge? f rest
    | 'B' => some (.place (.noWordEdge f.wordClass), rest)
    | '<' => some (.place (.wordStart f.wordClass), rest)
    | '>' => some (.place (.wordEnd f.wordClass), rest)
    | c =>
      match letterClass? f c with
      | some k => some (.kind k, rest)
      | none =>
        match letterClass? f c.toLower with
        | some k => if f.unicode then some (.kind (.complement k), rest) else none
        | none =>
          match controlChar? c with
          | some control => some (.char control false, rest)
          | none => if isEscapable c then some (.char c false, rest) else none

end CodeSnapshot.Pattern
