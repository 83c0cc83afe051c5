import CodeSnapshot.Decimal.Shortest

/-!
# Decimal text

Reading a number written in decimal, and the two ways in which a number is written: in full, with
digits and a point only, and in the short form of a data format, where an exponent stands for long
runs of zeros.
-/

namespace CodeSnapshot.Decimal

/-- A number as it is written: its magnitude in decimal, or one of the two that have no digits. -/
inductive Written where
  | finite (digits : Nat) (exponent : Int)
  | infinite
  | notANumber
  deriving Repr, DecidableEq

def isDigit (c : Char) : Bool :=
  '0' ≤ c && c ≤ '9'

/-- The number that a list of decimal digits writes. -/
def natOfDigits (digits : List Char) : Nat :=
  digits.foldl (fun n c => 10 * n + (c.toNat - '0'.toNat)) 0

/-- A whole number below a limit: a plus sign, which may be missing, and digits up to the end of the
text. -/
def readNat? (limit : Nat) (text : List Char) : Option Nat :=
  let digits :=
    match text with
    | '+' :: rest => rest
    | rest => rest
  if !digits.isEmpty && digits.all isDigit && natOfDigits digits < limit then
    some (natOfDigits digits)
  else none

/-- An exponent: a sign, which may be missing, and digits up to the end of the text. -/
def readExponent? (text : List Char) : Option Int :=
  let (negative, digits) :=
    match text with
    | '-' :: rest => (true, rest)
    | '+' :: rest => (false, rest)
    | rest => (false, rest)
  if digits.isEmpty || !digits.all isDigit then none
  else some (if negative then -(natOfDigits digits : Int) else natOfDigits digits)

/-- Digits with a point somewhere (or none) and an exponent (or none). At least one digit stands
before or after the point. -/
def readMagnitude? (text : List Char) : Option Written :=
  let whole := text.takeWhile isDigit
  let afterWhole := text.dropWhile isDigit
  let (fraction, rest) :=
    match afterWhole with
    | '.' :: more => (more.takeWhile isDigit, more.dropWhile isDigit)
    | more => ([], more)
  if whole.isEmpty && fraction.isEmpty then none
  else
    let digits := natOfDigits (whole ++ fraction)
    match rest with
    | [] => some (.finite digits (-(fraction.length : Int)))
    | c :: more =>
      if c = 'e' || c = 'E' then
        (readExponent? more).map fun e => .finite digits (e - fraction.length)
      else none

/-- The ASCII letters of a text in lower case. -/
def lowered (text : List Char) : List Char :=
  text.map Char.toLower

/-- Reads a number: a sign, which may be missing, and a magnitude or one of the words `inf`,
`infinity` and `nan` in any case. The first component tells whether there was a minus sign. -/
def read? (text : List Char) : Option (Bool × Written) :=
  let (negative, rest) :=
    match text with
    | '-' :: rest => (true, rest)
    | '+' :: rest => (false, rest)
    | rest => (false, rest)
  let word := lowered rest
  if word = "inf".toList || word = "infinity".toList then some (negative, .infinite)
  else if word = "nan".toList then some (negative, .notANumber)
  else (readMagnitude? rest).map (negative, ·)

/-! ## Writing -/

def zeros (n : Nat) : List Char :=
  List.replicate n '0'

/-- Digits and a point only: zeros are added on the side where the point lies beyond the digits. -/
def Digits.positional (d : Digits) : List Char :=
  if d.point ≤ 0 then '0' :: '.' :: (zeros (-d.point).toNat ++ d.digits)
  else if d.digits.length ≤ d.point.toNat then d.digits ++ zeros (d.point.toNat - d.digits.length)
  else d.digits.take d.point.toNat ++ '.' :: d.digits.drop d.point.toNat

/-- One digit before the point, and an exponent with its sign. -/
def Digits.scientific (d : Digits) : List Char :=
  let exponent := d.point - 1
  let sign := if exponent < 0 then '-' else '+'
  let mantissa :=
    match d.digits with
    | [] => ['0']
    | [c] => [c]
    | c :: cs => c :: '.' :: cs
  mantissa ++ 'e' :: sign :: Nat.toDigits 10 exponent.natAbs

/-- How a data format writes numbers: the exponents that are written out with digits and a point.
An integral number keeps `.0`, and a tie between two equally short numbers goes to the even one. -/
structure ShortForm where
  format : Format
  leastExponent : Int
  greatestExponent : Int
  deriving Repr

/-- Double precision numbers are written out from 10^-5 up to, not including, 10^16. -/
def shortForm64 : ShortForm := ⟨binary64, -5, 15⟩

/-- Single precision numbers are written out from 10^-6 up to, not including, 10^13. -/
def shortForm32 : ShortForm := ⟨binary32, -6, 12⟩

/-- The short form of a finite magnitude. -/
def ShortForm.write (s : ShortForm) (magnitude : Nat) : List Char :=
  if magnitude = 0 then "0.0".toList
  else
    let d := s.format.shortest .toEven magnitude
    let exponent := d.point - 1
    if s.leastExponent ≤ exponent && exponent ≤ s.greatestExponent then
      let written := d.positional
      if written.contains '.' then written else written ++ ".0".toList
    else d.scientific

/-- A finite magnitude written in full; a tie between two equally short numbers goes up. -/
def Format.writeInFull (f : Format) (magnitude : Nat) : List Char :=
  if magnitude = 0 then ['0'] else (f.shortest .up magnitude).positional

end CodeSnapshot.Decimal
