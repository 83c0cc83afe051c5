import CodeSnapshot.Decimal.Text

/-!
# Double and single precision numbers

A number is held as its bits, so that two numbers are equal exactly when they are written alike down
to the sign of a zero and of a NaN. The operations are those that the query language and the
settings need; rounding is that of `Decimal.Format`.
-/

namespace CodeSnapshot

open Decimal

/-- A double precision number. -/
structure Double where
  bits : UInt64
  deriving Repr, DecidableEq, Inhabited

namespace Double

def signBit : Nat := twoTo 63

/-- The number with a sign and a magnitude. -/
def ofMagnitude (negative : Bool) (magnitude : Nat) : Double :=
  ⟨(magnitude + if negative then signBit else 0).toUInt64⟩

/-- The number without its sign. -/
def magnitude (x : Double) : Nat :=
  x.bits.toNat % signBit

def isNegative (x : Double) : Bool :=
  signBit ≤ x.bits.toNat

def zero : Double := ofMagnitude false 0

def infinity : Double := ofMagnitude false binary64.infinity

/-- The magnitude of a quiet NaN. -/
def nanMagnitude : Nat := 0x7FF8000000000000

def nan : Double := ofMagnitude false nanMagnitude

def isNaN (x : Double) : Bool :=
  binary64.infinity < x.magnitude

def isFinite (x : Double) : Bool :=
  x.magnitude < binary64.infinity

def isZero (x : Double) : Bool :=
  x.magnitude == 0

/-- The number nearest to a natural number. -/
def ofNat (n : Nat) : Double :=
  ofMagnitude false (binary64.ofRatio n 1)

/-- The number that a text writes. -/
def ofText? (text : List Char) : Option Double :=
  (read? text).map fun (negative, written) =>
    match written with
    | .finite digits exponent => ofMagnitude negative (binary64.ofDecimal digits exponent)
    | .infinite => ofMagnitude negative binary64.infinity
    | .notANumber => ofMagnitude negative nanMagnitude

/-- Smaller numbers have smaller keys; a negative NaN comes first and a positive one last, and
−0 stands before 0. -/
def orderKey (x : Double) : Int :=
  if x.isNegative then -(x.magnitude : Int) - 1 else x.magnitude

/-- The total order on all numbers, NaN included. -/
def compare (x y : Double) : Ordering :=
  Ord.compare x.orderKey y.orderKey

/-- Below zero; false for −0 and for NaN. -/
def belowZero (x : Double) : Bool :=
  !x.isNaN && x.isNegative && !x.isZero

/-- The magnitude without its fraction, for a finite number. -/
def truncatedMagnitude (x : Double) : Nat :=
  let (num, den) := binary64.ratio x.magnitude
  num / den

/-- Whether a number is finite and has no fraction. -/
def isIntegral (x : Double) : Bool :=
  x.isFinite &&
    let (num, den) := binary64.ratio x.magnitude
    num % den == 0

/-- The greatest number of 64 bits. -/
def natLimit : Nat := twoTo 64 - 1

/-- The natural number below, cut off at zero and at 2^64 − 1; NaN gives zero. -/
def toNat (x : Double) : Nat :=
  if x.isNaN || x.isNegative then 0
  else if x.isFinite then min natLimit x.truncatedMagnitude
  else natLimit

/-- The integer that a number is, if its magnitude is below 2^53. -/
def toInt? (x : Double) : Option Int :=
  if x.isIntegral && x.truncatedMagnitude < twoTo 53 then
    some (if x.isNegative then -(x.truncatedMagnitude : Int) else x.truncatedMagnitude)
  else none

/-- The sum of two numbers. A NaN is handed on, and opposite infinities give the negative NaN. -/
def add (x y : Double) : Double :=
  if x.isNaN then x
  else if y.isNaN then y
  else if !x.isFinite && !y.isFinite && x.isNegative != y.isNegative then
    ofMagnitude true nanMagnitude
  else ⟨(Float.ofBits x.bits + Float.ofBits y.bits).toBits⟩

/-- Written in full, with digits and a point only. -/
def toText (x : Double) : List Char :=
  if x.isNaN then "NaN".toList
  else
    let unsigned := if x.isFinite then binary64.writeInFull x.magnitude else "inf".toList
    if x.isNegative then '-' :: unsigned else unsigned

/-- The short form of a finite number in a data format. -/
def toShortText (x : Double) : List Char :=
  let unsigned := shortForm64.write x.magnitude
  if x.isNegative then '-' :: unsigned else unsigned

end Double

/-- A single precision number. -/
structure Single where
  bits : UInt32
  deriving Repr, DecidableEq, Inhabited

namespace Single

def signBit : Nat := twoTo 31

def ofMagnitude (negative : Bool) (magnitude : Nat) : Single :=
  ⟨(magnitude + if negative then signBit else 0).toUInt32⟩

def magnitude (x : Single) : Nat :=
  x.bits.toNat % signBit

def isNegative (x : Single) : Bool :=
  signBit ≤ x.bits.toNat

def isFinite (x : Single) : Bool :=
  x.magnitude < binary32.infinity

/-- The magnitude of a quiet NaN. -/
def nanMagnitude : Nat := 0x7FC00000

/-- The number that a text writes. -/
def ofText? (text : List Char) : Option Single :=
  (read? text).map fun (negative, written) =>
    match written with
    | .finite digits exponent => ofMagnitude negative (binary32.ofDecimal digits exponent)
    | .infinite => ofMagnitude negative binary32.infinity
    | .notANumber => ofMagnitude negative nanMagnitude

/-- The single precision number nearest to a double precision one. -/
def ofDouble (x : Double) : Single :=
  if x.isNaN then ofMagnitude x.isNegative nanMagnitude
  else if x.isFinite then
    let (num, den) := binary64.ratio x.magnitude
    ofMagnitude x.isNegative (binary32.ofRatio num den)
  else ofMagnitude x.isNegative binary32.infinity

/-- The single precision number nearest to a whole number. -/
def ofInt (n : Int) : Single :=
  ofMagnitude (n < 0) (binary32.ofRatio n.natAbs 1)

/-- The short form of a finite number in a data format. -/
def toShortText (x : Single) : List Char :=
  let unsigned := shortForm32.write x.magnitude
  if x.isNegative then '-' :: unsigned else unsigned

end Single

end CodeSnapshot
