import CodeSnapshot.Decimal.Double

/-!
# Numbers in JSON

A number with a fraction or an exponent is read in two steps: its digits are rounded to a double
precision number, which is then scaled by a power of ten with one more rounding. Digits beyond what
sixty-four bits hold count for their place only.
-/

namespace CodeSnapshot.Json

open Decimal

/-- The greatest natural number that is read exactly. -/
def natLimit : Nat := twoTo 64 - 1

/-- The magnitude of the product of two finite ones. -/
def product (a b : Nat) : Nat :=
  let (m, d) := binary64.ratio a
  let (n, e) := binary64.ratio b
  binary64.ofRatio (m * n) (d * e)

/-- The magnitude of the quotient of two finite ones, of which the second is not zero. -/
def quotient (a b : Nat) : Nat :=
  let (m, d) := binary64.ratio a
  let (n, e) := binary64.ratio b
  binary64.ofRatio (m * e) (d * n)

/-- The greatest exponent whose power of ten is finite. -/
def largestPower : Nat := 308

def powerOfTen (n : Nat) : Nat := binary64.ofDecimal 1 n

/-- A magnitude divided by a power of ten, in steps of the largest one. -/
def scaledDown (a : Nat) : (steps : Nat) → (rest : Nat) → Nat
  | 0, rest => quotient a (powerOfTen rest)
  | steps + 1, rest => scaledDown (quotient a (powerOfTen largestPower)) steps rest

/-- The magnitude of `digits · 10^exponent`, if it is finite. -/
def scaledMagnitude? (digits : Nat) (exponent : Int) : Option Nat :=
  let a := binary64.ofRatio digits 1
  if 0 ≤ exponent then
    let n := exponent.toNat
    if n ≤ largestPower then
      let scaled := product a (powerOfTen n)
      if scaled < binary64.infinity then some scaled else none
    else if a = 0 then some 0
    else none
  else
    let n := (-exponent).toNat
    if n ≤ largestPower then some (quotient a (powerOfTen n))
    else some (scaledDown a (min (n / largestPower) 4) (n % largestPower))

/-- The digits that fit into sixty-four bits, as a number, and how many digits are left over. -/
def leadingDigits (start : Nat) : List Char → Nat × Nat
  | [] => (start, 0)
  | c :: rest =>
    let next := 10 * start + (c.toNat - '0'.toNat)
    if natLimit < next then (start, rest.length + 1) else leadingDigits next rest

end CodeSnapshot.Json
