import CodeSnapshot.Decimal.Power

/-!
# Binary floating point numbers

The finite numbers of a binary format are the products m · 2^q with m below 2^precision and q at
least −lowest. This module gives the number nearest to a quotient of natural numbers, in exact
arithmetic, and the two formats in use. A magnitude (a number without its sign) is held as its bits,
so that a larger number has larger bits.
-/

namespace CodeSnapshot.Decimal

/-- A binary format: the bits of a significand, the exponent of the smallest positive number
(negated), and the bits of infinity. -/
structure Format where
  precision : Nat
  lowest : Nat
  infinity : Nat
  deriving Repr, DecidableEq

/-- Sixty-four bits, eleven of them for the exponent. -/
def binary64 : Format := ⟨53, 1074, 0x7FF0000000000000⟩

/-- Thirty-two bits, eight of them for the exponent. -/
def binary32 : Format := ⟨24, 149, 0x7F800000⟩

/-- The quotient `num / den` to the nearest natural number; a half goes to the even neighbour. -/
def nearest (num den : Nat) : Nat :=
  let low := num / den
  let twice := 2 * (num % den)
  if twice < den then low
  else if den < twice then low + 1
  else low + low % 2

/-- The quotient `num / den` times two to the power of `-q`, as a quotient. -/
def scaled (num den : Nat) (q : Int) : Nat × Nat :=
  if 0 ≤ q then (num, den * twoTo q.toNat) else (num * twoTo (-q).toNat, den)

namespace Format

/-- The exponent e with 2^e ≤ num / den < 2^(e+1). -/
def exponentOf (num den : Nat) : Int :=
  let estimate : Int := (num.log2 : Int) - (den.log2 : Int)
  let (n, d) := scaled num den estimate
  if d ≤ n then estimate else estimate - 1

/-- The magnitude nearest to `num / den`; infinity when that is too large. -/
def ofRatio (f : Format) (num den : Nat) : Nat :=
  if num = 0 then 0
  else
    let q : Int := max (exponentOf num den - (f.precision - 1 : Int)) (-(f.lowest : Int))
    let (n, d) := scaled num den q
    min f.infinity ((q + f.lowest).toNat * twoTo (f.precision - 1) + nearest n d)

/-- Beyond this many decimal places a number of either format is infinite, or zero. -/
def decimalReach : Nat := 400

/-- The magnitude nearest to `digits · 10^exponent`. -/
def ofDecimal (f : Format) (digits : Nat) (exponent : Int) : Nat :=
  if digits = 0 then 0
  else
    let places : Int := (Nat.toDigits 10 digits).length + exponent
    if (decimalReach : Int) < places then f.infinity
    else if places < -(decimalReach : Int) then 0
    else if 0 ≤ exponent then f.ofRatio (digits * tenTo exponent.toNat) 1
    else f.ofRatio digits (tenTo (-exponent).toNat)

/-- The significand and the exponent of a finite magnitude. -/
def parts (f : Format) (magnitude : Nat) : Nat × Int :=
  let unit := twoTo (f.precision - 1)
  if magnitude < unit then (magnitude, -(f.lowest : Int))
  else (magnitude % unit + unit, (magnitude / unit : Nat) - 1 - (f.lowest : Int))

/-- A finite magnitude as a quotient. -/
def ratio (f : Format) (magnitude : Nat) : Nat × Nat :=
  let (m, q) := f.parts magnitude
  if 0 ≤ q then (m * twoTo q.toNat, 1) else (m, twoTo (-q).toNat)

end Format

end CodeSnapshot.Decimal
