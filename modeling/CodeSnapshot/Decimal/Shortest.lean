import CodeSnapshot.Decimal.Binary

/-!
# The fewest digits that read back

For a finite, positive magnitude, the decimal number with the fewest digits among those that read
back to it; of two with as many digits the nearer one, and on an exact tie the one that the layout
asks for.
-/

namespace CodeSnapshot.Decimal

/-- Where an exact tie between two equally short numbers goes. -/
inductive Tie where
  | up
  | toEven
  deriving Repr, DecidableEq

/-- A decimal number: its digits without leading or trailing zeros, and how many of them stand
before the point (negative when zeros follow the point first). -/
structure Digits where
  digits : List Char
  point : Int
  deriving Repr, DecidableEq

/-- The digits of `value · 10^exponent`. -/
def Digits.ofNat (value : Nat) (exponent : Int) : Digits :=
  let written := Nat.toDigits 10 value
  { digits := (written.reverse.dropWhile (· = '0')).reverse
    point := written.length + exponent }

namespace Format

/-- The least `k` with `num / den < 10^k`, looked for among `fuel` values from `from` on. -/
def leadingPlace (num den : Nat) : (fuel : Nat) → (start : Int) → Int
  | 0, start => start
  | fuel + 1, start =>
    let below := if 0 ≤ start then num < den * tenTo start.toNat
      else num * tenTo (-start).toNat < den
    if below then start else leadingPlace num den fuel (start + 1)

/-- The quotient of a magnitude by a power of ten. -/
def onGrid (num den : Nat) (grid : Int) : Nat × Nat :=
  if 0 ≤ grid then (num, den * tenTo grid.toNat) else (num * tenTo (-grid).toNat, den)

/-- The neighbour of `num / den` on the grid of `10^grid` that reads back to `magnitude`, the nearer
one if both do. -/
def readsBackOn (f : Format) (tie : Tie) (magnitude num den : Nat) (grid : Int) : Option Nat :=
  let (n, d) := onGrid num den grid
  let low := n / d
  match f.ofDecimal low grid == magnitude, f.ofDecimal (low + 1) grid == magnitude with
  | false, false => none
  | true, false => some low
  | false, true => some (low + 1)
  | true, true =>
    let twice := 2 * (n % d)
    if twice < d then some low
    else if d < twice then some (low + 1)
    else
      match tie with
      | .up => some (low + 1)
      | .toEven => some (low + low % 2)

/-- Tries the grids of `count`, `count + 1`, … digits; `fuel` bounds how many. -/
def shortestFrom (f : Format) (tie : Tie) (magnitude num den : Nat) (place : Int) :
    (fuel count : Nat) → Digits
  | 0, count =>
    let grid := place - count
    let (n, d) := onGrid num den grid
    Digits.ofNat (n / d) grid
  | fuel + 1, count =>
    let grid := place - count
    match f.readsBackOn tie magnitude num den grid with
    | some value => Digits.ofNat value grid
    | none => f.shortestFrom tie magnitude num den place fuel (count + 1)

/-- The fewest digits that read back to a finite, positive magnitude. -/
def shortest (f : Format) (tie : Tie) (magnitude : Nat) : Digits :=
  let (num, den) := f.ratio magnitude
  let place := leadingPlace num den (2 * decimalReach) (-(decimalReach : Int))
  f.shortestFrom tie magnitude num den place f.precision 1

end Format

end CodeSnapshot.Decimal
