/-!
# Powers of two and of ten
-/

namespace CodeSnapshot.Decimal

/-- A power of two; also, how many numbers have so many bits. -/
def twoTo (n : Nat) : Nat := Nat.pow 2 n

/-- A power of ten. -/
def tenTo (n : Nat) : Nat := Nat.pow 10 n

end CodeSnapshot.Decimal
