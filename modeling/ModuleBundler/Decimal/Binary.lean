/-!
# Binary floating-point numbers as exact values

A finite number is a sign and a natural number times a power of two.
-/

namespace ModuleBundler.Decimal

/-- The value `mantissa · 2 ^ exponent`, with a sign. -/
structure Binary where
  negative : Bool
  mantissa : Nat
  exponent : Int
  /-- The gap to the next smaller number is half of the gap to the next larger one. -/
  narrowBelow : Bool

/-- The exact value of a finite number, from its bits. -/
def Binary.ofBits (bits : UInt64) : Binary :=
  let n := bits.toNat
  let fraction := n % Nat.pow 2 52
  let biased := n / Nat.pow 2 52 % Nat.pow 2 11
  let negative := n / Nat.pow 2 63 == 1
  if biased = 0 then ⟨negative, fraction, -1074, false⟩
  else ⟨negative, Nat.pow 2 52 + fraction, Int.ofNat biased - 1075, fraction == 0 && biased != 1⟩

def Binary.ofFloat (x : Float) : Binary := .ofBits x.toBits

/-- A quotient of natural numbers. -/
structure Ratio where
  num : Nat
  den : Nat

/-- `mantissa · 2 ^ exponent` as a quotient. -/
def ratio (mantissa : Nat) (exponent : Int) : Ratio :=
  ⟨mantissa * Nat.pow 2 exponent.toNat, Nat.pow 2 (-exponent).toNat⟩

/-- The nearest natural number; halfway between two, the even one. -/
def Ratio.roundEven (r : Ratio) : Nat :=
  let q := r.num / r.den
  let rem := r.num % r.den
  if 2 * rem < r.den then q
  else if 2 * rem > r.den then q + 1
  else if q % 2 = 0 then q else q + 1

end ModuleBundler.Decimal
