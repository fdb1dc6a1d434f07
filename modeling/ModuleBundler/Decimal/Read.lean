import ModuleBundler.Decimal.Shortest

/-!
# Reading numbers

Decimal integers and decimals with a point or an exponent, as people write them.
-/

namespace ModuleBundler.Decimal

def ofDigits (ds : List Char) : Nat :=
  ds.foldl (fun n d => 10 * n + (d.toNat - '0'.toNat)) 0

/-- A sign in front, and what follows it. -/
def splitSign : List Char → Bool × List Char
  | '-' :: r => (true, r)
  | '+' :: r => (false, r)
  | r => (false, r)

/-- An integer with an optional sign. -/
def readInteger? (text : List Char) : Option Int :=
  let (negative, ds) := splitSign text
  if ds.isEmpty || !ds.all Char.isDigit then none
  else if negative then some (-(Int.ofNat (ofDigits ds)))
  else some (Int.ofNat (ofDigits ds))

/-- The float nearest to `digits · 10 ^ exponent`; beyond the range of floats, infinity. -/
def nearest (digits : Nat) (exponent : Int) : Float :=
  let magnitude := exponent + Int.ofNat (leadingExponent digits)
  if digits = 0 ∨ magnitude < -400 then 0
  else if 400 < magnitude then 1 / 0
  else OfScientific.ofScientific digits (exponent < 0) exponent.natAbs

/-- The exponent at the end of a decimal. -/
def readExponent? : List Char → Option Int
  | [] => some 0
  | c :: r => if c = 'e' ∨ c = 'E' then readInteger? r else none

/-- A decimal with digits before or after an optional point. -/
def readFloat? (text : List Char) : Option Float := do
  let (negative, body) := splitSign text
  let (whole, rest) := body.span Char.isDigit
  let (fraction, rest) := match rest with
    | '.' :: r => r.span Char.isDigit
    | r => ([], r)
  if whole.isEmpty && fraction.isEmpty then none
  let exponent ← readExponent? rest
  let x := nearest (ofDigits (whole ++ fraction)) (exponent - Int.ofNat fraction.length)
  return if negative then -x else x

end ModuleBundler.Decimal
