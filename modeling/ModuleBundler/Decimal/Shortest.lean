import ModuleBundler.Decimal.Binary

/-!
# Shortest decimals

The shortest decimal that lies closer to a binary number than to its neighbours, and of those the
one nearest to the number.
-/

namespace ModuleBundler.Decimal

/-- The value `digits · 10 ^ exponent`. -/
structure Scaled where
  digits : Nat
  exponent : Int
  deriving DecidableEq

/-- The decimals that stand for a number: between `low` and `high`, ends included if `closed`. -/
structure Interval where
  low : Ratio
  high : Ratio
  closed : Bool

def Interval.ofBinary (b : Binary) : Interval where
  low :=
    if b.narrowBelow then ratio (4 * b.mantissa - 1) (b.exponent - 2)
    else ratio (2 * b.mantissa - 1) (b.exponent - 1)
  high := ratio (2 * b.mantissa + 1) (b.exponent - 1)
  closed := b.mantissa % 2 == 0

/-- `n · 10 ^ e` as a quotient. -/
def Scaled.ratio (n : Nat) (e : Int) : Ratio :=
  ⟨n * Nat.pow 10 e.toNat, Nat.pow 10 (-e).toNat⟩

def Ratio.lt (a b : Ratio) : Bool := a.num * b.den < b.num * a.den

def Ratio.le (a b : Ratio) : Bool := a.num * b.den ≤ b.num * a.den

def Interval.contains (i : Interval) (r : Ratio) : Bool :=
  if i.closed then i.low.le r && r.le i.high else i.low.lt r && r.lt i.high

/-- The exponent of the leading decimal digit of a natural number. -/
def leadingExponent (n : Nat) : Nat := (Nat.toDigits 10 n).length - 1

/-- The exponent of the leading decimal digit of a positive quotient. -/
def Ratio.magnitude (r : Ratio) : Int :=
  if r.den ≤ r.num then Int.ofNat (leadingExponent (r.num / r.den))
  else -(Int.ofNat (leadingExponent ((r.den - 1) / r.num)) + 1)

/-- The largest multiple of `10 ^ e` that is no larger than `r`, counted in these units. -/
def Ratio.floorAt (r : Ratio) (e : Int) : Nat :=
  (r.num * Nat.pow 10 (-e).toNat) / (r.den * Nat.pow 10 e.toNat)

/-- Whether `n + 1` lies nearer to `r` than `n`, in units of `10 ^ e`; a tie goes to even. -/
private def upIsNearer (r : Ratio) (e : Int) (n : Nat) : Bool :=
  -- compares `2 r` with `(2 n + 1) · 10 ^ e`
  let left := 2 * r.num * Nat.pow 10 (-e).toNat
  let right := (2 * n + 1) * (r.den * Nat.pow 10 e.toNat)
  left > right || (left == right && n % 2 == 1)

/-- The candidate with the leading digit of `r` and `count` digits, if it stands for `r`. -/
private def candidate? (i : Interval) (r : Ratio) (magnitude : Int) (count : Nat) :
    Option Scaled :=
  let e := magnitude - Int.ofNat count + 1
  let n := r.floorAt e
  match i.contains (Scaled.ratio n e), i.contains (Scaled.ratio (n + 1) e) with
  | true, true => some ⟨if upIsNearer r e n then n + 1 else n, e⟩
  | true, false => some ⟨n, e⟩
  | false, true => some ⟨n + 1, e⟩
  | false, false => none

/-- Moves trailing zeros into the exponent. -/
private def stripZeros : Nat → Scaled → Scaled
  | 0, d => d
  | fuel + 1, d =>
    if d.digits ≠ 0 ∧ d.digits % 10 = 0 then stripZeros fuel ⟨d.digits / 10, d.exponent + 1⟩ else d

/-- The shortest decimal for a binary number other than zero. Seventeen digits always suffice. -/
def shortest (b : Binary) : Scaled :=
  let r := ratio b.mantissa b.exponent
  let i := Interval.ofBinary b
  let found := (List.range 17).findSome? fun k => candidate? i r r.magnitude (k + 1)
  stripZeros 20 (found.getD ⟨b.mantissa, 0⟩)

/-! ## Writing a decimal -/

/-- How a float is written: positional while the leading digit's exponent is below `positional`
and not below `smallest`, with an exponent otherwise. -/
structure FloatFormat where
  positional : Int
  smallest : Int

private def positionalText (d : Scaled) (digits : List Char) : List Char :=
  if 0 ≤ d.exponent then digits ++ List.replicate d.exponent.toNat '0' ++ ['.', '0']
  else
    let places := (-d.exponent).toNat
    if places < digits.length then
      digits.take (digits.length - places) ++ '.' :: digits.drop (digits.length - places)
    else '0' :: '.' :: List.replicate (places - digits.length) '0' ++ digits

private def scientificText (magnitude : Int) (digits : List Char) : List Char :=
  let mantissa := match digits with
    | [] => []
    | [d] => [d]
    | d :: ds => d :: '.' :: ds
  let sign := if 0 ≤ magnitude then '+' else '-'
  mantissa ++ 'e' :: sign :: Nat.toDigits 10 magnitude.natAbs

/-- A finite float as text. -/
def FloatFormat.write (f : FloatFormat) (x : Float) : String :=
  let b := Binary.ofFloat x
  let body :=
    if b.mantissa = 0 then ['0', '.', '0']
    else
      let d := shortest b
      let digits := Nat.toDigits 10 d.digits
      let magnitude := d.exponent + Int.ofNat digits.length - 1
      if f.smallest ≤ magnitude ∧ magnitude < f.positional then positionalText d digits
      else scientificText magnitude digits
  String.ofList (if b.negative then '-' :: body else body)

end ModuleBundler.Decimal
