import ModuleBundler.Decimal.Binary

/-!
# Decimals with two places

The exact value of a float, rounded to hundredths; a tie goes to the even hundredth.
-/

namespace ModuleBundler.Decimal

private def twoDigits (n : Nat) : String :=
  if n < 10 then "0" ++ toString n else toString n

/-- A number of hundredths with a point. -/
def hundredths (n : Nat) : String :=
  toString (n / 100) ++ "." ++ twoDigits (n % 100)

def twoPlaces (x : Float) : String :=
  let b := Binary.ofFloat x
  let r := ratio b.mantissa b.exponent
  (if b.negative then "-" else "") ++ hundredths (Ratio.roundEven ⟨r.num * 100, r.den⟩)

end ModuleBundler.Decimal
