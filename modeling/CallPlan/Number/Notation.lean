import CallPlan.Number.Shortest

/-!
How numbers are written. A notation says which exponents are written positionally and how many digits
an exponent has at least; the digits are the shortest ones.
-/

namespace CallPlan

/-- The rules of a way to write numbers: leading digits of exponents in `[low, high)` are written
positionally, all others with a mark. -/
structure NumberNotation where
  low : Int
  high : Int
  exponentDigits : Nat
deriving DecidableEq, Repr

namespace NumberNotation

/-- Positional from a millionth up to `10 ^ 21`, exponents with as many digits as they need. -/
def json : NumberNotation := ⟨-6, 21, 1⟩

/-- Positional from a ten-thousandth up to a million, exponents with at least two digits. -/
def general : NumberNotation := ⟨-4, 6, 2⟩

/-- Positional always. -/
def plain : NumberNotation := ⟨-400, 400, 1⟩

def padded (digits : Nat) (n : Nat) : Text :=
  let t := Text.ofNat n
  List.replicate (digits - t.length) (.char '0') ++ t

def zeros (n : Nat) : Text := List.replicate n (.char '0')

/-- Writes digits with the point after the leading `whole` of them, which may be none or too many. -/
def positional (digits : Text) (whole : Int) : Text :=
  if whole ≤ 0 then "0." ++ zeros (-whole).toNat ++ digits
  else
    let whole := whole.toNat
    if digits.length ≤ whole then digits ++ zeros (whole - digits.length)
    else digits.take whole ++ "." ++ digits.drop whole

/-- Writes digits with a point after the first and the exponent of the first. -/
def scientific (exponentDigits : Nat) (digits : Text) (order : Int) : Text :=
  digits.take 1 ++ (if digits.length ≤ 1 then [] else .char '.' :: digits.drop 1) ++
    (if order < 0 then Text.ofString "e-" else Text.ofString "e+") ++
    padded exponentDigits order.natAbs

/-- Writes a decimal. -/
def write (rules : NumberNotation) (d : Decimal) : Text :=
  let sign : Text := if d.negative then [.char '-'] else []
  if d.significand = 0 then sign ++ "0"
  else
    let digits := Text.ofNat d.significand
    let order := d.order
    sign ++
      (if rules.low ≤ order && order < rules.high then positional digits (order + 1)
        else scientific rules.exponentDigits digits order)

end NumberNotation

/-- The text of a double that need not be finite. -/
def Double.write (rules : NumberNotation) (format : BinaryFormat) (bits : UInt64) : Text :=
  if isNaN bits then "NaN"
  else if isInfinite bits then if isNegative bits then "-Inf" else "+Inf"
  else rules.write (Shortest.ofDouble format bits)

end CallPlan
