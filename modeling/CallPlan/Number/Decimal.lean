import CallPlan.Number.Dyadic
import CallPlan.Text.Glyph

/-!
Decimal numbers: a natural significand times a power of ten, with a sign, as written in numerals.
-/

namespace CallPlan

structure Decimal where
  negative : Bool := false
  significand : Nat
  exponent : Int := 0
deriving DecidableEq, Repr

/-- The number of decimal digits of a natural number; zero has one. -/
def digitCount (n : Nat) : Nat := (Nat.toDigits 10 n).length

namespace Decimal

/-- The value as a ratio of naturals, without its sign. -/
def ratio (d : Decimal) : Nat × Nat :=
  (d.significand * pow10 d.exponent.toNat, pow10 (-d.exponent).toNat)

/-- The exponent of the leading digit. -/
def order (d : Decimal) : Int := d.exponent + digitCount d.significand - 1

/-- The double nearest to a decimal, or `none` when the decimal is too large. Decimals far out of
range are decided without being written out. -/
def toDouble? (d : Decimal) : Option UInt64 :=
  if d.significand = 0 || d.order < -400 then Double.encode? d.negative 0 0
  else if d.order > 400 then none
  else Double.ofRatio? d.negative d.ratio.1 d.ratio.2

end Decimal

def Glyph.digit? : Glyph → Option Nat
  | .char c => if c.isDigit then some (c.toNat - 48) else none
  | .stray _ => none

def Glyph.isAsciiDigit (g : Glyph) : Bool := g.digit?.isSome

namespace Text

/-- The number that a run of decimal digits writes. -/
def digitsValue (t : Text) : Nat := t.foldl (fun n g => n * 10 + g.digit?.getD 0) 0

/-- The leading run of digits, and what follows it. -/
def takeDigits (t : Text) : Text × Text :=
  (t.takeWhile Glyph.isAsciiDigit, t.dropWhile Glyph.isAsciiDigit)

end Text
end CallPlan
