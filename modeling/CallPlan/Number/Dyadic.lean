/-!
Binary floating-point numbers in exact terms: a finite number is a natural significand times a power
of two, with a sign. Ratios are rounded to the nearest number that a format has, ties to the even
significand.
-/

namespace CallPlan

/-- A binary format: the bits of a significand, and the exponents of its last place. -/
structure BinaryFormat where
  precision : Nat
  least : Int
  greatest : Int
deriving DecidableEq, Repr

namespace BinaryFormat

def double : BinaryFormat := ⟨53, -1074, 971⟩

def single : BinaryFormat := ⟨24, -149, 104⟩

end BinaryFormat

def pow2 (k : Nat) : Nat := Nat.pow 2 k

def pow10 (k : Nat) : Nat := Nat.pow 10 k

/-- The number of bits of a natural number. -/
def bitLength (n : Nat) : Nat := if n = 0 then 0 else n.log2 + 1

/-- The quotient rounded to the nearest number, ties to even. -/
def roundQuotient (num den : Nat) : Nat :=
  let quotient := num / den
  let twice := 2 * (num % den)
  if twice < den then quotient
  else if den < twice then quotient + 1
  else if quotient % 2 = 0 then quotient else quotient + 1

/-- `num / den` in units of `2 ^ exponent`, rounded. -/
def roundUnits (num den : Nat) (exponent : Int) : Nat :=
  roundQuotient (num * pow2 (-exponent).toNat) (den * pow2 exponent.toNat)

/-- Rounds `num / den` to a significand of at most `precision` bits in units of a power of two, of an
exponent not below `least` if there is such a bound. -/
def roundRatio (precision : Nat) (least : Option Int) (num den : Nat) : Nat × Int :=
  let magnitude := (bitLength num : Int) - bitLength den
  let exponent := magnitude - precision
  -- One of two neighbouring exponents leaves exactly `precision` bits.
  let exponent :=
    if num * pow2 (-(exponent + precision)).toNat < den * pow2 (exponent + precision).toNat
    then exponent else exponent + 1
  let exponent := match least with
    | some least => max exponent least
    | none => exponent
  let significand := roundUnits num den exponent
  if bitLength significand > precision then (significand / 2, exponent + 1)
  else (significand, exponent)

namespace Double

def signBit : Nat := 0x8000000000000000

def infinityBits : Nat := 0x7FF0000000000000

/-- The bits of a number of the format, or `none` when it is too large. -/
def encode? (negative : Bool) (significand : Nat) (exponent : Int) : Option UInt64 :=
  let sign := if negative then signBit else 0
  if significand = 0 then some sign.toUInt64
  else if exponent > 971 then none
  else if significand < pow2 52 then some (sign + significand).toUInt64
  else some (sign + (exponent + 1075).toNat * pow2 52 + (significand - pow2 52)).toUInt64

def infinity (negative : Bool) : UInt64 :=
  ((if negative then signBit else 0) + infinityBits).toUInt64

def nan : UInt64 := 0x7FF8000000000001

def isNegative (bits : UInt64) : Bool := signBit ≤ bits.toNat

/-- The bits of the absolute value. -/
def magnitude (bits : UInt64) : Nat := bits.toNat % signBit

def isNaN (bits : UInt64) : Bool := infinityBits < magnitude bits

def isInfinite (bits : UInt64) : Bool := magnitude bits = infinityBits

def isFinite (bits : UInt64) : Bool := magnitude bits < infinityBits

/-- The significand and exponent of a finite number, without its sign. -/
def decode (bits : UInt64) : Nat × Int :=
  let fraction := magnitude bits % pow2 52
  match magnitude bits / pow2 52 with
  | 0 => (fraction, -1074)
  | exponent => (pow2 52 + fraction, (exponent : Int) - 1075)

/-- The double nearest to a ratio, or `none` when all are too small for it. -/
def ofRatio? (negative : Bool) (num den : Nat) : Option UInt64 :=
  if num = 0 then encode? negative 0 0
  else
    let (significand, exponent) := roundRatio 53 (some (-1074)) num den
    encode? negative significand exponent

/-- The integer part of a finite number, toward zero. -/
def truncate (bits : UInt64) : Int :=
  let (significand, exponent) := decode bits
  let n : Nat := if exponent < 0 then significand / pow2 (-exponent).toNat
    else significand * pow2 exponent.toNat
  if isNegative bits then -n else n

/-- Whether a finite number is an integer. -/
def isInteger (bits : UInt64) : Bool :=
  let (significand, exponent) := decode bits
  isFinite bits && (0 ≤ exponent || significand % pow2 (-exponent).toNat = 0)

/-- The double nearest to an integer, infinite when it is too large. -/
def ofInt (n : Int) : UInt64 :=
  (ofRatio? (n < 0) n.natAbs 1).getD (infinity (n < 0))

end Double
end CallPlan
