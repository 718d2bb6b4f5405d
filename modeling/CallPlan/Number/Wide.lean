import CallPlan.Number.Notation

/-!
Binary numbers of any precision, with infinities. Each number carries its own precision, and an
operation rounds to the larger precision of its operands, ties to the even significand. An operation
without a meaning, such as the difference of two infinities, gives `none`.
-/

namespace CallPlan

/-- `± significand · 2 ^ exponent`, of at most `precision` bits, or an infinity. -/
inductive Wide where
  | finite (negative : Bool) (significand : Nat) (exponent : Int) (precision : Nat)
  | infinite (negative : Bool)
deriving DecidableEq, Repr, Inhabited

namespace Wide

def isNegative : Wide → Bool
  | .finite negative .. | .infinite negative => negative

def isZero : Wide → Bool
  | .finite _ significand _ _ => significand = 0
  | .infinite _ => false

def precision : Wide → Nat
  | .finite _ _ _ precision => precision
  | .infinite _ => 0

/-- The exponents that numbers below one times a power of two may have. -/
def exponentLimit : Int := 0x80000000

/-- A number, or what stands for one whose exponent is out of range: an infinity or zero. -/
def within (precision : Nat) (negative : Bool) (significand : Nat) (exponent : Int) : Wide :=
  let top := exponent + bitLength significand
  if significand = 0 || top < -exponentLimit then .finite negative 0 0 precision
  else if exponentLimit ≤ top then .infinite negative
  else .finite negative significand exponent precision

/-- The number nearest to `± significand · 2 ^ exponent` of the given precision. -/
def rounded (precision : Nat) (negative : Bool) (significand : Nat) (exponent : Int) : Wide :=
  let excess := bitLength significand - precision
  let kept := roundQuotient significand (pow2 excess)
  if bitLength kept > precision then within precision negative (kept / 2) (exponent + excess + 1)
  else within precision negative kept (exponent + excess)

/-- The number nearest to `± num / den · 2 ^ exponent` of the given precision. -/
def ofRatio (precision : Nat) (negative : Bool) (num den : Nat) (exponent : Int := 0) : Wide :=
  if num = 0 then .finite negative 0 0 precision
  else
    let (significand, unit) := roundRatio precision none num den
    within precision negative significand (unit + exponent)

/-- The precision of numbers that are written out. -/
def writtenPrecision : Nat := 512

/-- An integer of sixty-four bits. -/
def ofInt (n : Int) : Wide := .finite (n < 0) n.natAbs 0 64

/-- The number of a double that is not a NaN. -/
def ofDouble (bits : UInt64) : Wide :=
  if Double.isInfinite bits then .infinite (Double.isNegative bits)
  else
    let (significand, exponent) := Double.decode bits
    .finite (Double.isNegative bits) significand exponent 53

/-- The numerator, with its sign, and the denominator of a finite number. -/
def ratio (negative : Bool) (significand : Nat) (exponent : Int) : Int × Nat :=
  let num := significand * pow2 exponent.toNat
  (if negative then -num else num, pow2 (-exponent).toNat)

/-- Rounds a signed ratio; a sum that vanishes is a positive zero. -/
def ofSigned (precision : Nat) (num : Int) (den : Nat) : Wide :=
  ofRatio precision (num < 0) num.natAbs den

def neg : Wide → Wide
  | .finite negative significand exponent precision =>
      .finite (!negative) significand exponent precision
  | .infinite negative => .infinite (!negative)

def abs : Wide → Wide
  | .finite _ significand exponent precision => .finite false significand exponent precision
  | .infinite _ => .infinite false

/-- The sum rounded to a precision. -/
def addTo? (precision : Nat) : Wide → Wide → Option Wide
  | .finite s m e _, .finite t n f _ =>
      if m = 0 && n = 0 then some (.finite (s && t) 0 0 precision)
      else
        let (a, b) := ratio s m e
        let (c, d) := ratio t n f
        some (ofSigned precision (a * d + c * b) (b * d))
  | .infinite s, .infinite t => if s = t then some (.infinite s) else none
  | .infinite s, .finite .. => some (.infinite s)
  | .finite .., .infinite t => some (.infinite t)

def add? (x y : Wide) : Option Wide := addTo? (max x.precision y.precision) x y

def sub? (x y : Wide) : Option Wide := add? x y.neg

/-- The product rounded to a precision. -/
def mulTo? (precision : Nat) : Wide → Wide → Option Wide
  | .finite s m e _, .finite t n f _ => some (rounded precision (s != t) (m * n) (e + f))
  | x, y =>
      if x.isZero || y.isZero then none else some (.infinite (x.isNegative != y.isNegative))

/-- The number of bits without the zeros at the end. -/
def leastPrecision (significand : Nat) : Nat :=
  let rec drop : Nat → Nat → Nat
    | 0, n => bitLength n
    | fuel + 1, n => if n % 2 = 0 then drop fuel (n / 2) else bitLength n
  drop (bitLength significand) significand

/-- A product keeps as many bits as it needs, up to those of a written number. -/
def mul? (x y : Wide) : Option Wide := do
  match ← mulTo? writtenPrecision x y with
  | .finite negative significand exponent _ =>
      return .finite negative significand exponent
        (max (max x.precision y.precision) (leastPrecision significand))
  | product => return product

def div? : Wide → Wide → Option Wide
  | .finite s m e p, .finite t n f q =>
      let negative := s != t
      if n = 0 then if m = 0 then none else some (.infinite negative)
      else
        some (ofRatio (max p q) negative m n (e - f))
  | .infinite _, .infinite _ => none
  | .infinite s, .finite t .. => some (.infinite (s != t))
  | .finite s _ _ p, .infinite t => some (.finite (s != t) 0 0 p)

/-- The bits that are added to a precision for what is only passed through. -/
def guardBits : Nat := 64

/-- The product of a number and the powers of another that the bits of `count` select. -/
def mulPowers (product power : Wide) : Nat → Nat → Wide
  | 0, _ => product
  | fuel + 1, count =>
      if count = 0 then product
      else
        let product := if count % 2 = 1
          then (mulTo? product.precision product power).getD product else product
        mulPowers product ((mulTo? power.precision power power).getD power) fuel (count / 2)

/-- A whole power by repeated squaring, each product rounded to the precision of the number. -/
def power (x : Wide) (n : Int) : Wide :=
  let one : Wide := .finite false 1 0 x.precision
  let product := mulPowers one x (bitLength n.natAbs) n.natAbs
  if n < 0 then (div? one product).getD product else product

/-- The largest power of five below `2 ^ 64` has this exponent. -/
def exactFives : Nat := 27

/-- A power of five, with some more bits than numbers that are written out. -/
def pow5 (n : Nat) : Wide :=
  let precision := writtenPrecision + guardBits
  let start : Wide := .finite false (Nat.pow 5 (min n exactFives)) 0 precision
  mulPowers start (.finite false 5 0 (precision + guardBits)) (bitLength n) (n - exactFives)

/-- The number `± significand · 10 ^ tens · 2 ^ twos` as it is read from a text, or `none` when its
exponent is out of range. A power of ten is taken as one of five, rounded on its own, and one of
two. -/
def ofScaled? (negative : Bool) (significand : Nat) (tens twos : Int) : Option Wide :=
  let top := tens + twos + bitLength significand
  if significand = 0 then some (.finite negative 0 0 writtenPrecision)
  else if top < -exponentLimit || exponentLimit ≤ top then none
  else
    let scale := pow5 tens.natAbs
    let value : Wide := .finite negative significand (tens + twos) writtenPrecision
    if tens = 0 then some (rounded writtenPrecision negative significand twos)
    else if tens > 0 then mulTo? writtenPrecision value scale
    else match scale with
      | .finite _ m e _ =>
          some (ofRatio writtenPrecision negative significand m (tens + twos - e))
      | .infinite _ => some (.finite negative 0 0 writtenPrecision)

/-- Whether a number has no fraction. -/
def isInteger : Wide → Bool
  | .finite _ significand exponent _ =>
      0 ≤ exponent || significand = 0 ||
        ((-exponent).toNat < bitLength significand && significand % pow2 (-exponent).toNat = 0)
  | .infinite _ => false

/-- The integer part of a finite number, toward zero. -/
def truncate : Wide → Int
  | .finite negative significand exponent _ =>
      let whole : Nat := if 0 ≤ exponent then significand * pow2 exponent.toNat
        else if bitLength significand ≤ (-exponent).toNat then 0
        else significand / pow2 (-exponent).toNat
      if negative then -whole else whole
  | .infinite _ => 0

/-- The integer that a number is exactly. -/
def toInt? (x : Wide) : Option Int := if x.isInteger then some x.truncate else none

/-- The exponent of the least power of two above a number. -/
def top : Wide → Int
  | .finite _ significand exponent _ => exponent + bitLength significand
  | .infinite _ => exponentLimit

/-- The integer that a number is exactly, if it is one of a number of bits at most. -/
def toIntOf? (bits : Nat) (x : Wide) : Option Int := if x.top ≤ bits then x.toInt? else none

/-- What is left of a number after the whole multiples of another; the whole number when the other is
zero. All of it is done with the precision of the first. -/
def mod? (x y : Wide) : Option Wide :=
  match x, y with
  | .finite _ _ _ precision, .finite .. =>
      if y.isZero then some x
      else do
        let quotient := (← div? x y).truncate
        let whole ← mulTo? precision y (rounded precision (quotient < 0) quotient.natAbs 0)
        addTo? precision x whole.neg
  | _, _ => mul? x y

/-- The order of two positive numbers. -/
def orderMagnitudes (m : Nat) (e : Int) (n : Nat) (f : Int) : Ordering :=
  match compare (e + bitLength m) (f + bitLength n) with
  | .eq => compare (m * pow2 (e - f).toNat) (n * pow2 (f - e).toNat)
  | o => o

/-- A number as one of zero, a positive number and a negative number is ordered. -/
def sign : Wide → Int
  | .finite negative significand _ _ => if significand = 0 then 0 else if negative then -1 else 1
  | .infinite negative => if negative then -1 else 1

def order (x y : Wide) : Ordering :=
  match compare x.sign y.sign with
  | .eq =>
      let magnitudes := match x, y with
        | .finite _ m e _, .finite _ n f _ =>
            if m = 0 then .eq else orderMagnitudes m e n f
        | .infinite _, .infinite _ => .eq
        | .infinite _, .finite .. => .gt
        | .finite .., .infinite _ => .lt
      if x.isNegative then magnitudes.swap else magnitudes
  | o => o

/-- The nearest double; a number too large for one is infinite. -/
def toDouble (x : Wide) : UInt64 :=
  match x with
  | .infinite negative => Double.infinity negative
  | .finite negative significand exponent _ =>
      if x.top > 1100 then Double.infinity negative
      else if x.top < -1200 then (Double.encode? negative 0 0).getD 0
      else
        let (num, den) := ratio false significand exponent
        (Double.ofRatio? negative num.toNat den).getD (Double.infinity negative)

/-- The fewest digits that read back as the number at its own precision. -/
def shortest (negative : Bool) (significand : Nat) (exponent : Int) (precision : Nat) : Decimal :=
  if significand = 0 then { negative, significand := 0 }
  else
    let bits := bitLength significand
    -- The significand filled up to the precision, so that its last bit is the last place.
    let (m, q) := if bits ≤ precision
      then (significand * pow2 (precision - bits), exponent - (precision - bits : Nat))
      else (significand / pow2 (bits - precision), exponent + (bits - precision : Nat))
    let (n, place) := Shortest.digits precision m q false
    { negative, significand := n, exponent := place }

/-- Writes a number in a notation. -/
def write (rules : NumberNotation) : Wide → Text
  | .infinite negative => if negative then "-Inf" else "+Inf"
  | .finite negative significand exponent precision =>
      rules.write (shortest negative significand exponent precision)

/-- The digits of a number, with a point where it is and no exponent. -/
def render : Wide → Text
  | .infinite negative => if negative then "-Inf" else "+Inf"
  | .finite negative significand exponent precision =>
      let d := shortest negative significand exponent precision
      (if negative then [.char '-'] else []) ++
        (if d.significand = 0 then Text.ofString "0"
          else NumberNotation.positional (Text.ofNat d.significand) (d.order + 1))

/-- Whether two numbers are so far from each other that they cannot be written alike: at whatever
precision, a number lies within a factor of two of its digits. -/
def areApart (x y : Wide) : Bool := 1 < (x.top - y.top).natAbs

/-- Numbers are equal when they are written alike; zeros are equal. -/
def equal (x y : Wide) : Bool :=
  x = y || (x.isZero && y.isZero) || (!x.areApart y && x.render = y.render)

end Wide
end CallPlan
