import CallPlan.Number.Decimal
import CallPlan.Text.Quoted

/-!
Numerals as the expression languages write them.
-/

namespace CallPlan.Numeral

/-- The value of a letter or digit as a digit of some base. -/
def digit? : Glyph → Option Nat
  | .stray _ => none
  | .char c =>
      if c.isDigit then some (c.toNat - 48)
      else if 'a' ≤ c && c ≤ 'z' then some (c.toNat - 87)
      else if 'A' ≤ c && c ≤ 'Z' then some (c.toNat - 55)
      else none

/-- Whether a glyph is a digit of the base. -/
def isDigitOf (base : Nat) (g : Glyph) : Bool := (digit? g).any (· < base)

/-- The number that digits of a base write, if there is at least one and all are digits of it. -/
def value? (base : Nat) (digits : Text) : Option Nat :=
  if digits.isEmpty || !digits.all (isDigitOf base) then none
  else some (digits.foldl (fun n g => n * base + (digit? g).getD 0) 0)

/-- A decimal numeral at the front of a text: digits, an optional point and fraction, an optional
exponent. -/
structure Scanned where
  decimal : Decimal
  rest : Text

/-- Reads an exponent mark with digits after it; without digits there is no exponent. -/
def scanExponent (t : Text) : Option (Int × Text) :=
  match t with
  | g :: rest =>
      if g = .char 'e' || g = .char 'E' then
        let (negative, rest) := match rest with
          | .char '-' :: rest => (true, rest)
          | .char '+' :: rest => (false, rest)
          | rest => (false, rest)
        match Text.takeDigits rest with
        | ([], _) => none
        | (digits, rest) =>
            some (if negative then -(Text.digitsValue digits : Int) else Text.digitsValue digits, rest)
      else none
  | [] => none

/-- Reads a numeral that starts with a digit or a point; `pointAlone` allows a point without digits
on one of its sides. -/
def scan? (pointAlone : Bool) (t : Text) : Option Scanned :=
  let (whole, afterWhole) := Text.takeDigits t
  let (fraction, pointed, rest) := match afterWhole with
    | .char '.' :: rest =>
        let (fraction, rest) := Text.takeDigits rest
        if fraction.isEmpty && (!pointAlone || whole.isEmpty) then ([], false, afterWhole)
        else (fraction, true, rest)
    | _ => ([], false, afterWhole)
  if whole.isEmpty && !pointed then none
  else
    let significand := Text.digitsValue (whole ++ fraction)
    match scanExponent rest with
    | some (exponent, rest) =>
        some { decimal := { significand, exponent := exponent - fraction.length }, rest }
    | none => some { decimal := { significand, exponent := -(fraction.length : Int) }, rest }

/-- The sign in front of a numeral, if it has one, and what follows. -/
def signed : Text → Bool × Text
  | .char '-' :: rest => (true, rest)
  | .char '+' :: rest => (false, rest)
  | t => (false, t)

def isUnderscore (g : Glyph) : Bool := g = .char '_'

/-- The base that a mark after a zero stands for. -/
def baseOfMark? : Glyph → Option Nat
  | .char 'x' | .char 'X' => some 16
  | .char 'o' | .char 'O' => some 8
  | .char 'b' | .char 'B' => some 2
  | _ => none

/-- Whether every underscore has a digit on both sides; `afterDigit` says whether what comes before
counts as one. -/
def underscoresBetween (isDigit : Glyph → Bool) (afterDigit : Bool) : Text → Bool
  | [] => true
  | g :: rest =>
      if isUnderscore g then
        afterDigit && rest.head?.any isDigit && underscoresBetween isDigit false rest
      else underscoresBetween isDigit (isDigit g) rest

/-- Whether the underscores of a numeral stand where they may: between digits, and between the mark
of a base and a digit. -/
def underscoresFit (t : Text) : Bool :=
  match (signed t).2 with
  | .char '0' :: mark :: rest =>
      match baseOfMark? mark with
      | some base => underscoresBetween (isDigitOf (if base = 16 then 16 else 10)) true rest
      | none => underscoresBetween Glyph.isAsciiDigit false (.char '0' :: mark :: rest)
  | digits => underscoresBetween Glyph.isAsciiDigit false digits

/-- A numeral without its underscores, if they stand where they may. -/
def withoutUnderscores? (t : Text) : Option Text :=
  if t.any isUnderscore then
    if underscoresFit t then some (t.filter (!isUnderscore ·)) else none
  else some t

/-- The double of a hexadecimal numeral after its mark: digits with a point among them, and a power
of two, which must be there. -/
def binaryScaled? (negative : Bool) (t : Text) : Option UInt64 :=
  let whole := t.takeWhile (isDigitOf 16)
  let (fraction, rest) := match t.drop whole.length with
    | .char '.' :: rest => rest.span (isDigitOf 16)
    | rest => ([], rest)
  match rest with
  | mark :: rest =>
      if mark = .char 'p' || mark = .char 'P' then do
        let significand ← value? 16 (whole ++ fraction)
        let (lowered, digits) := signed rest
        let power ← value? 10 digits
        let power : Int := (if lowered then -(power : Int) else power) - 4 * fraction.length
        let order := power + bitLength significand
        if significand = 0 || order < -1100 then Double.encode? negative 0 0
        else if order > 1100 then none
        else Double.ofRatio? negative (significand * pow2 power.toNat) (pow2 (-power).toNat)
      else none
  | [] => none

/-- The finite double that a whole text writes, decimal or hexadecimal, with an optional sign:
`none` when it is no numeral or is too large. -/
def double? (t : Text) : Option UInt64 := do
  let (negative, digits) := signed (← withoutUnderscores? t)
  match digits with
  | .char '0' :: .char 'x' :: g :: rest | .char '0' :: .char 'X' :: g :: rest =>
      binaryScaled? negative (g :: rest)
  | _ =>
      let s ← scan? true digits
      if s.rest.isEmpty then ({ s.decimal with negative }).toDouble? else none

/-- The infinity or NaN that a text names, in letters of either case. Only an infinity may have a
sign. -/
def special? (t : Text) : Option UInt64 :=
  let letters (t : Text) : String := t.toString.map Char.toLower
  let (negative, name) := signed t
  if letters name = "inf" || letters name = "infinity" then some (Double.infinity negative)
  else if letters t = "nan" then some Double.nan
  else none

end CallPlan.Numeral
