import CallPlan.Engine.Hcl.Value
import CallPlan.Text.Cluster

/-!
Filling in formats: a percent sign, flags, a width, a precision, the number of an argument and a letter
that says how to write it. All arguments must be used. Widths and precisions of texts count clusters of
characters.
-/

namespace CallPlan.Hcl

/-- One place of a format where an argument goes. -/
structure Verb where
  plus : Bool := false
  minus : Bool := false
  space : Bool := false
  sharp : Bool := false
  zero : Bool := false
  width : Option Nat := none
  precision : Option Nat := none
  argument : Option Nat := none
  letter : Char := 'v'
deriving DecidableEq, Repr

namespace Verb

def flags (v : Verb) : Text → Verb × Text
  | .char '+' :: rest => flags { v with plus := true } rest
  | .char '-' :: rest => flags { v with minus := true } rest
  | .char ' ' :: rest => flags { v with space := true } rest
  | .char '#' :: rest => flags { v with sharp := true } rest
  | .char '0' :: rest => flags { v with zero := true } rest
  | t => (v, t)

def number? (t : Text) : Option Nat × Text :=
  match t.takeDigits with
  | ([], rest) => (none, rest)
  | (digits, rest) => (some digits.digitsValue, rest)

/-- Reads a verb after its percent sign. -/
def read? (t : Text) : Option (Verb × Text) := do
  let (v, t) := flags {} t
  let (width, t) := number? t
  let (precision, t) := match t with
    | .char '.' :: rest =>
        let (digits, rest) := number? rest
        (some (digits.getD 0), rest)
    | t => (none, t)
  let (argument, t) ← match t with
    | .char '[' :: rest =>
        match number? rest with
        | (some n, .char ']' :: after) =>
            if rest.head? = some (.char '0') then none else some (some n, after)
        | _ => none
    | t => some (none, t)
  match t with
  | .char letter :: rest => return ({ v with width, precision, argument, letter }, rest)
  | _ => none

/-- Fills a text up to the width with blanks or zeros, at the front unless told otherwise. -/
def pad (v : Verb) (t : Text) : Text :=
  let missing := v.width.getD 0 - t.clusters.length
  let fill := List.replicate missing (Glyph.char (if v.zero then '0' else ' '))
  if v.minus then t ++ fill else fill ++ t

def signText (v : Verb) (negative : Bool) : Text :=
  if negative then [.char '-'] else if v.plus then [.char '+'] else if v.space then [.char ' '] else []

def blanks (n : Nat) : Text := List.replicate n (.char ' ')

def digitsIn (base : Nat) (upper : Bool) (n : Nat) : Text :=
  (Nat.toDigits base n).map fun c => .char (if upper then c.toUpper else c)

def baseMark (letter : Char) : Text :=
  match letter with
  | 'b' => "0b"
  | 'o' => "0"
  | 'x' => "0x"
  | 'X' => "0X"
  | _ => ""

/-- Writes an integer: the precision is the least number of digits. -/
def writeInteger (v : Verb) (n : Int) : Text :=
  let base := match v.letter with
    | 'b' => 2
    | 'o' => 8
    | 'x' | 'X' => 16
    | _ => 10
  let digits := digitsIn base (v.letter = 'X') n.natAbs
  if v.precision = some 0 && n = 0 then []
  else
    let mark := if v.sharp then baseMark v.letter else []
    let head := v.signText (n < 0) ++ mark
    let digits := NumberNotation.zeros (v.precision.getD 0 - digits.length) ++ digits
    let missing := v.width.getD 0 - (head.length + digits.length)
    if v.minus then head ++ digits ++ blanks missing
    else if v.zero && v.precision.isNone then head ++ NumberNotation.zeros missing ++ digits
    else blanks missing ++ head ++ digits

/-- The digits of `num / den` with a number of places after the point. -/
def fixedPlaces (num den places : Nat) : Text :=
  let n := roundQuotient (num * pow10 places) den
  let digits := Text.ofNat n
  let digits := NumberNotation.zeros (places + 1 - digits.length) ++ digits
  let whole := digits.length - places
  digits.take whole ++ (if places = 0 then [] else .char '.' :: digits.drop whole)

/-- A positive `m · 2 ^ q` rounded to a number of digits, with the exponent of the first. -/
def leadingDigits (m : Nat) (q : Int) (count : Nat) : Nat × Int :=
  let order := Shortest.order m q
  let place := order - (count : Int) + 1
  let num := m * pow2 q.toNat * pow10 (-place).toNat
  let den := pow2 (-q).toNat * pow10 place.toNat
  let n := roundQuotient num den
  if n ≥ pow10 count then (n / 10, order + 1) else (n, order)

def exponentText (upper : Bool) (order : Int) : Text :=
  (if upper then [.char 'E'] else [.char 'e']) ++
    (if order < 0 then [.char '-'] else [.char '+']) ++ NumberNotation.padded 2 order.natAbs

/-- Digits with a point after the first, filled up to a number of places, and an exponent. -/
def scientific (upper : Bool) (digits : Text) (places : Nat) (order : Int) : Text :=
  let tail := digits.drop 1
  let tail := tail ++ NumberNotation.zeros (places - tail.length)
  digits.take 1 ++ (if tail.isEmpty then [] else .char '.' :: tail) ++ exponentText upper order

/-- A finite number without its sign, in the way of the letter. -/
def magnitude (v : Verb) (m : Nat) (q : Int) (bits : Nat) : Text :=
  let upper := v.letter = 'E' || v.letter = 'G'
  match v.letter with
  | 'f' => fixedPlaces (m * pow2 q.toNat) (pow2 (-q).toNat) (v.precision.getD 6)
  | 'e' | 'E' =>
      let places := v.precision.getD 6
      if m = 0 then scientific upper "0" places 0
      else
        let (n, order) := leadingDigits m q (places + 1)
        scientific upper (Text.ofNat n) places order
  | _ =>
      if m = 0 then "0"
      else
        let (n, place, shown) := match v.precision with
          | none =>
              let d := Wide.shortest false m q bits
              (d.significand, d.exponent, 6)
          | some count =>
              let count := max count 1
              let (n, order) := leadingDigits m q count
              let (n, place) := Shortest.dropZeros n (order - count + 1) count
              (n, place, count)
        let digits := Text.ofNat n
        let order := place + digits.length - 1
        let shown := if v.precision.isSome && digits.length < shown && order < digits.length
          then digits.length else shown
        if order < -4 || order ≥ shown then scientific upper digits 0 order
        else NumberNotation.positional digits (order + 1)

def writeNumber (v : Verb) (n : Wide) : Text :=
  let (head, body, finite) := match n with
    | .infinite negative =>
        ((if negative then [.char '-'] else if v.space then [.char ' '] else [.char '+'] : Text),
          Text.ofString "Inf", false)
    | .finite negative m q bits => (v.signText negative, v.magnitude m q bits, true)
  let missing := v.width.getD 0 - (head.length + body.length)
  if v.zero && finite then head ++ NumberNotation.zeros missing ++ body
  else if v.minus then head ++ body ++ blanks missing
  else blanks missing ++ head ++ body

def json? (v : Value) : Option Text := (v.toJson?).map (·.render { escapeHtml := true })

/-- Writes an argument. Only as it is can nothing be written. -/
def write? (v : Verb) (arg : Value) : Option Text :=
  if v.letter ≠ 'v' && arg.isNull then none
  else match v.letter with
    | 'v' =>
        match v.sharp, arg with
        | false, .text t => some (v.pad t)
        | false, .number n => some (v.pad (n.write .general))
        | _, arg => (json? arg).map v.pad
    | 't' =>
        match arg.convert? .bool with
        | some (.bool b) => some (Value.boolText b)
        | _ => none
    | 'b' | 'd' | 'o' | 'x' | 'X' =>
        match arg.convert? .number with
        | some (.number n) => n.toInt?.map v.writeInteger
        | _ => none
    | 'e' | 'E' | 'f' | 'g' | 'G' =>
        match arg.convert? .number with
        | some (.number n) => some (v.writeNumber n)
        | _ => none
    | 's' | 'q' =>
        match arg.convert? .text with
        | some (.text t) =>
            let t := match v.precision with
              | some (n + 1) => (t.clusters.take (n + 1)).flatten
              | _ => t
            if v.letter = 's' then some (v.pad t) else (json? (.text t)).map v.pad
        | _ => none
    | _ => none

end Verb

/-- Fills in a format. `next` is the argument that comes next and `used` how many are used. -/
def fill (args : List Value) : Nat → Nat → Nat → Text → Option Text
  | 0, _, _, _ => none
  | _, _, used, [] => if used < args.length then none else some []
  | fuel + 1, next, used, .char '%' :: .char '%' :: rest => do
      return .char '%' :: (← fill args fuel next used rest)
  | fuel + 1, next, used, .char '%' :: rest => do
      let (v, rest) ← Verb.read? rest
      let position := v.argument.getD next
      let written ← v.write? (← args[position - 1]?)
      return written ++ (← fill args fuel (position + 1) (max used position) rest)
  | fuel + 1, next, used, g :: rest => do return g :: (← fill args fuel next used rest)

/-- The text that a format makes of arguments, if they fit it. -/
def format? (template : Text) (args : List Value) : Option Text :=
  fill args (template.length + 1) 1 0 template

end CallPlan.Hcl
