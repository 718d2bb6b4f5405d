import CallPlan.Data.Datum
import CallPlan.Json.Reader
import CallPlan.Number.Notation

/-!
Host values as JSON and back. Integers stay exact where sixty-four bits hold them; other numbers are
doubles, and a literal beyond every double stays a text.
-/

namespace CallPlan

/-- The alphabet of base 64, by value. -/
def base64Digit (n : Nat) : Glyph :=
  .char ("ABCDEFGHIJKLMNOPQRSTUVWXYZabcdefghijklmnopqrstuvwxyz0123456789+/".toList.getD n '=')

/-- Bytes in base 64, padded. -/
def base64 : List UInt8 → Text
  | [] => []
  | [a] =>
      let n := a.toNat * 16
      [base64Digit (n / 64), base64Digit (n % 64), .char '=', .char '=']
  | [a, b] =>
      let n := (a.toNat * 256 + b.toNat) * 4
      [base64Digit (n / 4096), base64Digit (n / 64 % 64), base64Digit (n % 64), .char '=']
  | a :: b :: c :: rest =>
      let n := (a.toNat * 256 + b.toNat) * 256 + c.toNat
      base64Digit (n / 262144) :: base64Digit (n / 4096 % 64) :: base64Digit (n / 64 % 64) ::
        base64Digit (n % 64) :: base64 rest

namespace Datum

def floatFormat : FloatKind → BinaryFormat
  | .single => .single
  | .double => .double

def bytesOf (items : List Datum) : List UInt8 := items.filterMap fun
  | .int _ n => some n.toNat.toUInt8
  | _ => none

mutual

/-- The value as JSON, or `none` when it has a part that JSON cannot hold. Keys are in byte order. -/
def toJson? : Datum → Option Json
  | .null | .absent _ => some .null
  | .bool b => some (.bool b)
  | .int _ n => some (.number (Text.ofInt n))
  | .float kind bits =>
      if Double.isFinite bits then some (.number (Double.write .json (floatFormat kind) bits))
      else none
  | .text t => some (.text t)
  | .unit => some (.object [])
  | .func => none
  | .pair a b => some (.list [.number (Text.ofInt a), .number (Text.ofInt b)])
  | .list (.int .uint8) items => some (.text (base64 (bytesOf items)))
  | .list _ items => do return .list (← itemsToJson? items)
  | .dict _ entries => do return .object (Entries.sorted (← entriesToJson? entries))
  | .pointer _ target => target.toJson?

def itemsToJson? : List Datum → Option (List Json)
  | [] => some []
  | item :: rest => do return (← item.toJson?) :: (← itemsToJson? rest)

def entriesToJson? : List (Text × Datum) → Option (List (Text × Json))
  | [] => some []
  | (key, item) :: rest => do return (key, ← item.toJson?) :: (← entriesToJson? rest)

end

/-- Whether a pointer to a value of the type is shown with the value. -/
def showsTarget : HostType → Bool
  | .list _ | .dict _ | .unit | .pair => true
  | _ => false

mutual

/-- The value in words, for when JSON cannot hold it. -/
def display : Datum → Text
  | .null => "<nil>"
  | .absent (.list _) => "[]"
  | .absent (.dict _) => "map[]"
  | .absent _ => "<nil>"
  | .bool true => "true"
  | .bool false => "false"
  | .int _ n => Text.ofInt n
  | .float kind bits => Double.write .general (floatFormat kind) bits
  | .text t => t
  | .unit => "\x7b\x7d"
  | .func => "func()"
  | .pair a b => "[" ++ Text.ofInt a ++ " " ++ Text.ofInt b ++ "]"
  | .list _ items => "[" ++ Text.join " " (displayItems items) ++ "]"
  | .dict _ entries =>
      "map[" ++ Text.join " " ((Entries.sorted (displayEntries entries)).map fun (key, shown) =>
        key ++ ":" ++ shown) ++ "]"
  | .pointer type target => if showsTarget type then .char '&' :: target.display else "pointer"

def displayItems : List Datum → List Text
  | [] => []
  | item :: rest => item.display :: displayItems rest

def displayEntries : List (Text × Datum) → List (Text × Text)
  | [] => []
  | (key, item) :: rest => (key, item.display) :: displayEntries rest

end

def int64Range (n : Int) : Bool := -0x8000000000000000 ≤ n && n < 0x8000000000000000

/-- The integer that a literal writes, if it has neither point nor exponent. -/
def integerLiteral? (literal : Text) : Option Int :=
  let (sign, digits) := Json.minus literal
  if !digits.isEmpty && digits.all Glyph.isAsciiDigit then
    some (if sign.isEmpty then digits.digitsValue else -digits.digitsValue)
  else none

/-- The decimal that a numeral writes, after its sign. -/
def decimalOf (negative : Bool) (numeral : Text) : Decimal :=
  let (whole, rest) := numeral.takeDigits
  let (fraction, rest) := match rest with
    | .char '.' :: rest => Text.takeDigits rest
    | rest => ([], rest)
  let exponent : Int := match rest with
    | _ :: mark =>
        let (sign, digits) := Json.signed mark
        if sign = [.char '-'] then -digits.digitsValue else digits.digitsValue
    | [] => 0
  { negative, significand := Text.digitsValue (whole ++ fraction)
    exponent := exponent - fraction.length }

/-- The number of a literal: an integer of sixty-four bits, else a double, else the text itself. -/
def ofLiteral (literal : Text) : Datum :=
  let (sign, numeral) := Json.minus literal
  let decimal : Datum := match (decimalOf (!sign.isEmpty) numeral).toDouble? with
    | some bits => .float .double bits
    | none => .text literal
  match integerLiteral? literal with
  | some n => if int64Range n then .int64 n else decimal
  | none => decimal

mutual

/-- The host value of a document. Of equal keys the last one counts. -/
def ofJson : Json → Datum
  | .null => .null
  | .bool b => .bool b
  | .number literal => ofLiteral literal
  | .text t => .text t
  | .list items => .anyList (itemsOfJson items)
  | .object members => .anyDict (Entries.ofList (membersOfJson members))

def itemsOfJson : List Json → List Datum
  | [] => []
  | item :: rest => ofJson item :: itemsOfJson rest

def membersOfJson : List (Text × Json) → List (Text × Datum)
  | [] => []
  | (key, value) :: rest => (key, ofJson value) :: membersOfJson rest

end

end Datum
end CallPlan
