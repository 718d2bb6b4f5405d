import CallPlan.Engine.Starlark.Compare

/-!
What evaluation works with, and the operators: arithmetic, membership, order, formats, indexing and
slices. An evaluation may be given a number of steps that it must not exceed.
-/

namespace CallPlan.Starlark

/-- What an evaluation keeps: the steps that are left, if they are counted, the number of values that
have been told apart, the variables of comprehensions and functions by frame, place and name, and the
functions that are being called. -/
structure Run where
  stepsLeft : Option Nat
  nextSerial : Nat := 1
  slots : List ((Nat × Nat × Text) × Value) := []
  active : List Nat := []

abbrev Eval := StateT Run (Except Text)

def fail {α : Type} (message : Text) : Eval α := throw message

def step : Eval Unit := do
  let run ← get
  match run.stepsLeft with
  | none => return ()
  | some 0 => fail "too many steps"
  | some (left + 1) => set { run with stepsLeft := some left }

/-- A number that no other value has. -/
def freshSerial : Eval Nat := do
  let run ← get
  set { run with nextSerial := run.nextSerial + 1 }
  return run.nextSerial

/-- The items that a value gives when it is gone through. Those of a range are not written out. -/
inductive Items where
  | listed (items : List Value)
  | counted (range : Progression)

namespace Items

/-- Goes through the items of a range from one on. -/
def foldCounted {α : Type} (f : α → Value → Eval α) (by_ : Int) : Nat → Int → α → Eval α
  | 0, _, acc => return acc
  | count + 1, item, acc => do
      let acc ← f acc (.int item)
      foldCounted f by_ count (wrap (item + by_)) acc

/-- Goes through all items. -/
def fold {α : Type} (f : α → Value → Eval α) (init : α) : Items → Eval α
  | .listed items => items.foldlM f init
  | .counted r => foldCounted f r.step r.length.toNat r.start init

/-- The first items, at most `count` of them. -/
def take (count : Nat) : Items → List Value
  | .listed items => items.take count
  | .counted r =>
      (List.range (min count r.length.toNat)).map fun (i : Nat) => .int (r.item i)

def toList : Items → List Value
  | .listed items => items
  | .counted r => (Items.counted r).take r.length.toNat

end Items

/-- What a value gives when it is gone through, if it can be. Texts cannot. -/
def items? : Value → Option Items
  | .list items | .tuple items | .set items => some (.listed items)
  | .dict entries => some (.listed (entries.map (·.1)))
  | .range r => some (.counted r)
  | _ => none

def items (v : Value) : Eval Items :=
  match items? v with
  | some items => return items
  | none => fail (v.typeName ++ " value is not iterable")

def itemList (v : Value) : Eval (List Value) := do return (← items v).toList

/-- An answer to a comparison that may have none. -/
def compared {α : Type} : Option α → Eval α
  | some answer => return answer
  | none => fail "values cannot be compared"

def equal (a b : Value) : Eval Bool := compared (Value.equal? Value.depthLimit a b)

def ordered (r : Value.Relation) (a b : Value) : Eval Bool :=
  compared (Value.ordered? r Value.depthLimit a b)

def textOfBytes (bytes : List UInt8) : Value := .text (Text.ofBytes bytes)

/-- An integer of 32 bits, as indices and counts must be. -/
def int32 : Value → Eval Int
  | .int n => if -0x80000000 ≤ n && n < 0x80000000 then return n else fail "integer out of range"
  | v => fail ("got " ++ v.typeName ++ ", want int")

def int64 : Value → Eval Int
  | .int n => if Datum.int64Range n then return n else fail "integer out of range"
  | v => fail ("got " ++ v.typeName ++ ", want int")

/-- How many items a repetition may have. -/
def maxItems : Nat := 0x40000000

def repeated {α : Type} (items : List α) (count : Int) : Eval (List α) := do
  if items.isEmpty then return []
  else
    let count ← int32 (.int count)
    if items.length * count.toNat ≥ maxItems then fail "excessive repeat"
    else return (List.replicate count.toNat items).flatten

/-- The float of an integer that is not too large for one. -/
def toFloat (n : Int) : Eval Float :=
  let bits := Double.ofInt n
  if Double.isFinite bits then return Float.ofBits bits else fail "int too large to convert to float"

/-- Both operands as floats, when both are numbers and one is a float. -/
def floats? : Value → Value → Eval (Option (Float × Float))
  | .float a, .float b => return some (Float.ofBits a, Float.ofBits b)
  | .int a, .float b => return some (← toFloat a, Float.ofBits b)
  | .float a, .int b => return some (Float.ofBits a, ← toFloat b)
  | _, _ => return none

def ofFloat (x : Float) : Value := .float x.toBits

/-- A number as an integer; the fraction of a float is dropped. -/
def toInt? : Value → Option Int
  | .int n => some n
  | .float bits => if Double.isFinite bits then some (Double.truncate bits) else none
  | _ => none

/-- Puts an entry into a map. A key that is there already keeps its place. -/
def insertEntry (entries : List (Value × Value)) (key value : Value) :
    Eval (List (Value × Value)) :=
  if !key.isHashable then fail ("unhashable type: " ++ key.typeName)
  else if Value.memberOf (entries.map (·.1)) key then
    if key.isFindable then
      return entries.map fun (k, v) => if Value.isSameKey k key then (k, value) else (k, v)
    else fail "key is nested too deep"
  else return entries ++ [(key, value)]

def insertUnique (entries : List (Value × Value)) (key value : Value) :
    Eval (List (Value × Value)) := do
  if Value.memberOf (entries.map (·.1)) key then fail ("duplicate key: " ++ key.render)
  else insertEntry entries key value

def unsupportedOperands {α : Type} (a b : Value) : Eval α :=
  fail ("unsupported binary operation: " ++ a.typeName ++ " and " ++ b.typeName)

/-- The text without its first part and the separator after it; `none` when there is no separator. -/
def cutAt (separator : List UInt8) (before : List UInt8) :
    List UInt8 → Option (List UInt8 × List UInt8)
  | [] => none
  | b :: rest =>
      if separator.isPrefixOf (b :: rest) then
        some (before.reverse, (b :: rest).drop separator.length)
      else cutAt separator (b :: before) rest

def containsBytes (part : List UInt8) (whole : List UInt8) : Bool :=
  part.isEmpty || (cutAt part [] whole).isSome

def add (a b : Value) : Eval Value := do
  match a, b with
  | .int x, .int y => return .int (x + y)
  | .text x, .text y => return textOfBytes (x.toBytes ++ y.toBytes)
  | .bytes x, .bytes y => return .bytes (x ++ y)
  | .list x, .list y => return .list (x ++ y)
  | .tuple x, .tuple y => return .tuple (x ++ y)
  | _, _ =>
      match ← floats? a b with
      | some (x, y) => return ofFloat (x + y)
      | none => unsupportedOperands a b

def sub (a b : Value) : Eval Value := do
  match a, b with
  | .int x, .int y => return .int (x - y)
  | .set x, .set y => return .set (x.filter (!Value.memberOf y ·))
  | _, _ =>
      match ← floats? a b with
      | some (x, y) => return ofFloat (x - y)
      | none => unsupportedOperands a b

def mul (a b : Value) : Eval Value := do
  match a, b with
  | .int x, .int y => return .int (x * y)
  | .text t, .int n | .int n, .text t => return textOfBytes (← repeated t.toBytes n)
  | .bytes t, .int n | .int n, .bytes t => return .bytes (← repeated t n)
  | .list t, .int n | .int n, .list t => return .list (← repeated t n)
  | .tuple t, .int n | .int n, .tuple t => return .tuple (← repeated t n)
  | _, _ =>
      match ← floats? a b with
      | some (x, y) => return ofFloat (x * y)
      | none => unsupportedOperands a b

/-- Both operands as floats, for a division, with a divisor that is not zero. -/
def divisionFloats (a b : Value) : Eval (Float × Float) := do
  let operands ← match a, b with
    | .int x, .int y => do pure (some (← toFloat x, ← toFloat y))
    | _, _ => floats? a b
  match operands with
  | some (x, y) => if y == 0.0 then fail "division by zero" else return (x, y)
  | none => unsupportedOperands a b

def div (a b : Value) : Eval Value := do
  let (x, y) ← divisionFloats a b
  return ofFloat (x / y)

def floorDiv (a b : Value) : Eval Value := do
  match a, b with
  | .int x, .int y => if y = 0 then fail "floored division by zero" else return .int (Int.fdiv x y)
  | _, _ =>
      let (x, y) ← divisionFloats a b
      return ofFloat (x / y).floor

/-- The exact remainder of two finite floats, with the sign of the dividend. -/
def remainder (x y : UInt64) : UInt64 :=
  if Double.isNaN x || Double.isNaN y || Double.isInfinite x || Double.magnitude y = 0 then Double.nan
  else if Double.isInfinite y then x
  else
    let (a, p) := Double.decode x
    let (b, q) := Double.decode y
    let low := min p q
    let rest := (a * pow2 (p - low).toNat) % (b * pow2 (q - low).toNat)
    (Double.ofRatio? (Double.isNegative x) (rest * pow2 low.toNat) (pow2 (-low).toNat)).getD Double.nan

/-- The remainder with the sign of the divisor. -/
def floatMod (x y : Float) : Float :=
  let z := Float.ofBits (remainder x.toBits y.toBits)
  if z != 0.0 && (decide (x < 0.0) != decide (y < 0.0)) then z + y else z

/-- The text of a number in a base. -/
def inBase (base : Nat) (upper : Bool) (n : Int) : Text :=
  let digits := (Nat.toDigits base n.natAbs).map fun c => if upper then c.toUpper else c
  (if n < 0 then [.char '-'] else []) ++ digits.map .char

/-- One conversion of a format. -/
def conversion (kind : Glyph) (arg : Value) : Eval Text := do
  let number : Eval Int := match toInt? arg with
    | some n => pure n
    | none => fail "format requires integer"
  match kind with
  | .char 's' => return arg.shown
  | .char 'r' => return arg.render
  | .char 'd' | .char 'i' => return Text.ofInt (← number)
  | .char 'o' => return inBase 8 false (← number)
  | .char 'x' => return inBase 16 false (← number)
  | .char 'X' => return inBase 16 true (← number)
  | .char 'g' =>
      match arg with
      | .float bits => return Value.floatText bits
      | .int n => return Value.floatText (Double.ofInt n)
      | _ => fail "format requires float"
  | .char 'c' =>
      match arg with
      | .int n =>
          if 0 ≤ n && n < 0x110000 then return [.char (Char.ofNat n.toNat)]
          else fail "format requires a code point"
      | .text [.char c] => return [.char c]
      | _ => fail "format requires a character"
  | .char '%' => return [.char '%']
  | _ => fail "unknown conversion"

/-- Fills in a format. `args` are the positional arguments left, `whole` is the operand itself. -/
def interpolate (whole : Value) : Nat → List Value → Text → Eval (Text × List Value)
  | 0, args, _ => return ([], args)
  | _, args, [] => return ([], args)
  | fuel + 1, args, .char '%' :: .char '%' :: rest => do
      let (tail, args) ← interpolate whole fuel args rest
      return (.char '%' :: tail, args)
  | fuel + 1, args, .char '%' :: .char '(' :: rest => do
      let key := rest.takeWhile (· ≠ .char ')')
      match whole, rest.drop key.length with
      | .dict entries, _ :: kind :: rest =>
          match Value.lookup? entries (.text key) with
          | some arg =>
              let head ← conversion kind arg
              let (tail, args) ← interpolate whole fuel args rest
              return (head ++ tail, args)
          | none => fail "key not found"
      | _, _ => fail "format requires a mapping"
  | fuel + 1, args, .char '%' :: rest =>
      match args, rest with
      | arg :: args, kind :: rest => do
          let head ← conversion kind arg
          let (tail, args) ← interpolate whole fuel args rest
          return (head ++ tail, args)
      | [], _ => fail "not enough arguments for format string"
      | _, [] => fail "incomplete format"
  | fuel + 1, args, g :: rest => do
      let (tail, args) ← interpolate whole fuel args rest
      return (g :: tail, args)

/-- A format must use all its arguments, but a map need not be used. -/
def formatText (format : Text) (operand : Value) : Eval Value := do
  let args := match operand with
    | .tuple items => items
    | v => [v]
  let (t, left) ← interpolate operand (format.length + 1) args format
  match operand, left with
  | .dict _, _ | _, [] => return textOfBytes t.toBytes
  | _, _ => fail "too many arguments for format string"

def mod (a b : Value) : Eval Value := do
  match a, b with
  | .int x, .int y => if y = 0 then fail "integer modulo by zero" else return .int (Int.fmod x y)
  | .text format, operand => formatText format operand
  | _, _ =>
      let (x, y) ← divisionFloats a b
      return ofFloat (floatMod x y)

/-- Whether a value is among the items of a list. -/
def amongItems (a : Value) : List Value → Eval Bool
  | [] => return false
  | item :: rest => do if ← equal item a then return true else amongItems a rest

/-- Whether a value is in a collection or a part of a text. -/
def within (a b : Value) : Eval Bool := do
  match b with
  | .list items | .tuple items => amongItems a items
  | .set items =>
      if !a.isHashable then fail ("unhashable type: " ++ a.typeName)
      else if Value.memberOf items a then
        if a.isFindable then return true else fail "item is nested too deep"
      else return false
  | .dict entries => return (Value.lookup? entries a).isSome
  | .text whole =>
      match a with
      | .text part => return containsBytes part.toBytes whole.toBytes
      | _ => fail "in requires a string as left operand"
  | .bytes whole =>
      match a with
      | .bytes part => return containsBytes part whole
      | .int n =>
          if 0 ≤ n && n < 256 then return whole.contains n.toNat.toUInt8
          else fail "integer is not a byte"
      | _ => fail "in requires bytes as left operand"
  | .range r =>
      match toInt? a with
      | some n => return r.contains n
      | none => fail "in requires an integer as left operand"
  | _ => unsupportedOperands a b

def shiftLimit : Int := 512

/-- How far to shift. -/
def shiftCount (v : Value) : Eval Int := do
  let count ← int32 v
  if count < 0 then fail "negative shift count" else return count

/-- Applies an operation to the bits of two integers, as if each had endless bits of its sign. -/
def bitwise (op : Nat → Nat → Nat) (x y : Int) : Int :=
  let width := max (bitLength x.natAbs) (bitLength y.natAbs) + 1
  let bits (n : Int) : Nat := (n % (pow2 width : Int)).toNat
  let z := op (bits x) (bits y)
  if z ≥ pow2 (width - 1) then (z : Int) - pow2 width else z

def binary (op : BinaryOp) (a b : Value) : Eval Value := do
  match op with
  | .equal => return .bool (← equal a b)
  | .notEqual => return .bool !(← equal a b)
  | .less => return .bool (← ordered .less a b)
  | .lessEqual => return .bool (← ordered .lessEqual a b)
  | .greater => return .bool (← ordered .greater a b)
  | .greaterEqual => return .bool (← ordered .greaterEqual a b)
  | .within => return .bool (← within a b)
  | .notWithin => return .bool !(← within a b)
  | .add => add a b
  | .sub => sub a b
  | .mul => mul a b
  | .div => div a b
  | .floorDiv => floorDiv a b
  | .mod => mod a b
  | .shiftLeft =>
      match a with
      | .int x =>
          let count ← shiftCount b
          if count ≥ shiftLimit then fail "shift count too large"
          else return .int (x * pow2 count.toNat)
      | _ => unsupportedOperands a b
  | .shiftRight =>
      match a with
      | .int x => return .int (x >>> (← shiftCount b).toNat)
      | _ => unsupportedOperands a b
  | .bitOr =>
      match a, b with
      | .int x, .int y => return .int (bitwise Nat.lor x y)
      | .dict x, .dict y => return .dict (← y.foldlM (fun d (k, v) => insertEntry d k v) x)
      | .set x, .set y => return .set (x ++ y.filter (!Value.memberOf x ·))
      | _, _ => unsupportedOperands a b
  | .bitXor =>
      match a, b with
      | .int x, .int y => return .int (bitwise Nat.xor x y)
      | .set x, .set y =>
          return .set (x.filter (!Value.memberOf y ·) ++ y.filter (!Value.memberOf x ·))
      | _, _ => unsupportedOperands a b
  | .bitAnd =>
      match a, b with
      | .int x, .int y => return .int (bitwise Nat.land x y)
      | .set x, .set y => return .set (x.filter (Value.memberOf y ·))
      | _, _ => unsupportedOperands a b

def unary (op : UnaryOp) (v : Value) : Eval Value :=
  match op, v with
  | .plus, .int _ | .plus, .float _ => return v
  | .minus, .int n => return .int (-n)
  | .minus, .float bits => return ofFloat (-(Float.ofBits bits))
  | .invert, .int n => return .int (-n - 1)
  | _, _ => fail ("unsupported unary operation: " ++ v.typeName)

/-- The position that an index means among a number of items. -/
def position (length : Int) (index : Value) : Eval Int := do
  let index ← int32 index
  let index := if index < 0 then index + length else index
  if 0 ≤ index && index < length then return index else fail "index out of range"

def itemAt {α : Type} (items : List α) (index : Value) : Eval α := do
  let i ← position items.length index
  match items[i.toNat]? with
  | some item => return item
  | none => fail "index out of range"

def indexed (v key : Value) : Eval Value := do
  match v with
  | .list items | .tuple items => itemAt items key
  | .text t => return textOfBytes [← itemAt t.toBytes key]
  | .bytes b => return .int (← itemAt b key).toNat
  | .range r => return .int (r.item (← position r.length key))
  | .dict entries =>
      if !key.isHashable then fail ("unhashable type: " ++ key.typeName)
      else match Value.lookup? entries key with
        | some v => return v
        | none => fail ("key not in dict: " ++ key.render)
  | _ => fail ("unhandled index operation: " ++ v.typeName)

/-- A bound of a slice; one below zero counts from the end. -/
def bound (length default : Int) : Value → Eval Int
  | .none => return default
  | v => do
      let n ← int32 v
      return if n < 0 then n + length else n

/-- What a slice takes: the items from `low` to before `high`, every `by_`th of them, downward when
`by_` is below zero. -/
structure Extent where
  low : Int
  high : Int
  by_ : Int

/-- The extent of a slice of a number of items. -/
def extent (length : Int) (low high by_ : Value) : Eval Extent := do
  let by_ ← match by_ with
    | .none => pure 1
    | v => int32 v
  if by_ = 0 then fail "zero is not a valid slice step"
  else if by_ > 0 then
    let clamp (n : Int) : Int := max 0 (min length n)
    let low := clamp (← bound length 0 low)
    let high := clamp (← bound length length high)
    return { low, high := max low high, by_ }
  else
    let low := min (length - 1) (← bound length (length - 1) low)
    let high := max (-1) (← bound length (-1) high)
    return { low := max low high, high, by_ }

/-- The positions of an extent. -/
def Extent.positions (e : Extent) : List Nat :=
  let count := if e.by_ > 0 then Int.fdiv (e.high - e.low + e.by_ - 1) e.by_
    else Int.fdiv (e.low - e.high - e.by_ - 1) (-e.by_)
  (List.range count.toNat).map fun (i : Nat) => (e.low + (i : Int) * e.by_).toNat

def sliceOf {α : Type} (items : List α) (low high by_ : Value) : Eval (List α) := do
  let e ← extent items.length low high by_
  let items := items.toArray
  return e.positions.filterMap (items[·]?)

def sliced (v low high by_ : Value) : Eval Value := do
  match v with
  | .list items => return .list (← sliceOf items low high by_)
  | .tuple items => return .tuple (← sliceOf items low high by_)
  | .text t => return textOfBytes (← sliceOf t.toBytes low high by_)
  | .bytes b => return .bytes (← sliceOf b low high by_)
  | .range r =>
      let e ← extent r.length low high by_
      return .range (r.slice e.low e.high e.by_)
  | _ => fail ("invalid slice operand " ++ v.typeName)

end CallPlan.Starlark
