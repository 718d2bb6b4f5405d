import CallPlan.Condition
import CallPlan.Data.Datum
import CallPlan.Json.Value
import CallPlan.Number.Notation

/-!
The values of Risor expressions. Integers have sixty-four bits and wrap.
-/

namespace CallPlan.Risor

inductive Value where
  | nothing
  | bool (value : Bool)
  | int (value : Int)
  | float (bits : UInt64)
  | text (value : Text)
  | byte (value : UInt8)
  | bytes (value : List UInt8)
  | list (items : List Value)
  /-- The entries are in the order of their keys. -/
  | map (entries : List (Text × Value))
  | builtin (name : Text)
deriving Repr, Inhabited

namespace Value

/-- The integer of sixty-four bits that an exact result wraps to. -/
def wrap (n : Int) : Value := .int (Int.bmod n 0x10000000000000000)

def isTrue : Value → Bool
  | .nothing => false
  | .bool b => b
  | .int n => n ≠ 0
  | .float bits => Double.magnitude bits ≠ 0
  | .text t => !t.isEmpty
  | .byte b => b ≠ 0
  | .bytes items => !items.isEmpty
  | .list items => !items.isEmpty
  | .map entries => !entries.isEmpty
  | .builtin _ => true

def floatText (bits : UInt64) : Text := Double.write .plain .double bits

/-- A text is quoted; one that is all in double quotes already is put in single ones. -/
def quotedText (t : Text) : Text :=
  let isQuoted := 2 ≤ t.length && t.head? = some (.char '"') && t.getLast? = some (.char '"') &&
    (t.filter (· = .char '"')).length = 2
  if isQuoted then .char '\'' :: t ++ [.char '\''] else t.quoted

mutual

/-- The value as it is written in a source. -/
def render : Value → Text
  | .nothing => "nil"
  | .bool true => "true"
  | .bool false => "false"
  | .int n => Text.ofInt n
  | .float bits => floatText bits
  | .text t => quotedText t
  | .byte b => Text.ofNat b.toNat
  | .bytes b => "byte_slice(" ++ (Text.ofBytes b).quoted ++ ")"
  | .list items => "[" ++ Text.join ", " (renderItems items) ++ "]"
  | .map entries => "\x7b" ++ Text.join ", " (renderEntries entries) ++ "\x7d"
  | .builtin name => "builtin(" ++ name ++ ")"

def renderItems : List Value → List Text
  | [] => []
  | item :: rest => item.render :: renderItems rest

def renderEntries : List (Text × Value) → List Text
  | [] => []
  | (key, value) :: rest => (key.quoted ++ ": " ++ value.render) :: renderEntries rest

end

/-- The text of a value; a text stands for itself. -/
def shown : Value → Text
  | .text t => t
  | .bytes b => Text.ofBytes b
  | v => v.render

def toFloat (n : Int) : Float := Float.ofBits (Double.ofInt n)

/-- A number, exact or not. A byte is an integer. -/
inductive Number where
  | exact (value : Int)
  | float (bits : UInt64)

def number? : Value → Option Number
  | .int n => some (.exact n)
  | .byte b => some (.exact b.toNat)
  | .float bits => some (.float bits)
  | _ => none

def Number.toFloat : Number → Float
  | .exact n => Value.toFloat n
  | .float bits => Float.ofBits bits

def Number.equal : Number → Number → Bool
  | .exact a, .exact b => a = b
  | a, b => a.toFloat == b.toFloat

/-- A number that is neither equal nor greater comes before. -/
def Number.order : Number → Number → Ordering
  | .exact a, .exact b => compare a b
  | a, b =>
      let x := a.toFloat
      let y := b.toFloat
      if x == y then .eq else if y < x then .gt else .lt

def orderBytes (a b : List UInt8) : Ordering := if a = b then .eq else if a < b then .lt else .gt

mutual

def equal : Value → Value → Bool
  | .nothing, .nothing => true
  | .bool a, .bool b => a = b
  | .text a, .text b => a = b
  | .bytes a, .bytes b => a = b
  | .bytes a, .text b => a = b.toBytes
  | .list a, .list b => equalItems a b
  | .map a, .map b => equalEntries a b
  | .builtin a, .builtin b => a = b
  | a, b =>
      match number? a, number? b with
      | some x, some y => x.equal y
      | _, _ => false

def equalItems : List Value → List Value → Bool
  | [], [] => true
  | a :: as, b :: bs => equal a b && equalItems as bs
  | _, _ => false

def equalEntries : List (Text × Value) → List (Text × Value) → Bool
  | [], [] => true
  | (j, a) :: as, (k, b) :: bs => j = k && equal a b && equalEntries as bs
  | _, _ => false

end

mutual

/-- The order of two values, if they have one. Shorter lists come before longer ones. -/
def order? : Value → Value → Option Ordering
  | .nothing, .nothing => some .eq
  | .bool a, .bool b => some (compare a.toNat b.toNat)
  | .text a, .text b => some (orderBytes a.toBytes b.toBytes)
  | .bytes a, .bytes b => some (orderBytes a b)
  | .bytes a, .text b => some (orderBytes a b.toBytes)
  | .list a, .list b =>
      match compare a.length b.length with
      | .eq => orderItems? a b
      | o => some o
  | a, b => do return (← number? a).order (← number? b)

def orderItems? : List Value → List Value → Option Ordering
  | a :: as, b :: bs =>
      match order? a b with
      | some .eq => orderItems? as bs
      | o => o
  | _, _ => some .eq

end

mutual

/-- The Risor value of a host value, or `none` when there is none. -/
def ofDatum? : Datum → Option Value
  | .null => some .nothing
  | .bool b => some (.bool b)
  | .int .int8 _ | .int .uint8 _ => none
  | .int _ n => some (wrap n)
  | .float _ bits => some (.float bits)
  | .text t => some (.text t)
  | .list (.int .uint8) items => some (.bytes (Datum.bytesOf items))
  | .absent (.list (.int .uint8)) => some (.bytes [])
  | .list .text items | .list .any items => (itemsOfDatum? items).map .list
  | .absent (.list .text) | .absent (.list .any) => some (.list [])
  | .dict .any entries => (entriesOfDatum? entries).map fun entries => .map (Entries.sorted entries)
  | .absent (.dict .any) => some (.map [])
  | _ => none

def itemsOfDatum? : List Datum → Option (List Value)
  | [] => some []
  | item :: rest => do return (← ofDatum? item) :: (← itemsOfDatum? rest)

def entriesOfDatum? : List (Text × Datum) → Option (List (Text × Value))
  | [] => some []
  | (key, item) :: rest => do return (key, ← ofDatum? item) :: (← entriesOfDatum? rest)

end

mutual

/-- The host value of a Risor value. -/
def toDatum : Value → Datum
  | .nothing => .null
  | .bool b => .bool b
  | .int n => .int64 n
  | .float bits => .float .double bits
  | .text t => .text t
  | .byte b => .int .uint8 b.toNat
  | .bytes b => .list (.int .uint8) (b.map fun n => .int .uint8 n.toNat)
  | .list items => .anyList (itemsToDatum items)
  | .map entries => .anyDict (entriesToDatum entries)
  | .builtin _ => .func

def itemsToDatum : List Value → List Datum
  | [] => []
  | item :: rest => item.toDatum :: itemsToDatum rest

def entriesToDatum : List (Text × Value) → List (Text × Datum)
  | [] => []
  | (key, value) :: rest => (key, value.toDatum) :: entriesToDatum rest

end

end Value
end CallPlan.Risor
