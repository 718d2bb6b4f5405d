import CallPlan.Condition
import CallPlan.Data.Datum
import CallPlan.Engine.Starlark.Progression
import CallPlan.Engine.Starlark.Syntax
import CallPlan.Json.Value
import CallPlan.Number.Notation

/-!
The values of Starlark expressions: their types and texts, and how they stand for host values.
Integers have any size; only those of sixty-four bits have a host value.
-/

namespace CallPlan.Starlark

/-- The variables that a comprehension binds, or the parameters of a function. `frame` is the call
they belong to and `id` the place in the source. -/
structure Scope where
  frame : Nat
  id : Nat
  names : List Text
deriving DecidableEq, Repr

/-- Values. Methods and functions carry a serial number: each is equal to itself alone. -/
inductive Value where
  | none
  | bool (value : Bool)
  | int (value : Int)
  | float (bits : UInt64)
  | text (value : Text)
  | bytes (value : List UInt8)
  | list (items : List Value)
  | tuple (items : List Value)
  | dict (entries : List (Value × Value))
  | set (items : List Value)
  | range (range : Progression)
  | builtin (name : Text)
  | method (serial : Nat) (name : Text) (receiver : Value)
  | function (serial id : Nat) (params : Params) (defaults : List Value) (body : Expr)
      (scopes : List Scope)
  | module (name : Text)
deriving Inhabited

namespace Value

def typeName : Value → Text
  | .none => "NoneType"
  | .bool _ => "bool"
  | .int _ => "int"
  | .float _ => "float"
  | .text _ => "string"
  | .bytes _ => "bytes"
  | .list _ => "list"
  | .tuple _ => "tuple"
  | .dict _ => "dict"
  | .set _ => "set"
  | .range _ => "range"
  | .builtin _ | .method .. => "builtin_function_or_method"
  | .function .. => "function"
  | .module _ => "module"

def isTrue : Value → Bool
  | .none => false
  | .bool b => b
  | .int n => n ≠ 0
  | .float bits => Double.magnitude bits ≠ 0
  | .text t => !t.isEmpty
  | .bytes b => !b.isEmpty
  | .list items | .tuple items | .set items => !items.isEmpty
  | .dict entries => !entries.isEmpty
  | .range r => 0 < r.length
  | _ => true

/-- A float shows that it is one: it has a point or an exponent. -/
def floatText (bits : UInt64) : Text :=
  if Double.isNaN bits then "nan"
  else if Double.isInfinite bits then if Double.isNegative bits then "-inf" else "+inf"
  else
    let t := NumberNotation.general.write (Shortest.ofDouble .double bits)
    if t.contains (.char 'e') || t.contains (.char '.') then t else t ++ ".0"

mutual

/-- The value as it is written in a source, where it can be. -/
def render : Value → Text
  | .none => "None"
  | .bool true => "True"
  | .bool false => "False"
  | .int n => Text.ofInt n
  | .float bits => floatText bits
  | .text t => t.quoted
  | .bytes b => .char 'b' :: (Text.ofBytes b).quoted
  | .list items => "[" ++ Text.join ", " (renderItems items) ++ "]"
  | .tuple [item] => "(" ++ item.render ++ ",)"
  | .tuple items => "(" ++ Text.join ", " (renderItems items) ++ ")"
  | .dict entries => "\x7b" ++ Text.join ", " (renderEntries entries) ++ "\x7d"
  | .set items => "set([" ++ Text.join ", " (renderItems items) ++ "])"
  | .range r => r.render
  | .builtin name => "<built-in function " ++ name ++ ">"
  | .method _ name receiver =>
      "<built-in method " ++ name ++ " of " ++ receiver.typeName ++ " value>"
  | .function .. => "<function lambda>"
  | .module name => "<module \"" ++ name ++ "\">"

def renderItems : List Value → List Text
  | [] => []
  | item :: rest => item.render :: renderItems rest

def renderEntries : List (Value × Value) → List Text
  | [] => []
  | (key, value) :: rest => (key.render ++ ": " ++ value.render) :: renderEntries rest

end

/-- The text of a value for display: a text stands for itself. -/
def shown : Value → Text
  | .text t => t
  | v => v.render

/-- The text that a value is turned into: that of bytes is what they encode. -/
def asText : Value → Text
  | .bytes b => (Text.ofBytes b).map fun g => .char g.scalar
  | v => v.shown

mutual

/-- The Starlark value of a host value, or `none` when there is none. -/
def ofDatum? : Datum → Option Value
  | .null => some .none
  | .bool b => some (.bool b)
  | .int .int8 _ | .int .uint8 _ => Option.none
  | .int _ n => some (.int n)
  | .float _ bits => some (.float bits)
  | .text t => some (.text t)
  | .list .text items | .list .any items => (itemsOfDatum? items).map .list
  | .absent (.list .text) | .absent (.list .any) => some (.list [])
  | .dict .unit entries => some (.set (entries.map fun (key, _) => .text key))
  | .absent (.dict .unit) => some (.set [])
  | .dict .any entries => (entriesOfDatum? entries).map .dict
  | .absent (.dict .any) => some (.dict [])
  | _ => Option.none

def itemsOfDatum? : List Datum → Option (List Value)
  | [] => some []
  | item :: rest => do return (← ofDatum? item) :: (← itemsOfDatum? rest)

def entriesOfDatum? : List (Text × Datum) → Option (List (Value × Value))
  | [] => some []
  | (key, item) :: rest => do return (.text key, ← ofDatum? item) :: (← entriesOfDatum? rest)

end

def unsupported (detail : Text) : Cause :=
  .because (.engine .starlark .unsupportedValue) (.message detail)

/-- The text of a key: other keys than texts are shown. -/
def keyText : Value → Text
  | .text t => t
  | key => key.render

mutual

/-- The host value of a Starlark value. Lists, tuples and sets are lists. -/
def toDatum : Value → Except Cause Datum
  | .none => .ok .null
  | .bool b => .ok (.bool b)
  | .int n =>
      if Datum.int64Range n then .ok (.int64 n)
      else .error (unsupported ("integer " ++ Text.ofInt n ++ " overflows int64"))
  | .float bits => .ok (.float .double bits)
  | .text t => .ok (.text t)
  | .list items | .tuple items | .set items => do return .anyList (← itemsToDatum items)
  | .dict entries => do return .anyDict (Entries.ofList (← entriesToDatum entries))
  | .bytes _ => .error (unsupported "starlark bytes")
  | .range _ => .error (unsupported "starlark range")
  | .builtin _ | .method .. => .error (unsupported "starlark builtin_function_or_method")
  | .function .. => .error (unsupported "starlark function")
  | .module _ => .error (unsupported "starlark module")

def itemsToDatum : List Value → Except Cause (List Datum)
  | [] => .ok []
  | item :: rest => do
      let head ← (toDatum item).mapError (.within "failed to convert list element" ·)
      return head :: (← itemsToDatum rest)

def entriesToDatum : List (Value × Value) → Except Cause (List (Text × Datum))
  | [] => .ok []
  | (key, item) :: rest => do
      let head ← (toDatum item).mapError (.within "failed to convert dict value" ·)
      return (keyText key, head) :: (← entriesToDatum rest)

end

end Value
end CallPlan.Starlark
