import CallPlan.Data.Entries

/-!
Values as the host program holds them, with the host's own type names. A `Datum` is a value read to
any depth: it shares no storage.
-/

namespace CallPlan

inductive IntKind where
  | int
  | int8
  | int32
  | int64
  | uint
  | uint8
  | uint64
deriving DecidableEq, Repr

inductive FloatKind where
  | single
  | double
deriving DecidableEq, Repr

/-- The types a host value can have. Lists and maps are told apart by their element type. -/
inductive HostType where
  | bool
  | text
  | int (kind : IntKind)
  | float (kind : FloatKind)
  | unit
  | pair
  | func
  | any
  | list (element : HostType)
  | dict (element : HostType)
  | pointer (target : HostType)
deriving DecidableEq, Repr, Inhabited

namespace HostType

def intName : IntKind → Text
  | .int => "int"
  | .int8 => "int8"
  | .int32 => "int32"
  | .int64 => "int64"
  | .uint => "uint"
  | .uint8 => "uint8"
  | .uint64 => "uint64"

/-- The host's name of the type. -/
def name : HostType → Text
  | .bool => "bool"
  | .text => "string"
  | .int kind => intName kind
  | .float .single => "float32"
  | .float .double => "float64"
  | .unit => "struct \x7b\x7d"
  | .pair => "[2]int"
  | .func => "func()"
  | .any => "interface \x7b\x7d"
  | .list element => "[]" ++ element.name
  | .dict element => "map[string]" ++ element.name
  | .pointer target => "*" ++ target.name

/-- The name shown for the type of a value, or for the absence of one. -/
def nameOf : Option HostType → Text
  | some type => type.name
  | none => "<nil>"

/-- The types whose names hold no other name. -/
def simple : List HostType :=
  [.bool, .text, .int .int, .int .int8, .int .int32, .int .int64, .int .uint, .int .uint8,
    .int .uint64, .float .single, .float .double, .unit, .pair, .func, .any]

/-- Reads a name that is at most `depth` types deep. -/
def ofNameTo? : Nat → Text → Option HostType
  | 0, _ => none
  | depth + 1, name =>
      let after? (mark : Text) : Option HostType :=
        if mark.isPrefixOf name then ofNameTo? depth (name.drop mark.length) else none
      simple.find? (·.name = name) <|> (after? "[]").map .list <|>
        (after? "map[string]").map .dict <|> (after? "*").map .pointer

/-- The type of a name. -/
def ofName? (name : Text) : Option HostType := ofNameTo? (name.length + 1) name

/-- Whether a variable of the type can hold nothing. -/
def isNullable : HostType → Bool
  | .any | .func | .list _ | .dict _ | .pointer _ => true
  | _ => false

end HostType

/-- A host value. Floating-point numbers are kept as the bits of a double. -/
inductive Datum where
  | null
  | bool (value : Bool)
  | int (kind : IntKind) (value : Int)
  | float (kind : FloatKind) (bits : UInt64)
  | text (value : Text)
  | unit
  | func
  | pair (first second : Int)
  | absent (type : HostType)
  | list (element : HostType) (items : List Datum)
  | dict (element : HostType) (entries : List (Text × Datum))
  | pointer (type : HostType) (target : Datum)
deriving Repr, Inhabited

namespace Datum

/-- The type of a value; nothing has none. -/
def type? : Datum → Option HostType
  | .null => none
  | .bool _ => some .bool
  | .int kind _ => some (.int kind)
  | .float kind _ => some (.float kind)
  | .text _ => some .text
  | .unit => some .unit
  | .func => some .func
  | .pair .. => some .pair
  | .absent type => some type
  | .list element _ => some (.list element)
  | .dict element _ => some (.dict element)
  | .pointer type _ => some (.pointer type)

/-- A list of values of any type. -/
def anyList (items : List Datum) : Datum := .list .any items

/-- A map to values of any type. -/
def anyDict (entries : List (Text × Datum)) : Datum := .dict .any entries

def int64 (n : Int) : Datum := .int .int64 n

end Datum
end CallPlan
