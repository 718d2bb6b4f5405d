import CallPlan.Default.Engine
import CallPlan.Engine.Hcl.Kind
import CallPlan.Engine.Numeral
import CallPlan.Json.Value
import CallPlan.Number.Wide
import CallPlan.Text.Normal

/-!
The values of HCL expressions. Even nothing has a type, and texts are kept in canonical composition.
A value that is not known stands for what an expression that failed would have given.
-/

namespace CallPlan.Hcl

inductive Value where
  | unknown (kind : Kind)
  | null (kind : Kind)
  | bool (value : Bool)
  | number (value : Wide)
  | text (value : Text)
  | list (element : Kind) (items : List Value)
  | map (element : Kind) (entries : List (Text × Value))
  | tuple (items : List Value)
  /-- The attributes are in the order of their names. -/
  | object (attributes : List (Text × Value))
deriving Repr, Inhabited

namespace Value

/-- A text, in its one canonical spelling. -/
def ofText (t : Text) : Value := .text t.normal

mutual

def kind : Value → Kind
  | .unknown kind | .null kind => kind
  | .bool _ => .bool
  | .number _ => .number
  | .text _ => .text
  | .list element _ => .list element
  | .map element _ => .map element
  | .tuple items => .tuple (kinds items)
  | .object attributes => .object (attributeKinds attributes)

def kinds : List Value → List Kind
  | [] => []
  | item :: rest => item.kind :: kinds rest

def attributeKinds : List (Text × Value) → List (Text × Kind)
  | [] => []
  | (name, value) :: rest => (name, value.kind) :: attributeKinds rest

end

def isNull : Value → Bool
  | .null _ => true
  | _ => false

def isUnknown : Value → Bool
  | .unknown _ => true
  | _ => false

mutual

/-- Whether every part of a value is known. -/
def isKnown : Value → Bool
  | .unknown _ => false
  | .null _ | .bool _ | .number _ | .text _ => true
  | .list _ items | .tuple items => allKnown items
  | .map _ entries | .object entries => entriesKnown entries

def allKnown : List Value → Bool
  | [] => true
  | item :: rest => item.isKnown && allKnown rest

def entriesKnown : List (Text × Value) → Bool
  | [] => true
  | (_, value) :: rest => value.isKnown && entriesKnown rest

end

def boolText (b : Bool) : Text := if b then "true" else "false"

/-- The powers of ten and of two that the end of a numeral multiplies by. -/
def scale? : Text → Option (Int × Int)
  | [] => some (0, 0)
  | .char mark :: rest => do
      let (lowered, digits) := Numeral.signed rest
      let n ← Numeral.value? 10 digits
      let n : Int := if lowered then -n else n
      if !Datum.int64Range n then none
      else if mark = 'e' || mark = 'E' then some (n, 0)
      else if mark = 'p' || mark = 'P' then some (0, n)
      else none
  | .stray _ :: _ => none

/-- The number that a text writes: decimal digits with an optional sign and point, and an optional
exponent of ten or of two. -/
def parseNumber? (t : Text) : Option Wide :=
  let (negative, digits) := Numeral.signed t
  if digits = Text.ofString "Inf" || digits = Text.ofString "inf" then some (.infinite negative)
  else
    let (whole, rest) := Text.takeDigits digits
    let (fraction, rest) := match rest with
      | .char '.' :: rest => Text.takeDigits rest
      | rest => ([], rest)
    if whole.isEmpty && fraction.isEmpty then none
    else do
      let (tens, twos) ← scale? rest
      Wide.ofScaled? negative (Text.digitsValue (whole ++ fraction)) (tens - fraction.length) twos

def parseBool? (t : Text) : Option Bool :=
  if t = Text.ofString "true" || t = Text.ofString "1" then some true
  else if t = Text.ofString "false" || t = Text.ofString "0" then some false
  else none

/-- The type that the parts of a collection are brought to: the one that is asked for, or the one
that they have in common. -/
def partKind (target : Kind) (kinds : List Kind) : Kind :=
  if target.isDynamic then (Kind.unify? kinds).getD .dynamic else target

mutual

/-- The value as one of another type, if it can be one. -/
def convert? : Value → Kind → Option Value
  | .unknown kind, target =>
      if Kind.canConvert kind target then some (.unknown (if target.isDynamic then kind else target))
      else none
  | .null kind, target =>
      if Kind.canConvert kind target then some (.null (if target.isDynamic then kind else target))
      else none
  | .bool b, .dynamic | .bool b, .bool => some (.bool b)
  | .bool b, .text => some (.text (boolText b))
  | .bool _, _ => none
  | .number n, .dynamic | .number n, .number => some (.number n)
  | .number n, .text => some (.text n.render)
  | .number _, _ => none
  | .text t, .dynamic | .text t, .text => some (.text t)
  | .text t, .number => (parseNumber? t).map .number
  | .text t, .bool => (parseBool? t).map .bool
  | .text _, _ => none
  | .list element items, .dynamic => some (.list element items)
  | .list _ items, .list target => (convertItems? items target).map (.list target)
  | .list .., _ => none
  | .tuple items, .dynamic => some (.tuple items)
  | .tuple items, .list target =>
      (convertItems? items (partKind target (kinds items))).map
        (.list (partKind target (kinds items)))
  | .tuple items, .tuple targets => (convertParts? items targets).map .tuple
  | .tuple _, _ => none
  | .map element entries, .dynamic => some (.map element entries)
  | .map _ entries, .map target => (convertEntries? entries target).map (.map target)
  | .map _ entries, .object targets =>
      if targets.all fun (name, _) => Entries.has entries name then
        (convertAttributes? entries targets).map .object
      else none
  | .map .., _ => none
  | .object attributes, .dynamic => some (.object attributes)
  | .object attributes, .map target =>
      (convertEntries? attributes (partKind target ((attributeKinds attributes).map (·.2)))).map
        (.map (partKind target ((attributeKinds attributes).map (·.2))))
  | .object attributes, .object targets =>
      if targets.all fun (name, _) => Entries.has attributes name then
        (convertAttributes? attributes targets).map .object
      else none
  | .object _, _ => none

def convertItems? : List Value → Kind → Option (List Value)
  | [], _ => some []
  | item :: rest, target => do return (← item.convert? target) :: (← convertItems? rest target)

def convertParts? : List Value → List Kind → Option (List Value)
  | [], [] => some []
  | item :: rest, target :: targets => do
      return (← item.convert? target) :: (← convertParts? rest targets)
  | _, _ => none

def convertEntries? : List (Text × Value) → Kind → Option (List (Text × Value))
  | [], _ => some []
  | (name, value) :: rest, target => do
      return (name, ← value.convert? target) :: (← convertEntries? rest target)

/-- The attributes that are asked for; others are left out. -/
def convertAttributes? :
    List (Text × Value) → List (Text × Kind) → Option (List (Text × Value))
  | [], _ => some []
  | (name, value) :: rest, targets =>
      match Entries.get? targets name with
      | some target => do
          return (name, ← value.convert? target) :: (← convertAttributes? rest targets)
      | none => convertAttributes? rest targets

end

mutual

/-- Whether two known values of one type are equal. -/
def sameContent : Value → Value → Bool
  | .null _, .null _ => true
  | .bool a, .bool b => a = b
  | .number a, .number b => a.equal b
  | .text a, .text b => a = b
  | .list _ a, .list _ b | .tuple a, .tuple b => sameItems a b
  | .map _ a, .map _ b | .object a, .object b => sameEntries a b
  | _, _ => false

def sameItems : List Value → List Value → Bool
  | [], [] => true
  | a :: as, b :: bs => sameContent a b && sameItems as bs
  | _, _ => false

def sameEntries : List (Text × Value) → List (Text × Value) → Bool
  | [], [] => true
  | (j, a) :: as, (k, b) :: bs => j = k && sameContent a b && sameEntries as bs
  | _, _ => false

end

/-- Values are equal when they have one type and one content. Two nulls are equal whatever their
types; whether an unknown value is equal to another is not known. -/
def equals (a b : Value) : Value :=
  match a, b with
  | .null _, .null _ => .bool true
  | .unknown _, _ | _, .unknown _ => .unknown .bool
  | .null _, _ | _, .null _ => .bool false
  | a, b =>
      if !a.isKnown || !b.isKnown then .unknown .bool
      else .bool (a.kind == b.kind && sameContent a b)

/-- The keys and values of a value that can be gone through, in order. -/
def elements? : Value → Option (List (Value × Value))
  | .list _ items | .tuple items =>
      some ((List.range items.length).map (fun (i : Nat) => .number (.ofInt i)) |>.zip items)
  | .map _ entries | .object entries => some (entries.map fun (name, value) => (.text name, value))
  | _ => none

/-- An object of the given attributes, of which the last of a name counts. -/
def ofAttributes (attributes : List (Text × Value)) : Value :=
  .object (Entries.sorted (Entries.ofList (attributes.map fun (name, value) =>
    (name.normal, value))))

mutual

/-- The value of a host value: `none` when it has none, and a fault for a number that is not one. -/
def ofDatum? : Datum → Except Fault (Option Value)
  | .null => .ok (some (.null .dynamic))
  | .bool b => .ok (some (.bool b))
  | .int .int8 _ | .int .uint8 _ => .ok Option.none
  | .int _ n => .ok (some (.number (.ofInt n)))
  | .float _ bits =>
      if Double.isNaN bits then .error .notANumber else .ok (some (.number (.ofDouble bits)))
  | .text t => .ok (some (ofText t))
  | .list .text items | .list .any items => do return (← itemsOfDatum? items).map .tuple
  | .absent (.list .text) | .absent (.list .any) => .ok (some (.tuple []))
  | .dict .any entries => do return (← entriesOfDatum? entries).map ofAttributes
  | .absent (.dict .any) => .ok (some (.object []))
  | _ => .ok Option.none

def itemsOfDatum? : List Datum → Except Fault (Option (List Value))
  | [] => .ok (some [])
  | item :: rest => do
      match ← ofDatum? item with
      | Option.none => return Option.none
      | some value => return (← itemsOfDatum? rest).map (value :: ·)

def entriesOfDatum? : List (Text × Datum) → Except Fault (Option (List (Text × Value)))
  | [] => .ok (some [])
  | (name, item) :: rest => do
      match ← ofDatum? item with
      | Option.none => return Option.none
      | some value => return (← entriesOfDatum? rest).map ((name, value) :: ·)

end

/-- A whole number of sixty-four bits is an integer, any other number a double. -/
def numberToDatum (n : Wide) : Datum :=
  match n.toIntOf? 64 with
  | some i => if Datum.int64Range i then .int64 i else .float .double n.toDouble
  | none => .float .double n.toDouble

mutual

/-- The host value of a value. What is not known is nothing. -/
def toDatum : Value → Datum
  | .unknown _ | .null _ => .null
  | .bool b => .bool b
  | .number n => numberToDatum n
  | .text t => .text t
  | .list _ items | .tuple items => .anyList (itemsToDatum items)
  | .map _ entries | .object entries => .anyDict (entriesToDatum entries)

def itemsToDatum : List Value → List Datum
  | [] => []
  | item :: rest => item.toDatum :: itemsToDatum rest

def entriesToDatum : List (Text × Value) → List (Text × Datum)
  | [] => []
  | (name, value) :: rest => (name, value.toDatum) :: entriesToDatum rest

end

mutual

/-- The value as JSON, if all of it is known and finite. -/
def toJson? : Value → Option Json
  | .unknown _ => Option.none
  | .null _ => some .null
  | .bool b => some (.bool b)
  | .number (.infinite _) => Option.none
  | .number n => some (.number n.render)
  | .text t => some (.text t)
  | .list _ items | .tuple items => do return .list (← itemsToJson? items)
  | .map _ entries | .object entries => do return .object (← entriesToJson? entries)

def itemsToJson? : List Value → Option (List Json)
  | [] => some []
  | item :: rest => do return (← item.toJson?) :: (← itemsToJson? rest)

def entriesToJson? : List (Text × Value) → Option (List (Text × Json))
  | [] => some []
  | (name, value) :: rest => do return (name, ← value.toJson?) :: (← entriesToJson? rest)

end

mutual

/-- The value of a JSON document. Members of one name must have one type, and the last counts. Names
that are not in canonical composition are refused. -/
def ofJson? : Json → Option Value
  | .null => some (.null .dynamic)
  | .bool b => some (.bool b)
  | .number literal => (parseNumber? literal).map .number
  | .text t => some (ofText t)
  | .list items => do return .tuple (← itemsOfJson? items)
  | .object members => do
      let members ← membersOfJson? members
      if members.all fun (name, value) => name.normal = name &&
          members.all fun (other, v) => name ≠ other || v.kind == value.kind then
        return ofAttributes members
      else Option.none

def itemsOfJson? : List Json → Option (List Value)
  | [] => some []
  | item :: rest => do return (← ofJson? item) :: (← itemsOfJson? rest)

def membersOfJson? : List (Text × Json) → Option (List (Text × Value))
  | [] => some []
  | (name, value) :: rest => do return (name, ← ofJson? value) :: (← membersOfJson? rest)

end

end Value
end CallPlan.Hcl
