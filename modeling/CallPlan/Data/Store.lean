import CallPlan.Data.Datum

/-!
Shared storage. Lists and maps, and the variables behind pointers, live in cells of a store; a `Value`
names the cell. Two values that name one cell see each other's writes. All other values hold no
storage.
-/

namespace CallPlan

/-- A stretch of the items of a list cell. -/
structure View where
  cell : Nat
  start : Nat
  length : Nat
deriving DecidableEq, Repr

/-- Storage for one value: a variable of its own, or an item of a list cell. -/
inductive Place where
  | variable (cell : Nat)
  | item (cell : Nat) (index : Nat)
deriving DecidableEq, Repr

/-- A host value. `plain` values share no storage. Lists and maps carry their element type, as two of
different types never show one cell; it is `any` where none is given. -/
inductive Value where
  | plain (datum : Datum)
  | list (view : View) (element : HostType := .any)
  | dict (cell : Nat) (element : HostType := .any)
  | pointer (type : HostType) (place : Place)
deriving Repr, Inhabited

namespace Value

def null : Value := .plain .null

def isNull : Value → Bool
  | .plain .null => true
  | _ => false

def type? : Value → Option HostType
  | .plain datum => datum.type?
  | .list _ element => some (.list element)
  | .dict _ element => some (.dict element)
  | .pointer type _ => some (.pointer type)

/-- Whether a variable or an element of the type takes the value. -/
def fits (value : Value) (type : HostType) : Bool := type = .any || value.type? = some type

def text? : Value → Option Text
  | .plain (.text t) => some t
  | _ => none

/-- The storage that a value shows. -/
inductive Reference where
  | list (view : View)
  | dict (cell : Nat)
  | place (place : Place)
deriving DecidableEq, Repr

def reference? : Value → Option Reference
  | .plain _ => none
  | .list view _ => some (.list view)
  | .dict cell _ => some (.dict cell)
  | .pointer _ place => some (.place place)

end Value

inductive Cell where
  | list (items : List Value)
  | dict (entries : Entries Value)
  | variable (value : Value)
deriving Repr, Inhabited

/-- The values that a cell holds. -/
def Cell.values : Cell → List Value
  | .list items => items
  | .dict entries => entries.map (·.2)
  | .variable value => [value]

structure Store where
  cells : Array Cell := #[]
deriving Repr, Inhabited

/-- The part of a view from an index on. -/
def View.drop (view : View) (index : Nat) : View where
  cell := view.cell
  start := view.start + index
  length := view.length - index

/-- The storage of an item of a view. -/
def View.place (view : View) (index : Nat) : Place := .item view.cell (view.start + index)

namespace Store

def alloc (store : Store) (cell : Cell) : Nat × Store :=
  (store.cells.size, { cells := store.cells.push cell })

/-- A list with cells of its own. -/
def newList (store : Store) (items : List Value) (element : HostType := .any) : Value × Store :=
  let (cell, store) := store.alloc (.list items)
  (.list { cell, start := 0, length := items.length } element, store)

def newDict (store : Store) (entries : Entries Value) (element : HostType := .any) : Value × Store :=
  let (cell, store) := store.alloc (.dict entries)
  (.dict cell element, store)

/-- A pointer to a fresh variable. -/
def newPointer (store : Store) (type : HostType) (value : Value) : Value × Store :=
  let (cell, store) := store.alloc (.variable value)
  (.pointer type (.variable cell), store)

def listCell (store : Store) (cell : Nat) : List Value :=
  match store.cells[cell]? with
  | some (.list items) => items
  | _ => []

/-- The items that a view shows. -/
def items (store : Store) (view : View) : List Value :=
  ((store.listCell view.cell).drop view.start).take view.length

def entries (store : Store) (cell : Nat) : Entries Value :=
  match store.cells[cell]? with
  | some (.dict entries) => entries
  | _ => []

/-- The value a place holds, if the place is in the store. -/
def load? (store : Store) : Place → Option Value
  | .variable cell => match store.cells[cell]? with
      | some (.variable value) => some value
      | _ => none
  | .item cell index => (store.listCell cell)[index]?

def setCell (store : Store) (cell : Nat) (content : Cell) : Store :=
  { cells := store.cells.setIfInBounds cell content }

/-- Writes a value to a place. -/
def save (store : Store) (place : Place) (value : Value) : Store :=
  match place with
  | .variable cell => store.setCell cell (.variable value)
  | .item cell index => store.setCell cell (.list ((store.listCell cell).set index value))

/-- Writes values to the items of a view from an index on. -/
def saveAll (store : Store) (view : View) (index : Nat) : List Value → Store
  | [] => store
  | value :: rest => (store.save (view.place index) value).saveAll view (index + 1) rest

/-- A copy of a collection that shares its elements but not the collection itself. -/
def clone (store : Store) : Value → Value × Store
  | .list view element => store.newList (store.items view) element
  | .dict cell element => store.newDict (store.entries cell) element
  | value => (value, store)

/-- Reads a value to the given depth. -/
def readTo (store : Store) : Nat → Value → Datum
  | _, .plain datum => datum
  | 0, _ => .null
  | depth + 1, .list view element => .list element ((store.items view).map (store.readTo depth))
  | depth + 1, .dict cell element =>
      .dict element ((store.entries cell).map fun (key, value) => (key, store.readTo depth value))
  | depth + 1, .pointer type place =>
      match store.load? place with
      | some value => .pointer type (store.readTo depth value)
      | none => .absent (.pointer type)

/-- The storage that the values in the cells of a store show. -/
def references (store : Store) : List Value.Reference :=
  store.cells.toList.flatMap fun content => content.values.filterMap Value.reference?

/-- Reads a value that is inside those above it. A value inside itself is not read again. -/
def readUnder (store : Store) : Nat → List Value.Reference → Value → Datum
  | _, _, .plain datum => datum
  | 0, _, _ => .null
  | fuel + 1, above, .list view element =>
      if .list view ∈ above then .null
      else .list element ((store.items view).map (store.readUnder fuel (.list view :: above)))
  | fuel + 1, above, .dict cell element =>
      if .dict cell ∈ above then .null
      else .dict element ((store.entries cell).map fun (key, value) =>
        (key, store.readUnder fuel (.dict cell :: above) value))
  | fuel + 1, above, .pointer type place =>
      if .place place ∈ above then .null
      else match store.load? place with
        | some value => .pointer type (store.readUnder fuel (.place place :: above) value)
        | none => .absent (.pointer type)

/-- Reads a value completely. The values above one another show different storage each, so that there are
no more of them than the store shows storage, besides the value itself. -/
def read (store : Store) (value : Value) : Datum :=
  store.readUnder (store.references.length + 1) [] value

mutual

/-- Builds a value with storage of its own. -/
def write (store : Store) : Datum → Value × Store
  | .list element items =>
      let (items, store) := store.writeItems items
      store.newList items element
  | .dict element entries =>
      let (entries, store) := store.writeEntries entries
      store.newDict entries element
  | .pointer type target =>
      let (target, store) := store.write target
      store.newPointer type target
  | datum => (.plain datum, store)

def writeItems (store : Store) : List Datum → List Value × Store
  | [] => ([], store)
  | item :: rest =>
      let (value, store) := store.write item
      let (values, store) := store.writeItems rest
      (value :: values, store)

def writeEntries (store : Store) : List (Text × Datum) → Entries Value × Store
  | [] => ([], store)
  | (key, item) :: rest =>
      let (value, store) := store.write item
      let (values, store) := store.writeEntries rest
      ((key, value) :: values, store)

end

/-- A step into a collection. -/
inductive Step where
  | index (i : Int)
  | key (k : Text)
deriving DecidableEq, Repr

/-- The element of a collection that a step leads to. -/
def enter? (store : Store) (value : Value) : Step → Option Value
  | .index i => match value with
      | .list view _ => if 0 ≤ i then (store.items view)[i.toNat]? else none
      | _ => none
  | .key k => match value with
      | .dict cell _ => (store.entries cell).get? k
      | _ => none

/-- Assigns one element of a collection: an item that is there, or any key of a map. Only a value of the
element type can be assigned. -/
def assign? (store : Store) (collection : Value) (step : Step) (value : Value) : Option Store :=
  match collection, step with
  | .list view element, .index i =>
      if 0 ≤ i && i.toNat < view.length && value.fits element then
        some (store.save (view.place i.toNat) value)
      else none
  | .dict cell element, .key k =>
      if value.fits element then
        some (store.setCell cell (.dict ((store.entries cell).put k value)))
      else none
  | _, _ => none

/-- Assigns inside a collection along a path. -/
def assignAt? (store : Store) (collection : Value) (value : Value) : List Step → Option Store
  | [] => none
  | [step] => store.assign? collection step value
  | step :: path => do
      let inner ← store.enter? collection step
      store.assignAt? inner value path

end Store
end CallPlan
