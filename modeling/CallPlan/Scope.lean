import CallPlan.Condition
import CallPlan.Data.Store

/-!
Outer variables that default expressions may read. A scope is a fixed set of variables, a set of
names read from the context of a call, or layers of scopes in which the later ones win.
-/

namespace CallPlan

/-- What a call carries besides its arguments: values by key. -/
abbrev Context := Entries Value

inductive Scope where
  | static (data : Entries Value)
  | context (key : Text) (names : List Text)
  | composite (layers : List Scope)
deriving Repr, Inhabited

namespace Scope

/-- Why a scope has no data to give. -/
inductive Error where
  | emptyKey
  | invalidData (type : Option HostType)
  | layer (index : Nat) (error : Error)
deriving DecidableEq, Repr

def Error.cause : Error → Cause
  | .emptyKey => .plain .emptyContextKey
  | .invalidData type => .because .invalidScopeData
      (.message ("expected map[string]any, got " ++ HostType.nameOf type))
  | .layer index error => .within ("error from provider " ++ Text.ofNat index) error.cause

/-- Layers given in order; a missing one is skipped. -/
def ofLayers (layers : List (Option Scope)) : Scope := .composite (layers.filterMap id)

mutual

/-- The names a scope may give. Those of layers are distinct and in byte order. -/
def names : Scope → List Text
  | .static data => Text.sorted data.keys
  | .context _ names => names
  | .composite layers => Text.sorted (namesOfLayers layers)

def namesOfLayers : List Scope → List Text
  | [] => []
  | layer :: rest => layer.names ++ namesOfLayers rest

end

/-- The declared variables among those stored in a context. -/
def declared (names : List Text) (stored : Entries Value) : Entries Value :=
  names.foldl (fun data name =>
    match stored.get? name with
    | some value => data.put name value
    | none => data) []

/-- The data stored in a context under a key. -/
def stored (store : Store) (context : Context) (key : Text) : Except Error (Entries Value) :=
  match context.get? key with
  | none | some (.plain .null) | some (.plain (.absent (.dict .any))) => .ok []
  | some (.dict cell) => .ok (store.entries cell)
  | some value => .error (.invalidData value.type?)

mutual

/-- The variables of a scope for one call. -/
def data (store : Store) (context : Context) : Scope → Except Error (Entries Value)
  | .static data => .ok data
  | .context key names =>
      if key.isEmpty then .error .emptyKey
      else do return declared names (← stored store context key)
  | .composite layers => dataOfLayers store context 0 [] layers

/-- Merges the variables of layers into those of the layers before them. -/
def dataOfLayers (store : Store) (context : Context) (index : Nat) (merged : Entries Value) :
    List Scope → Except Error (Entries Value)
  | [] => .ok merged
  | layer :: rest =>
      match layer.data store context with
      | .error e => .error (.layer index e)
      | .ok data => dataOfLayers store context (index + 1) (merged.merge data) rest

end

/-- Why variables cannot be put into a context. -/
inductive Refusal where
  | emptyKey
  | undeclared (names : List Text)
deriving DecidableEq, Repr

def Refusal.cause : Refusal → Cause
  | .emptyKey => .plain .emptyContextKey
  | .undeclared [] => .plain .undeclaredName
  | .undeclared (name :: rest) =>
      let undeclared (name : Text) : Cause := .because .undeclaredName (.message name.quoted)
      rest.foldl (fun cause name => .both cause (undeclared name)) (undeclared name)

/-- Stores variables under a key. What is there already stays, new values winning. -/
def putUnder (store : Store) (context : Context) (key : Text) (names : List Text)
    (data : Entries Value) : Except Refusal (Context × Store) :=
  if key.isEmpty then .error .emptyKey
  else match data.keys.find? (!names.contains ·) with
    | some name => .error (.undeclared [name])
    | none =>
        let existing := match context.get? key with
          | some (.dict cell) => store.entries cell
          | _ => []
        let (value, store) := store.newDict (existing.merge data)
        .ok (context.put key value, store)

def isDeclaredBy (name : Text) : Scope → Bool
  | .context _ names => names.contains name
  | _ => false

/-- Stores with each layer that reads a context the variables it declares. -/
def putInLayers (store : Store) (context : Context) (data : Entries Value) :
    List Scope → Except Refusal (Context × Store)
  | [] => .ok (context, store)
  | .context key names :: rest => do
      let own := data.filter (names.contains ·.1)
      if own.isEmpty then putInLayers store context data rest
      else
        let (context, store) ← putUnder store context key names own
        putInLayers store context data rest
  | _ :: rest => putInLayers store context data rest

/-- Puts variables into a context so that the scope will give them. `none` when the scope reads
nothing from contexts. -/
def put? (store : Store) (context : Context) (data : Entries Value) :
    Scope → Option (Except Refusal (Context × Store))
  | .static _ => none
  | .context key names => some (putUnder store context key names data)
  | .composite layers => some
      (match data.keys.filter (fun name => !layers.any (isDeclaredBy name)) with
      | [] => putInLayers store context data layers
      | names => .error (.undeclared names))

/-- The context and the storage after an attempt to put variables there, and why it was refused if it was. A
refused attempt leaves what was given, also where some layers had stored their variables already. -/
def add (store : Store) (context : Context) (data : Entries Value) (scope : Scope) :
    Option ((Context × Store) × Option Refusal) :=
  (scope.put? store context data).map fun
    | .ok after => (after, none)
    | .error refusal => ((context, store), some refusal)

end Scope
end CallPlan
