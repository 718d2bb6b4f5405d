import CallPlan.Condition
import CallPlan.Default.Engine
import CallPlan.Plan.Step

/-!
The local names that a call has bound. A binding owns its value, refers to storage of the caller, or
shows the caller's arguments from some index on.
-/

namespace CallPlan

inductive Content where
  | own (value : Value)
  | ref (type : HostType) (place : Place)
  | shared (view : View)
deriving Repr

structure Binding where
  param : Param
  mode : Mode := .copy
  supplied : Bool := false
  content : Content
deriving Repr

/-- What a binding refuses to be set to. -/
inductive SetRefusal where
  | unknown (name : Text)
  | readOnly (var : Text)
  | notNullable (var : Text) (type : HostType)
  | wrongType (given : Option HostType) (var : Text) (type : HostType)
  | wrongLength (var : Text) (length : Nat)
deriving DecidableEq, Repr

def SetRefusal.cause : SetRefusal → Cause
  | .unknown name => .because .unknownBinding (.message name)
  | .readOnly var => .because .readOnlyBinding (.message var)
  | .notNullable var type => .because .notAssignable
      (.message ("nil to " ++ var ++ " of type " ++ type.name))
  | .wrongType given var type => .because .notAssignable
      (.message (HostType.nameOf given ++ " to " ++ var ++ " of type " ++ type.name))
  | .wrongLength var length => .because .notAssignable
      (.message (var ++ " aliases " ++ Text.ofNat length ++ " arguments"))

namespace Binding

/-- The value of a binding, and the storage it is in. A read-only collection is given as a copy. -/
def get (b : Binding) (store : Store) : Except Fault (Value × Store) :=
  match b.content with
  | .ref _ place =>
      match store.load? place with
      | none => .error .noTarget
      | some value => .ok (if b.mode = .readOnly then store.clone value else (value, store))
  | .own value => .ok (if b.mode = .readOnly then store.clone value else (value, store))
  | .shared view => .ok (.list view, store)

/-- The value of a type that stands for nothing. -/
def nothingOf (type : HostType) : Value :=
  if type = .any then .null else .plain (.absent type)

/-- The items of a list value. -/
def items? (store : Store) : Value → Option (List Value)
  | .list view => some (store.items view)
  | .plain (.absent (.list .any)) => some []
  | _ => none

/-- Assigns to a binding. What it refers to is written through. -/
def set (b : Binding) (store : Store) (value : Value) :
    Except SetRefusal (Binding × Store) :=
  if b.mode = .readOnly then .error (.readOnly b.param.var)
  else match b.content with
    | .ref type place =>
        if value.isNull then
          if type.isNullable then .ok (b, store.save place (nothingOf type))
          else .error (.notNullable b.param.var type)
        else if value.fits type then .ok (b, store.save place value)
        else .error (.wrongType value.type? b.param.var type)
    | .shared view =>
        match items? store value with
        | some items =>
            if items.length = view.length then .ok (b, store.saveAll view 0 items)
            else .error (.wrongLength b.param.var view.length)
        | none => .error (.wrongLength b.param.var view.length)
    | .own _ => .ok ({ b with content := .own value }, store)

/-- The pointer behind an aliased binding. -/
def ref? (b : Binding) : Option Value :=
  match b.content with
  | .ref type place => some (.pointer type place)
  | _ => none

end Binding

/-- The bindings of a call in binding order, the invocant first, and the arguments after it. -/
structure Bindings where
  entries : Entries Binding := []
  args : View
  invocant : Option Value := none
deriving Repr

namespace Bindings

def dropMark (mark : Char) : Text → Text
  | [] => []
  | g :: rest => if g = .char mark then rest else g :: rest

/-- A name without its role marker, reference marker and sigil. -/
def bareName (name : Text) : Text :=
  match dropMark '\\' (dropMark ':' name) with
  | [] => []
  | g :: rest => if (Sigil.ofGlyph? g).isSome then rest else g :: rest

/-- The bound name that a spelling stands for: the name itself, or its display form. -/
def resolve? (b : Bindings) (name : Text) : Option Text :=
  if b.entries.has name then some name
  else if b.entries.has (bareName name) then some (bareName name)
  else none

def lookup? (b : Bindings) (name : Text) : Option Binding := do
  b.entries.get? (← b.resolve? name)

/-- The value bound to a name. -/
def get? (b : Bindings) (store : Store) (name : Text) : Except Fault (Option (Value × Store)) :=
  match b.lookup? name with
  | some binding => do return some (← binding.get store)
  | none => .ok none

def set (b : Bindings) (store : Store) (name : Text) (value : Value) :
    Except SetRefusal (Bindings × Store) :=
  match b.resolve? name with
  | none => .error (.unknown name)
  | some key =>
      match b.entries.get? key with
      | none => .error (.unknown name)
      | some binding => do
          let (binding, store) ← binding.set store value
          return ({ b with entries := b.entries.put key binding }, store)

def ref? (b : Bindings) (name : Text) : Option Value := do (← b.lookup? name).ref?

/-- Whether the caller passed a value for the name. -/
def supplied (b : Bindings) (name : Text) : Bool := (b.lookup? name).any (·.supplied)

def mode? (b : Bindings) (name : Text) : Option Mode := (b.lookup? name).map (·.mode)

def names (b : Bindings) : List Text := b.entries.keys

/-- The values of bindings in order, each as `get` gives it. -/
def valuesOf (store : Store) : Entries Binding → Except Fault (Entries Value × Store)
  | [] => .ok ([], store)
  | (name, binding) :: rest => do
      let (value, store) ← binding.get store
      let (values, store) ← valuesOf store rest
      return ((name, value) :: values, store)

/-- Every binding by name. -/
def values (b : Bindings) (store : Store) : Except Fault (Entries Value × Store) :=
  valuesOf store b.entries

/-- The arguments after the invocant, as they are now. -/
def arguments (b : Bindings) (store : Store) : List Value := store.items b.args

/-- The first argument that a pointer is: the address of its slot, or the pointer passed there. -/
def argumentIndex? (store : Store) (args : View) (place : Place) : Option Nat :=
  (List.range args.length).find? fun i =>
    place = args.place i || match (store.items args)[i]? with
      | some (.pointer _ target) => target = place
      | _ => false

end Bindings
end CallPlan
