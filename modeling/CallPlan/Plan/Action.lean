import CallPlan.Plan.Bindings

/-!
What can happen to the bindings of a call once it has bound: the routine sets names and assigns inside
the collections it was given, and the caller goes on using its own storage.
-/

namespace CallPlan

/-- A call that has bound: its bindings, the caller's whole argument list, and all storage. -/
structure Frame where
  bindings : Bindings
  args : View
  store : Store

inductive Action where
  /-- The routine sets a name. -/
  | set (name : Text) (value : Value)
  /-- The caller assigns one of its arguments. -/
  | assignArgument (index : Nat) (value : Value)
  /-- The caller assigns through a pointer. -/
  | assignThrough (place : Place) (value : Value)
  /-- Assigns inside the collection that a name gives. -/
  | assignInside (name : Text) (path : List Store.Step) (value : Value)
  /-- Assigns inside a collection that the caller passed. -/
  | assignInsideArgument (index : Nat) (path : List Store.Step) (value : Value)
  /-- Assigns inside the list of arguments that the bindings give out. -/
  | assignInsideArguments (path : List Store.Step) (value : Value)

namespace Frame

/-- Assigns inside a collection, and tells whether the path leads to an element of it. -/
def assignInside (f : Frame) (target : Option Value) (path : List Store.Step) (value : Value) :
    Bool × Frame :=
  match target.bind fun target => f.store.assignAt? target value path with
  | some store => (true, { f with store })
  | none => (false, f)

/-- Lets an action happen. Only setting a name can be refused; an assignment inside a collection tells
whether it found an element. -/
def act (f : Frame) : Action → Except Fault (Except SetRefusal Bool × Frame)
  | .set name value =>
      match f.bindings.set f.store name value with
      | .ok (bindings, store) => .ok (.ok true, { f with bindings, store })
      | .error refusal => .ok (.error refusal, f)
  | .assignArgument index value =>
      .ok (.ok true, { f with store := f.store.save (f.args.place index) value })
  | .assignThrough place value => .ok (.ok true, { f with store := f.store.save place value })
  | .assignInside name path value => do
      match ← f.bindings.get? f.store name with
      | none => return (.ok false, f)
      | some (target, store) =>
          let (found, f) := { f with store }.assignInside (some target) path value
          return (.ok found, f)
  | .assignInsideArgument index path value =>
      let (found, f) := f.assignInside (f.store.items f.args)[index]? path value
      .ok (.ok found, f)
  | .assignInsideArguments path value =>
      let (target, store) := f.store.newList (f.bindings.arguments f.store)
      let (found, f) := { f with store }.assignInside (some target) path value
      .ok (.ok found, f)

end Frame
end CallPlan
