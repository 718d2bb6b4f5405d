import CallPlan.Engine.Starlark.Value

/-!
Equality and order of values. Two values that are nested too deep cannot be compared at all, so a
comparison may have no answer. Keys are told apart first, and compared only when they are the same.
-/

namespace CallPlan.Starlark.Value

/-- Floats are ordered with a NaN after all others and equal to itself. -/
def compareFloats (x y : UInt64) : Ordering :=
  match Double.isNaN x, Double.isNaN y with
  | true, true => .eq
  | true, false => .gt
  | false, true => .lt
  | false, false =>
      let a := Float.ofBits x
      let b := Float.ofBits y
      if a < b then .lt else if b < a then .gt else .eq

/-- An integer and a float are compared exactly. -/
def compareIntFloat (n : Int) (bits : UInt64) : Ordering :=
  if Double.isNaN bits then .lt
  else if Double.isInfinite bits then if Double.isNegative bits then .gt else .lt
  else
    let (m, q) := Double.decode bits
    let m : Int := if Double.isNegative bits then -m else m
    compare (n * pow2 (-q).toNat) (m * pow2 q.toNat)

/-- How deep values may be nested to be compared. -/
def depthLimit : Nat := 10

mutual

/-- Whether two values that can be keys are the same, however deep they are. -/
def isSameKey : Value → Value → Bool
  | .none, .none => true
  | .bool a, .bool b => a = b
  | .int a, .int b => a = b
  | .float a, .float b => compareFloats a b = .eq
  | .int a, .float b => compareIntFloat a b = .eq
  | .float a, .int b => compareIntFloat b a = .eq
  | .text a, .text b => a = b
  | .bytes a, .bytes b => a = b
  | .tuple a, .tuple b => areSameKeys a b
  | .builtin a, .builtin b => a = b
  | .method a _ _, .method b _ _ => a = b
  | .function a .., .function b .. => a = b
  | _, _ => false

def areSameKeys : List Value → List Value → Bool
  | [], [] => true
  | a :: as, b :: bs => isSameKey a b && areSameKeys as bs
  | _, _ => false

end

mutual

/-- Whether a value can be a key. -/
def isHashable : Value → Bool
  | .list _ | .dict _ | .set _ | .range _ | .module _ => false
  | .tuple items => allHashable items
  | _ => true

def allHashable : List Value → Bool
  | [] => true
  | item :: rest => item.isHashable && allHashable rest

end

mutual

/-- How deep a comparison of a key with itself goes. -/
def height : Value → Nat
  | .tuple items => heights items + 1
  | _ => 1

def heights : List Value → Nat
  | [] => 0
  | item :: rest => max item.height (heights rest)

end

/-- A key that is in a collection is found only if it can be compared with what is there. -/
def isFindable (key : Value) : Bool := key.isHashable && key.height ≤ depthLimit

/-- The value of a key. -/
def lookup? (entries : List (Value × Value)) (key : Value) : Option Value :=
  if key.isFindable then (entries.find? fun (k, _) => isSameKey k key).map (·.2) else Option.none

def memberOf (items : List Value) (item : Value) : Bool := items.any (isSameKey · item)

/-- Compares lists of one length item by item. -/
def equalItems? (equal? : Value → Value → Option Bool) : List Value → List Value → Option Bool
  | a :: as, b :: bs => do if ← equal? a b then equalItems? equal? as bs else some false
  | [], [] => some true
  | _, _ => some false

/-- Whether each entry has an equal one among others. -/
def equalEntries? (equal? : Value → Value → Option Bool) (others : List (Value × Value)) :
    List (Value × Value) → Option Bool
  | [] => some true
  | (key, value) :: rest =>
      match lookup? others key with
      | some other => do if ← equal? value other then equalEntries? equal? others rest else some false
      | Option.none => some false

/-- Whether two values are equal, or `none` when they are nested deeper than the first argument
allows. -/
def equal? : Nat → Value → Value → Option Bool
  | 0, _, _ => Option.none
  | depth + 1, a, b =>
      match a, b with
      | .list a, .list b | .tuple a, .tuple b =>
          if a.length = b.length then equalItems? (equal? depth) a b else some false
      | .dict a, .dict b =>
          if a.length = b.length then equalEntries? (equal? depth) b a else some false
      | .set a, .set b => some (a.length = b.length && a.all (memberOf b))
      | .range a, .range b => some (a.same b)
      | .module a, .module b => some (a = b)
      | a, b => some (isSameKey a b)

/-- The ways in which one value can stand to another in order. -/
inductive Relation where
  | less
  | lessEqual
  | greater
  | greaterEqual
deriving DecidableEq, Repr

namespace Relation

def holds : Relation → Ordering → Bool
  | .less, o => o = .lt
  | .lessEqual, o => o ≠ .gt
  | .greater, o => o = .gt
  | .greaterEqual, o => o ≠ .lt

/-- Sets are ordered by inclusion. -/
def holdsOfSets (r : Relation) (a b : List Value) : Bool :=
  match r with
  | .less => a.length < b.length && a.all (memberOf b)
  | .lessEqual => a.length ≤ b.length && a.all (memberOf b)
  | .greater => b.length < a.length && b.all (memberOf a)
  | .greaterEqual => b.length ≤ a.length && b.all (memberOf a)

end Relation

/-- Lists are ordered by their first unequal items, then by length. -/
def orderedItems? (r : Relation) (equal? ordered? : Value → Value → Option Bool) :
    List Value → List Value → Option Bool
  | a :: as, b :: bs => do
      if ← equal? a b then orderedItems? r equal? ordered? as bs else ordered? a b
  | as, bs => some (r.holds (compare as.length bs.length))

/-- Whether two values stand in a relation, or `none` when they have no order or are nested too
deep. -/
def ordered? (r : Relation) : Nat → Value → Value → Option Bool
  | 0, _, _ => Option.none
  | depth + 1, a, b =>
      match a, b with
      | .bool a, .bool b => some (r.holds (compare a.toNat b.toNat))
      | .int a, .int b => some (r.holds (compare a b))
      | .float a, .float b => some (r.holds (compareFloats a b))
      | .int a, .float b => some (r.holds (compareIntFloat a b))
      | .float a, .int b => some (r.holds (compareIntFloat b a).swap)
      | .text a, .text b =>
          some (r.holds (if a = b then .eq else if a.precedes b then .lt else .gt))
      | .bytes a, .bytes b => some (r.holds (if a = b then .eq else if a < b then .lt else .gt))
      | .list a, .list b | .tuple a, .tuple b =>
          orderedItems? r (equal? depth) (ordered? r depth) a b
      | .set a, .set b => some (r.holdsOfSets a b)
      | _, _ => Option.none

end CallPlan.Starlark.Value
