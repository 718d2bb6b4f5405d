import CallPlan.Condition
import CallPlan.Data.Store
import CallPlan.Signature.Param

/-!
What arguments must look like: key/value pairs behind named parameters and slurpy hashes, and
pointers behind reference parameters.
-/

namespace CallPlan.Arguments

/-- Why a list is not one of key/value pairs. -/
inductive PairFault where
  | oddLength (length : Nat)
  | keyNotText (position : Nat) (type : Option HostType)
deriving DecidableEq, Repr

def PairFault.message : PairFault → Text
  | .oddLength length =>
      "odd number of elements in key/value list (" ++ Text.ofNat length ++ ")"
  | .keyNotText position type =>
      "key at position " ++ Text.ofNat position ++ " is " ++ HostType.nameOf type ++ ", not a string"

/-- The offset of each key, counted from `position`. Of two equal keys the later one counts. -/
def offsetsFrom (position : Nat) : List Value → Except PairFault (Entries Nat)
  | key :: _ :: rest =>
      match key.text? with
      | none => .error (.keyNotText position key.type?)
      | some k => do
          let later ← offsetsFrom (position + 2) rest
          return if later.has k then later else (k, position) :: later
  | _ => .ok []

/-- Reads a key/value list: the offset of each key. -/
def pairs (tail : List Value) : Except PairFault (Entries Nat) :=
  if tail.length % 2 ≠ 0 then .error (.oddLength tail.length) else offsetsFrom 0 tail

/-- Why a value cannot stand behind a reference parameter. -/
inductive RefFault where
  | noPointer (type : Option HostType)
  | noList (type : Option HostType)
  | noDict (type : Option HostType)
deriving DecidableEq, Repr

def RefFault.message : RefFault → Text
  | .noPointer type => "expected a non-nil pointer, got " ++ HostType.nameOf type
  | .noList type => "expected a pointer to a slice, got " ++ HostType.nameOf type
  | .noDict type => "expected a pointer to a map, got " ++ HostType.nameOf type

/-- Checks that a value is a pointer to what the sigil asks for. -/
def checkRef (sigil : Sigil) (value : Value) : Except RefFault Unit :=
  match value with
  | .pointer type _ =>
      match sigil, type with
      | .scalar, _ => .ok ()
      | .array, .list _ | .array, .pair => .ok ()
      | .array, _ => .error (.noList value.type?)
      | .hash, .dict _ => .ok ()
      | .hash, _ => .error (.noDict value.type?)
  | _ => .error (.noPointer value.type?)

end CallPlan.Arguments
