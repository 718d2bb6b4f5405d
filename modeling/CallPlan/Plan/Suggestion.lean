import CallPlan.Text.Distance

/-!
The declared name that a misspelt key most likely means.
-/

namespace CallPlan.Suggestion

/-- How far a key may be from a name that does not contain it. -/
def maxDistance : Nat := 2

/-- The first name of least distance to the key. -/
def nearest (key : Text) : List Text → Option (Text × Nat)
  | [] => none
  | name :: rest =>
      let distance := Text.distance key name
      match nearest key rest with
      | some (other, least) => if least < distance then some (other, least) else some (name, distance)
      | none => some (name, distance)

/-- A name that contains the key as a subsequence goes before all others; of several the nearest is
meant. Without one, a name close to the key is meant. -/
def meant (key : Text) (names : List Text) : Option Text :=
  match nearest key (names.filter (Text.isFoldedSubsequence key)) with
  | some (name, _) => some name
  | none =>
      match nearest key names with
      | some (name, distance) => if distance ≤ maxDistance then some name else none
      | none => none

/-- The name that is suggested for a key. A name without characters cannot be suggested. -/
def closest (key : Text) (names : List Text) : Option Text :=
  (meant key names).filter (!·.isEmpty)

end CallPlan.Suggestion
