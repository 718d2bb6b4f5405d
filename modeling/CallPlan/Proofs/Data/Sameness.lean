import CallPlan.Data.Datum
import CallPlan.Proofs.Data.Entries

/-!
Values that are the same but for the order in which the entries of their maps are listed. Every value is the
same as the one whose entries are in the order of their keys.
-/

namespace CallPlan.Datum

mutual

/-- A value with the entries of all its maps in the order of their keys. -/
def ordered : Datum → Datum
  | .list element items => .list element (orderedItems items)
  | .dict element entries => .dict element (Entries.sorted (orderedEntries entries))
  | datum => datum

def orderedItems : List Datum → List Datum
  | [] => []
  | item :: rest => item.ordered :: orderedItems rest

def orderedEntries : List (Text × Datum) → List (Text × Datum)
  | [] => []
  | (key, item) :: rest => (key, item.ordered) :: orderedEntries rest

end

mutual

/-- The same value: maps hold the same under the same keys, in whatever order their entries are listed. -/
inductive Same : Datum → Datum → Prop
  | refl (datum : Datum) : Same datum datum
  | list {element : HostType} {items others : List Datum} (each : SameItems items others) :
      Same (.list element items) (.list element others)
  | dict {element : HostType} {entries middle others : List (Text × Datum)}
      (each : SameEntries entries middle) (order : middle.Perm others) :
      Same (.dict element entries) (.dict element others)

inductive SameItems : List Datum → List Datum → Prop
  | nil : SameItems [] []
  | cons {item other : Datum} {rest others : List Datum} (first : Same item other)
      (later : SameItems rest others) : SameItems (item :: rest) (other :: others)

inductive SameEntries : List (Text × Datum) → List (Text × Datum) → Prop
  | nil : SameEntries [] []
  | cons {key : Text} {item other : Datum} {rest others : List (Text × Datum)} (first : Same item other)
      (later : SameEntries rest others) : SameEntries ((key, item) :: rest) ((key, other) :: others)

end

/-- Bringing entries into order does not change a value. -/
theorem same_ordered (datum : Datum) : datum.Same datum.ordered := by
  refine ordered.induct_unfolding (fun datum result => datum.Same result)
    (fun entries result => SameEntries entries result) (fun items result => SameItems items result)
    ?list ?dict ?other ?noItem ?item ?noEntry ?entry datum
  case list => exact fun element items each => .list each
  case dict => exact fun element entries each => .dict each (Entries.sorted_perm _).symm
  case other => exact fun datum _ _ => .refl datum
  case noItem => exact .nil
  case item => exact fun item rest first later => .cons first later
  case noEntry => exact .nil
  case entry => exact fun key item rest first later => .cons first later

theorem keys_orderedEntries (entries : List (Text × Datum)) :
    Entries.keys (orderedEntries entries) = Entries.keys entries := by
  induction entries with
  | nil => rfl
  | cons entry rest ih => exact congrArg (entry.1 :: ·) ih

end CallPlan.Datum
