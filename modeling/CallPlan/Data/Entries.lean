import CallPlan.Text.Glyph

/-!
Finite maps from texts, as lists of entries with distinct keys in the order they were first put.
-/

namespace CallPlan

abbrev Entries (α : Type) := List (Text × α)

namespace Entries

variable {α β : Type}

def get? (entries : Entries α) (key : Text) : Option α := entries.lookup key

def has (entries : Entries α) (key : Text) : Bool := (entries.get? key).isSome

def keys (entries : Entries α) : List Text := entries.map (·.1)

/-- Replaces the value of a key in place, or adds the key at the end. -/
def put (key : Text) (value : α) : Entries α → Entries α
  | [] => [(key, value)]
  | (k, v) :: rest => if k = key then (k, value) :: rest else (k, v) :: put key value rest

/-- Puts every entry of `others`, the later ones winning. -/
def merge (entries others : Entries α) : Entries α :=
  others.foldl (fun merged (key, value) => merged.put key value) entries

def ofList (entries : List (Text × α)) : Entries α := merge [] entries

/-- Inserts an entry by the order of keys, before an equal one. -/
def insertByKey (entry : Text × α) : Entries α → Entries α
  | [] => [entry]
  | head :: rest =>
      if head.1.precedes entry.1 then head :: insertByKey entry rest else entry :: head :: rest

/-- The entries in byte order of their keys. -/
def sorted (entries : Entries α) : Entries α := entries.foldr insertByKey []

end Entries
end CallPlan
