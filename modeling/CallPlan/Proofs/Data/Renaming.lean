import CallPlan.Proofs.Data.Entries
import CallPlan.Proofs.Data.Store

/-!
Storage under other numbers. A store that holds what another holds, with its cells numbered differently
and perhaps among cells that nothing here names, shows the same values; and whatever is added to both
corresponds again.
-/

namespace CallPlan

def View.rename (ρ : Nat → Nat) (view : View) : View := { view with cell := ρ view.cell }

def Place.rename (ρ : Nat → Nat) : Place → Place
  | .variable cell => .variable (ρ cell)
  | .item cell index => .item (ρ cell) index

/-- The value that names, for each cell, the cell with its other number. -/
def Value.rename (ρ : Nat → Nat) : Value → Value
  | .plain datum => .plain datum
  | .list view element => .list (view.rename ρ) element
  | .dict cell element => .dict (ρ cell) element
  | .pointer type place => .pointer type (place.rename ρ)

def Cell.rename (ρ : Nat → Nat) : Cell → Cell
  | .list items => .list (items.map (Value.rename ρ))
  | .dict entries => .dict (entries.mapValues (Value.rename ρ))
  | .variable value => .variable (value.rename ρ)

namespace Value

variable {ρ σ : Nat → Nat}

@[simp] theorem text?_rename (value : Value) : (value.rename ρ).text? = value.text? := by
  cases value <;> rfl

@[simp] theorem type?_rename (value : Value) : (value.rename ρ).type? = value.type? := by
  cases value <;> rfl

@[simp] theorem rename_list (view : View) (element : HostType) :
    (list view element).rename ρ = list (view.rename ρ) element := rfl

@[simp] theorem rename_dict (cell : Nat) (element : HostType) :
    (dict cell element).rename ρ = dict (ρ cell) element := rfl

@[simp] theorem rename_pointer (type : HostType) (place : Place) :
    (pointer type place).rename ρ = pointer type (place.rename ρ) := rfl

theorem cell?_rename (value : Value) : (value.rename ρ).cell? = value.cell?.map ρ := by
  cases value with
  | pointer type place => cases place <;> rfl
  | _ => rfl

theorem rename_of_fixed {value : Value} (fixed : ∀ cell, value.cell? = some cell → ρ cell = cell) :
    value.rename ρ = value := by
  cases value with
  | plain datum => rfl
  | list view element => rw [rename_list, View.rename, fixed view.cell rfl]
  | dict cell element => rw [rename_dict, fixed cell rfl]
  | pointer type place =>
      have named := fixed place.cell rfl
      cases place with
      | «variable» cell => exact congrArg (fun cell => pointer type (.variable cell)) named
      | item cell index => exact congrArg (fun cell => pointer type (.item cell index)) named

theorem rename_rename (value : Value) : (value.rename σ).rename ρ = value.rename (ρ ∘ σ) := by
  cases value with
  | pointer type place => cases place <;> rfl
  | _ => rfl

end Value

namespace Cell

variable {ρ σ : Nat → Nat}

theorem values_rename (content : Cell) :
    (content.rename ρ).values = content.values.map (Value.rename ρ) := by
  cases content with
  | dict entries => simp [rename, values, Entries.mapValues]
  | _ => simp [rename, values]

theorem rename_of_fixed {content : Cell} (fixed : ∀ value ∈ content.values, value.rename ρ = value) :
    content.rename ρ = content := by
  cases content with
  | list items =>
      have same : items.map (Value.rename ρ) = items.map id := List.map_congr_left fixed
      rw [rename, same, List.map_id]
  | dict entries =>
      have same : entries.mapValues (Value.rename ρ) = entries.map id := by
        refine List.map_congr_left fun entry member => ?_
        rw [fixed entry.2 (List.mem_map.mpr ⟨entry, member, rfl⟩)]
        rfl
      rw [rename, same, List.map_id]
  | «variable» value => rw [rename, fixed value (List.mem_singleton.mpr rfl)]

theorem rename_rename (content : Cell) : (content.rename σ).rename ρ = content.rename (ρ ∘ σ) := by
  cases content with
  | list items => simp [rename, Value.rename_rename]
  | dict entries => simp [rename, Entries.mapValues, Value.rename_rename]
  | «variable» value => simp [rename, Value.rename_rename]

end Cell

namespace Store

variable {ρ : Nat → Nat} {store other : Store}

/-- The other store holds what the store holds, under other numbers. The next cells to be added to the
two will correspond. -/
structure Renames (ρ : Nat → Nat) (store other : Store) : Prop where
  injective : ∀ first second, ρ first = ρ second → first = second
  fresh : ∀ count, ρ (store.cells.size + count) = other.cells.size + count
  cells : ∀ cell : Nat, other.cells[ρ cell]? = store.cells[cell]?.map (Cell.rename ρ)

/-- A value and its storage correspond to another value in the other storage. -/
structure Corresponds (ρ : Nat → Nat) (result other : Value × Store) : Prop where
  value : other.1 = result.1.rename ρ
  store : result.2.Renames ρ other.2

namespace Renames

theorem fresh_size (renames : store.Renames ρ other) : ρ store.cells.size = other.cells.size :=
  renames.fresh 0

theorem listCell (renames : store.Renames ρ other) (cell : Nat) :
    other.listCell (ρ cell) = (store.listCell cell).map (Value.rename ρ) := by
  simp only [Store.listCell, renames.cells]
  cases store.cells[cell]? with
  | none => rfl
  | some content => cases content <;> rfl

theorem items (renames : store.Renames ρ other) (view : View) :
    other.items (view.rename ρ) = (store.items view).map (Value.rename ρ) := by
  simp only [Store.items, View.rename, renames.listCell, List.map_take, List.map_drop]

theorem entries (renames : store.Renames ρ other) (cell : Nat) :
    other.entries (ρ cell) = (store.entries cell).mapValues (Value.rename ρ) := by
  simp only [Store.entries, renames.cells]
  cases store.cells[cell]? with
  | none => rfl
  | some content => cases content <;> rfl

theorem load? (renames : store.Renames ρ other) (place : Place) :
    other.load? (place.rename ρ) = (store.load? place).map (Value.rename ρ) := by
  cases place with
  | «variable» cell =>
      simp only [Store.load?, Place.rename, renames.cells]
      cases store.cells[cell]? with
      | none => rfl
      | some content => cases content <;> rfl
  | item cell index => simp only [Store.load?, Place.rename, renames.listCell, List.getElem?_map]

theorem alloc (renames : store.Renames ρ other) (content : Cell) :
    (store.alloc content).2.Renames ρ (other.alloc (content.rename ρ)).2 := by
  refine ⟨renames.injective, ?_, ?_⟩
  · intro count
    rw [alloc_size, alloc_size, Nat.add_assoc, Nat.add_assoc]
    exact renames.fresh (1 + count)
  · intro cell
    simp only [Store.alloc, Array.getElem?_push]
    by_cases last : cell = store.cells.size
    · simp only [last, renames.fresh_size, if_true, Option.map_some]
    · have elsewhere : ρ cell ≠ other.cells.size := fun same =>
        last (renames.injective _ _ (same.trans renames.fresh_size.symm))
      simp only [last, elsewhere, if_false, renames.cells]

theorem newList (renames : store.Renames ρ other) (items : List Value) (element : HostType) :
    Corresponds ρ (store.newList items element)
      (other.newList (items.map (Value.rename ρ)) element) where
  value := by
    simp only [Store.newList, Store.alloc, Value.rename_list, View.rename, renames.fresh_size,
      List.length_map]
  store := renames.alloc (.list items)

theorem newDict (renames : store.Renames ρ other) (entries : Entries Value) (element : HostType) :
    Corresponds ρ (store.newDict entries element)
      (other.newDict (entries.mapValues (Value.rename ρ)) element) where
  value := by simp only [Store.newDict, Store.alloc, Value.rename_dict, renames.fresh_size]
  store := renames.alloc (.dict entries)

theorem clone (renames : store.Renames ρ other) (value : Value) :
    Corresponds ρ (store.clone value) (other.clone (value.rename ρ)) := by
  cases value with
  | list view element =>
      simp only [Store.clone, Value.rename_list, renames.items]
      exact renames.newList _ element
  | dict cell element =>
      simp only [Store.clone, Value.rename_dict, renames.entries]
      exact renames.newDict _ element
  | plain datum => exact ⟨rfl, renames⟩
  | pointer type place => exact ⟨rfl, renames⟩

/-- What is read of a value does not show the numbers of cells. -/
theorem readTo (renames : store.Renames ρ other) (depth : Nat) (value : Value) :
    other.readTo depth (value.rename ρ) = store.readTo depth value := by
  induction depth generalizing value with
  | zero => cases value <;> rfl
  | succ depth ih =>
      cases value with
      | plain datum => rfl
      | list view element =>
          simp only [Value.rename_list, Store.readTo, renames.items, List.map_map, Function.comp_def, ih]
      | dict cell element =>
          simp only [Value.rename_dict, Store.readTo, renames.entries, Entries.mapValues, List.map_map,
            Function.comp_def, ih]
      | pointer type place =>
          simp only [Value.rename_pointer, Store.readTo, renames.load?]
          cases store.load? place with
          | none => rfl
          | some target => simp only [Option.map_some, ih]

end Renames
end Store
end CallPlan
