import CallPlan.Proofs.Data.Renaming
import CallPlan.Proofs.Data.Use

/-!
Storage that comes after other storage. A call receives its arguments in cells of their own, after all
that were there, and these lead to nothing before them. A store that has grown since holds the same, under
other numbers, once it has received the same arguments.
-/

namespace CallPlan

/-- A value that is not itself a collection in the cells before the limit. -/
def Value.Beyond (limit : Nat) (value : Value) : Prop :=
  ∀ cell, value.collection? = some cell → limit ≤ cell

theorem Value.NewIn.beyond {before after : Store} {value : Value} {limit : Nat}
    (fresh : value.NewIn before after) (enough : limit ≤ before.cells.size) : value.Beyond limit :=
  fun cell named => Nat.le_trans enough (fresh cell named).1

namespace Store

variable {before after store : Store} {limit cell other : Nat} {values : List Value}

/-- A cell after the limit that holds no collection of the cells before it. -/
structure Clear (store : Store) (limit cell : Nat) : Prop where
  late : limit ≤ cell
  there : cell < store.cells.size
  beyond : ∀ content, store.cells[cell]? = some content → ∀ value ∈ content.values, value.Beyond limit

theorem Clear.extend (clear : before.Clear limit cell) (kept : before.Extends after) :
    after.Clear limit cell := by
  refine ⟨clear.late, Nat.lt_of_lt_of_le clear.there kept.size_le, fun content found => ?_⟩
  rw [kept.cell_eq clear.there] at found
  exact clear.beyond content found

theorem Clear.assign (clear : store.Clear limit cell) (assigns : store.Assigns other values after)
    (beyond : ∀ value ∈ values, value.Beyond limit) : after.Clear limit cell := by
  refine ⟨clear.late, assigns.size ▸ clear.there, fun content found value held => ?_⟩
  by_cases same : cell = other
  · subst same
    rcases assigns.own content found value held with given | ⟨old, known, kept⟩
    · exact beyond value given
    · exact clear.beyond old known value kept
  · rw [assigns.others cell same] at found
    exact clear.beyond content found value held

theorem Extends.assign {base : Store} (kept : base.Extends store) (assigns : store.Assigns cell values after)
    (late : base.cells.size ≤ cell) : base.Extends after := by
  intro index content found
  have early := (Array.getElem?_eq_some_iff.mp found).1
  rw [assigns.others index (by omega)]
  exact kept index content found

end Store

/-- Arguments in storage of their own, whose cells are numbered from zero. -/
structure Passing where
  storage : Store
  args : View
  closed : storage.Closed fun cell => cell < storage.cells.size
  placed : args.cell < storage.cells.size

namespace Passing

/-- The argument list once it has been received in a store. -/
def within (passing : Passing) (store : Store) : View := passing.args.rename (store.cells.size + ·)

/-- A list of values that hold no storage. -/
def plain (items : List Datum) : Passing where
  storage := { cells := #[.list (items.map .plain)] }
  args := { cell := 0, start := 0, length := items.length }
  closed := by
    intro cell content there found value held named naming
    have first : cell = 0 := by simpa using there
    subst first
    cases found
    obtain ⟨datum, _, rfl⟩ := List.mem_map.mp held
    cases naming
  placed := Nat.zero_lt_one

end Passing

namespace Store

variable {base store : Store} {passing : Passing} {limit : Nat}

/-- A store that has received arguments: their storage comes after its own. -/
def receive (store : Store) (passing : Passing) : Store where
  cells := (store.cells.toList ++
    passing.storage.cells.toList.map (Cell.rename (store.cells.size + ·))).toArray

theorem size_receive (store : Store) (passing : Passing) :
    (store.receive passing).cells.size = store.cells.size + passing.storage.cells.size := by
  simp [receive]

theorem receive_extends (store : Store) (passing : Passing) : store.Extends (store.receive passing) := by
  intro cell content found
  have there := (Array.getElem?_eq_some_iff.mp found).1
  rw [receive, List.getElem?_toArray, List.getElem?_append_left (by simpa using there),
    Array.getElem?_toList, found]

theorem cells_receive (store : Store) (passing : Passing) (cell : Nat) :
    (store.receive passing).cells[store.cells.size + cell]? =
      passing.storage.cells[cell]?.map (Cell.rename (store.cells.size + ·)) := by
  rw [receive, List.getElem?_toArray, List.getElem?_append_right (by simp), Array.length_toList,
    Nat.add_sub_cancel_left, List.getElem?_map, Array.getElem?_toList]

/-- What has been received leads to nothing that was there before. -/
theorem receive_clear (passing : Passing) (enough : limit ≤ store.cells.size) {cell : Nat}
    (there : cell < passing.storage.cells.size) :
    (store.receive passing).Clear limit (store.cells.size + cell) := by
  refine ⟨by omega, by rw [size_receive]; omega, fun content found value held named naming => ?_⟩
  rw [cells_receive] at found
  obtain ⟨original, _, rfl⟩ := Option.map_eq_some_iff.mp found
  rw [Cell.values_rename] at held
  obtain ⟨origin, _, rfl⟩ := List.mem_map.mp held
  cases origin with
  | list view =>
      cases naming
      exact Nat.le_trans enough (Nat.le_add_right ..)
  | dict cell =>
      cases naming
      exact Nat.le_trans enough (Nat.le_add_right ..)
  | plain datum => cases naming
  | pointer type place => cases naming

theorem passed_clear (passing : Passing) (enough : limit ≤ store.cells.size) {value : Value}
    (passed : value ∈ (store.receive passing).listCell (passing.within store).cell) {cell : Nat}
    (named : value.cell? = some cell) : (store.receive passing).Clear limit cell := by
  obtain ⟨content, found, held⟩ := mem_listCell passed
  simp only [Passing.within, View.rename, cells_receive] at found
  obtain ⟨original, stored, rfl⟩ := Option.map_eq_some_iff.mp found
  rw [Cell.values_rename] at held
  obtain ⟨origin, member, rfl⟩ := List.mem_map.mp held
  rw [Value.cell?_rename] at named
  obtain ⟨inner, own, rfl⟩ := Option.map_eq_some_iff.mp named
  exact receive_clear passing enough (passing.closed _ original passing.placed stored origin member inner own)

/-- The numbers of cells before the limit stay, and later ones move up. -/
def moveUp (limit extra cell : Nat) : Nat := if cell < limit then cell else cell + extra

theorem moveUp_early {extra cell : Nat} (early : cell < limit) : moveUp limit extra cell = cell := by
  simp only [moveUp, early, if_true]

theorem moveUp_late (grown : base.cells.size ≤ store.cells.size) (cell : Nat) :
    moveUp base.cells.size (store.cells.size - base.cells.size) (base.cells.size + cell) =
      store.cells.size + cell := by
  simp only [moveUp]
  split <;> omega

theorem moveUp_injective {extra first second : Nat}
    (same : moveUp limit extra first = moveUp limit extra second) : first = second := by
  simp only [moveUp] at same
  split at same <;> split at same <;> omega

/-- The cells of a closed store name only each other, so they stay as they are. -/
theorem moveUp_cell (closed : base.Closed fun cell => cell < base.cells.size) {cell extra : Nat}
    (early : cell < base.cells.size) :
    base.cells[cell]?.map (Cell.rename (moveUp base.cells.size extra)) = base.cells[cell]? := by
  cases found : base.cells[cell]? with
  | none => rfl
  | some content =>
      refine congrArg some (Cell.rename_of_fixed fun value held => ?_)
      exact Value.rename_of_fixed fun own named =>
        moveUp_early (closed cell content early found value held own named)

/-- A closed store and one that extends it hold the same, as far as the closed one goes. -/
theorem extends_renames (closed : base.Closed fun cell => cell < base.cells.size)
    (kept : base.Extends store) :
    base.Renames (moveUp base.cells.size (store.cells.size - base.cells.size)) store := by
  have moved := moveUp_late kept.size_le
  refine ⟨fun _ _ => moveUp_injective, moved, fun cell => ?_⟩
  rcases Nat.lt_or_ge cell base.cells.size with early | late
  · rw [moveUp_early early, kept.cell_eq early, moveUp_cell closed early]
  · obtain ⟨inner, rfl⟩ := Nat.exists_eq_add_of_le late
    rw [moved, Array.getElem?_eq_none (Nat.le_add_right ..), Array.getElem?_eq_none (Nat.le_add_right ..)]
    rfl

/-- A closed store and one that extends it hold the same once they have received the same arguments. -/
theorem receive_renames (closed : base.Closed fun cell => cell < base.cells.size)
    (kept : base.Extends store) (passing : Passing) :
    (base.receive passing).Renames (moveUp base.cells.size (store.cells.size - base.cells.size))
      (store.receive passing) := by
  have moved := moveUp_late kept.size_le
  refine ⟨fun _ _ => moveUp_injective, ?_, ?_⟩
  · intro count
    rw [size_receive, size_receive, Nat.add_assoc, Nat.add_assoc]
    exact moved _
  · intro cell
    -- Cells of the base stay as they are; later ones are the arguments'.
    rcases Nat.lt_or_ge cell base.cells.size with early | late
    · rw [moveUp_early early, (kept.trans (store.receive_extends passing)).cell_eq early,
        (base.receive_extends passing).cell_eq early, moveUp_cell closed early]
    · obtain ⟨inner, rfl⟩ := Nat.exists_eq_add_of_le late
      rw [moved, cells_receive, cells_receive, Option.map_map]
      congr 1
      funext content
      simp only [Function.comp_apply, Cell.rename_rename]
      congr 1
      funext own
      exact (moved own).symm

end Store

end CallPlan
