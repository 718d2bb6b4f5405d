import CallPlan.Proofs.Data.Growth

/-!
Storage with hidden cells, which no cell names. New cells may be hidden when they are made; what is built
from cells that are shown leads to no other.
-/

namespace CallPlan

namespace Store

variable {store after : Store} {hidden : Nat → Prop} {cell : Nat}

/-- The cells of a store that are not hidden. -/
def Shown (store : Store) (hidden : Nat → Prop) (cell : Nat) : Prop :=
  cell < store.cells.size ∧ ¬ hidden cell

/-- Hidden cells are there, and no cell names them, or any that is not there. -/
structure Sealed (store : Store) (hidden : Nat → Prop) : Prop where
  there : ∀ cell, hidden cell → cell < store.cells.size
  cells : ∀ (cell : Nat) (content : Cell), store.cells[cell]? = some content →
    content.Within (store.Shown hidden)

theorem Shown.later (shown : store.Shown hidden cell)
    (grown : store.cells.size ≤ after.cells.size) : after.Shown hidden cell :=
  ⟨Nat.lt_of_lt_of_le shown.1 grown, shown.2⟩

theorem Shown.hide {more : Nat → Prop} (shown : store.Shown hidden cell)
    (grown : store.cells.size ≤ after.cells.size)
    (late : ∀ other, more other → store.cells.size ≤ other) :
    after.Shown (fun other => hidden other ∨ more other) cell := by
  refine ⟨Nat.lt_of_lt_of_le shown.1 grown, ?_⟩
  rintro (unseen | added)
  · exact shown.2 unseen
  · exact Nat.lt_irrefl _ (Nat.lt_of_lt_of_le shown.1 (late cell added))

namespace Sealed

theorem closed (shut : store.Sealed hidden) : store.Closed (store.Shown hidden) :=
  fun cell content _ found => shut.cells cell content found

theorem fresh (shut : store.Sealed hidden) (late : store.cells.size ≤ cell) : ¬ hidden cell :=
  fun unseen => Nat.lt_irrefl _ (Nat.lt_of_lt_of_le (shut.there cell unseen) late)

theorem given (shut : store.Sealed hidden) (kept : store.Extends after)
    (known : Given (store.Shown hidden) store after cell) : after.Shown hidden cell := by
  rcases known with shown | ⟨late, there⟩
  · exact shown.later kept.size_le
  · exact ⟨there, shut.fresh late⟩

theorem grow (shut : store.Sealed hidden) (grows : Grows (store.Shown hidden) store after) :
    after.Sealed hidden := by
  refine ⟨fun cell unseen => Nat.lt_of_lt_of_le (shut.there cell unseen) grows.kept.size_le, ?_⟩
  intro cell content found value held
  rcases Nat.lt_or_ge cell store.cells.size with early | late
  · rw [grows.kept.cell_eq early] at found
    exact (shut.cells cell content found value held).mono fun _ shown =>
      shown.later grows.kept.size_le
  · exact (grows.new cell content late found value held).mono fun _ known =>
      shut.given grows.kept known

theorem alloc (shut : store.Sealed hidden) {content : Cell}
    (within : content.Within (store.Shown hidden)) : (store.alloc content).2.Sealed hidden :=
  shut.grow (.alloc store within)

theorem alloc_hidden (shut : store.Sealed hidden) {content : Cell} {more : Nat → Prop}
    (within : content.Within (store.Shown hidden)) (new : ∀ other, more other → other = store.cells.size) :
    (store.alloc content).2.Sealed fun other => hidden other ∨ more other := by
  have size := store.alloc_size content
  have grown : store.cells.size ≤ (store.alloc content).2.cells.size := by omega
  have late : ∀ other, more other → store.cells.size ≤ other := fun other added =>
    Nat.le_of_eq (new other added).symm
  refine ⟨?_, ?_⟩
  · rintro other (unseen | added)
    · exact Nat.lt_of_lt_of_le (shut.there other unseen) grown
    · rw [new other added]
      omega
  · intro other stored found value held
    rcases cell_of_alloc found with earlier | ⟨_, rfl⟩
    · exact (shut.cells other stored earlier value held).mono fun _ shown => shown.hide grown late
    · exact (within value held).mono fun _ shown => shown.hide grown late

theorem of_mem_items (shut : store.Sealed hidden) {view : View} {value : Value}
    (member : value ∈ store.items view) : value.Within (store.Shown hidden) := by
  obtain ⟨content, found, held⟩ := mem_listCell (mem_items member)
  exact shut.cells _ content found value held

theorem of_mem_entries (shut : store.Sealed hidden) {entry : Text × Value}
    (member : entry ∈ store.entries cell) : entry.2.Within (store.Shown hidden) := by
  obtain ⟨content, found, held⟩ := mem_entries member
  exact shut.cells _ content found entry.2 held

theorem of_load? (shut : store.Sealed hidden) {place : Place} {value : Value}
    (loaded : store.load? place = some value) : value.Within (store.Shown hidden) := by
  obtain ⟨content, found, held⟩ := mem_of_load? loaded
  exact shut.cells _ content found value held

theorem clone (shut : store.Sealed hidden) {value : Value}
    (within : value.collection? = none → value.Within (store.Shown hidden)) :
    (store.clone value).2.Sealed hidden ∧ store.Extends (store.clone value).2 ∧
      (store.clone value).1.Within ((store.clone value).2.Shown hidden) := by
  have kept := store.clone_extends value
  cases value with
  | list view =>
      refine ⟨shut.alloc fun value member => shut.of_mem_items member, kept, fun cell named => ?_⟩
      cases named
      exact ⟨by simp [Store.clone, newList, Store.alloc], shut.fresh (Nat.le_refl _)⟩
  | dict cell =>
      refine ⟨shut.alloc fun value member => ?_, kept, fun cell named => ?_⟩
      · obtain ⟨entry, listed, rfl⟩ := List.mem_map.mp member
        exact shut.of_mem_entries listed
      · cases named
        exact ⟨by simp [Store.clone, newDict, Store.alloc], shut.fresh (Nat.le_refl _)⟩
  | plain datum => exact ⟨shut, kept, within rfl⟩
  | pointer type place => exact ⟨shut, kept, within rfl⟩

end Sealed
end Store

end CallPlan
