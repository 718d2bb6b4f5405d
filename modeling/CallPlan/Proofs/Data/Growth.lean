import CallPlan.Proofs.Data.Store

/-!
Which storage a computation can name. One that is given some cells and adds others puts into its new
cells only what it was given and what it added.
-/

namespace CallPlan

/-- A value that names no cell but those known. -/
def Value.Within (known : Nat → Prop) (value : Value) : Prop :=
  ∀ cell, value.cell? = some cell → known cell

theorem Value.Within.mono {known wider : Nat → Prop} {value : Value} (within : value.Within known)
    (wide : ∀ cell, known cell → wider cell) : value.Within wider :=
  fun cell named => wide cell (within cell named)

/-- A cell that names no cell but those known. -/
def Cell.Within (known : Nat → Prop) (content : Cell) : Prop :=
  ∀ value ∈ content.values, value.Within known

namespace Store

variable {known : Nat → Prop} {before middle after : Store}

/-- The known cells name none but known cells. -/
def Closed (store : Store) (known : Nat → Prop) : Prop :=
  ∀ cell content, known cell → store.cells[cell]? = some content → content.Within known

theorem Valid.closed (valid : before.Valid) : before.Closed fun cell => cell < before.cells.size :=
  fun cell content _ found value held _ named => (valid cell content found value held).lt_size named

/-- The known cells, and those that were added. -/
def Given (known : Nat → Prop) (before after : Store) (cell : Nat) : Prop :=
  known cell ∨ before.cells.size ≤ cell ∧ cell < after.cells.size

/-- Storage was added and none assigned; what was added names only known or added cells. -/
structure Grows (known : Nat → Prop) (before after : Store) : Prop where
  kept : before.Extends after
  new : ∀ cell content, before.cells.size ≤ cell → after.cells[cell]? = some content →
    content.Within (Given known before after)

theorem Given.finish {cell : Nat} (given : Given known before middle cell)
    (finish : middle.Extends after) : Given known before after cell :=
  given.imp_right fun added => ⟨added.1, Nat.lt_of_lt_of_le added.2 finish.size_le⟩

theorem Given.start {cell : Nat} (given : Given known middle after cell)
    (start : before.Extends middle) : Given known before after cell :=
  given.imp_right fun added => ⟨Nat.le_trans start.size_le added.1, added.2⟩

theorem Grows.refl (store : Store) : Grows known store store := by
  refine ⟨.refl store, fun cell content outside found => ?_⟩
  rw [Array.getElem?_eq_none outside] at found
  cases found

theorem Grows.trans (first : Grows known before middle) (second : Grows known middle after) :
    Grows known before after := by
  refine ⟨first.kept.trans second.kept, fun cell content added found value held => ?_⟩
  rcases Nat.lt_or_ge cell middle.cells.size with early | late
  · rw [second.kept.cell_eq early] at found
    exact (first.new cell content added found value held).mono fun _ given => given.finish second.kept
  · exact (second.new cell content late found value held).mono fun _ given => given.start first.kept

theorem Grows.alloc (store : Store) {content : Cell} (within : content.Within known) :
    Grows known store (store.alloc content).2 := by
  refine ⟨store.alloc_extends content, fun cell stored added found => ?_⟩
  rcases cell_of_alloc found with earlier | ⟨_, rfl⟩
  · rw [Array.getElem?_eq_none added] at earlier
    cases earlier
  · exact fun value held => (within value held).mono fun _ given => .inl given

theorem Grows.then_alloc (grown : Grows known before middle) {content : Cell}
    (within : content.Within (Given known before middle)) :
    Grows known before (middle.alloc content).2 := by
  have last := Grows.alloc middle within
  refine ⟨grown.kept.trans last.kept, fun cell found added stored value held => ?_⟩
  rcases Nat.lt_or_ge cell middle.cells.size with early | late
  · rw [last.kept.cell_eq early] at stored
    exact (grown.new cell found added stored value held).mono fun _ given => given.finish last.kept
  · refine (last.new cell found late stored value held).mono fun _ given => ?_
    rcases given with given | added
    · exact given.finish last.kept
    · exact .inr ⟨Nat.le_trans grown.kept.size_le added.1, added.2⟩

theorem given_alloc (kept : before.Extends middle) (content : Cell) :
    Given known before (middle.alloc content).2 middle.cells.size :=
  .inr ⟨kept.size_le, by simp⟩

/-- Built values name only cells that were built with them. -/
theorem writes_grow (known : Nat → Prop) :
    (∀ store datum, Grows known store (store.write datum).2 ∧
      (store.write datum).1.Within (Given known store (store.write datum).2)) ∧
    (∀ store entries, Grows known store (store.writeEntries entries).2 ∧
      ∀ entry ∈ (store.writeEntries entries).1,
        entry.2.Within (Given known store (store.writeEntries entries).2)) ∧
    (∀ store items, Grows known store (store.writeItems items).2 ∧
      ∀ value ∈ (store.writeItems items).1,
        value.Within (Given known store (store.writeItems items).2)) := by
  -- The induction is on a datum, its items and its entries at once. What is added for one item is known to
  -- the cell that is put around all of them, which is why each motive counts what was added as known.
  refine write.mutual_induct_unfolding
    (fun store _ result => Grows known store result.2 ∧
      result.1.Within (Given known store result.2))
    (fun store _ result => Grows known store result.2 ∧
      ∀ entry ∈ result.1, entry.2.Within (Given known store result.2))
    (fun store _ result => Grows known store result.2 ∧
      ∀ value ∈ result.1, value.Within (Given known store result.2))
    ?list ?dict ?pointer ?plain ?noItem ?item ?noEntry ?entry
  case list =>
    intro store element items values middle written ih
    rw [written] at ih
    refine ⟨ih.1.then_alloc ih.2, fun cell named => ?_⟩
    cases named
    exact given_alloc ih.1.kept _
  case dict =>
    intro store element entries values middle written ih
    rw [written] at ih
    refine ⟨ih.1.then_alloc fun value held => ?_, fun cell named => ?_⟩
    · obtain ⟨entry, member, rfl⟩ := List.mem_map.mp held
      exact ih.2 entry member
    · cases named
      exact given_alloc ih.1.kept _
  case pointer =>
    intro store type target value middle written ih
    rw [written] at ih
    refine ⟨ih.1.then_alloc fun held member => ?_, fun cell named => ?_⟩
    · rw [List.mem_singleton.mp member]
      exact ih.2
    · cases named
      exact given_alloc ih.1.kept _
  case plain =>
    intro store datum _ _ _
    refine ⟨.refl store, fun cell named => ?_⟩
    cases named
  case noItem =>
    intro store
    exact ⟨.refl store, by simp⟩
  case item =>
    intro store item rest value middle written values after others first second
    rw [written] at first
    rw [others] at second
    refine ⟨first.1.trans second.1, ?_⟩
    intro held member
    rcases List.mem_cons.mp member with rfl | later
    · exact first.2.mono fun _ given => given.finish second.1.kept
    · exact (second.2 held later).mono fun _ given => given.start first.1.kept
  case noEntry =>
    intro store
    exact ⟨.refl store, by simp⟩
  case entry =>
    intro store key item rest value middle written values after others first second
    rw [written] at first
    rw [others] at second
    refine ⟨first.1.trans second.1, ?_⟩
    intro entry member
    rcases List.mem_cons.mp member with rfl | later
    · exact first.2.mono fun _ given => given.finish second.1.kept
    · exact (second.2 entry later).mono fun _ given => given.start first.1.kept

theorem write_grows (known : Nat → Prop) (store : Store) (datum : Datum) :
    Grows known store (store.write datum).2 ∧
      (store.write datum).1.Within (Given known store (store.write datum).2) :=
  (writes_grow known).1 store datum

theorem writeEntries_grows (known : Nat → Prop) (store : Store) (entries : Entries Datum) :
    Grows known store (store.writeEntries entries).2 ∧ ∀ entry ∈ (store.writeEntries entries).1,
      entry.2.Within (Given known store (store.writeEntries entries).2) :=
  (writes_grow known).2.1 store entries

end Store
end CallPlan
