import CallPlan.Proofs.Data.Store

/-!
Assignments to places that hold something. One changes its own place and no other, and never what kind of
cell anything is in, so that every place that held something still does.
-/

namespace CallPlan

/-- The places of the items of a view. -/
def View.places (view : View) : List Place := (List.range view.length).map view.place

theorem View.mem_places {view : View} {place : Place} :
    place ∈ view.places ↔ ∃ index < view.length, place = view.place index := by
  simp only [places, List.mem_map, List.mem_range, eq_comm]

theorem View.place_inj {view : View} {i j : Nat} : view.place i = view.place j ↔ i = j := by
  simp [place]

namespace Store

variable {store before after : Store} {place other : Place} {value : Value} {view : View}

theorem cells_setCell (store : Store) (cell : Nat) (content : Cell) {index : Nat}
    (elsewhere : index ≠ cell) : (store.setCell cell content).cells[index]? = store.cells[index]? := by
  simp [setCell, elsewhere.symm]

theorem cells_setCell_self {cell : Nat} {old : Cell} (found : store.cells[cell]? = some old)
    (content : Cell) : (store.setCell cell content).cells[cell]? = some content := by
  have within := (Array.getElem?_eq_some_iff.mp found).1
  simp [setCell, within]

theorem cells_save (store : Store) (place : Place) (value : Value) {index : Nat}
    (elsewhere : index ≠ place.cell) : (store.save place value).cells[index]? = store.cells[index]? := by
  cases place <;> exact store.cells_setCell _ _ elsewhere

theorem size_save (store : Store) (place : Place) (value : Value) :
    (store.save place value).cells.size = store.cells.size := by
  cases place <;> simp [save, setCell]

theorem cell_of_load? (held : (store.load? place).isSome) :
    match place with
    | .variable cell => ∃ old, store.cells[cell]? = some (.variable old)
    | .item cell index => ∃ items, store.cells[cell]? = some (.list items) ∧ index < items.length := by
  cases place with
  | «variable» cell =>
      simp only [load?] at held ⊢
      split at held
      · next old found => exact ⟨old, found⟩
      · cases held
  | item cell index =>
      simp only [load?, listCell] at held ⊢
      split at held
      · next items found => exact ⟨items, found, by simpa using held⟩
      · simp at held

theorem load?_save (held : (store.load? place).isSome) (value : Value) (other : Place) :
    (store.save place value).load? other = if other = place then some value else store.load? other := by
  -- Places of different kinds never coincide, not even in one cell: it holds either a value or a list.
  have known := cell_of_load? held
  cases place with
  | «variable» cell =>
      obtain ⟨old, found⟩ := known
      cases other with
      | «variable» index =>
          by_cases same : index = cell
          · subst same
            simp [load?, save, cells_setCell_self found]
          · simp [load?, save, cells_setCell _ _ _ same, same]
      | item index position =>
          by_cases same : index = cell
          · subst same
            simp [load?, listCell, save, cells_setCell_self found, found]
          · simp [load?, listCell, save, cells_setCell _ _ _ same]
  | item cell index =>
      obtain ⟨items, found, bound⟩ := known
      cases other with
      | «variable» position =>
          by_cases same : position = cell
          · subst same
            simp [load?, save, cells_setCell_self found, found]
          · simp [load?, save, cells_setCell _ _ _ same]
      | item position offset =>
          by_cases same : position = cell
          · subst same
            by_cases here : offset = index
            · subst here
              simp [load?, listCell, save, cells_setCell_self found, found, bound]
            · simp [load?, listCell, save, cells_setCell_self found, found, here, Ne.symm here]
          · simp [load?, listCell, save, cells_setCell _ _ _ same, same]

theorem entries_save (held : (store.load? place).isSome) (value : Value) (cell : Nat) :
    (store.save place value).entries cell = store.entries cell := by
  by_cases same : cell = place.cell
  · have known := cell_of_load? held
    cases place with
    | «variable» index =>
        obtain ⟨old, found⟩ := known
        cases same
        simp [entries, save, Place.cell, cells_setCell_self found, found]
    | item index position =>
        obtain ⟨items, found, _⟩ := known
        cases same
        simp [entries, save, Place.cell, cells_setCell_self found, found]
  · simp only [entries, cells_save store place value same]

/-- The same places hold something, and maps are as they were. -/
structure Keeps (before after : Store) : Prop where
  held : ∀ place, (after.load? place).isSome = (before.load? place).isSome
  entries : ∀ cell, after.entries cell = before.entries cell
  size : after.cells.size = before.cells.size

theorem Keeps.refl (store : Store) : store.Keeps store := ⟨fun _ => rfl, fun _ => rfl, rfl⟩

theorem Keeps.trans {middle : Store} (first : before.Keeps middle) (second : middle.Keeps after) :
    before.Keeps after where
  held place := (second.held place).trans (first.held place)
  entries cell := (second.entries cell).trans (first.entries cell)
  size := second.size.trans first.size

theorem save_keeps (held : (store.load? place).isSome) (value : Value) :
    store.Keeps (store.save place value) where
  held other := by
    rw [load?_save held]
    split
    · next same => rw [same, held, Option.isSome_some]
    · rfl
  entries := entries_save held value
  size := store.size_save place value

theorem Keeps.length_listCell (keeps : before.Keeps after) (cell : Nat) :
    (after.listCell cell).length = (before.listCell cell).length := by
  have held : ∀ index, index < (after.listCell cell).length ↔ index < (before.listCell cell).length := by
    intro index
    have same := keeps.held (.item cell index)
    rw [load?, load?, Bool.eq_iff_iff] at same
    simpa using same
  have upper := held (before.listCell cell).length
  have lower := held (after.listCell cell).length
  omega

theorem Keeps.length_items (keeps : before.Keeps after) (view : View) :
    (after.items view).length = (before.items view).length := by
  simp [items, keeps.length_listCell]

theorem held_of_shown (shown : (store.items view).length = view.length) {index : Nat}
    (within : index < view.length) : (store.load? (view.place index)).isSome := by
  simp [load?_place within, shown, within]

/-- A stretch of a view from an index on, of which every place holds something. -/
def Held (store : Store) (view : View) (index count : Nat) : Prop :=
  ∀ k < count, (store.load? (view.place (index + k))).isSome

theorem Held.first {index count : Nat} (held : store.Held view index (count + 1)) :
    (store.load? (view.place index)).isSome := held 0 (Nat.succ_pos count)

theorem Held.rest {index count : Nat} (held : store.Held view index (count + 1)) (value : Value) :
    (store.save (view.place index) value).Held view (index + 1) count := by
  intro k bound
  have shifted : index + 1 + k = index + (k + 1) := by omega
  rw [(save_keeps held.first value).held, shifted]
  exact held (k + 1) (by omega)

theorem saveAll_keeps {index : Nat} {values : List Value} (held : store.Held view index values.length) :
    store.Keeps (store.saveAll view index values) := by
  induction values generalizing store index with
  | nil => exact .refl store
  | cons value rest ih => exact (save_keeps held.first value).trans (ih (held.rest value))

theorem load?_saveAll_other {index : Nat} {values : List Value}
    (held : store.Held view index values.length)
    (elsewhere : ∀ k < values.length, other ≠ view.place (index + k)) :
    (store.saveAll view index values).load? other = store.load? other := by
  induction values generalizing store index with
  | nil => rfl
  | cons value rest ih =>
      have later : ∀ k < rest.length, other ≠ view.place (index + 1 + k) := by
        intro k bound
        have shifted : index + 1 + k = index + (k + 1) := by omega
        rw [shifted]
        exact elsewhere (k + 1) (by simpa using bound)
      rw [saveAll, ih (held.rest value) later, load?_save held.first]
      exact if_neg (elsewhere 0 (by simp))

theorem load?_saveAll {index : Nat} {values : List Value} (held : store.Held view index values.length)
    {k : Nat} (bound : k < values.length) :
    (store.saveAll view index values).load? (view.place (index + k)) = values[k]? := by
  induction values generalizing store index k with
  | nil => simp at bound
  | cons value rest ih =>
      cases k with
      | zero =>
          have elsewhere : ∀ k < rest.length, view.place (index + 0) ≠ view.place (index + 1 + k) := by
            intro k _ same
            have equal := View.place_inj.mp same
            omega
          rw [saveAll, load?_saveAll_other (held.rest value) elsewhere, load?_save held.first]
          simp
      | succ k =>
          have shifted : index + (k + 1) = index + 1 + k := by omega
          rw [saveAll, shifted, ih (held.rest value) (by simpa using bound)]
          simp

theorem held_all {count : Nat} (shown : (store.items view).length = view.length)
    (short : count ≤ view.length) : store.Held view 0 count := by
  intro k bound
  rw [Nat.zero_add]
  exact held_of_shown shown (by omega)

theorem length_items_le (store : Store) (view : View) : (store.items view).length ≤ view.length := by
  rw [items, List.length_take]
  exact Nat.min_le_left ..

theorem items_congr (same : ∀ place ∈ view.places, after.load? place = before.load? place) :
    after.items view = before.items view := by
  apply List.ext_getElem?
  intro index
  by_cases within : index < view.length
  · rw [← load?_place within, ← load?_place within]
    exact same _ (View.mem_places.mpr ⟨index, within, rfl⟩)
  · have outside : ∀ store : Store, (store.items view)[index]? = none := fun store =>
      List.getElem?_eq_none (Nat.le_trans (store.length_items_le view) (Nat.not_lt.mp within))
    rw [outside, outside]

/-- A view that is assigned as a whole shows what it was assigned. -/
theorem items_saveAll {values : List Value} (shown : (store.items view).length = view.length)
    (same : values.length = view.length) : (store.saveAll view 0 values).items view = values := by
  have held := held_all shown (Nat.le_of_eq same)
  have length := ((saveAll_keeps held).length_items view).trans shown
  apply List.ext_getElem?
  intro index
  by_cases within : index < view.length
  · have read := load?_saveAll held (same ▸ within : index < values.length)
    rwa [Nat.zero_add, load?_place within] at read
  · rw [List.getElem?_eq_none (by omega), List.getElem?_eq_none (by omega)]

end Store
end CallPlan
