import CallPlan.Data.Store

/-!
How storage grows and changes. A store that extends another keeps all of its cells; a write through a
place that holds a value changes that place and no other. The surface of a value is what it shows one
level deep.
-/

namespace CallPlan

/-- What a value shows at its top level. -/
inductive Surface where
  | value (value : Value)
  | list (items : List Value) (element : HostType)
  | dict (entries : Entries Value) (element : HostType)

/-- The cell that a place is in. -/
def Place.cell : Place → Nat
  | .variable cell => cell
  | .item cell _ => cell

/-- The cell that a value names, if it names one. -/
def Value.cell? : Value → Option Nat
  | .plain _ => none
  | .list view _ => some view.cell
  | .dict cell _ => some cell
  | .pointer _ place => some place.cell

theorem Value.fits_iff {value : Value} {type : HostType} :
    value.fits type = true ↔ type = .any ∨ value.type? = some type := by
  simp [fits]

/-- The cell of a collection, whose elements can be assigned. -/
def Value.collection? : Value → Option Nat
  | .list view _ => some view.cell
  | .dict cell _ => some cell
  | _ => none

namespace Store

variable {before middle after store : Store}

def surface (store : Store) : Value → Surface
  | .list view element => .list (store.items view) element
  | .dict cell element => .dict (store.entries cell) element
  | value => .value value

/-- Every cell of the earlier store is as it was. -/
def Extends (before after : Store) : Prop :=
  ∀ (cell : Nat) (content : Cell),
    before.cells[cell]? = some content → after.cells[cell]? = some content

theorem Extends.refl (store : Store) : store.Extends store := fun _ _ found => found

theorem Extends.trans (first : before.Extends middle) (second : middle.Extends after) :
    before.Extends after :=
  fun cell content found => second cell content (first cell content found)

theorem Extends.size_le (extension : before.Extends after) :
    before.cells.size ≤ after.cells.size := by
  rcases Nat.lt_or_ge after.cells.size before.cells.size with less | enough
  · have found := extension _ _ (Array.getElem?_eq_getElem less)
    simp at found
  · exact enough

theorem Extends.cell_eq (extension : before.Extends after) {cell : Nat}
    (within : cell < before.cells.size) : after.cells[cell]? = before.cells[cell]? := by
  have found := extension _ _ (Array.getElem?_eq_getElem within)
  rw [found, Array.getElem?_eq_getElem within]

theorem alloc_extends (store : Store) (content : Cell) : store.Extends (store.alloc content).2 := by
  intro cell old found
  have within := (Array.getElem?_eq_some_iff.mp found).1
  simp only [alloc, Array.getElem?_push, if_neg (Nat.ne_of_lt within), found]

@[simp] theorem alloc_size (store : Store) (content : Cell) :
    (store.alloc content).2.cells.size = store.cells.size + 1 := by
  simp [alloc]

theorem cell_of_alloc {content stored : Cell} {cell : Nat}
    (found : (store.alloc content).2.cells[cell]? = some stored) :
    store.cells[cell]? = some stored ∨ cell = store.cells.size ∧ stored = content := by
  simp only [alloc, Array.getElem?_push] at found
  split at found
  · next last => exact .inr ⟨last, (Option.some.inj found).symm⟩
  · exact .inl found

theorem Extends.load? (extension : before.Extends after) {place : Place} {value : Value}
    (loaded : before.load? place = some value) : after.load? place = some value := by
  cases place with
  | «variable» cell =>
      simp only [Store.load?] at loaded ⊢
      cases found : before.cells[cell]? with
      | none => simp [found] at loaded
      | some content => simpa only [extension _ _ found, found] using loaded
  | item cell index =>
      simp only [Store.load?, listCell] at loaded ⊢
      cases found : before.cells[cell]? with
      | none => simp [found] at loaded
      | some content => simpa only [extension _ _ found, found] using loaded

theorem Extends.listCell_eq (extension : before.Extends after) {cell : Nat}
    (within : cell < before.cells.size) : after.listCell cell = before.listCell cell := by
  simp only [listCell, extension.cell_eq within]

theorem Extends.items_eq (extension : before.Extends after) {view : View}
    (within : view.cell < before.cells.size) : after.items view = before.items view := by
  simp only [items, extension.listCell_eq within]

theorem Extends.entries_eq (extension : before.Extends after) {cell : Nat}
    (within : cell < before.cells.size) : after.entries cell = before.entries cell := by
  simp only [entries, extension.cell_eq within]

theorem surface_congr {value : Value}
    (same : ∀ cell, value.collection? = some cell → after.cells[cell]? = before.cells[cell]?) :
    after.surface value = before.surface value := by
  cases value with
  | list view element => simp only [surface, items, listCell, same view.cell rfl]
  | dict cell element => simp only [surface, entries, same cell rfl]
  | plain datum => rfl
  | pointer type place => rfl

theorem Extends.surface_eq (extension : before.Extends after) {value : Value}
    (within : ∀ cell, value.collection? = some cell → cell < before.cells.size) :
    after.surface value = before.surface value :=
  surface_congr fun cell found => extension.cell_eq (within cell found)

/-- A view that shows as many items as it is long shows them in every extension. -/
theorem Extends.items_of_shown (extension : before.Extends after) {view : View}
    (shown : (before.items view).length = view.length) : after.items view = before.items view := by
  rcases Nat.lt_or_ge view.cell before.cells.size with within | outside
  · exact extension.items_eq within
  · have empty : before.listCell view.cell = [] := by
      simp only [listCell, Array.getElem?_eq_none outside]
    have none : view.length = 0 := by simpa [items, empty] using shown.symm
    simp [items, none]

theorem load?_place {view : View} {index : Nat} (within : index < view.length) :
    store.load? (view.place index) = (store.items view)[index]? := by
  simp [Store.load?, View.place, items, List.getElem?_take_of_lt within]

theorem items_drop (store : Store) (view : View) (count : Nat) :
    store.items (view.drop count) = (store.items view).drop count := by
  simp only [items, View.drop, List.drop_take, List.drop_drop]

theorem newList_extends (store : Store) (items : List Value) {element : HostType} :
    store.Extends (store.newList items element).2 := store.alloc_extends _

theorem newDict_extends (store : Store) (entries : Entries Value) {element : HostType} :
    store.Extends (store.newDict entries element).2 := store.alloc_extends _

/-- A fresh list cell, shown whole. -/
theorem items_alloc (store : Store) (items : List Value) :
    (store.alloc (.list items)).2.items
      { cell := store.cells.size, start := 0, length := items.length } = items := by
  simp [alloc, Store.items, listCell]

theorem entries_alloc (store : Store) (entries : Entries Value) :
    (store.alloc (.dict entries)).2.entries store.cells.size = entries := by
  simp [alloc, Store.entries]

@[simp] theorem surface_newList (store : Store) (items : List Value) {element : HostType} :
    (store.newList items element).2.surface (store.newList items element).1 = .list items element :=
  congrArg (Surface.list · element) (store.items_alloc items)

@[simp] theorem surface_newDict (store : Store) (entries : Entries Value) {element : HostType} :
    (store.newDict entries element).2.surface (store.newDict entries element).1 =
      .dict entries element :=
  congrArg (Surface.dict · element) (store.entries_alloc entries)

theorem clone_extends (store : Store) (value : Value) : store.Extends (store.clone value).2 := by
  cases value with
  | list view element => exact store.newList_extends _
  | dict cell element => exact store.newDict_extends _
  | plain datum => exact .refl store
  | pointer type place => exact .refl store

theorem surface_clone (store : Store) (value : Value) :
    (store.clone value).2.surface (store.clone value).1 = store.surface value := by
  cases value with
  | list view element => exact store.surface_newList _
  | dict cell element => exact store.surface_newDict _
  | plain datum => rfl
  | pointer type place => rfl

end Store

/-- What a value names is in the store. -/
def Value.Valid (store : Store) : Value → Prop
  | .plain _ => True
  | .list view _ => view.cell < store.cells.size
  | .dict cell _ => cell < store.cells.size
  | .pointer _ place => ∃ value, store.load? place = some value

/-- Nothing in the store names storage that is not there. -/
def Store.Valid (store : Store) : Prop :=
  ∀ (cell : Nat) (content : Cell), store.cells[cell]? = some content →
    ∀ value ∈ content.values, value.Valid store

instance (store : Store) (value : Value) : Decidable (value.Valid store) :=
  match value with
  | .plain _ => inferInstanceAs (Decidable True)
  | .list view _ => inferInstanceAs (Decidable (view.cell < store.cells.size))
  | .dict cell _ => inferInstanceAs (Decidable (cell < store.cells.size))
  | .pointer _ _ => decidable_of_iff _ Option.isSome_iff_exists

theorem Store.valid_iff {store : Store} :
    store.Valid ↔ ∀ content ∈ store.cells.toList, ∀ value ∈ content.values, value.Valid store := by
  constructor
  · intro valid content member
    obtain ⟨cell, within, found⟩ := Array.getElem_of_mem (Array.mem_toList_iff.mp member)
    exact valid cell content (Array.getElem?_eq_some_iff.mpr ⟨within, found⟩)
  · intro each cell content found
    exact each content (Array.mem_toList_iff.mpr (Array.mem_of_getElem? found))

instance (store : Store) : Decidable store.Valid := decidable_of_iff' _ Store.valid_iff

theorem Store.lt_size_of_load? {store : Store} {place : Place} {value : Value}
    (loaded : store.load? place = some value) : place.cell < store.cells.size := by
  rcases Nat.lt_or_ge place.cell store.cells.size with within | outside
  · exact within
  · cases place <;>
      simp only [Place.cell] at outside <;>
      simp [load?, listCell, Array.getElem?_eq_none outside] at loaded

theorem Value.Valid.lt_size {store : Store} {value : Value} (valid : value.Valid store) {cell : Nat}
    (named : value.cell? = some cell) : cell < store.cells.size := by
  cases value with
  | plain datum => cases named
  | list view element => cases named; exact valid
  | dict cell element => cases named; exact valid
  | pointer type place =>
      cases named
      obtain ⟨target, loaded⟩ := valid
      exact Store.lt_size_of_load? loaded

theorem Value.cell?_of_collection? {value : Value} {cell : Nat}
    (found : value.collection? = some cell) : value.cell? = some cell := by
  cases value with
  | list view element => exact found
  | dict cell element => exact found
  | plain datum => cases found
  | pointer type place => cases found

namespace Store

variable {store : Store}

theorem mem_listCell {cell : Nat} {value : Value} (member : value ∈ store.listCell cell) :
    ∃ content, store.cells[cell]? = some content ∧ value ∈ content.values := by
  unfold listCell at member
  split at member
  · next items found => exact ⟨_, found, member⟩
  · cases member

theorem mem_entries {cell : Nat} {entry : Text × Value} (member : entry ∈ store.entries cell) :
    ∃ content, store.cells[cell]? = some content ∧ entry.2 ∈ content.values := by
  unfold entries at member
  split at member
  · next found => exact ⟨_, found, List.mem_map.mpr ⟨entry, member, rfl⟩⟩
  · cases member

theorem mem_items {view : View} {value : Value} (member : value ∈ store.items view) :
    value ∈ store.listCell view.cell :=
  List.mem_of_mem_drop (List.mem_of_mem_take member)

theorem Valid.of_mem_items (valid : store.Valid) {view : View} {value : Value}
    (member : value ∈ store.items view) : value.Valid store := by
  obtain ⟨content, found, held⟩ := mem_listCell (mem_items member)
  exact valid _ content found value held

theorem mem_of_load? {place : Place} {value : Value} (loaded : store.load? place = some value) :
    ∃ content, store.cells[place.cell]? = some content ∧ value ∈ content.values := by
  cases place with
  | «variable» cell =>
      simp only [load?] at loaded
      split at loaded
      · next held found =>
          cases loaded
          exact ⟨_, found, List.mem_singleton.mpr rfl⟩
      · cases loaded
  | item cell index => exact mem_listCell (List.mem_of_getElem? loaded)

theorem Valid.of_load? (valid : store.Valid) {place : Place} {value : Value}
    (loaded : store.load? place = some value) : value.Valid store := by
  obtain ⟨content, found, held⟩ := mem_of_load? loaded
  exact valid _ content found value held

theorem Extends.surface_of_valid {before after : Store} (extension : before.Extends after)
    {value : Value} (valid : value.Valid before) : after.surface value = before.surface value :=
  extension.surface_eq fun _ found => valid.lt_size (Value.cell?_of_collection? found)

end Store

/-- A collection whose cell is in the later store but not in the earlier one. -/
def Value.NewIn (before after : Store) (value : Value) : Prop :=
  ∀ cell, value.collection? = some cell → before.cells.size ≤ cell ∧ cell < after.cells.size

namespace Value.NewIn

variable {earlier before after later : Store} {value : Value}

theorem widen (fresh : value.NewIn before after) (start : earlier.Extends before)
    (finish : after.Extends later) : value.NewIn earlier later := by
  intro cell found
  obtain ⟨lower, upper⟩ := fresh cell found
  exact ⟨Nat.le_trans start.size_le lower, Nat.lt_of_lt_of_le upper finish.size_le⟩

theorem surface_eq (fresh : value.NewIn before after) (finish : after.Extends later) :
    later.surface value = after.surface value :=
  finish.surface_eq fun cell found => (fresh cell found).2

theorem newList (store : Store) (items : List Value) {element : HostType} :
    (store.newList items element).1.NewIn store (store.newList items element).2 := by
  intro cell found
  cases found
  simp [Store.newList, Store.alloc]

theorem newDict (store : Store) (entries : Entries Value) {element : HostType} :
    (store.newDict entries element).1.NewIn store (store.newDict entries element).2 := by
  intro cell found
  cases found
  simp [Store.newDict, Store.alloc]

theorem clone (store : Store) (value : Value) :
    (store.clone value).1.NewIn store (store.clone value).2 := by
  cases value with
  | list view element => exact newList store _
  | dict cell element => exact newDict store _
  | plain datum => intro cell found; cases found
  | pointer type place => intro cell found; cases found

end Value.NewIn
end CallPlan
