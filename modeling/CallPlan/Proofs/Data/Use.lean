import CallPlan.Proofs.Data.Entries
import CallPlan.Proofs.Data.Save
import CallPlan.Proofs.Data.Sealed

/-!
What can be done with storage by those who know some of its cells: look into them, assign to them what
is known, and make new ones. Cells that nothing known leads to stay unknown, and stay as they are.
-/

namespace CallPlan

/-- A cell that holds a value which names another. -/
def Cell.Names (content : Cell) (cell : Nat) : Prop := ∃ value ∈ content.values, value.cell? = some cell

namespace Store

variable {before middle after store : Store} {cell : Nat} {values : List Value}

/-- Values were assigned to one cell, which holds nothing now but those and what it held. -/
structure Assigns (before : Store) (cell : Nat) (values : List Value) (after : Store) : Prop where
  size : after.cells.size = before.cells.size
  others : ∀ index, index ≠ cell → after.cells[index]? = before.cells[index]?
  own : ∀ content, after.cells[cell]? = some content → ∀ value ∈ content.values,
    value ∈ values ∨ ∃ old, before.cells[cell]? = some old ∧ value ∈ old.values

theorem Assigns.refl (store : Store) (cell : Nat) : store.Assigns cell [] store :=
  ⟨rfl, fun _ _ => rfl, fun content found _ held => .inr ⟨content, found, held⟩⟩

theorem Assigns.trans {others : List Value} (first : before.Assigns cell values middle)
    (second : middle.Assigns cell others after) : before.Assigns cell (values ++ others) after where
  size := second.size.trans first.size
  others index elsewhere := (second.others index elsewhere).trans (first.others index elsewhere)
  own content found value held := by
    rcases second.own content found value held with given | ⟨old, known, kept⟩
    · exact .inl (List.mem_append_right _ given)
    · exact (first.own old known value kept).imp_left (List.mem_append_left _)

theorem setCell_assigns {content : Cell} (given : ∀ value ∈ content.values,
      value ∈ values ∨ ∃ old, store.cells[cell]? = some old ∧ value ∈ old.values) :
    store.Assigns cell values (store.setCell cell content) where
  size := by simp [setCell]
  others index elsewhere := store.cells_setCell cell content elsewhere
  own stored found := by
    have within := (Array.getElem?_eq_some_iff.mp found).1
    simp only [setCell, Array.size_setIfInBounds] at within
    simp only [setCell, Array.getElem?_setIfInBounds_self_of_lt within, Option.some.injEq] at found
    exact found ▸ given

theorem save_assigns (store : Store) (place : Place) (value : Value) :
    store.Assigns place.cell [value] (store.save place value) := by
  cases place with
  | «variable» cell =>
      refine setCell_assigns fun held member => .inl ?_
      simpa [Cell.values] using member
  | item cell index =>
      refine setCell_assigns fun held member => ?_
      rcases List.mem_or_eq_of_mem_set member with kept | same
      · exact .inr (mem_listCell kept)
      · exact .inl (List.mem_singleton.mpr same)

theorem saveAll_assigns (store : Store) (view : View) (index : Nat) (values : List Value) :
    store.Assigns view.cell values (store.saveAll view index values) := by
  induction values generalizing store index with
  | nil => exact .refl store view.cell
  | cons value rest ih => exact (store.save_assigns (view.place index) value).trans (ih _ _)

theorem assign?_assigns {collection value : Value} {step : Step}
    (done : store.assign? collection step value = some after) :
    ∃ cell, collection.collection? = some cell ∧ store.Assigns cell [value] after := by
  unfold assign? at done
  split at done
  · next view element i =>
      split at done
      · cases done
        exact ⟨view.cell, rfl, store.save_assigns (view.place i.toNat) value⟩
      · cases done
  · next cell element k =>
      split at done
      · cases done
        refine ⟨cell, rfl, setCell_assigns fun held member => ?_⟩
        obtain ⟨entry, listed, rfl⟩ := List.mem_map.mp member
        rcases Entries.mem_put listed with same | kept
        · exact .inl (List.mem_singleton.mpr same)
        · exact .inr (mem_entries kept)
      · cases done
  · cases done

/-- What comes about when some cells are known at first: other cells known, and other storage. -/
inductive Uses (known : Nat → Prop) (store : Store) : (Nat → Prop) → Store → Prop
  | start : Uses known store known store
  | look {known' : Nat → Prop} {store' : Store} {cell : Nat} {content : Cell}
      (uses : Uses known store known' store') (knows : known' cell)
      (found : store'.cells[cell]? = some content) :
      Uses known store (fun other => known' other ∨ content.Names other) store'
  | save {known' : Nat → Prop} {store' : Store} {place : Place} {value : Value}
      (uses : Uses known store known' store') (knows : known' place.cell)
      (within : value.Within known') : Uses known store known' (store'.save place value)
  | assign {known' : Nat → Prop} {store' later : Store} {collection value : Value} {step : Step}
      (uses : Uses known store known' store') (knows : collection.Within known')
      (within : value.Within known') (done : store'.assign? collection step value = some later) :
      Uses known store known' later
  | make {known' : Nat → Prop} {store' : Store} {content : Cell}
      (uses : Uses known store known' store') (within : content.Within known') :
      Uses known store (fun other => known' other ∨ other = store'.cells.size)
        (store'.alloc content).2

/-- Cells are hidden from those who know others: nothing known leads to them. -/
structure Hides (store : Store) (hidden known : Nat → Prop) : Prop where
  there : ∀ cell, hidden cell → cell < store.cells.size
  closed : store.Closed (store.Shown hidden)
  shown : ∀ cell, known cell → store.Shown hidden cell

variable {hidden known known' : Nat → Prop} {store' : Store}

theorem Hides.learn (hides : store.Hides hidden known)
    (shown : ∀ cell, known' cell → store.Shown hidden cell) : store.Hides hidden known' :=
  ⟨hides.there, hides.closed, shown⟩

/-- Later storage in which the hidden cells are still there, and as they were. -/
structure Retains (hidden : Nat → Prop) (before after : Store) : Prop where
  grown : before.cells.size ≤ after.cells.size
  same : ∀ cell, hidden cell → after.cells[cell]? = before.cells[cell]?

theorem Retains.refl (store : Store) : Retains hidden store store := ⟨Nat.le_refl _, fun _ _ => rfl⟩

theorem Retains.trans (first : Retains hidden before middle) (second : Retains hidden middle after) :
    Retains hidden before after where
  grown := Nat.le_trans first.grown second.grown
  same cell unseen := (second.same cell unseen).trans (first.same cell unseen)

theorem Hides.assign (hides : store.Hides hidden known) (assigns : store.Assigns cell values after)
    (seen : store.Shown hidden cell) (within : ∀ value ∈ values, value.Within (store.Shown hidden)) :
    after.Hides hidden known ∧ Retains hidden store after := by
  have shown : after.Shown hidden = store.Shown hidden := by
    funext other
    simp only [Shown, assigns.size]
  refine ⟨⟨?_, ?_, ?_⟩, Nat.le_of_eq assigns.size.symm, ?_⟩
  · intro other unseen
    rw [assigns.size]
    exact hides.there other unseen
  · rw [shown]
    intro other content beside found value held
    by_cases same : other = cell
    · subst same
      rcases assigns.own content found value held with given | ⟨old, known, kept⟩
      · exact within value given
      · exact hides.closed other old beside known value kept
    · rw [assigns.others other same] at found
      exact hides.closed other content beside found value held
  · rw [shown]
    exact hides.shown
  · intro other unseen
    exact assigns.others other fun same => seen.2 (same ▸ unseen)

theorem Hides.alloc (hides : store.Hides hidden known) {content : Cell}
    (within : content.Within (store.Shown hidden)) :
    (store.alloc content).2.Hides hidden known ∧ Retains hidden store (store.alloc content).2 ∧
      (store.alloc content).2.Shown hidden store.cells.size := by
  have kept := store.alloc_extends content
  have wide : ∀ cell, store.Shown hidden cell → (store.alloc content).2.Shown hidden cell :=
    fun _ seen => seen.later kept.size_le
  refine ⟨⟨?_, ?_, fun cell knew => wide cell (hides.shown cell knew)⟩, ⟨kept.size_le, ?_⟩, ?_⟩
  · intro other unseen
    exact Nat.lt_of_lt_of_le (hides.there other unseen) kept.size_le
  · intro other stored beside found value held
    rcases cell_of_alloc found with earlier | ⟨_, rfl⟩
    · have seen : store.Shown hidden other := ⟨(Array.getElem?_eq_some_iff.mp earlier).1, beside.2⟩
      exact (hides.closed other stored seen earlier value held).mono wide
    · exact (within value held).mono wide
  · intro other unseen
    exact kept.cell_eq (hides.there other unseen)
  · refine ⟨by simp, fun unseen => ?_⟩
    exact Nat.lt_irrefl _ (hides.there _ unseen)

/-- Whatever is done with storage by those who do not know of hidden cells, they stay hidden and as they
are. -/
theorem Uses.hides (uses : Uses known store known' store') (hides : store.Hides hidden known) :
    store'.Hides hidden known' ∧ Retains hidden store store' := by
  -- No step needs to know which cells are hidden: whatever is known is shown, and only that is used.
  induction uses with
  | start => exact ⟨hides, .refl store⟩
  | look uses knows found ih =>
      obtain ⟨reached, retains⟩ := ih
      refine ⟨reached.learn ?_, retains⟩
      rintro cell (knew | ⟨value, held, named⟩)
      · exact reached.shown cell knew
      · exact reached.closed _ _ (reached.shown _ knows) found value held cell named
  | @save known' store' place value uses knows within ih =>
      obtain ⟨reached, retains⟩ := ih
      obtain ⟨later, more⟩ := reached.assign (store'.save_assigns place value)
        (reached.shown _ knows) (by simpa using within.mono reached.shown)
      exact ⟨later, retains.trans more⟩
  | assign uses knows within done ih =>
      obtain ⟨reached, retains⟩ := ih
      obtain ⟨cell, named, assigns⟩ := assign?_assigns done
      obtain ⟨later, more⟩ := reached.assign assigns
        (reached.shown cell (knows cell (Value.cell?_of_collection? named)))
        (by simpa using within.mono reached.shown)
      exact ⟨later, retains.trans more⟩
  | make uses within ih =>
      obtain ⟨reached, retains⟩ := ih
      obtain ⟨later, more, fresh⟩ := reached.alloc fun value held =>
        (within value held).mono reached.shown
      refine ⟨later.learn ?_, retains.trans more⟩
      rintro cell (knew | rfl)
      · exact later.shown cell knew
      · exact fresh

theorem Sealed.hides (shut : store.Sealed hidden)
    (shown : ∀ cell, known cell → store.Shown hidden cell) : store.Hides hidden known :=
  ⟨shut.there, shut.closed, shown⟩

theorem Hides.shut (hides : after.Hides hidden known) (retains : Retains hidden before after)
    (shut : before.Sealed hidden) : after.Sealed hidden := by
  refine ⟨hides.there, fun cell content found => ?_⟩
  by_cases unseen : hidden cell
  · rw [retains.same cell unseen] at found
    intro value held
    exact (shut.cells cell content found value held).mono fun _ seen => seen.later retains.grown
  · exact hides.closed cell content ⟨(Array.getElem?_eq_some_iff.mp found).1, unseen⟩ found

theorem Sealed.assign (shut : store.Sealed hidden) (assigns : store.Assigns cell values after)
    (seen : store.Shown hidden cell) (within : ∀ value ∈ values, value.Within (store.Shown hidden)) :
    after.Sealed hidden ∧ Retains hidden store after := by
  obtain ⟨hides, retains⟩ := (shut.hides fun _ shown => shown).assign assigns seen within
  exact ⟨hides.shut retains shut, retains⟩

theorem Sealed.retains (shut : store.Sealed hidden)
    (kept : store.Extends after) : Retains hidden store after :=
  ⟨kept.size_le, fun cell unseen => kept.cell_eq (shut.there cell unseen)⟩

/-- What a call has added is hidden from those who know only the storage there was. -/
theorem Extends.hides (kept : before.Extends after) (valid : before.Valid) :
    after.Hides (fun cell => before.cells.size ≤ cell ∧ cell < after.cells.size)
      (fun cell => cell < before.cells.size) := by
  have old : ∀ cell, after.Shown (fun cell => before.cells.size ≤ cell ∧ cell < after.cells.size) cell ↔
      cell < before.cells.size := by
    intro cell
    have grown := kept.size_le
    simp only [Shown]
    omega
  refine ⟨fun cell unseen => unseen.2, fun cell content seen found value held named same => ?_, ?_⟩
  · have there := (old cell).mp seen
    rw [kept.cell_eq there] at found
    exact (old named).mpr ((valid cell content found value held).lt_size same)
  · exact fun cell there => (old cell).mpr there

end Store
end CallPlan
