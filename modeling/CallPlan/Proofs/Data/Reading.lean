import CallPlan.Proofs.Data.Growth
import CallPlan.Proofs.Data.Renaming
import Mathlib.Data.List.Perm.Subperm

/-!
Reading data out of storage and writing it there. The values on a path into a value show different storage
each, and a store shows only so much of it, so a reading comes to an end by itself: with more steps it would
give the same. What is read then depends neither on what else there is in the store nor on how its cells are
numbered; and what is written corresponds again.
-/

namespace CallPlan

namespace Store

variable {store : Store} {fuel more : Nat} {above : List Value.Reference} {value : Value}

theorem mem_references {cell : Nat} {content : Cell} (found : store.cells[cell]? = some content)
    (held : value ∈ content.values) {reference : Value.Reference}
    (shown : value.reference? = some reference) : reference ∈ store.references :=
  List.mem_flatMap.mpr ⟨content, Array.mem_toList_iff.mpr (Array.mem_of_getElem? found),
    List.mem_filterMap.mpr ⟨value, held, shown⟩⟩

theorem readUnder_inside {reference : Value.Reference} (shown : value.reference? = some reference)
    (inside : reference ∈ above) : store.readUnder fuel above value = .null := by
  cases fuel <;> cases value <;> cases shown <;> simp only [readUnder, inside, if_true]

theorem readUnder_plain (shown : value.reference? = none) :
    store.readUnder fuel above value = store.readUnder more above value := by
  cases value with
  | plain datum => cases fuel <;> cases more <;> rfl
  | list view => cases shown
  | dict cell => cases shown
  | pointer type place => cases shown

/-- What a path can still lead through: storage that is listed, and is not above. -/
structure Path (store : Store) (listed above : List Value.Reference) : Prop where
  known : ∀ reference ∈ store.references, reference ∈ listed
  distinct : above.Nodup
  inside : ∀ reference ∈ above, reference ∈ listed

theorem Path.step {listed : List Value.Reference} (path : store.Path listed above)
    {reference : Value.Reference} (member : reference ∈ listed) (new : reference ∉ above) :
    store.Path listed (reference :: above) where
  known := path.known
  distinct := List.nodup_cons.mpr ⟨new, path.distinct⟩
  inside := List.forall_mem_cons.mpr ⟨member, path.inside⟩

theorem Path.length_le {listed : List Value.Reference} (path : store.Path listed above) :
    above.length ≤ listed.length :=
  (path.distinct.subperm path.inside).length_le

/-- Where there are steps for all the storage that is listed, more steps read no more. -/
theorem readUnder_enough {listed : List Value.Reference} (path : store.Path listed above)
    (own : ∀ reference, value.reference? = some reference → reference ∈ listed)
    (enough : listed.length ≤ fuel + above.length) (also : listed.length ≤ more + above.length) :
    store.readUnder fuel above value = store.readUnder more above value := by
  induction fuel generalizing more above value with
  | zero =>
      cases shown : value.reference? with
      | none => exact readUnder_plain shown
      | some reference =>
          -- All that is listed is above already, so the value is inside itself.
          have inside : reference ∈ above := by
            by_contra new
            have longer := (path.step (own _ shown) new).length_le
            simp only [List.length_cons] at longer
            omega
          rw [readUnder_inside shown inside, readUnder_inside shown inside]
  | succ fuel ih =>
      cases shown : value.reference? with
      | none => exact readUnder_plain shown
      | some reference =>
          by_cases inside : reference ∈ above
          · rw [readUnder_inside shown inside, readUnder_inside shown inside]
          · have next := path.step (own _ shown) inside
            have longer := next.length_le
            simp only [List.length_cons] at longer
            obtain ⟨more, rfl⟩ : ∃ rest, more = rest + 1 := ⟨more - 1, by omega⟩
            -- Whatever the value is, what it holds is listed.
            have below : ∀ (held : Value) (cell : Nat) (content : Cell),
                store.cells[cell]? = some content → held ∈ content.values →
                store.readUnder fuel (reference :: above) held =
                  store.readUnder more (reference :: above) held := by
              intro held cell content found member
              exact ih next (fun inner given => path.known inner (mem_references found member given))
                (by simp only [List.length_cons]; omega) (by simp only [List.length_cons]; omega)
            cases value with
            | plain datum => cases shown
            | list view element =>
                cases shown
                simp only [readUnder, inside, if_false]
                refine congrArg _ (List.map_congr_left fun held member => ?_)
                obtain ⟨content, found, kept⟩ := mem_listCell (mem_items member)
                exact below held _ content found kept
            | dict cell element =>
                cases shown
                simp only [readUnder, inside, if_false]
                refine congrArg _ (List.map_congr_left fun entry member => ?_)
                obtain ⟨content, found, kept⟩ := mem_entries member
                exact congrArg (Prod.mk entry.1) (below entry.2 _ content found kept)
            | pointer type place =>
                cases shown
                simp only [readUnder, inside, if_false]
                cases loaded : store.load? place with
                | none => rfl
                | some held =>
                    obtain ⟨content, found, kept⟩ := mem_of_load? loaded
                    exact congrArg _ (below held _ content found kept)

/-- A complete reading takes no more steps than the store shows storage, and one for the value itself. -/
theorem readUnder_read (enough : store.references.length < fuel) :
    store.readUnder fuel [] value = store.read value := by
  have path : store.Path (value.reference?.toList ++ store.references) [] :=
    ⟨fun _ member => List.mem_append_right _ member, List.nodup_nil, by simp⟩
  have short : value.reference?.toList.length ≤ 1 := by
    cases value.reference? <;> simp
  refine readUnder_enough path ?_ ?_ ?_
  · intro reference shown
    exact List.mem_append_left _ (Option.mem_toList.mpr shown)
  · simp only [List.length_append, List.length_nil]
    omega
  · simp only [List.length_append, List.length_nil]
    omega

theorem write_list (store : Store) (element : HostType) (items : List Datum) :
    store.write (.list element items) =
      (store.writeItems items).2.newList (store.writeItems items).1 element := by
  rw [write]

theorem write_dict (store : Store) (element : HostType) (entries : List (Text × Datum)) :
    store.write (.dict element entries) =
      (store.writeEntries entries).2.newDict (store.writeEntries entries).1 element := by
  rw [write]

theorem write_pointer (store : Store) (type : HostType) (target : Datum) :
    store.write (.pointer type target) =
      (store.write target).2.newPointer type (store.write target).1 := by
  rw [write]

theorem writeItems_cons (store : Store) (item : Datum) (rest : List Datum) :
    store.writeItems (item :: rest) =
      ((store.write item).1 :: ((store.write item).2.writeItems rest).1,
        ((store.write item).2.writeItems rest).2) := by
  rw [writeItems]

theorem writeEntries_cons (store : Store) (key : Text) (item : Datum) (rest : List (Text × Datum)) :
    store.writeEntries ((key, item) :: rest) =
      ((key, (store.write item).1) :: ((store.write item).2.writeEntries rest).1,
        ((store.write item).2.writeEntries rest).2) := by
  rw [writeEntries]

end Store

namespace Value

variable {ρ : Nat → Nat}

def Reference.rename (ρ : Nat → Nat) : Reference → Reference
  | .list view => .list (view.rename ρ)
  | .dict cell => .dict (ρ cell)
  | .place target => .place (target.rename ρ)

theorem Reference.rename_injective (injective : ∀ first second, ρ first = ρ second → first = second)
    {first second : Reference} (same : first.rename ρ = second.rename ρ) : first = second := by
  cases first with
  | list view =>
      cases second with
      | list other =>
          obtain ⟨cell, start, length⟩ := view
          obtain ⟨cell', start', length'⟩ := other
          simp only [rename, View.rename, list.injEq, View.mk.injEq] at same ⊢
          exact ⟨injective _ _ same.1, same.2⟩
      | dict _ => cases same
      | place _ => cases same
  | dict cell =>
      cases second with
      | dict other => exact congrArg _ (injective _ _ (dict.inj same))
      | list _ => cases same
      | place _ => cases same
  | place target =>
      cases second with
      | place other =>
          cases target with
          | «variable» cell =>
              cases other with
              | «variable» cell' => simpa using injective _ _ (Place.variable.inj (place.inj same))
              | item _ _ => cases same
          | item cell index =>
              cases other with
              | «variable» _ => cases same
              | item cell' index' =>
                  have both := Place.item.inj (place.inj same)
                  rw [injective _ _ both.1, both.2]
      | list _ => cases same
      | dict _ => cases same

end Value

namespace Store.Renames

variable {ρ : Nat → Nat} {store other : Store}

theorem mem_above (renames : store.Renames ρ other) (above : List Value.Reference)
    (reference : Value.Reference) :
    reference.rename ρ ∈ above.map (Value.Reference.rename ρ) ↔ reference ∈ above := by
  constructor
  · intro member
    obtain ⟨origin, listed, same⟩ := List.mem_map.mp member
    rwa [← Value.Reference.rename_injective renames.injective same]
  · exact List.mem_map_of_mem

theorem readUnder (renames : store.Renames ρ other) (fuel : Nat) (above : List Value.Reference)
    (value : Value) :
    other.readUnder fuel (above.map (Value.Reference.rename ρ)) (value.rename ρ) =
      store.readUnder fuel above value := by
  induction fuel generalizing above value with
  | zero => cases value <;> rfl
  | succ fuel ih =>
      cases value with
      | plain datum => rfl
      | list view element =>
          have inside := renames.mem_above above (.list view)
          have below := ih (.list view :: above)
          simp only [List.map_cons, Value.Reference.rename] at inside below
          simp only [Value.rename_list, Store.readUnder, inside, renames.items, List.map_map,
            Function.comp_def, below]
      | dict cell element =>
          have inside := renames.mem_above above (.dict cell)
          have below := ih (.dict cell :: above)
          simp only [List.map_cons, Value.Reference.rename] at inside below
          simp only [Value.rename_dict, Store.readUnder, inside, renames.entries, Entries.mapValues,
            List.map_map, Function.comp_def, below]
      | pointer type place =>
          have inside := renames.mem_above above (.place place)
          have below := ih (.place place :: above)
          simp only [List.map_cons, Value.Reference.rename] at inside below
          simp only [Value.rename_pointer, Store.readUnder, inside, renames.load?]
          cases store.load? place with
          | none => rfl
          | some target => simp only [Option.map_some, below]

/-- What is read of a value does not show the numbers of cells, nor how many there are. -/
theorem read (renames : store.Renames ρ other) (value : Value) :
    other.read (value.rename ρ) = store.read value := by
  have steps : ∀ fuel, other.readUnder fuel [] (value.rename ρ) = store.readUnder fuel [] value :=
    fun fuel => renames.readUnder fuel [] value
  have same := steps (other.references.length + store.references.length + 1)
  rwa [readUnder_read (by omega), readUnder_read (by omega)] at same

theorem newPointer (renames : store.Renames ρ other) (type : HostType) (value : Value) :
    Corresponds ρ (store.newPointer type value) (other.newPointer type (value.rename ρ)) where
  value := by
    simp only [Store.newPointer, Store.alloc, Value.rename_pointer, Place.rename, renames.fresh_size]
  store := renames.alloc (.variable value)

/-- Data written to two stores makes the same value under the two numberings. -/
theorem write (renames : store.Renames ρ other) (datum : Datum) :
    Corresponds ρ (store.write datum) (other.write datum) := by
  -- The induction is on a datum, its items and its entries at once, for any other store that corresponds.
  refine Store.write.induct_unfolding
    (fun store datum result => ∀ other, store.Renames ρ other →
      Corresponds ρ result (other.write datum))
    (fun store entries result => ∀ other, store.Renames ρ other →
      (other.writeEntries entries).1 = result.1.mapValues (Value.rename ρ) ∧
        result.2.Renames ρ (other.writeEntries entries).2)
    (fun store items result => ∀ other, store.Renames ρ other →
      (other.writeItems items).1 = result.1.map (Value.rename ρ) ∧
        result.2.Renames ρ (other.writeItems items).2)
    ?list ?dict ?pointer ?plain ?noItem ?item ?noEntry ?entry store datum other renames
  case list =>
    intro store element items values middle written ih other renames
    obtain ⟨same, later⟩ := ih other renames
    rw [written] at same later
    rw [write_list, same]
    exact later.newList values element
  case dict =>
    intro store element entries values middle written ih other renames
    obtain ⟨same, later⟩ := ih other renames
    rw [written] at same later
    rw [write_dict, same]
    exact later.newDict values element
  case pointer =>
    intro store type target value middle written ih other renames
    have inner := ih other renames
    rw [written] at inner
    rw [write_pointer, inner.value]
    exact inner.store.newPointer type value
  case plain =>
    intro store datum noList noDict noPointer other renames
    rw [Store.write]
    · exact ⟨rfl, renames⟩
    · exact noList
    · exact noDict
    · exact noPointer
  case noItem =>
    intro store other renames
    exact ⟨rfl, renames⟩
  case item =>
    intro store item rest value middle written values after others first second other renames
    have start := first other renames
    rw [written] at start
    have finish := second _ start.store
    rw [others] at finish
    rw [writeItems_cons, start.value, finish.1]
    exact ⟨rfl, finish.2⟩
  case noEntry =>
    intro store other renames
    exact ⟨rfl, renames⟩
  case entry =>
    intro store key item rest value middle written values after others first second other renames
    have start := first other renames
    rw [written] at start
    have finish := second _ start.store
    rw [others] at finish
    rw [writeEntries_cons, start.value, finish.1]
    exact ⟨rfl, finish.2⟩

end Store.Renames
end CallPlan
