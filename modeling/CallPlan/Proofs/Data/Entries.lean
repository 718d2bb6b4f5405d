import CallPlan.Data.Entries

/-!
Finite maps as lists of entries: what a map gives for a key after it has been changed, and what stays the
same when its values are, or when its entries are brought into order.
-/

namespace CallPlan.Entries

variable {α β : Type} {entries others : Entries α} {key other : Text} {value : α}

@[simp] theorem get?_nil : get? ([] : Entries α) key = none := rfl

theorem get?_cons (own : Text) (value : α) (rest : Entries α) (key : Text) :
    get? ((own, value) :: rest) key = if own = key then some value else rest.get? key := by
  unfold get?
  rw [List.lookup_cons]
  by_cases same : own = key
  · simp [same]
  · have different : (key == own) = false := by simpa using fun equal => same equal.symm
    simp [same, different]

theorem has_iff : entries.has key = true ↔ ∃ value, entries.get? key = some value :=
  Option.isSome_iff_exists

theorem get?_eq_none_iff : entries.get? key = none ↔ key ∉ entries.keys := by
  induction entries with
  | nil => simp [keys]
  | cons entry rest ih =>
      obtain ⟨own, value⟩ := entry
      rw [get?_cons]
      by_cases same : own = key
      · simp [same, keys]
      · simp only [same, if_false, ih, keys, List.map_cons, List.mem_cons, not_or]
        exact ⟨fun absent => ⟨fun equal => same equal.symm, absent⟩, fun absent => absent.2⟩

theorem has_iff_mem_keys : entries.has key = true ↔ key ∈ entries.keys := by
  rw [has, Option.isSome_iff_ne_none, ne_eq, get?_eq_none_iff, Decidable.not_not]

theorem get?_of_mem (distinct : entries.keys.Nodup) (member : (key, value) ∈ entries) :
    entries.get? key = some value := by
  induction entries with
  | nil => cases member
  | cons entry rest ih =>
      obtain ⟨own, held⟩ := entry
      simp only [keys, List.map_cons, List.nodup_cons] at distinct
      rw [get?_cons]
      rcases List.mem_cons.mp member with same | later
      · cases same
        simp
      · have different : own ≠ key := fun equal =>
          distinct.1 (equal ▸ List.mem_map.mpr ⟨_, later, rfl⟩)
        simpa only [different, if_false] using ih distinct.2 later

theorem mem_of_get? (found : entries.get? key = some value) : (key, value) ∈ entries := by
  induction entries with
  | nil => simp at found
  | cons entry rest ih =>
      obtain ⟨own, held⟩ := entry
      rw [get?_cons] at found
      split at found
      · next same =>
          cases found
          exact same ▸ List.mem_cons_self
      · exact List.mem_cons_of_mem _ (ih found)

theorem get?_map (entries : Entries α) (key : Text) (f : Text × α → β) :
    get? (entries.map fun entry => (entry.1, f entry)) key =
      (entries.get? key).map fun value => f (key, value) := by
  induction entries with
  | nil => rfl
  | cons entry rest ih =>
      obtain ⟨own, value⟩ := entry
      simp only [List.map_cons, get?_cons, ih]
      split
      · next same => simp [same]
      · rfl

theorem get?_put (entries : Entries α) (key : Text) (value : α) (other : Text) :
    (entries.put key value).get? other = if key = other then some value else entries.get? other := by
  induction entries with
  | nil => rw [put, get?_cons]
  | cons entry rest ih =>
      obtain ⟨own, held⟩ := entry
      simp only [put]
      split
      · next same =>
          subst own
          simp only [get?_cons]
          split <;> rfl
      · next different =>
          simp only [get?_cons, ih]
          by_cases here : own = other
          · have elsewhere : key ≠ other := fun equal => different (here.trans equal.symm)
            simp [here, elsewhere]
          · simp [here]

theorem get?_put_self (entries : Entries α) (key : Text) (value : α) :
    (entries.put key value).get? key = some value := by
  simp [get?_put]

theorem keys_put_of_has (found : entries.has key = true) :
    (entries.put key value).keys = entries.keys := by
  induction entries with
  | nil => simp [has] at found
  | cons entry rest ih =>
      obtain ⟨own, held⟩ := entry
      simp only [put]
      split
      · rfl
      · next different =>
          simp only [has, get?_cons, different, if_false] at found
          simpa only [keys, List.map_cons, List.cons.injEq, true_and] using ih found

theorem mem_keys_put : other ∈ (entries.put key value).keys ↔ other = key ∨ other ∈ entries.keys := by
  rw [← has_iff_mem_keys, ← has_iff_mem_keys, has, has, get?_put]
  by_cases same : key = other
  · simp [same]
  · simp [same, Ne.symm same]

theorem mem_keys_merge : key ∈ (entries.merge others).keys ↔ key ∈ entries.keys ∨ key ∈ others.keys := by
  unfold merge
  induction others generalizing entries with
  | nil => simp [keys]
  | cons other rest ih =>
      obtain ⟨own, value⟩ := other
      rw [List.foldl_cons, ih, mem_keys_put]
      simp only [keys, List.map_cons, List.mem_cons]
      exact or_right_comm.trans or_comm

/-- Of a map and one with distinct keys that is merged into it, the latter wins. -/
theorem get?_merge (distinct : others.keys.Nodup) :
    (entries.merge others).get? key = (others.get? key).or (entries.get? key) := by
  unfold merge
  induction others generalizing entries with
  | nil => rfl
  | cons other rest ih =>
      obtain ⟨own, value⟩ := other
      simp only [keys, List.map_cons, List.nodup_cons] at distinct
      rw [List.foldl_cons, ih distinct.2, get?_put, get?_cons]
      by_cases same : own = key
      · have absent : get? rest key = none := get?_eq_none_iff.mpr (same ▸ distinct.1)
        simp [same, absent]
      · simp [same]

theorem get?_filter (entries : Entries α) (keeps : Text → Bool) (key : Text) :
    get? (entries.filter (keeps ·.1)) key = if keeps key = true then entries.get? key else none := by
  induction entries with
  | nil => simp
  | cons entry rest ih =>
      obtain ⟨own, value⟩ := entry
      rw [List.filter_cons, get?_cons]
      by_cases same : own = key
      · subst own
        split <;> simp_all [get?_cons]
      · split <;> simp [get?_cons, same, ih]

theorem nodup_keys_filter (distinct : entries.keys.Nodup) (keeps : Text × α → Bool) :
    (keys (entries.filter keeps)).Nodup :=
  distinct.sublist (List.filter_sublist.map _)

/-- Maps with the same entries give the same, in whatever order the entries come. -/
theorem get?_of_perm (distinct : entries.keys.Nodup) (order : others.Perm entries) (key : Text) :
    others.get? key = entries.get? key := by
  have distinct' : others.keys.Nodup := (order.map Prod.fst).nodup_iff.mpr distinct
  cases found : entries.get? key with
  | some value => exact get?_of_mem distinct' (order.mem_iff.mpr (mem_of_get? found))
  | none =>
      rw [get?_eq_none_iff] at found ⊢
      exact fun member => found ((order.map Prod.fst).mem_iff.mp member)

theorem mem_put {entry : Text × α} (member : entry ∈ entries.put key value) :
    entry.2 = value ∨ entry ∈ entries := by
  induction entries with
  | nil =>
      rw [put, List.mem_singleton] at member
      exact .inl (by rw [member])
  | cons first rest ih =>
      obtain ⟨own, held⟩ := first
      simp only [put] at member
      split at member
      · rcases List.mem_cons.mp member with rfl | later
        · exact .inl rfl
        · exact .inr (List.mem_cons_of_mem _ later)
      · rcases List.mem_cons.mp member with rfl | later
        · exact .inr List.mem_cons_self
        · exact (ih later).imp_right (List.mem_cons_of_mem _)

theorem merge_all {property : α → Prop} (first : ∀ entry ∈ entries, property entry.2)
    (second : ∀ entry ∈ others, property entry.2) : ∀ entry ∈ entries.merge others, property entry.2 := by
  unfold merge
  induction others generalizing entries with
  | nil => exact first
  | cons other rest ih =>
      obtain ⟨key, value⟩ := other
      refine ih ?_ fun entry member => second entry (List.mem_cons_of_mem _ member)
      intro entry member
      rcases mem_put member with same | earlier
      · exact same ▸ second (key, value) List.mem_cons_self
      · exact first entry earlier

/-- The same keys with other values. -/
def mapValues (f : α → β) (entries : Entries α) : Entries β := entries.map fun entry => (entry.1, f entry.2)

theorem keys_mapValues (f : α → β) (entries : Entries α) : (entries.mapValues f).keys = entries.keys := by
  simp [mapValues, keys]

theorem get?_mapValues (f : α → β) (entries : Entries α) (key : Text) :
    (entries.mapValues f).get? key = (entries.get? key).map f :=
  get?_map entries key fun entry => f entry.2

theorem put_mapValues (f : α → β) (entries : Entries α) (key : Text) (value : α) :
    (entries.mapValues f).put key (f value) = (entries.put key value).mapValues f := by
  induction entries with
  | nil => rfl
  | cons entry rest ih =>
      obtain ⟨own, held⟩ := entry
      simp only [mapValues, List.map_cons, put] at ih ⊢
      split
      · rfl
      · rw [ih, List.map_cons]

theorem merge_mapValues (f : α → β) (entries others : Entries α) :
    (entries.mapValues f).merge (others.mapValues f) = (entries.merge others).mapValues f := by
  unfold merge
  induction others generalizing entries with
  | nil => rfl
  | cons other rest ih =>
      obtain ⟨key, value⟩ := other
      have first := put_mapValues f entries key value
      simp only [mapValues, List.map_cons, List.foldl_cons] at ih first ⊢
      rw [first, ih]

/-- Putting what is there already changes nothing. -/
theorem put_of_get? (found : entries.get? key = some value) : entries.put key value = entries := by
  induction entries with
  | nil => cases found
  | cons entry rest ih =>
      obtain ⟨own, held⟩ := entry
      rw [get?_cons] at found
      rw [put]
      split at found
      · next same =>
          cases found
          rw [if_pos same]
      · next different => rw [if_neg different, ih found]

theorem put_of_absent (absent : key ∉ entries.keys) : entries.put key value = entries ++ [(key, value)] := by
  induction entries with
  | nil => rfl
  | cons entry rest ih =>
      obtain ⟨own, held⟩ := entry
      simp only [keys, List.map_cons, List.mem_cons, not_or] at absent
      rw [put, if_neg (Ne.symm absent.1), ih absent.2, List.cons_append]

theorem merge_of_distinct (distinct : (entries ++ others).keys.Nodup) :
    entries.merge others = entries ++ others := by
  unfold merge
  induction others generalizing entries with
  | nil => exact (List.append_nil entries).symm
  | cons other rest ih =>
      obtain ⟨key, value⟩ := other
      have absent : key ∉ entries.keys := by
        simp only [keys, List.map_append, List.map_cons, List.nodup_append] at distinct
        exact fun member => distinct.2.2 key member key List.mem_cons_self rfl
      rw [List.append_cons] at distinct ⊢
      simp only [List.foldl_cons, put_of_absent absent]
      exact ih distinct

/-- A list of entries with distinct keys is a map as it stands. -/
theorem ofList_of_distinct (distinct : entries.keys.Nodup) : ofList entries = entries :=
  merge_of_distinct distinct

theorem put_nodup (distinct : entries.keys.Nodup) : (entries.put key value).keys.Nodup := by
  by_cases found : entries.has key = true
  · rwa [keys_put_of_has found]
  · have absent : key ∉ entries.keys := fun member => found (has_iff_mem_keys.mpr member)
    rw [put_of_absent absent, keys, List.map_append, List.nodup_append]
    refine ⟨distinct, by simp, fun other member last final same => absent ?_⟩
    have here : last = key := List.mem_singleton.mp final
    rwa [← here, ← same]

theorem merge_nodup (distinct : entries.keys.Nodup) : (entries.merge others).keys.Nodup := by
  unfold merge
  induction others generalizing entries with
  | nil => exact distinct
  | cons other rest ih => exact ih (put_nodup distinct)

/-- Of equal keys the last one counts. -/
theorem get?_ofList (list : List (Text × α)) (key : Text) :
    (ofList list).get? key = list.reverse.lookup key := by
  have step (entries : Entries α) :
      (entries.merge list).get? key = (list.reverse.lookup key).or (entries.get? key) := by
    unfold merge
    induction list generalizing entries with
    | nil => rfl
    | cons other rest ih =>
        have last : [other].lookup key = if other.1 = key then some other.2 else none :=
          get?_cons other.1 other.2 [] key
        rw [List.foldl_cons, ih, get?_put, List.reverse_cons, List.lookup_append, Option.or_assoc, last]
        split <;> rfl
  rw [ofList, step]
  exact Option.or_none

theorem insertByKey_mapValues (f : α → β) (entry : Text × α) (entries : Entries α) :
    insertByKey (entry.1, f entry.2) (entries.mapValues f) = (insertByKey entry entries).mapValues f := by
  induction entries with
  | nil => rfl
  | cons head rest ih =>
      simp only [mapValues, List.map_cons, insertByKey] at ih ⊢
      split
      · rw [ih, List.map_cons]
      · rfl

theorem sorted_mapValues (f : α → β) (entries : Entries α) :
    sorted (entries.mapValues f) = (sorted entries).mapValues f := by
  induction entries with
  | nil => rfl
  | cons entry rest ih =>
      simp only [sorted, mapValues, List.map_cons, List.foldr_cons] at ih ⊢
      rw [ih]
      exact insertByKey_mapValues f entry _

theorem insertByKey_perm (entry : Text × α) (entries : Entries α) :
    (insertByKey entry entries).Perm (entry :: entries) := by
  induction entries with
  | nil => exact .refl _
  | cons head rest ih =>
      rw [insertByKey]
      split
      · exact (ih.cons head).trans (.swap entry head rest)
      · exact .refl _

theorem sorted_perm (entries : Entries α) : (sorted entries).Perm entries := by
  induction entries with
  | nil => exact .refl _
  | cons entry rest ih => exact (insertByKey_perm entry _).trans (ih.cons entry)

theorem sorted_nodup (distinct : entries.keys.Nodup) : (sorted entries).keys.Nodup :=
  ((sorted_perm entries).map Prod.fst).nodup_iff.mpr distinct

end CallPlan.Entries
