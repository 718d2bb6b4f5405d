import CallPlan.Proofs.Data.Entries
import CallPlan.Proofs.Data.Except
import CallPlan.Proofs.Data.Growth
import CallPlan.Proofs.Text.Sorted
import CallPlan.Scope

/-!
The variables of a scope come from its fixed data and from storage, and lead to no cell that these do not
lead to. Their names are among those that the scope announces.
-/

namespace CallPlan

namespace Scope

variable {store : Store} {context : Context} {known : Nat → Prop}

/-- The fixed variables of a scope name only known cells. -/
inductive Within (known : Nat → Prop) : Scope → Prop
  | static {data : Entries Value} (each : ∀ entry ∈ data, entry.2.Within known) :
      Within known (.static data)
  | context {key : Text} {names : List Text} : Within known (.context key names)
  | composite {layers : List Scope} (each : ∀ layer ∈ layers, Within known layer) :
      Within known (.composite layers)

theorem Within.mono {wider : Nat → Prop} (wide : ∀ cell, known cell → wider cell) :
    ∀ {scope : Scope}, scope.Within known → scope.Within wider
  | .static _, .static each => .static fun entry member => (each entry member).mono wide
  | .context _ _, .context => .context
  | .composite _, .composite each => .composite fun layer member => (each layer member).mono wide

theorem declared_within {names : List Text} {stored : Entries Value}
    (each : ∀ entry ∈ stored, entry.2.Within known) :
    ∀ entry ∈ declared names stored, entry.2.Within known := by
  refine List.foldlRecOn (motive := fun data : Entries Value => ∀ entry ∈ data, entry.2.Within known) names _ (by simp) ?_
  intro data within name _ entry member
  cases found : stored.get? name with
  | none =>
      simp only [found] at member
      exact within entry member
  | some value =>
      simp only [found] at member
      rcases Entries.mem_put member with same | earlier
      · exact same ▸ each (name, value) (Entries.mem_of_get? found)
      · exact within entry earlier

theorem stored_within {key : Text} {data : Entries Value} (cells : ∀ (cell : Nat) (content : Cell),
      store.cells[cell]? = some content → content.Within known)
    (read : stored store context key = .ok data) : ∀ entry ∈ data, entry.2.Within known := by
  unfold stored at read
  split at read
  · cases read
    simp
  · cases read
    simp
  · cases read
    simp
  · cases read
    intro entry member
    obtain ⟨content, found, held⟩ := Store.mem_entries member
    exact cells _ content found entry.2 held
  · cases read

mutual

theorem data_within (cells : ∀ (cell : Nat) (content : Cell),
      store.cells[cell]? = some content → content.Within known) :
    ∀ {scope : Scope} {data : Entries Value}, scope.Within known →
      scope.data store context = .ok data → ∀ entry ∈ data, entry.2.Within known
  | .static data, _, .static each, read => by
      simp only [Scope.data, Except.ok.injEq] at read
      exact read ▸ each
  | .context key names, _, _, read => by
      simp only [Scope.data] at read
      split at read
      · cases read
      · rw [except_bind_ok] at read
        obtain ⟨found, given, made⟩ := read
        cases made
        exact declared_within (stored_within cells given)
  | .composite layers, _, .composite each, read => by
      simp only [Scope.data] at read
      exact dataOfLayers_within cells each (by simp) read

theorem dataOfLayers_within (cells : ∀ (cell : Nat) (content : Cell),
      store.cells[cell]? = some content → content.Within known) :
    ∀ {layers : List Scope} {index : Nat} {merged data : Entries Value},
      (∀ layer ∈ layers, layer.Within known) → (∀ entry ∈ merged, entry.2.Within known) →
      dataOfLayers store context index merged layers = .ok data →
      ∀ entry ∈ data, entry.2.Within known
  | [], _, _, _, _, earlier, read => by
      simp only [dataOfLayers, Except.ok.injEq] at read
      exact read ▸ earlier
  | layer :: rest, _, _, _, each, earlier, read => by
      simp only [dataOfLayers] at read
      split at read
      · cases read
      · next own given =>
          have first := data_within cells (each layer List.mem_cons_self) given
          exact dataOfLayers_within cells (fun other member => each other (List.mem_cons_of_mem _ member))
            (Entries.merge_all earlier first) read

end

theorem declared_names {names : List Text} {stored : Entries Value} :
    ∀ name ∈ (declared names stored).keys, name ∈ names := by
  refine List.foldlRecOn (motive := fun data => ∀ name ∈ Entries.keys data, name ∈ names) names _
    (by simp [Entries.keys]) ?_
  intro data within first listed name member
  cases found : stored.get? first with
  | none =>
      simp only [found] at member
      exact within name member
  | some value =>
      simp only [found] at member
      rcases Entries.mem_keys_put.mp member with rfl | kept
      · exact listed
      · exact within name kept

mutual

theorem data_names : ∀ {scope : Scope} {data : Entries Value}, scope.data store context = .ok data →
    ∀ name ∈ data.keys, name ∈ scope.names
  | .static data, _, read => by
      simp only [Scope.data, Except.ok.injEq] at read
      subst read
      intro name member
      exact Text.mem_sorted.mpr member
  | .context key names, _, read => by
      simp only [Scope.data] at read
      split at read
      · cases read
      · rw [except_bind_ok] at read
        obtain ⟨stored, _, made⟩ := read
        cases made
        exact declared_names
  | .composite layers, _, read => by
      simp only [Scope.data] at read
      intro name member
      rcases dataOfLayers_names read name member with merged | layered
      · cases merged
      · exact Text.mem_sorted.mpr layered

theorem dataOfLayers_names : ∀ {layers : List Scope} {index : Nat} {merged data : Entries Value},
    dataOfLayers store context index merged layers = .ok data →
    ∀ name ∈ data.keys, name ∈ merged.keys ∨ name ∈ namesOfLayers layers
  | [], _, _, _, read => by
      simp only [dataOfLayers, Except.ok.injEq] at read
      subst read
      exact fun name member => .inl member
  | layer :: rest, _, _, _, read => by
      simp only [dataOfLayers] at read
      split at read
      · cases read
      · next own given =>
          intro name member
          rcases dataOfLayers_names read name member with earlier | later
          · rcases Entries.mem_keys_merge.mp earlier with before | here
            · exact .inl before
            · exact .inr (List.mem_append_left _ (data_names given name here))
          · exact .inr (List.mem_append_right _ later)

end

end Scope
end CallPlan
