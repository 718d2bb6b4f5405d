import CallPlan.Proofs.Scope

/-!
Layers inside layers give what the list of the scopes without layers in them gives: of each name the value of
the last one that has it, and the failure of the first one that fails.
-/

namespace CallPlan

namespace Scope

variable {store : Store} {context : Context}

mutual

/-- The scopes without layers that a scope is made of, the winning ones last. -/
def leaves : Scope → List Scope
  | .static data => [.static data]
  | .context key names => [.context key names]
  | .composite layers => leavesOfLayers layers

def leavesOfLayers : List Scope → List Scope
  | [] => []
  | layer :: rest => layer.leaves ++ leavesOfLayers rest

end

theorem leavesOfLayers_eq (layers : List Scope) : leavesOfLayers layers = layers.flatMap leaves := by
  induction layers with
  | nil => rfl
  | cons layer rest ih => rw [leavesOfLayers, ih, List.flatMap_cons]

/-- Missing layers leave no trace. -/
theorem leaves_ofLayers (layers : List (Option Scope)) :
    (ofLayers layers).leaves = (layers.filterMap id).flatMap leaves :=
  leavesOfLayers_eq _

/-- The fixed variables of each leaf are a map, and the names that leaves announce are read from bytes. -/
structure Proper (scope : Scope) : Prop where
  distinct : ∀ data, .static data ∈ scope.leaves → data.keys.Nodup
  readable : ∀ leaf ∈ scope.leaves, ∀ name ∈ leaf.names, name.Readable

/-- An error as it was, or as it is told by the layers around where it happened. -/
inductive Error.Wraps (inner : Error) : Error → Prop
  | itself : Wraps inner inner
  | layer {index : Nat} {e : Error} (wraps : Wraps inner e) : Wraps inner (.layer index e)

/-- What the last of several maps that has a name gives for it. -/
def rightmost (maps : List (Entries Value)) (name : Text) : Option Value :=
  maps.reverse.findSome? (·.get? name)

theorem rightmost_append (first second : List (Entries Value)) (name : Text) :
    rightmost (first ++ second) name = (rightmost second name).or (rightmost first name) := by
  simp only [rightmost, List.reverse_append, List.findSome?_append]

theorem rightmost_singleton (own : Entries Value) (name : Text) :
    rightmost [own] name = own.get? name := by
  cases found : own.get? name <;> simp [rightmost, found]

/-- The leaves give these maps, one each. -/
def Give (store : Store) (context : Context) (leaves : List Scope) (maps : List (Entries Value)) : Prop :=
  leaves.map (data store context) = maps.map .ok

theorem Give.nil : Give store context [] [] := rfl

theorem Give.single {leaf : Scope} {own : Entries Value} (given : leaf.data store context = .ok own) :
    Give store context [leaf] [own] :=
  congrArg (fun outcome => [outcome]) given

theorem Give.append {leaves others : List Scope} {maps maps' : List (Entries Value)}
    (give : Give store context leaves maps) (give' : Give store context others maps') :
    Give store context (leaves ++ others) (maps ++ maps') := by
  rw [Give, List.map_append, List.map_append, give, give']

theorem Give.of_mem {leaves : List Scope} {maps : List (Entries Value)} {leaf : Scope}
    (give : Give store context leaves maps) (member : leaf ∈ leaves) :
    ∃ own, leaf.data store context = .ok own := by
  have given : leaf.data store context ∈ maps.map Except.ok := give ▸ List.mem_map_of_mem member
  obtain ⟨own, _, same⟩ := List.mem_map.mp given
  exact ⟨own, same.symm⟩

/-- What a list of leaves comes to when they are asked from left to right. -/
inductive Together (store : Store) (context : Context) (leaves : List Scope) :
    Except Error (Entries Value) → Prop
  | all {maps : List (Entries Value)} {data : Entries Value} (give : Give store context leaves maps)
      (distinct : data.keys.Nodup) (wins : ∀ name, data.get? name = rightmost maps name) :
      Together store context leaves (.ok data)
  | first {front back : List Scope} {leaf : Scope} {maps : List (Entries Value)} {inner e : Error}
      (split : leaves = front ++ leaf :: back) (give : Give store context front maps)
      (fails : leaf.data store context = .error inner) (wraps : Error.Wraps inner e) :
      Together store context leaves (.error e)

namespace Together

variable {leaves others : List Scope} {data merged : Entries Value} {e : Error}

theorem none : Together store context [] (.ok []) :=
  .all .nil List.nodup_nil fun _ => rfl

/-- A single leaf that gives a map. -/
theorem single {leaf : Scope} {own : Entries Value} (given : leaf.data store context = .ok own)
    (distinct : own.keys.Nodup) : Together store context [leaf] (.ok own) :=
  .all (.single given) distinct fun name => (rightmost_singleton own name).symm

theorem single_error {leaf : Scope} (fails : leaf.data store context = .error e) :
    Together store context [leaf] (.error e) :=
  .first (List.nil_append [leaf]).symm .nil fails .itself

theorem merge (seen : Together store context leaves (.ok merged))
    (next : Together store context others (.ok data)) :
    Together store context (leaves ++ others) (.ok (merged.merge data)) := by
  cases seen with
  | all give distinct wins =>
      cases next with
      | all give' distinct' wins' =>
          refine .all (give.append give') (Entries.merge_nodup distinct) fun name => ?_
          rw [Entries.get?_merge distinct', rightmost_append, wins, wins']

theorem stop (seen : Together store context leaves (.ok merged))
    (next : Together store context others (.error e)) (index : Nat) (more : List Scope) :
    Together store context (leaves ++ (others ++ more)) (.error (.layer index e)) := by
  cases seen with
  | all give =>
      cases next with
      | @first front back leaf _ _ _ split give' fails wraps =>
          have cut : leaves ++ (others ++ more) = leaves ++ front ++ leaf :: (back ++ more) := by
            rw [split]
            simp only [List.append_assoc, List.cons_append]
          exact .first cut (give.append give') fails (.layer wraps)

theorem fails_iff {outcome : Except Error (Entries Value)}
    (together : Together store context leaves outcome) :
    (∃ e, outcome = .error e) ↔ ∃ leaf ∈ leaves, ∃ e, leaf.data store context = .error e := by
  cases together with
  | all give =>
      refine ⟨nofun, fun ⟨leaf, member, e, fails⟩ => ?_⟩
      obtain ⟨own, given⟩ := give.of_mem member
      cases fails.symm.trans given
  | first split give fails wraps =>
      exact ⟨fun _ => ⟨_, split ▸ List.mem_append_right _ List.mem_cons_self, _, fails⟩, fun _ => ⟨_, rfl⟩⟩

end Together

theorem declared_nodup (names : List Text) (stored : Entries Value) :
    (declared names stored).keys.Nodup := by
  refine List.foldlRecOn (motive := fun data => (Entries.keys data).Nodup) names _ List.nodup_nil ?_
  intro data distinct name _
  cases stored.get? name with
  | none => exact distinct
  | some value => exact Entries.put_nodup distinct

mutual

theorem data_together : ∀ {scope : Scope}, (∀ data, .static data ∈ scope.leaves → data.keys.Nodup) →
    Together store context scope.leaves (scope.data store context)
  | .static data, distinct => .single rfl (distinct data List.mem_cons_self)
  | .context key names, _ => by
      cases read : (Scope.context key names).data store context with
      | error e => exact .single_error read
      | ok own =>
          refine .single read ?_
          simp only [Scope.data] at read
          split at read
          · cases read
          · obtain ⟨stored, _, made⟩ := except_bind_ok.mp read
            cases made
            exact declared_nodup names stored
  | .composite layers, distinct => by
      rw [leaves] at distinct ⊢
      rw [Scope.data]
      exact dataOfLayers_together .none distinct

/-- The layers that are left continue from the leaves of the layers before them. -/
theorem dataOfLayers_together : ∀ {layers seen : List Scope} {index : Nat} {merged : Entries Value},
    Together store context seen (.ok merged) →
    (∀ data, .static data ∈ leavesOfLayers layers → data.keys.Nodup) →
    Together store context (seen ++ leavesOfLayers layers) (dataOfLayers store context index merged layers)
  | [], seen, _, _, before, _ => by
      rw [leavesOfLayers, List.append_nil, dataOfLayers]
      exact before
  | layer :: rest, seen, index, merged, before, distinct => by
      rw [leavesOfLayers] at distinct ⊢
      have here : Together store context layer.leaves (layer.data store context) :=
        data_together fun data member => distinct data (List.mem_append_left _ member)
      rw [dataOfLayers]
      cases read : layer.data store context with
      | error e =>
          rw [read] at here
          exact before.stop here index _
      | ok own =>
          rw [read] at here
          rw [← List.append_assoc]
          exact dataOfLayers_together (before.merge here)
            fun data member => distinct data (List.mem_append_right _ member)

end

mutual

theorem mem_names_iff : ∀ {scope : Scope} {name : Text},
    name ∈ scope.names ↔ ∃ leaf ∈ scope.leaves, name ∈ leaf.names
  | .static data, name => by simp [leaves]
  | .context key names, name => by simp [leaves]
  | .composite layers, name => by
      rw [names, Text.mem_sorted, leaves]
      exact mem_namesOfLayers_iff

theorem mem_namesOfLayers_iff : ∀ {layers : List Scope} {name : Text},
    name ∈ namesOfLayers layers ↔ ∃ leaf ∈ leavesOfLayers layers, name ∈ leaf.names
  | [], name => by simp [namesOfLayers, leavesOfLayers]
  | layer :: rest, name => by
      rw [namesOfLayers, leavesOfLayers, List.mem_append, mem_names_iff, mem_namesOfLayers_iff]
      simp only [List.mem_append, or_and_right, exists_or]

end

theorem names_ascending {layers : List Scope} (proper : (composite layers).Proper) :
    Text.Ascending (composite layers).names := by
  rw [names]
  refine Text.sorted_ascending_of_readable fun name member => ?_
  obtain ⟨leaf, among, named⟩ := mem_namesOfLayers_iff.mp member
  exact proper.readable leaf among name named

/-- A scope gives what the list of its leaves gives. It fails when one of them does, with what the leftmost
failing one says; otherwise it has of each name the value of the rightmost leaf with that name. -/
theorem data_flattens (scope : Scope) (proper : scope.Proper) (store : Store) (context : Context) :
    ((∃ e, scope.data store context = .error e) ↔
      ∃ leaf ∈ scope.leaves, ∃ e, leaf.data store context = .error e) ∧
    (∀ e, scope.data store context = .error e → ∃ front leaf back maps inner,
      scope.leaves = front ++ leaf :: back ∧ Give store context front maps ∧
      leaf.data store context = .error inner ∧ Error.Wraps inner e) ∧
    (∀ data, scope.data store context = .ok data →
      (∃ maps, Give store context scope.leaves maps ∧ ∀ name, data.get? name = rightmost maps name) ∧
      ∀ name ∈ data.keys, name ∈ scope.names) ∧
    (∀ name, name ∈ scope.names ↔ ∃ leaf ∈ scope.leaves, name ∈ leaf.names) ∧
    (∀ layers, scope = .composite layers → Text.Ascending scope.names) ∧
    (∀ layers, scope = ofLayers layers → scope.leaves = (layers.filterMap id).flatMap leaves) := by
  have together : Together store context scope.leaves (scope.data store context) :=
    data_together proper.distinct
  refine ⟨together.fails_iff, fun e read => ?_, fun data read => ⟨?_, data_names read⟩,
    fun name => mem_names_iff, fun layers same => ?_, fun layers same => same ▸ leaves_ofLayers layers⟩
  · rw [read] at together
    cases together with
    | first split give fails wraps => exact ⟨_, _, _, _, _, split, give, fails, wraps⟩
  · rw [read] at together
    cases together with
    | all give _ wins => exact ⟨_, give, wins⟩
  · subst same
    exact names_ascending proper

/-- Layers with missing ones among them, inside layers, around variables of a call. -/
def nestedSample : Scope :=
  ofLayers [some (.static [("user", .plain (.text "nobody")), ("limit", .plain (.bool true))]), none,
    some (ofLayers [none, some (.context "outer" [Text.ofString "user", Text.ofString "now"])]),
    some (ofLayers [])]

def nestedStore : Store where
  cells := #[.dict [("user", .plain (.text "bob")), ("other", .null)]]

theorem data_flattens_nested :
    nestedSample.Proper ∧
    (∃ data maps, nestedSample.data nestedStore [("outer", .dict 0)] = .ok data ∧
      Give nestedStore [("outer", .dict 0)] nestedSample.leaves maps ∧
      data.get? "user" = some (.plain (.text "bob")) ∧
      rightmost maps "user" = some (.plain (.text "bob")) ∧ rightmost maps "other" = none) ∧
    (∃ front leaf back maps inner, nestedSample.leaves = front ++ leaf :: back ∧
      Give nestedStore [("outer", .plain (.bool true))] front maps ∧
      leaf.data nestedStore [("outer", .plain (.bool true))] = .error inner ∧
      Error.Wraps inner (.layer 1 (.layer 0 (.invalidData (some .bool))))) ∧
    Text.Ascending nestedSample.names := by
  have proper : nestedSample.Proper := by
    constructor
    · intro data member
      rcases List.mem_cons.mp member with same | later
      · cases same
        decide
      · cases List.mem_singleton.mp later
    · intro leaf member name named
      have unicode : ∀ leaf ∈ nestedSample.leaves, ∀ name ∈ leaf.names, name.isUnicode = true := by decide
      exact Text.ofBytes_toBytes (unicode leaf member name named)
  have read : nestedSample.data nestedStore [("outer", .dict 0)] =
      .ok [("user", .plain (.text "bob")), ("limit", .plain (.bool true))] := rfl
  have fails : nestedSample.data nestedStore [("outer", .plain (.bool true))] =
      .error (.layer 1 (.layer 0 (.invalidData (some .bool)))) := rfl
  obtain ⟨⟨maps, give, wins⟩, _⟩ := (data_flattens nestedSample proper nestedStore _).2.2.1 _ read
  have flat := data_flattens nestedSample proper nestedStore [("outer", .plain (.bool true))]
  exact ⟨proper, ⟨_, maps, read, give, rfl, (wins "user").symm, (wins "other").symm⟩, flat.2.1 _ fails,
    flat.2.2.2.2.1 _ rfl⟩

end Scope
end CallPlan
