import CallPlan.Proofs.Data.Entries
import CallPlan.Proofs.Data.Except
import CallPlan.Proofs.Data.Store
import CallPlan.Scope

/-!
Putting variables into a context. All of them are stored or none, each with every layer that declares it, and
nothing else changes. Layers may share a key, declare the same names, or come twice: what one layer has stored
under a key stays when the next one stores there.
-/

namespace CallPlan

namespace Scope

variable {store : Store} {context : Context} {data : Entries Value} {layers : List Scope}

/-- One of the layers stores the variable of a name under a key. -/
def Declares (layers : List Scope) (key name : Text) : Prop :=
  ∃ names, Scope.context key names ∈ layers ∧ name ∈ names

theorem declares_append {first second : List Scope} {key name : Text} :
    Declares (first ++ second) key name ↔ Declares first key name ∨ Declares second key name := by
  simp only [Declares, List.mem_append, or_and_right, exists_or]

theorem declares_cons {layer : Scope} {rest : List Scope} {key name : Text} :
    Declares (layer :: rest) key name ↔ Declares [layer] key name ∨ Declares rest key name :=
  @declares_append [layer] rest key name

theorem declares_singleton {own key name : Text} {names : List Text} :
    Declares [.context own names] key name ↔ key = own ∧ name ∈ names := by
  simp only [Declares, List.mem_singleton, Scope.context.injEq]
  exact ⟨fun ⟨_, ⟨same, same'⟩, member⟩ => ⟨same, same' ▸ member⟩,
    fun ⟨same, member⟩ => ⟨names, ⟨same, rfl⟩, member⟩⟩

/-- Nothing, or a map whose storage is there. -/
inductive Storable (store : Store) : Option Value → Prop
  | nothing : Storable store none
  | null : Storable store (some (.plain .null))
  | absent : Storable store (some (.plain (.absent (.dict .any))))
  | map {cell : Nat} (there : cell < store.cells.size) : Storable store (some (.dict cell))

theorem Storable.mono {store' : Store} {value : Option Value} (extension : store.Extends store')
    (storable : Storable store value) : Storable store' value := by
  cases storable with
  | nothing => exact .nothing
  | null => exact .null
  | absent => exact .absent
  | map there => exact .map (Nat.lt_of_lt_of_le there extension.size_le)

/-- Nothing is stored under a key, or a map is. -/
def Holds (store : Store) (context : Context) (key : Text) : Prop := Storable store (context.get? key)

/-- The variables stored under a key. -/
def content (store : Store) (context : Context) (key : Text) : Entries Value :=
  match context.get? key with
  | some (.dict cell) => store.entries cell
  | _ => []

theorem stored_of_holds {key : Text} (holds : Holds store context key) :
    stored store context key = .ok (content store context key) := by
  unfold Holds at holds
  unfold stored content
  generalize context.get? key = value at holds
  cases holds <;> rfl

theorem holds_of_same {after : Context} {store' : Store} {key : Text} (extension : store.Extends store')
    (same : after.get? key = context.get? key) (holds : Holds store context key) :
    Holds store' after key := by
  rw [Holds, same]
  exact holds.mono extension

theorem content_of_same {after : Context} {store' : Store} {key : Text} (extension : store.Extends store')
    (same : after.get? key = context.get? key) (holds : Holds store context key) :
    content store' after key = content store context key := by
  unfold Holds at holds
  unfold content
  rw [same]
  generalize context.get? key = value at holds
  cases holds with
  | nothing | null | absent => rfl
  | map there => exact extension.entries_eq there

/-- Takes a variable over from what is stored, if it is there. -/
def take (stored data : Entries Value) (name : Text) : Entries Value :=
  (stored.get? name).elim data (data.put name)

theorem declared_eq (names : List Text) (stored : Entries Value) :
    declared names stored = names.foldl (take stored) [] := by
  refine congrArg (fun step => names.foldl step []) (funext fun data => funext fun name => ?_)
  rw [take]
  cases stored.get? name <;> rfl

theorem get?_take (stored data : Entries Value) (own name : Text) :
    (take stored data own).get? name =
      if name = own then (stored.get? name).or (data.get? name) else data.get? name := by
  rw [take]
  by_cases same : own = name
  · subst same
    cases stored.get? own with
    | some value => simp [Entries.get?_put_self]
    | none => simp
  · rw [if_neg (Ne.symm same)]
    cases stored.get? own with
    | some value => simp only [Option.elim_some, Entries.get?_put, same, if_false]
    | none => rfl

theorem get?_foldl_take (stored data : Entries Value) (names : List Text) (name : Text) :
    (names.foldl (take stored) data).get? name =
      if name ∈ names then (stored.get? name).or (data.get? name) else data.get? name := by
  induction names generalizing data with
  | nil => rfl
  | cons own rest ih =>
      rw [List.foldl_cons, ih, get?_take]
      by_cases same : name = own
      -- A name that is declared again is taken over again, from the same place.
      · simp [same, ← Option.or_assoc]
      · simp [same]

/-- What a layer gives of the variables stored under its key: those that it declares. -/
theorem get?_declared (names : List Text) (stored : Entries Value) (name : Text) :
    (declared names stored).get? name = if name ∈ names then stored.get? name else none := by
  rw [declared_eq, get?_foldl_take]
  simp

/-- The layers have stored what they declare of some variables, each under its key, and changed nothing
else. -/
structure Serves (layers : List Scope) (data : Entries Value) (before after : Context × Store) : Prop where
  kept : before.2.Extends after.2
  untouched : ∀ key, (∀ name ∈ data.keys, ¬ Declares layers key name) → after.1.get? key = before.1.get? key
  present : ∀ key, (∃ name ∈ data.keys, Declares layers key name) →
    ∃ cell, after.1.get? key = some (.dict cell)
  holds : ∀ key, Holds before.2 before.1 key → Holds after.2 after.1 key
  declared : ∀ key, Holds before.2 before.1 key → ∀ name, Declares layers key name →
    (content after.2 after.1 key).get? name = (data.get? name).or ((content before.2 before.1 key).get? name)
  others : ∀ key, Holds before.2 before.1 key → ∀ name, ¬ Declares layers key name →
    (content after.2 after.1 key).get? name = (content before.2 before.1 key).get? name

namespace Serves

variable {before middle after : Context × Store}

/-- Layers that declare none of the variables have nothing to store. -/
theorem nothing (none : ∀ key, ∀ name ∈ data.keys, ¬ Declares layers key name) :
    Serves layers data before before where
  kept := .refl _
  untouched _ _ := rfl
  present key := fun ⟨name, member, declared⟩ => (none key name member declared).elim
  holds _ holds := holds
  declared key _ name declared := by
    have absent : data.get? name = Option.none :=
      Entries.get?_eq_none_iff.mpr fun member => none key name member declared
    rw [absent, Option.none_or]
  others _ _ _ _ := rfl

theorem trans {first second : List Scope} (early : Serves first data before middle)
    (late : Serves second data middle after) : Serves (first ++ second) data before after where
  kept := early.kept.trans late.kept
  untouched key none := by
    rw [late.untouched key fun name member declared => none name member (declares_append.mpr (.inr declared)),
      early.untouched key fun name member declared => none name member (declares_append.mpr (.inl declared))]
  present key := by
    rintro ⟨name, member, declared⟩
    by_cases again : ∃ name ∈ data.keys, Declares second key name
    · exact late.present key again
    · have here : Declares first key name :=
        (declares_append.mp declared).resolve_right fun declared => again ⟨name, member, declared⟩
      obtain ⟨cell, found⟩ := early.present key ⟨name, member, here⟩
      refine ⟨cell, ?_⟩
      rw [late.untouched key fun name member declared => again ⟨name, member, declared⟩, found]
  holds key holds := late.holds key (early.holds key holds)
  declared key holds name declared := by
    have middle := early.holds key holds
    by_cases here : Declares second key name
    · rw [late.declared key middle name here]
      by_cases there : Declares first key name
      -- The variable is stored a second time, under the same key and with the same value.
      · rw [early.declared key holds name there, ← Option.or_assoc, Option.or_self]
      · rw [early.others key holds name there]
    · rw [late.others key middle name here,
        early.declared key holds name ((declares_append.mp declared).resolve_right here)]
  others key holds name none := by
    rw [declares_append, not_or] at none
    rw [late.others key (early.holds key holds) name none.2, early.others key holds name none.1]

end Serves

/-- The variables that a layer declares. -/
def own (data : Entries Value) (names : List Text) : Entries Value := data.filter (names.contains ·.1)

theorem mem_keys_own {names : List Text} {name : Text} :
    name ∈ (own data names).keys ↔ name ∈ data.keys ∧ name ∈ names := by
  simp only [own, Entries.keys, List.mem_map, List.mem_filter, List.contains_iff_mem]
  constructor
  · rintro ⟨entry, ⟨member, named⟩, rfl⟩
    exact ⟨⟨entry, member, rfl⟩, named⟩
  · rintro ⟨⟨entry, member, rfl⟩, named⟩
    exact ⟨entry, ⟨member, named⟩, rfl⟩

theorem get?_own (data : Entries Value) (names : List Text) (name : Text) :
    (own data names).get? name = if name ∈ names then data.get? name else none := by
  rw [own, Entries.get?_filter data names.contains]
  simp only [List.contains_iff_mem]

theorem nodup_own (distinct : data.keys.Nodup) (names : List Text) : (own data names).keys.Nodup :=
  Entries.nodup_keys_filter distinct _

/-- Storing under a key that is not empty what a layer declares. -/
theorem putUnder_serves (store : Store) (context : Context) {key : Text} {names : List Text}
    (distinct : data.keys.Nodup) (named : key ≠ []) (some : ∃ name ∈ data.keys, name ∈ names) : ∃ after,
      putUnder store context key names (own data names) = .ok after ∧
      Serves [.context key names] data (context, store) after := by
  have known : (own data names).keys.find? (!names.contains ·) = none := by
    rw [List.find?_eq_none]
    intro name member
    simp [(mem_keys_own.mp member).2]
  have opened : putUnder store context key names (own data names) = .ok
      (context.put key (store.newDict ((content store context key).merge (own data names))).1,
        (store.newDict ((content store context key).merge (own data names))).2) := by
    simp only [putUnder, List.isEmpty_iff, named, if_false, known]
    rfl
  refine ⟨_, opened, ?_⟩
  generalize made : store.newDict ((content store context key).merge (own data names)) = fresh
  have extension : store.Extends fresh.2 := made ▸ store.newDict_extends _
  have shown : fresh.1 = .dict store.cells.size := by
    rw [← made]
    rfl
  have entries : fresh.2.entries store.cells.size = (content store context key).merge (own data names) := by
    rw [← made]
    simp [Store.newDict, Store.alloc, Store.entries]
  have larger : store.cells.size < fresh.2.cells.size := by
    rw [← made]
    simp [Store.newDict, Store.alloc]
  have here : (context.put key fresh.1).get? key = Option.some (.dict store.cells.size) := by
    rw [Entries.get?_put_self, shown]
  have there : ∀ other, other ≠ key → (context.put key fresh.1).get? other = context.get? other := by
    intro other different
    rw [Entries.get?_put, if_neg (Ne.symm different)]
  have replaced : content fresh.2 (context.put key fresh.1) key =
      (content store context key).merge (own data names) := by
    unfold content
    rw [here]
    exact entries
  refine ⟨extension, ?_, ?_, ?_, ?_, ?_⟩
  · intro other none
    refine there other fun same => ?_
    obtain ⟨name, member, declares⟩ := some
    exact none name member (declares_singleton.mpr ⟨same, declares⟩)
  · rintro other ⟨name, _, declares⟩
    cases (declares_singleton.mp declares).1
    exact ⟨_, here⟩
  · intro other holds
    by_cases same : other = key
    · subst same
      rw [Holds, here]
      exact .map larger
    · exact holds_of_same extension (there other same) holds
  · intro other holds name declares
    obtain ⟨rfl, member⟩ := declares_singleton.mp declares
    rw [replaced, Entries.get?_merge (nodup_own distinct names), get?_own, if_pos member]
  · intro other holds name none
    by_cases same : other = key
    · subst same
      have foreign : name ∉ names := fun member => none (declares_singleton.mpr ⟨rfl, member⟩)
      rw [replaced, Entries.get?_merge (nodup_own distinct names), get?_own, if_neg foreign, Option.none_or]
    · rw [content_of_same extension (there other same) holds]

/-- What one layer does with the variables that are to be stored. -/
inductive Turn (store : Store) (context : Context) (data : Entries Value) (layer : Scope)
    (rest : List Scope) : Except Refusal (Context × Store) → Prop
  | blocked (declares : ∃ name ∈ data.keys, Declares [layer] [] name) :
      Turn store context data layer rest (.error .emptyKey)
  | served {after : Context × Store} (open' : ¬ ∃ name ∈ data.keys, Declares [layer] [] name)
      (serves : Serves [layer] data (context, store) after) :
      Turn store context data layer rest (putInLayers after.2 after.1 data rest)

theorem putInLayers_turn (store : Store) (context : Context) (distinct : data.keys.Nodup) (layer : Scope)
    (rest : List Scope) :
    Turn store context data layer rest (putInLayers store context data (layer :: rest)) := by
  -- A layer that declares nothing of it is passed over.
  have skip (none : ∀ key, ∀ name ∈ data.keys, ¬ Declares [layer] key name) :
      Turn store context data layer rest (putInLayers store context data rest) :=
    .served (fun ⟨name, member, declares⟩ => none [] name member declares) (.nothing none)
  cases layer with
  | static fixed => exact skip fun key name _ ⟨_, member, _⟩ => nomatch List.mem_singleton.mp member
  | composite inner => exact skip fun key name _ ⟨_, member, _⟩ => nomatch List.mem_singleton.mp member
  | context key names =>
      have step : putInLayers store context data (.context key names :: rest) =
          if (own data names).isEmpty then putInLayers store context data rest
          else putUnder store context key names (own data names) >>= fun after =>
            putInLayers after.2 after.1 data rest := rfl
      rw [step]
      split
      · next nothing =>
          refine skip fun other name member declares => ?_
          have mine := mem_keys_own.mpr ⟨member, (declares_singleton.mp declares).2⟩
          rw [List.isEmpty_iff.mp nothing] at mine
          cases mine
      · next something =>
          obtain ⟨name, mine⟩ : ∃ name, name ∈ (own data names).keys := by
            refine List.exists_mem_of_ne_nil _ fun none => something ?_
            exact List.isEmpty_iff.mpr (List.map_eq_nil_iff.mp none)
          have ⟨member, declares⟩ := mem_keys_own.mp mine
          by_cases empty : key = []
          · subst empty
            exact .blocked ⟨name, member, declares_singleton.mpr ⟨rfl, declares⟩⟩
          · obtain ⟨after, stored, serves⟩ :=
              putUnder_serves store context distinct empty ⟨name, member, declares⟩
            rw [stored]
            refine .served ?_ serves
            rintro ⟨_, _, declares⟩
            exact empty (declares_singleton.mp declares).1.symm

/-- A run over the layers stores what each of them declares, or ends at one whose key is empty. -/
theorem putInLayers_serves (store : Store) (context : Context) (layers : List Scope)
    (distinct : data.keys.Nodup) :
    ((∃ name ∈ data.keys, Declares layers [] name) ∧
      putInLayers store context data layers = .error .emptyKey) ∨
    (¬ ∃ name ∈ data.keys, Declares layers [] name) ∧ ∃ after,
      putInLayers store context data layers = .ok after ∧ Serves layers data (context, store) after := by
  induction layers generalizing store context with
  | nil =>
      have none : ∀ key, ∀ name ∈ data.keys, ¬ Declares [] key name :=
        fun _ _ _ ⟨_, member, _⟩ => nomatch member
      exact .inr ⟨fun ⟨name, member, declares⟩ => none [] name member declares, _, rfl, .nothing none⟩
  | cons layer rest ih =>
      have turn := putInLayers_turn store context distinct layer rest
      generalize putInLayers store context data (layer :: rest) = outcome at turn ⊢
      cases turn with
      | blocked declares =>
          obtain ⟨name, member, declares⟩ := declares
          exact .inl ⟨⟨name, member, declares_cons.mpr (.inl declares)⟩, rfl⟩
      | @served middle open' serves =>
          rcases ih middle.2 middle.1 with ⟨⟨name, member, declares⟩, stopped⟩ |
            ⟨free, after, stored, later⟩
          · exact .inl ⟨⟨name, member, declares_cons.mpr (.inr declares)⟩, stopped⟩
          · refine .inr ⟨?_, after, stored, serves.trans later⟩
            rintro ⟨name, member, declares⟩
            rcases declares_cons.mp declares with here | there
            · exact open' ⟨name, member, here⟩
            · exact free ⟨name, member, there⟩

/-- The names that no layer declares. -/
def strays (layers : List Scope) (data : Entries Value) : List Text :=
  data.keys.filter fun name => !layers.any (isDeclaredBy name)

theorem any_isDeclaredBy {name : Text} :
    layers.any (isDeclaredBy name) = true ↔ ∃ key, Declares layers key name := by
  rw [List.any_eq_true]
  constructor
  · rintro ⟨layer, member, declares⟩
    cases layer with
    | context key names => exact ⟨key, names, member, List.contains_iff_mem.mp declares⟩
    | static fixed => cases declares
    | composite inner => cases declares
  · rintro ⟨key, names, member, declares⟩
    exact ⟨_, member, List.contains_iff_mem.mpr declares⟩

theorem mem_strays {name : Text} :
    name ∈ strays layers data ↔ name ∈ data.keys ∧ ∀ key, ¬ Declares layers key name := by
  rw [strays, List.mem_filter, Bool.not_eq_true', ← Bool.not_eq_true, any_isDeclaredBy, not_exists]

/-- How an attempt to put variables into a context with several layers ends. -/
inductive Ends (layers : List Scope) (data : Entries Value) (before : Context × Store) :
    (Context × Store) × Option Refusal → Prop
  | undeclared (stray : strays layers data ≠ []) :
      Ends layers data before (before, some (.undeclared (strays layers data)))
  | emptyKey (known : strays layers data = []) (blocked : ∃ name ∈ data.keys, Declares layers [] name) :
      Ends layers data before (before, some .emptyKey)
  | stored {after : Context × Store} (known : strays layers data = [])
      (free : ¬ ∃ name ∈ data.keys, Declares layers [] name) (serves : Serves layers data before after) :
      Ends layers data before (after, none)

theorem put?_stray (stray : strays layers data ≠ []) : (Scope.composite layers).put? store context data =
    some (.error (.undeclared (strays layers data))) := by
  obtain ⟨name, rest, found⟩ := List.exists_cons_of_ne_nil stray
  rw [found]
  rw [strays] at found
  simp only [put?, found]

theorem put?_known (known : strays layers data = []) : (Scope.composite layers).put? store context data =
    some (putInLayers store context data layers) := by
  rw [strays] at known
  simp only [put?, known]

theorem add_ends (store : Store) (context : Context) (layers : List Scope) (distinct : data.keys.Nodup) :
    ∃ result, (Scope.composite layers).add store context data = some result ∧
      Ends layers data (context, store) result := by
  by_cases known : strays layers data = []
  · rcases putInLayers_serves store context layers distinct with
      ⟨blocked, refused⟩ | ⟨free, after, stored, serves⟩
    · exact ⟨_, by rw [add, put?_known known, refused]; rfl, .emptyKey known blocked⟩
    · exact ⟨_, by rw [add, put?_known known, stored]; rfl, .stored known free serves⟩
  · exact ⟨_, by rw [add, put?_stray known]; rfl, .undeclared known⟩

/-- The layers with a key have nothing but maps stored under it. -/
def Ready (store : Store) (context : Context) (layers : List Scope) : Prop :=
  ∀ key names, .context key names ∈ layers → key ≠ [] → Holds store context key

theorem Ready.of_declares {key name : Text} (ready : Ready store context layers)
    (free : ¬ ∃ name ∈ data.keys, Declares layers [] name) (member : name ∈ data.keys)
    (declares : Declares layers key name) : Holds store context key := by
  have ⟨names, among, _⟩ := declares
  refine ready key names among fun empty => ?_
  subst empty
  exact free ⟨name, member, declares⟩

/-- What a layer gives after variables were stored: what it gave before, overridden by those it declares. -/
theorem Serves.gives {before after : Context × Store} (serves : Serves layers data before after) {key : Text}
    {names : List Text} (distinct : data.keys.Nodup) (member : .context key names ∈ layers) (named : key ≠ [])
    (holds : Holds before.2 before.1 key) : ∃ old new,
      (Scope.context key names).data before.2 before.1 = .ok old ∧
      (Scope.context key names).data after.2 after.1 = .ok new ∧
      ∀ name, new.get? name = (old.merge (own data names)).get? name := by
  have read (state : Context × Store) (holds : Holds state.2 state.1 key) :
      (Scope.context key names).data state.2 state.1 =
        .ok (Scope.declared names (content state.2 state.1 key)) := by
    rw [Scope.data, if_neg (by simpa using named), stored_of_holds holds]
    rfl
  refine ⟨_, _, read before holds, read after (serves.holds key holds), fun name => ?_⟩
  rw [Entries.get?_merge (nodup_own distinct names), get?_own, get?_declared, get?_declared]
  by_cases mine : name ∈ names
  · rw [if_pos mine, if_pos mine, if_pos mine, serves.declared key holds name ⟨names, member, mine⟩]
  · rw [if_neg mine, if_neg mine, if_neg mine, Option.none_or]

/-- Two contexts have the same under a key: what was there before, or maps of the same variables. -/
inductive Agree (context : Context) (key : Text) (first second : Context × Store) : Prop
  | unchanged (same : first.1.get? key = context.get? key) (same' : second.1.get? key = context.get? key)
  | stored {cell cell' : Nat} (found : first.1.get? key = some (.dict cell))
      (found' : second.1.get? key = some (.dict cell'))
      (same : ∀ name, (first.2.entries cell).get? name = (second.2.entries cell').get? name)

theorem content_of_dict {key : Text} {cell : Nat} (found : context.get? key = some (.dict cell)) :
    content store context key = store.entries cell := by
  rw [content, found]

theorem Serves.agree {before first second : Context × Store} (serves : Serves layers data before first)
    (serves' : Serves layers data before second) (key : Text)
    (holds : ∀ name ∈ data.keys, Declares layers key name → Holds before.2 before.1 key) :
    Agree before.1 key first second := by
  by_cases touched : ∃ name ∈ data.keys, Declares layers key name
  · obtain ⟨cell, found⟩ := serves.present key touched
    obtain ⟨cell', found'⟩ := serves'.present key touched
    obtain ⟨_, member, declares⟩ := touched
    have there := holds _ member declares
    refine .stored found found' fun name => ?_
    rw [← content_of_dict found, ← content_of_dict found']
    by_cases declares : Declares layers key name
    · rw [serves.declared key there name declares, serves'.declared key there name declares]
    · rw [serves.others key there name declares, serves'.others key there name declares]
  · have none : ∀ name ∈ data.keys, ¬ Declares layers key name :=
      fun name member declares => touched ⟨name, member, declares⟩
    exact .unchanged (serves.untouched key none) (serves'.untouched key none)

/-- Nothing depends on the order in which the variables come. -/
theorem Serves.of_perm {others : Entries Value} {before after : Context × Store} (distinct : data.keys.Nodup)
    (order : others.Perm data) (serves : Serves layers others before after) :
    Serves layers data before after where
  kept := serves.kept
  untouched key none := serves.untouched key fun name member => none name ((order.map _).mem_iff.mp member)
  present key := fun ⟨name, member, declares⟩ =>
    serves.present key ⟨name, (order.map _).mem_iff.mpr member, declares⟩
  holds := serves.holds
  declared key holds name declares := by
    rw [serves.declared key holds name declares, Entries.get?_of_perm distinct order]
  others := serves.others

/-- The same refusal, or none at all. The names that no layer declares are told in the order they come in. -/
inductive RefusedAlike : Option Refusal → Option Refusal → Prop
  | neither : RefusedAlike none none
  | emptyKey : RefusedAlike (some .emptyKey) (some .emptyKey)
  | undeclared {names names' : List Text} (order : names.Perm names') :
      RefusedAlike (some (.undeclared names)) (some (.undeclared names'))

theorem strays_perm (layers : List Scope) {others : Entries Value} (order : others.Perm data) :
    (strays layers others).Perm (strays layers data) :=
  (order.map Prod.fst).filter _

theorem Ends.alike {others : Entries Value} {result result' : (Context × Store) × Option Refusal}
    (distinct : data.keys.Nodup) (order : others.Perm data) (ready : Ready store context layers)
    (ends : Ends layers data (context, store) result) (ends' : Ends layers others (context, store) result') :
    RefusedAlike result.2 result'.2 ∧ ∀ key, Agree context key result.1 result'.1 := by
  have strays := strays_perm layers order
  have keys : ∀ name, name ∈ others.keys ↔ name ∈ data.keys := fun name => (order.map Prod.fst).mem_iff
  cases ends with
  | undeclared stray =>
      cases ends' with
      | undeclared stray' => exact ⟨.undeclared strays.symm, fun key => .unchanged rfl rfl⟩
      | emptyKey known' => exact (stray (known' ▸ strays).nil_eq.symm).elim
      | stored known' => exact (stray (known' ▸ strays).nil_eq.symm).elim
  | emptyKey known blocked =>
      cases ends' with
      | undeclared stray' => exact (stray' (known ▸ strays).eq_nil).elim
      | emptyKey _ _ => exact ⟨.emptyKey, fun key => .unchanged rfl rfl⟩
      | stored _ free' =>
          obtain ⟨name, member, declares⟩ := blocked
          exact (free' ⟨name, (keys name).mpr member, declares⟩).elim
  | stored known free serves =>
      cases ends' with
      | undeclared stray' => exact (stray' (known ▸ strays).eq_nil).elim
      | emptyKey _ blocked' =>
          obtain ⟨name, member, declares⟩ := blocked'
          exact (free ⟨name, (keys name).mp member, declares⟩).elim
      | stored _ _ serves' =>
          exact ⟨.neither, fun key => serves.agree (serves'.of_perm distinct order) key
            fun name member declares => ready.of_declares free member declares⟩

/-- Putting variables into a context with several layers is refused when a variable is declared by none of
them, or by one whose key is empty, and then leaves the context as it was. Otherwise each layer gives from
then on what it gave, overridden by the variables that it declares, and nothing else changes. The order of
the variables makes no difference. -/
theorem add_all_or_none (distinct : data.keys.Nodup) (ready : Ready store context layers) : ∃ after refusal,
    (Scope.composite layers).add store context data = some (after, refusal) ∧
    (refusal ≠ none ↔ (∃ name ∈ data.keys, ∀ key, ¬ Declares layers key name) ∨
      ∃ name ∈ data.keys, Declares layers [] name) ∧
    (refusal ≠ none → after = (context, store)) ∧
    (refusal = none →
      (∀ key names, .context key names ∈ layers → key ≠ [] → ∃ old new,
        (Scope.context key names).data store context = .ok old ∧
        (Scope.context key names).data after.2 after.1 = .ok new ∧
        ∀ name, new.get? name = (old.merge (own data names)).get? name) ∧
      (∀ key, (∀ names, .context key names ∈ layers → key = []) → after.1.get? key = context.get? key) ∧
      store.Extends after.2) ∧
    ∀ others, others.Perm data → ∃ after' refusal',
      (Scope.composite layers).add store context others = some (after', refusal') ∧
      RefusedAlike refusal refusal' ∧ ∀ key, Agree context key after after' := by
  obtain ⟨⟨after, refusal⟩, added, ends⟩ := add_ends store context layers distinct
  refine ⟨after, refusal, added, ?_, ?_, ?_, fun others order => ?_⟩
  · cases ends with
    | undeclared stray =>
        obtain ⟨name, member⟩ := List.exists_mem_of_ne_nil _ stray
        exact ⟨fun _ => .inl ⟨name, mem_strays.mp member⟩, fun _ => nofun⟩
    | emptyKey _ blocked => exact ⟨fun _ => .inr blocked, fun _ => nofun⟩
    | stored known free =>
        refine ⟨fun refused => (refused rfl).elim, ?_⟩
        rintro (⟨name, stray⟩ | blocked)
        · exact absurd (mem_strays.mpr stray) (known ▸ List.not_mem_nil)
        · exact (free blocked).elim
  · cases ends with
    | undeclared => exact fun _ => rfl
    | emptyKey => exact fun _ => rfl
    | stored => exact fun refused => (refused rfl).elim
  · rintro rfl
    cases ends with
    | stored known free serves =>
        refine ⟨fun key names member named =>
            serves.gives distinct member named (ready key names member named),
          fun key unnamed => serves.untouched key fun name member declares => ?_, serves.kept⟩
        have ⟨names, among, _⟩ := declares
        cases unnamed names among
        exact free ⟨name, member, declares⟩
  · have distinct' : others.keys.Nodup := (order.map Prod.fst).nodup_iff.mpr distinct
    obtain ⟨⟨after', refusal'⟩, added', ends'⟩ := add_ends store context layers distinct'
    exact ⟨after', refusal', added', ends.alike distinct order ready ends'⟩

/-- Layers that share a key and a name, one of them listed twice, beside one with a key of its own. -/
def sharingSample : List Scope :=
  [.context "k" [Text.ofString "a", Text.ofString "b"], .context "k" [Text.ofString "b", Text.ofString "c"],
    .context "k" [Text.ofString "b", Text.ofString "c"], .context "own" [Text.ofString "d"], .static []]

def sharingStore : Store where
  cells := #[.dict [("a", .null), ("b", .null), ("z", .null)]]

def sharingData : Entries Value := [("c", .null), ("b", .plain (.bool true))]

theorem add_all_or_none_sharing :
    sharingData.keys.Nodup ∧ Ready sharingStore [("k", .dict 0)] sharingSample ∧ ∃ after,
      (Scope.composite sharingSample).add sharingStore [("k", .dict 0)] sharingData = some (after, none) ∧
      (∃ new, (Scope.context "k" [Text.ofString "a", Text.ofString "b"]).data after.2 after.1 = .ok new ∧
        new.get? "a" = some .null ∧ new.get? "b" = some (.plain (.bool true)) ∧ new.get? "c" = none) ∧
      after.1.get? "own" = none ∧ ∃ after',
      (Scope.composite sharingSample).add sharingStore [("k", .dict 0)] sharingData.reverse =
        some (after', none) ∧
      Agree [("k", .dict 0)] "k" after after' := by
  have distinct : sharingData.keys.Nodup := by decide
  have ready : Ready sharingStore [("k", .dict 0)] sharingSample := by
    intro key names member _
    simp only [sharingSample, List.mem_cons, Scope.context.injEq, reduceCtorEq, List.not_mem_nil,
      or_false] at member
    have there : Holds sharingStore [("k", .dict 0)] "k" := .map Nat.zero_lt_one
    rcases member with ⟨rfl, _⟩ | ⟨rfl, _⟩ | ⟨rfl, _⟩ | ⟨rfl, _⟩
    · exact there
    · exact there
    · exact there
    · exact .nothing
  obtain ⟨after, refusal, added, refused, -, stored, order⟩ := add_all_or_none distinct ready
  obtain rfl : refusal = none := by
    cases added
    rfl
  obtain ⟨gives, untouched, -⟩ := stored rfl
  obtain ⟨old, new, read, read', wins⟩ := gives "k" _ List.mem_cons_self (by decide)
  cases read
  obtain ⟨after', refusal', added', alike, agree⟩ := order _ sharingData.reverse_perm
  cases alike
  have own : after.1.get? "own" = none := by
    cases added
    rfl
  exact ⟨distinct, ready, after, added, ⟨new, read', wins "a", wins "b", wins "c"⟩, own, after', added',
    agree "k"⟩

end Scope
end CallPlan
