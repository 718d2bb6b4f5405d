import CallPlan.Engine.Hcl.Value
import CallPlan.Engine.Risor.Value
import CallPlan.Engine.Starlark.Value
import CallPlan.Proofs.Data.Except
import CallPlan.Proofs.Data.Sameness

/-!
Values on their way through an engine. Each engine turns the host's values into its own and back. On
values made of truths, whole numbers of sixty-four bits, texts, lists and maps the engines agree: what
comes back is the value that went in, with one kind of integer and no list or map that is missing.
-/

namespace CallPlan

namespace Datum

mutual

/-- The values that every engine can hold: texts and keys in canonical composition, integers of sixty-four
bits, lists of anything, and maps to anything whose keys are distinct. -/
def isPortable : Datum → Bool
  | .null | .bool _ => true
  | .int .int n | .int .int64 n => int64Range n
  | .text t => t.normal = t
  | .list .any items => allPortable items
  | .dict .any entries => entriesPortable entries && decide (Entries.keys entries).Nodup
  | .absent (.list .any) | .absent (.dict .any) => true
  | _ => false

def allPortable : List Datum → Bool
  | [] => true
  | item :: rest => item.isPortable && allPortable rest

def entriesPortable : List (Text × Datum) → Bool
  | [] => true
  | (key, item) :: rest => key.normal = key && item.isPortable && entriesPortable rest

end

mutual

/-- A value with every integer of the widest kind, and an empty list or map for each that is missing. -/
def passed : Datum → Datum
  | .int _ n => .int64 n
  | .absent (.list .any) => .anyList []
  | .absent (.dict .any) => .anyDict []
  | .list element items => .list element (passedItems items)
  | .dict element entries => .dict element (passedEntries entries)
  | datum => datum

def passedItems : List Datum → List Datum
  | [] => []
  | item :: rest => item.passed :: passedItems rest

def passedEntries : List (Text × Datum) → List (Text × Datum)
  | [] => []
  | (key, item) :: rest => (key, item.passed) :: passedEntries rest

end

theorem keys_passedEntries (entries : List (Text × Datum)) :
    Entries.keys (passedEntries entries) = Entries.keys entries := by
  induction entries with
  | nil => rfl
  | cons entry rest ih => exact congrArg (entry.1 :: ·) ih

theorem int64Range_iff {n : Int} :
    int64Range n = true ↔ -0x8000000000000000 ≤ n ∧ n < 0x8000000000000000 := by
  simp only [int64Range, Bool.and_eq_true, decide_eq_true_eq]

end Datum

namespace Risor.Value

theorem entriesToDatum_eq (entries : List (Text × Value)) :
    entriesToDatum entries = Entries.mapValues toDatum entries := by
  induction entries with
  | nil => rfl
  | cons entry rest ih => exact congrArg ((entry.1, entry.2.toDatum) :: ·) ih

theorem wrap_of_range {n : Int} (range : Datum.int64Range n = true) : wrap n = .int n := by
  rw [Datum.int64Range_iff] at range
  rw [wrap, Int.bmod_eq_of_le (by omega) (by omega)]

end Risor.Value

namespace Hcl.Value

theorem entriesToDatum_eq (entries : List (Text × Value)) :
    entriesToDatum entries = Entries.mapValues toDatum entries := by
  induction entries with
  | nil => rfl
  | cons entry rest ih => exact congrArg ((entry.1, entry.2.toDatum) :: ·) ih

theorem bitLength_le {n bits : Nat} (small : n < Nat.pow 2 bits) : bitLength n ≤ bits := by
  unfold bitLength
  split
  · exact Nat.zero_le _
  · next positive => exact (Nat.log2_lt positive).mpr small

/-- An integer of sixty-four bits is a number that is read back as itself. -/
theorem numberToDatum_ofInt {n : Int} (range : Datum.int64Range n = true) :
    numberToDatum (.ofInt n) = .int64 n := by
  have bounds := Datum.int64Range_iff.mp range
  have short : bitLength n.natAbs ≤ 64 := by
    refine bitLength_le ?_
    change n.natAbs < 0x10000000000000000
    omega
  have top : (Wide.ofInt n).top ≤ (64 : Nat) := by
    simp only [Wide.ofInt, Wide.top]
    omega
  have whole : (Wide.ofInt n).truncate = n := by
    have one : pow2 (0 : Int).toNat = 1 := rfl
    simp only [Wide.ofInt, Wide.truncate, Int.le_refl, if_true, one, Nat.mul_one, decide_eq_true_eq]
    split <;> omega
  have found : (Wide.ofInt n).toIntOf? 64 = some n := by
    have exact : (Wide.ofInt n).isInteger = true := rfl
    simp only [Wide.toIntOf?, top, if_true, Wide.toInt?, exact, whole]
  simp only [numberToDatum, found, range, if_true]

/-- Attributes whose names are distinct and in canonical composition make an object as they stand. -/
theorem ofAttributes_eq {attributes : List (Text × Value)} (distinct : (Entries.keys attributes).Nodup)
    (normal : ∀ name ∈ Entries.keys attributes, name.normal = name) :
    ofAttributes attributes = .object (Entries.sorted attributes) := by
  have same : attributes.map (fun entry => (entry.1.normal, entry.2)) = attributes := by
    refine (List.map_congr_left fun entry member => ?_).trans (List.map_id attributes)
    exact congrArg (Prod.mk · entry.2) (normal _ (List.mem_map_of_mem member))
  rw [ofAttributes]
  simp only [same, Entries.ofList_of_distinct distinct]

end Hcl.Value

namespace Datum

/-- A value passes the engines: each can hold it, and gives it back. -/
structure Passes (v : Datum) : Prop where
  starlark : ∃ x, Starlark.Value.ofDatum? v = some x ∧ x.toDatum = .ok v.passed
  hcl : ∃ y, Hcl.Value.ofDatum? v = .ok (some y) ∧ y.toDatum = v.passed.ordered
  risor : ∃ z, Risor.Value.ofDatum? v = some z ∧ z.toDatum = v.passed.ordered

structure ItemsPass (items : List Datum) : Prop where
  starlark : ∃ xs, Starlark.Value.itemsOfDatum? items = some xs ∧
    Starlark.Value.itemsToDatum xs = .ok (passedItems items)
  hcl : ∃ ys, Hcl.Value.itemsOfDatum? items = .ok (some ys) ∧
    Hcl.Value.itemsToDatum ys = orderedItems (passedItems items)
  risor : ∃ zs, Risor.Value.itemsOfDatum? items = some zs ∧
    Risor.Value.itemsToDatum zs = orderedItems (passedItems items)

structure EntriesPass (entries : List (Text × Datum)) : Prop where
  starlark : ∃ xs, Starlark.Value.entriesOfDatum? entries = some xs ∧
    Starlark.Value.entriesToDatum xs = .ok (passedEntries entries)
  hcl : ∃ ys, Hcl.Value.entriesOfDatum? entries = .ok (some ys) ∧
    Entries.mapValues Hcl.Value.toDatum ys = orderedEntries (passedEntries entries)
  risor : ∃ zs, Risor.Value.entriesOfDatum? entries = some zs ∧
    Entries.mapValues Risor.Value.toDatum zs = orderedEntries (passedEntries entries)
  normal : ∀ key ∈ Entries.keys entries, key.normal = key

theorem ItemsPass.nil : ItemsPass [] := ⟨⟨_, rfl, rfl⟩, ⟨_, rfl, rfl⟩, ⟨_, rfl, rfl⟩⟩

theorem ItemsPass.cons {item : Datum} {rest : List Datum} (first : item.Passes) (later : ItemsPass rest) :
    ItemsPass (item :: rest) := by
  obtain ⟨⟨x, made, back⟩, ⟨y, made', back'⟩, ⟨z, made'', back''⟩⟩ := first
  obtain ⟨⟨xs, others, backs⟩, ⟨ys, others', backs'⟩, ⟨zs, others'', backs''⟩⟩ := later
  refine ⟨⟨x :: xs, ?_, ?_⟩, ⟨y :: ys, ?_, ?_⟩, ⟨z :: zs, ?_, ?_⟩⟩
  · simp only [Starlark.Value.itemsOfDatum?, made, others]
    rfl
  · simp only [Starlark.Value.itemsToDatum, back, backs]
    rfl
  · simp only [Hcl.Value.itemsOfDatum?, made', others']
    rfl
  · simp only [Hcl.Value.itemsToDatum, back', backs', passedItems, orderedItems]
  · simp only [Risor.Value.itemsOfDatum?, made'', others'']
    rfl
  · simp only [Risor.Value.itemsToDatum, back'', backs'', passedItems, orderedItems]

theorem EntriesPass.nil : EntriesPass [] :=
  ⟨⟨_, rfl, rfl⟩, ⟨_, rfl, rfl⟩, ⟨_, rfl, rfl⟩, fun _ member => nomatch member⟩

theorem EntriesPass.cons {key : Text} {item : Datum} {rest : List (Text × Datum)} (normal : key.normal = key)
    (first : item.Passes) (later : EntriesPass rest) : EntriesPass ((key, item) :: rest) := by
  obtain ⟨⟨x, made, back⟩, ⟨y, made', back'⟩, ⟨z, made'', back''⟩⟩ := first
  obtain ⟨⟨xs, others, backs⟩, ⟨ys, others', backs'⟩, ⟨zs, others'', backs''⟩, normals⟩ := later
  refine ⟨⟨(.text key, x) :: xs, ?_, ?_⟩, ⟨(key, y) :: ys, ?_, ?_⟩, ⟨(key, z) :: zs, ?_, ?_⟩,
    List.forall_mem_cons.mpr ⟨normal, normals⟩⟩
  · simp only [Starlark.Value.entriesOfDatum?, made, others]
    rfl
  · simp only [Starlark.Value.entriesToDatum, back, backs]
    rfl
  · simp only [Hcl.Value.entriesOfDatum?, made', others']
    rfl
  · exact congr (congrArg _ (congrArg (Prod.mk key) back')) backs'
  · simp only [Risor.Value.entriesOfDatum?, made'', others'']
    rfl
  · exact congr (congrArg _ (congrArg (Prod.mk key) back'')) backs''

theorem Passes.list {items : List Datum} (each : ItemsPass items) : (Datum.list .any items).Passes := by
  obtain ⟨⟨xs, made, back⟩, ⟨ys, made', back'⟩, ⟨zs, made'', back''⟩⟩ := each
  refine ⟨⟨.list xs, ?_, ?_⟩, ⟨.tuple ys, ?_, ?_⟩, ⟨.list zs, ?_, ?_⟩⟩
  · simp only [Starlark.Value.ofDatum?, made, Option.map_some]
  · simp only [Starlark.Value.toDatum, back]
    rfl
  · simp only [Hcl.Value.ofDatum?, made']
    rfl
  · simp only [Hcl.Value.toDatum, back', passed, ordered, anyList]
  · simp only [Risor.Value.ofDatum?, made'', Option.map_some]
  · simp only [Risor.Value.toDatum, back'', passed, ordered, anyList]

theorem Passes.dict {entries : List (Text × Datum)} (each : EntriesPass entries)
    (distinct : (Entries.keys entries).Nodup) : (Datum.dict .any entries).Passes := by
  obtain ⟨⟨xs, made, back⟩, ⟨ys, made', back'⟩, ⟨zs, made'', back''⟩, normal⟩ := each
  -- The keys stay as they are all the way.
  have keys : Entries.keys ys = Entries.keys entries := by
    rw [← Entries.keys_mapValues Hcl.Value.toDatum, back', keys_orderedEntries, keys_passedEntries]
  refine ⟨⟨.dict xs, ?_, ?_⟩, ⟨.object (Entries.sorted ys), ?_, ?_⟩, ⟨.map (Entries.sorted zs), ?_, ?_⟩⟩
  · simp only [Starlark.Value.ofDatum?, made, Option.map_some]
  · simp only [Starlark.Value.toDatum, back, except_ok_bind, except_pure, passed, anyDict]
    rw [Entries.ofList_of_distinct (by rwa [keys_passedEntries])]
  · simp only [Hcl.Value.ofDatum?, made', except_ok_bind, except_pure, Option.map_some]
    rw [Hcl.Value.ofAttributes_eq (by rwa [keys]) (by rwa [keys])]
  · simp only [Hcl.Value.toDatum, Hcl.Value.entriesToDatum_eq, ← Entries.sorted_mapValues, back', passed,
      ordered, anyDict]
  · simp only [Risor.Value.ofDatum?, made'', Option.map_some]
  · simp only [Risor.Value.toDatum, Risor.Value.entriesToDatum_eq, ← Entries.sorted_mapValues, back'',
      passed, ordered, anyDict]

theorem Passes.integer {n : Int} (range : int64Range n = true) :
    (Datum.int .int n).Passes ∧ (Datum.int .int64 n).Passes := by
  have starlark : (Starlark.Value.int n).toDatum = .ok (.int64 n) := by
    simp only [Starlark.Value.toDatum, range, if_true]
  have hcl : (Hcl.Value.number (.ofInt n)).toDatum = .int64 n := Hcl.Value.numberToDatum_ofInt range
  have risor : (Risor.Value.wrap n).toDatum = .int64 n := by
    rw [Risor.Value.wrap_of_range range, Risor.Value.toDatum]
  exact ⟨⟨⟨_, rfl, starlark⟩, ⟨_, rfl, hcl⟩, ⟨_, rfl, risor⟩⟩,
    ⟨⟨_, rfl, starlark⟩, ⟨_, rfl, hcl⟩, ⟨_, rfl, risor⟩⟩⟩

theorem passes_of_portable (v : Datum) : v.isPortable = true → v.Passes := by
  refine isPortable.induct_unfolding (fun v portable => portable = true → v.Passes)
    (fun entries portable => portable = true → EntriesPass entries)
    (fun items portable => portable = true → ItemsPass items)
    ?null ?bool ?int ?int64 ?text ?list ?dict ?noList ?noDict ?other ?noItem ?item ?noEntry ?entry v
  case null => exact fun _ => ⟨⟨_, rfl, rfl⟩, ⟨_, rfl, rfl⟩, ⟨_, rfl, rfl⟩⟩
  case bool => exact fun value _ => ⟨⟨_, rfl, rfl⟩, ⟨_, rfl, rfl⟩, ⟨_, rfl, rfl⟩⟩
  case int => exact fun n range => (Passes.integer range).1
  case int64 => exact fun n range => (Passes.integer range).2
  case text =>
    intro t normal
    refine ⟨⟨_, rfl, rfl⟩, ⟨_, rfl, ?_⟩, ⟨_, rfl, rfl⟩⟩
    rw [Hcl.Value.ofText, of_decide_eq_true normal]
    rfl
  case list => exact fun items ih portable => .list (ih portable)
  case dict =>
    intro entries ih portable
    rw [Bool.and_eq_true, decide_eq_true_eq] at portable
    exact .dict (ih portable.1) portable.2
  case noList => exact fun _ => ⟨⟨_, rfl, rfl⟩, ⟨_, rfl, rfl⟩, ⟨_, rfl, rfl⟩⟩
  case noDict => exact fun _ => ⟨⟨_, rfl, rfl⟩, ⟨_, rfl, rfl⟩, ⟨_, rfl, rfl⟩⟩
  case other => exact fun _ _ _ _ _ _ _ _ _ _ portable => nomatch portable
  case noItem => exact fun _ => .nil
  case item =>
    intro item rest first later portable
    rw [Bool.and_eq_true] at portable
    exact .cons (first portable.1) (later portable.2)
  case noEntry => exact fun _ => .nil
  case entry =>
    intro key item rest first later portable
    rw [Bool.and_eq_true, Bool.and_eq_true, decide_eq_true_eq] at portable
    exact .cons portable.1.1 (first portable.1.2) (later portable.2)

/-- The engines agree on the values that they pass. Each can hold a value of this kind and gives back the
same: integers of the widest kind, lists of the same length and order, maps with the same keys, and none of
them missing. -/
theorem engines_agree (v : Datum) (portable : v.isPortable = true) :
    ∃ result : Datum, v.passed.Same result ∧
      (∃ x, Starlark.Value.ofDatum? v = some x ∧ x.toDatum = .ok v.passed) ∧
      (∃ y, Hcl.Value.ofDatum? v = .ok (some y) ∧ y.toDatum = result) ∧
      (∃ z, Risor.Value.ofDatum? v = some z ∧ z.toDatum = result) := by
  have passes := passes_of_portable v portable
  exact ⟨v.passed.ordered, same_ordered v.passed, passes.starlark, passes.hcl, passes.risor⟩

/-- A map in a map, with a list of the least integer and of a map that is missing. -/
def portableSample : Datum :=
  .anyDict [("b", .anyList [.int .int (-0x8000000000000000), .null, .absent (.dict .any)]),
    ("a", .anyDict [("\u00e9", .text "\u00fc"), ("", .bool true)])]

theorem engines_agree_nested : portableSample.isPortable = true ∧
    ∃ result : Datum, portableSample.passed.Same result ∧
      (∃ x, Starlark.Value.ofDatum? portableSample = some x ∧ x.toDatum = .ok portableSample.passed) ∧
      (∃ y, Hcl.Value.ofDatum? portableSample = .ok (some y) ∧ y.toDatum = result) ∧
      (∃ z, Risor.Value.ofDatum? portableSample = some z ∧ z.toDatum = result) :=
  ⟨by decide, engines_agree portableSample (by decide)⟩

example : portableSample.passed.ordered =
    .anyDict [("a", .anyDict [("", .bool true), ("\u00e9", .text "\u00fc")]),
      ("b", .anyList [.int64 (-0x8000000000000000), .null, .anyDict []])] := by rfl

end Datum
end CallPlan
