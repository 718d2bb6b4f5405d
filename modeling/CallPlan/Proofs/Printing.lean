import CallPlan.Proofs.Argument
import CallPlan.Proofs.Data.Sameness
import CallPlan.Proofs.Json.Printing

/-!
Values printed and typed in again. A value that JSON can hold is printed as one document with the keys of
its maps in order, and that document is read as the value.
-/

namespace CallPlan

namespace Datum

mutual

/-- The values that JSON holds and gives back: Unicode texts and keys, integers of sixty-four bits, lists of
anything, and maps to anything whose keys are distinct. -/
def isPrintable : Datum → Bool
  | .null | .bool _ => true
  | .int .int64 n => int64Range n
  | .text t => t.isUnicode
  | .list .any items => allPrintable items
  | .dict .any entries => entriesPrintable entries && decide (Entries.keys entries).Nodup
  | _ => false

def allPrintable : List Datum → Bool
  | [] => true
  | item :: rest => item.isPrintable && allPrintable rest

def entriesPrintable : List (Text × Datum) → Bool
  | [] => true
  | (key, item) :: rest => key.isUnicode && item.isPrintable && entriesPrintable rest

end

mutual

/-- How deep lists and maps are nested in a value. -/
def depth : Datum → Nat
  | .list _ items => depthItems items + 1
  | .dict _ entries => depthEntries entries + 1
  | _ => 0

def depthItems : List Datum → Nat
  | [] => 0
  | item :: rest => max item.depth (depthItems rest)

def depthEntries : List (Text × Datum) → Nat
  | [] => 0
  | (_, item) :: rest => max item.depth (depthEntries rest)

end

/-- A value has a document that is read as the value. -/
structure PrintsAs (v : Datum) (json : Json) : Prop where
  made : v.toJson? = some json
  sound : json.Sound
  height : json.height = v.depth
  back : ofJson json = v.ordered

structure ItemsPrintAs (items : List Datum) (jsons : List Json) : Prop where
  made : itemsToJson? items = some jsons
  sound : ∀ json ∈ jsons, json.Sound
  height : Json.heightItems jsons = depthItems items
  back : itemsOfJson jsons = orderedItems items

structure EntriesPrintAs (entries : List (Text × Datum)) (members : List (Text × Json)) : Prop where
  made : entriesToJson? entries = some members
  keys : ∀ member ∈ members, member.1.isUnicode = true
  sound : ∀ member ∈ members, member.2.Sound
  height : Json.heightMembers members = depthEntries entries
  back : Entries.mapValues ofJson members = orderedEntries entries

theorem ItemsPrintAs.nil : ItemsPrintAs [] [] := ⟨rfl, by simp, rfl, rfl⟩

theorem ItemsPrintAs.cons {item : Datum} {rest : List Datum} {json : Json} {jsons : List Json}
    (first : item.PrintsAs json) (later : ItemsPrintAs rest jsons) :
    ItemsPrintAs (item :: rest) (json :: jsons) where
  made := by
    rw [itemsToJson?, first.made, later.made]
    rfl
  sound := List.forall_mem_cons.mpr ⟨first.sound, later.sound⟩
  height := by rw [Json.heightItems, depthItems, first.height, later.height]
  back := by rw [itemsOfJson, orderedItems, first.back, later.back]

theorem EntriesPrintAs.nil : EntriesPrintAs [] [] := ⟨rfl, by simp, by simp, rfl, rfl⟩

theorem EntriesPrintAs.cons {key : Text} {item : Datum} {rest : List (Text × Datum)} {json : Json}
    {members : List (Text × Json)} (unicode : key.isUnicode = true) (first : item.PrintsAs json)
    (later : EntriesPrintAs rest members) :
    EntriesPrintAs ((key, item) :: rest) ((key, json) :: members) where
  made := by
    rw [entriesToJson?, first.made, later.made]
    rfl
  keys := List.forall_mem_cons.mpr ⟨unicode, later.keys⟩
  sound := List.forall_mem_cons.mpr ⟨first.sound, later.sound⟩
  height := by rw [Json.heightMembers, depthEntries, first.height, later.height]
  back := by
    rw [orderedEntries, ← first.back, ← later.back]
    rfl

theorem prints_integer {n : Int} (range : int64Range n = true) :
    (Datum.int .int64 n).PrintsAs (.number (Text.ofInt n)) where
  made := rfl
  sound := Json.Numeral.literal_ofInt n ▸ .number _
  height := rfl
  back := by
    have fits : (Json.Numeral.ofInt n).Fits := Json.fits_iff.mpr
      ⟨⟨rfl, rfl⟩, by rwa [Json.Numeral.integer_ofInt]⟩
    rw [ofJson, ← Json.Numeral.literal_ofInt, Json.ofLiteral_fits fits, Json.Numeral.integer_ofInt]
    rfl

theorem heightMembers_perm {members others : List (Text × Json)} (order : members.Perm others) :
    Json.heightMembers members = Json.heightMembers others := by
  induction order with
  | nil => rfl
  | cons member _ ih => rw [Json.heightMembers, Json.heightMembers, ih]
  | swap first second rest =>
      simp only [Json.heightMembers]
      exact Nat.max_left_comm ..
  | trans _ _ first second => exact first.trans second

theorem ItemsPrintAs.list {items : List Datum} {jsons : List Json} (each : ItemsPrintAs items jsons) :
    (Datum.list .any items).PrintsAs (.list jsons) where
  made := by
    rw [toJson?, each.made]
    · rfl
    · simp
  sound := .list each.sound
  height := by rw [Json.height, depth, each.height]
  back := by
    rw [ofJson, ordered, each.back]
    rfl

theorem EntriesPrintAs.dict {entries : List (Text × Datum)} {members : List (Text × Json)}
    (each : EntriesPrintAs entries members) (distinct : (Entries.keys entries).Nodup) :
    (Datum.dict .any entries).PrintsAs (.object (Entries.sorted members)) where
  made := by
    rw [toJson?, each.made]
    rfl
  sound := by
    have listed {member : Text × Json} (held : member ∈ Entries.sorted members) : member ∈ members :=
      (Entries.sorted_perm members).mem_iff.mp held
    exact .object (fun member held => each.keys member (listed held))
      fun member held => each.sound member (listed held)
  height := by rw [Json.height, depth, heightMembers_perm (Entries.sorted_perm members), each.height]
  back := by
    have kept := Entries.sorted_nodup (by rwa [keys_orderedEntries])
    rw [ofJson, Json.membersOfJson_eq, ← Entries.sorted_mapValues, each.back,
      Entries.ofList_of_distinct kept, ordered]
    rfl

theorem exists_printsAs (v : Datum) : v.isPrintable = true → ∃ json, v.PrintsAs json := by
  refine isPrintable.induct_unfolding (fun v printable => printable = true → ∃ json, v.PrintsAs json)
    (fun entries printable => printable = true → ∃ members, EntriesPrintAs entries members)
    (fun items printable => printable = true → ∃ jsons, ItemsPrintAs items jsons)
    ?null ?bool ?int64 ?text ?list ?dict ?other ?noItem ?item ?noEntry ?entry v
  case null => exact fun _ => ⟨.null, rfl, .null, rfl, rfl⟩
  case bool => exact fun b _ => ⟨.bool b, rfl, .bool b, rfl, rfl⟩
  case int64 => exact fun n range => ⟨_, prints_integer range⟩
  case text => exact fun t unicode => ⟨.text t, rfl, .text unicode, rfl, rfl⟩
  case list =>
    intro items ih printable
    obtain ⟨jsons, each⟩ := ih printable
    exact ⟨_, each.list⟩
  case dict =>
    intro entries ih printable
    rw [Bool.and_eq_true, decide_eq_true_eq] at printable
    obtain ⟨members, each⟩ := ih printable.1
    exact ⟨_, each.dict printable.2⟩
  case other => exact fun _ _ _ _ _ _ _ printable => nomatch printable
  case noItem => exact fun _ => ⟨[], .nil⟩
  case item =>
    intro item rest first later printable
    rw [Bool.and_eq_true] at printable
    obtain ⟨json, prints⟩ := first printable.1
    obtain ⟨jsons, each⟩ := later printable.2
    exact ⟨_, .cons prints each⟩
  case noEntry => exact fun _ => ⟨[], .nil⟩
  case entry =>
    intro key item rest first later printable
    rw [Bool.and_eq_true, Bool.and_eq_true] at printable
    obtain ⟨json, prints⟩ := first printable.1.2
    obtain ⟨members, each⟩ := later printable.2
    exact ⟨_, .cons printable.1.1 prints each⟩

end Datum

namespace Argument

/-- A value that JSON holds, nested as deep as JSON may be, is printed as the bytes of an argument that is
read as the same value. -/
theorem read_write (v : Datum) (printable : v.isPrintable = true) (shallow : v.depth ≤ Json.maxDepth) :
    v.Same (read (.ofBytes (write v).toBytes)) := by
  obtain ⟨json, prints⟩ := v.exists_printsAs printable
  have document : Json.Document (json.render {}) json :=
    ⟨(prints.sound.written {}).padded, by rwa [prints.height]⟩
  have written : write v = json.render {} := by rw [write, prints.made]
  rw [written, Text.ofBytes_toBytes (prints.sound.unicode {}), read_document document, prints.back]
  exact v.same_ordered

/-- The least integer, keys out of order, characters that are escaped, and a text that looks like JSON. -/
def nested : Datum :=
  .anyDict [("n", .anyList [.int64 (-9223372036854775808), .null, .text "[1]"]),
    ("\u2028\x01", .text "\"\\"), ("", .anyDict [])]

def nestedText : Text :=
  "\x7b\"\":\x7b\x7d,\"n\":[-9223372036854775808,null,\"[1]\"],\"\\u2028\\u0001\":\"\\\"\\\\\"\x7d"

theorem read_write_nested : nested.isPrintable = true ∧ nested.depth ≤ Json.maxDepth ∧
    write nested = nestedText ∧ nested.Same (read (.ofBytes nestedText.toBytes)) := by
  have printable : nested.isPrintable = true := by decide
  have shallow : nested.depth ≤ Json.maxDepth := by decide
  have written : write nested = nestedText := by decide +kernel
  exact ⟨printable, shallow, written, written ▸ read_write nested printable shallow⟩

end Argument

end CallPlan
