import CallPlan.Document
import CallPlan.Proofs.Cbor

/-!
A document is read back from its bytes. Fields of no content are left out when it is written, and are
read as having none.
-/

namespace CallPlan

/-- A text that can stand in a document. -/
structure Text.Encodable (t : Text) : Prop where
  unicode : t.isUnicode = true
  fits : t.size < Cbor.argumentLimit

instance (t : Text) : Decidable t.Encodable :=
  decidable_of_iff (t.isUnicode = true ∧ t.size < Cbor.argumentLimit)
    ⟨fun both => ⟨both.1, both.2⟩, fun encodable => ⟨encodable.unicode, encodable.fits⟩⟩

structure DocumentParam.Encodable (p : DocumentParam) : Prop where
  name : p.name.Encodable
  sigil : p.sigil < 256
  traits : ∀ trait ∈ p.traits, trait.Encodable
  fewTraits : p.traits.length ≤ Cbor.maxElements
  defaultSource : p.defaultSource.Encodable

structure Document.Encodable (d : Document) : Prop where
  version : d.version < 256
  text : d.text.Encodable
  invocant : d.invocant.Encodable
  params : ∀ params, d.params = some params → ∀ p ∈ params, p.Encodable
  fewParams : ∀ params, d.params = some params → params.length ≤ Cbor.maxElements

namespace Document

open Cbor (Item)

/-- The number of a field, from a key that is a number. -/
def number : Item → Option Nat
  | .unsigned n => some n
  | _ => none

/-- Fields that can be read at a depth, with numbers for keys. -/
def Fields (depth : Nat) (entries : List (Item × Item)) : Prop :=
  ∀ entry ∈ entries, (∃ n < Cbor.argumentLimit, entry.1 = .unsigned n) ∧ entry.2.Readable depth

namespace Fields

variable {depth key : Nat} {entries others : List (Item × Item)}

theorem nil : Fields depth [] := by simp [Fields]

theorem append (first : Fields depth entries) (second : Fields depth others) :
    Fields depth (entries ++ others) := by
  intro entry member
  rcases List.mem_append.mp member with earlier | later
  · exact first entry earlier
  · exact second entry later

theorem single {value : Item} (small : key < Cbor.argumentLimit) (readable : value.Readable depth) :
    Fields depth [(.unsigned key, value)] := by
  intro entry member
  rw [List.mem_singleton.mp member]
  exact ⟨⟨key, small, rfl⟩, readable⟩

theorem textField {t : Text} (small : key < Cbor.argumentLimit) (encodable : t.Encodable) :
    Fields depth (textField key t) := by
  unfold Document.textField
  split
  · exact nil
  · exact single small (.text encodable.unicode encodable.fits)

theorem flagField (flag : Bool) (small : key < Cbor.argumentLimit) :
    Fields depth (flagField key flag) := by
  unfold Document.flagField
  split
  · exact single small (.simple (.inl (by decide)))
  · exact nil

theorem listField {texts : List Text} (small : key < Cbor.argumentLimit)
    (encodable : ∀ t ∈ texts, t.Encodable) (few : texts.length ≤ Cbor.maxElements)
    (nested : depth < Cbor.maxDepth) : Fields depth (listField key texts) := by
  unfold Document.listField
  split
  · exact nil
  · refine single small (.array nested (by simpa using few) fun item member => ?_)
    obtain ⟨t, listed, rfl⟩ := List.mem_map.mp member
    exact .text (encodable t listed).unicode (encodable t listed).fits

theorem readable (fields : Fields (depth + 1) entries) (nested : depth < Cbor.maxDepth)
    (few : entries.length ≤ Cbor.maxElements) : (Item.map entries).Readable depth := by
  refine .map nested few (fun entry member => ?_) fun entry member => (fields entry member).2
  obtain ⟨⟨n, small, same⟩, -⟩ := fields entry member
  rw [same]
  exact .unsigned small

end Fields

/-- The fields of a map with numbers for keys. -/
def numbered (entries : List (Item × Item)) : List (Option Nat × Item) :=
  entries.map fun entry => (number entry.1, entry.2)

theorem mapM_some {α β : Type} {read : α → Option β} {value : α → β} {list : List α}
    (each : ∀ a ∈ list, read a = some (value a)) : list.mapM read = some (list.map value) := by
  induction list with
  | nil => rfl
  | cons a rest ih =>
      have first := each a List.mem_cons_self
      have later := ih fun b member => each b (List.mem_cons_of_mem _ member)
      simp [List.mapM_cons, first, later]

theorem fields?_map {depth : Nat} {entries : List (Item × Item)} (fields : Fields depth entries) :
    fields? (.map entries) = some (numbered entries) := by
  simp only [fields?, untag?, Option.bind_eq_bind, Option.bind_some]
  refine mapM_some fun entry member => ?_
  obtain ⟨⟨n, -, same⟩, -⟩ := fields entry member
  simp [same, fieldKey?, number]

@[simp] theorem numbered_append (entries others : List (Item × Item)) :
    numbered (entries ++ others) = numbered entries ++ numbered others := List.map_append

@[simp] theorem numbered_cons (key : Nat) (value : Item) (rest : List (Item × Item)) :
    numbered ((.unsigned key, value) :: rest) = (some key, value) :: numbered rest := rfl

@[simp] theorem numbered_nil : numbered [] = [] := rfl

@[simp] theorem lookup_field (key other : Nat) (value : Item) (rest : List (Option Nat × Item)) :
    ((some other, value) :: rest).lookup (some key) =
      if key = other then some value else rest.lookup (some key) := by
  rw [List.lookup_cons]
  by_cases same : key = other
  · simp [same]
  · have different : (some key == some other) = false := by simpa using same
    simp [same, different]

/-! What a field that may be left out gives for a key. -/

@[simp] theorem lookup_textField (key other : Nat) (t : Text) :
    (numbered (textField other t)).lookup (some key) =
      if key = other ∧ t ≠ [] then some (.text t) else none := by
  cases t <;> by_cases same : key = other <;> simp [textField, same]

@[simp] theorem lookup_flagField (key other : Nat) (flag : Bool) :
    (numbered (flagField other flag)).lookup (some key) =
      if key = other ∧ flag = true then some (.simple 21) else none := by
  cases flag <;> by_cases same : key = other <;> simp [flagField, same]

@[simp] theorem lookup_listField (key other : Nat) (texts : List Text) :
    (numbered (listField other texts)).lookup (some key) =
      if key = other ∧ texts ≠ [] then some (.array (texts.map .text)) else none := by
  cases texts <;> by_cases same : key = other <;> simp [listField, same]

theorem text?_text {t : Text} (unicode : t.isUnicode = true) : text? (.text t) = some t := by
  simp [text?, untag?, unicode]

theorem byte?_unsigned {n : Nat} (small : n < 256) : byte? (.unsigned n) = some n := by
  simp [byte?, untag?, small]

theorem list?_array {α : Type} {read : Item → Option α} {write : α → Item} {list : List α}
    (each : ∀ a ∈ list, read (write a) = some a) :
    list? read (.array (list.map write)) = some (some list) := by
  have all : (list.map write).mapM read = some list := by
    rw [List.mapM_map]
    exact (mapM_some each).trans (by rw [List.map_id'])
  simp [list?, untag?, all]

/-- A field of text, written or left out, is read as its text. -/
theorem field?_text {fields : List (Option Nat × Item)} {key : Nat} {t : Text}
    (unicode : t.isUnicode = true)
    (found : fields.lookup (some key) = if t ≠ [] then some (.text t) else none) :
    field? fields key [] text? = some t := by
  rw [field?, found]
  cases t with
  | nil => rfl
  | cons g rest => simpa using text?_text unicode

theorem field?_flag {fields : List (Option Nat × Item)} {key : Nat} {flag : Bool}
    (found : fields.lookup (some key) = if flag = true then some (.simple 21) else none) :
    field? fields key false flag? = some flag := by
  rw [field?, found]
  cases flag <;> rfl

theorem field?_list {fields : List (Option Nat × Item)} {key : Nat} {texts : List Text}
    (unicode : ∀ t ∈ texts, t.isUnicode = true)
    (found : fields.lookup (some key) =
      if texts ≠ [] then some (.array (texts.map .text)) else none) :
    ∃ list, field? fields key none (list? text?) = some list ∧ list.getD [] = texts := by
  rw [field?, found]
  cases texts with
  | nil => exact ⟨none, rfl, rfl⟩
  | cons t rest =>
      refine ⟨some (t :: rest), ?_, rfl⟩
      simpa using list?_array fun t member => text?_text (unicode t member)

/-- The fields of a parameter as they are written. -/
def paramEntries (p : DocumentParam) : List (Item × Item) :=
  [(.unsigned 1, .text p.name), (.unsigned 2, .unsigned p.sigil)] ++
    flagField 3 p.named ++ flagField 4 p.refAlias ++ listField 5 p.traits ++
    textField 6 p.defaultSource ++ flagField 7 p.optional ++ flagField 8 p.required

theorem paramEntries_fields {p : DocumentParam} (encodable : p.Encodable) :
    Fields 3 (paramEntries p) := by
  have small : p.sigil < Cbor.argumentLimit := Nat.lt_trans encodable.sigil (by decide)
  have front : Fields 3 [(.unsigned 1, .text p.name), (.unsigned 2, .unsigned p.sigil)] :=
    (Fields.single (by decide) (.text encodable.name.unicode encodable.name.fits)).append
      (.single (by decide) (.unsigned small))
  have middle := ((front.append (.flagField p.named (by decide : 3 < _))).append
    (.flagField p.refAlias (by decide : 4 < _))).append
    (.listField (by decide : 5 < _) encodable.traits encodable.fewTraits (by decide))
  exact ((middle.append (.textField (by decide : 6 < _) encodable.defaultSource)).append
    (.flagField p.optional (by decide : 7 < _))).append (.flagField p.required (by decide : 8 < _))

theorem length_textField (key : Nat) (t : Text) : (textField key t).length ≤ 1 := by
  unfold textField
  split <;> simp

theorem length_flagField (key : Nat) (flag : Bool) : (flagField key flag).length ≤ 1 := by
  unfold flagField
  split <;> simp

theorem length_listField (key : Nat) (texts : List Text) : (listField key texts).length ≤ 1 := by
  unfold listField
  split <;> simp

theorem length_paramEntries (p : DocumentParam) : (paramEntries p).length ≤ 8 := by
  have named := length_flagField 3 p.named
  have refAlias := length_flagField 4 p.refAlias
  have traits := length_listField 5 p.traits
  have defaultSource := length_textField 6 p.defaultSource
  have optional := length_flagField 7 p.optional
  have required := length_flagField 8 p.required
  simp only [paramEntries, List.length_append, List.length_cons, List.length_nil]
  omega

theorem paramItem_readable {p : DocumentParam} (encodable : p.Encodable) :
    (paramItem p).Readable 2 :=
  (paramEntries_fields encodable).readable (by decide)
    (Nat.le_trans (length_paramEntries p) (by decide))

theorem param?_paramItem {p : DocumentParam} (encodable : p.Encodable) :
    param? (paramItem p) = some p := by
  have written : fields? (paramItem p) = some (numbered (paramEntries p)) :=
    fields?_map (paramEntries_fields encodable)
  have name : field? (numbered (paramEntries p)) 1 [] text? = some p.name := by
    simp [field?, paramEntries, text?_text encodable.name.unicode]
  have sigil : field? (numbered (paramEntries p)) 2 0 byte? = some p.sigil := by
    simp [field?, paramEntries, byte?_unsigned encodable.sigil]
  have named : field? (numbered (paramEntries p)) 3 false flag? = some p.named :=
    field?_flag (by simp [paramEntries, List.lookup_append])
  have refAlias : field? (numbered (paramEntries p)) 4 false flag? = some p.refAlias :=
    field?_flag (by simp [paramEntries, List.lookup_append])
  obtain ⟨list, traits, given⟩ : ∃ list, field? (numbered (paramEntries p)) 5 none (list? text?) =
      some list ∧ list.getD [] = p.traits :=
    field?_list (fun t member => (encodable.traits t member).unicode) (by simp [paramEntries, List.lookup_append])
  have defaultSource : field? (numbered (paramEntries p)) 6 [] text? = some p.defaultSource :=
    field?_text encodable.defaultSource.unicode (by simp [paramEntries, List.lookup_append])
  have optional : field? (numbered (paramEntries p)) 7 false flag? = some p.optional :=
    field?_flag (by simp [paramEntries, List.lookup_append])
  have required : field? (numbered (paramEntries p)) 8 false flag? = some p.required :=
    field?_flag (by simp [paramEntries, List.lookup_append])
  simp [param?, written, name, sigil, named, refAlias, traits, given, defaultSource, optional,
    required]

/-- The fields of a document as they are written. -/
def entries (d : Document) : List (Item × Item) :=
  [(.unsigned 1, .unsigned d.version)] ++ textField 2 d.text ++ textField 3 d.invocant ++
    flagField 4 d.passthrough ++ [(.unsigned 5, paramsItem d.params)]

theorem paramsItem_readable {d : Document} (encodable : d.Encodable) :
    (paramsItem d.params).Readable 1 := by
  cases given : d.params with
  | none => exact .simple (.inl (by decide))
  | some params =>
      have few := encodable.fewParams params given
      refine .array (by decide) (by simpa using few) fun item member => ?_
      obtain ⟨p, listed, rfl⟩ := List.mem_map.mp member
      exact paramItem_readable (encodable.params params given p listed)

theorem entries_fields {d : Document} (encodable : d.Encodable) : Fields 1 d.entries := by
  have small : d.version < Cbor.argumentLimit := Nat.lt_trans encodable.version (by decide)
  have first : Fields 1 [(.unsigned 1, .unsigned d.version)] :=
    .single (by decide) (.unsigned small)
  have texts := (first.append (.textField (by decide : 2 < _) encodable.text)).append
    (.textField (by decide : 3 < _) encodable.invocant)
  exact (texts.append (.flagField d.passthrough (by decide : 4 < _))).append
    (.single (by decide : 5 < _) (paramsItem_readable encodable))

theorem item_readable {d : Document} (encodable : d.Encodable) : d.item.Readable 0 := by
  refine (entries_fields encodable).readable (by decide) ?_
  have text := length_textField 2 d.text
  have invocant := length_textField 3 d.invocant
  have passthrough := length_flagField 4 d.passthrough
  simp only [entries, List.length_append, List.length_cons, List.length_nil, Cbor.maxElements]
  omega

/-- A document is read back from its item. -/
theorem ofItem?_item {d : Document} (encodable : d.Encodable) : ofItem? d.item = some d := by
  have written : fields? d.item = some (numbered d.entries) :=
    fields?_map (entries_fields encodable)
  have version : field? (numbered d.entries) 1 0 byte? = some d.version := by
    simp [field?, entries, byte?_unsigned encodable.version]
  have text : field? (numbered d.entries) 2 [] text? = some d.text :=
    field?_text encodable.text.unicode (by simp [entries, List.lookup_append])
  have invocant : field? (numbered d.entries) 3 [] text? = some d.invocant :=
    field?_text encodable.invocant.unicode (by simp [entries, List.lookup_append])
  have passthrough : field? (numbered d.entries) 4 false flag? = some d.passthrough :=
    field?_flag (by simp [entries, List.lookup_append])
  have params : field? (numbered d.entries) 5 none (list? param?) = some d.params := by
    have read : list? param? (paramsItem d.params) = some d.params := by
      cases given : d.params with
      | none => rfl
      | some params =>
          exact list?_array fun p member => param?_paramItem (encodable.params params given p member)
    simp [field?, entries, List.lookup_append, read]
  simp [ofItem?, written, version, text, invocant, passthrough, params]

end Document
end CallPlan
