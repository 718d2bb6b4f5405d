import CallPlan.Proofs.Document
import Mathlib.Data.List.Basic

/-!
Documents are told apart by their bytes. No encoding of an item is the start of another's, so a sequence
of items is given by its bytes; and a field that is left out could not have been written otherwise. This
holds of documents of any size, also of those that a reader would refuse.
-/

namespace CallPlan

namespace Cbor

/-- The items that documents are made of, with arguments that a head can carry. -/
inductive Item.Writable : Item → Prop
  | unsigned {n : Nat} (fits : n < argumentLimit) : Writable (.unsigned n)
  | text {content : Text} (unicode : content.isUnicode = true) (fits : content.size < argumentLimit) :
      Writable (.text content)
  | array {items : List Item} (fits : items.length < argumentLimit)
      (each : ∀ item ∈ items, Writable item) : Writable (.array items)
  | map {entries : List (Item × Item)} (fits : entries.length < argumentLimit)
      (keys : ∀ entry ∈ entries, Writable entry.1) (values : ∀ entry ∈ entries, Writable entry.2) :
      Writable (.map entries)
  | simple {n : Nat} (fits : n < argumentLimit) : Writable (.simple n)

/-- An item is the only writable one whose encoding stands at the front of some bytes. -/
def Item.Told (item : Item) : Prop :=
  ∀ (other : Item) (rest rest' : List UInt8), other.Writable →
    item.encode ++ rest = other.encode ++ rest' → item = other ∧ rest = rest'

variable {item : Item} {items others : List Item} {entries entries' : List (Item × Item)}
  {rest rest' : List UInt8}

theorem head_cancel {major major' n n' : Nat} (known : major < 8) (known' : major' < 8)
    (fits : n < argumentLimit) (fits' : n' < argumentLimit)
    (same : head major n ++ rest = head major' n' ++ rest') : major = major' ∧ n = n' ∧ rest = rest' := by
  have read := head?_head known fits rest
  rw [same, head?_head known' fits' rest'] at read
  simp only [Option.some.injEq, Prod.mk.injEq, Argument.fixed.injEq] at read
  obtain ⟨sameMajor, _, sameArgument, sameRest⟩ := read
  exact ⟨sameMajor.symm, sameArgument.symm, sameRest.symm⟩

/-- The argument of an item's head, and the bytes after the head. -/
def Item.parts : Item → Nat × List UInt8
  | .text content => (content.size, content.toBytes)
  | .array items => (items.length, encodeItems items)
  | .map entries => (entries.length, encodeEntries entries)
  | .unsigned n | .simple n => (n, [])
  | _ => (0, [])

theorem Item.Writable.encode_eq (writable : item.Writable) :
    item.major < 8 ∧ item.parts.1 < argumentLimit ∧
      item.encode = head item.major item.parts.1 ++ item.parts.2 := by
  cases writable with
  | unsigned fits =>
      exact ⟨(by decide : 0 < 8), fits, by rw [Item.encode]; exact (List.append_nil _).symm⟩
  | text _ fits => exact ⟨(by decide : 3 < 8), fits, by rw [Item.encode]; rfl⟩
  | array fits _ => exact ⟨(by decide : 4 < 8), fits, by rw [Item.encode]; rfl⟩
  | map fits _ _ => exact ⟨(by decide : 5 < 8), fits, by rw [Item.encode]; rfl⟩
  | simple fits =>
      exact ⟨(by decide : 7 < 8), fits, by rw [Item.encode]; exact (List.append_nil _).symm⟩

/-- Two encodings at the front of the same bytes have the same head. -/
theorem Item.Writable.cancel {other : Item} (writable : item.Writable) (writable' : other.Writable)
    (same : item.encode ++ rest = other.encode ++ rest') :
    item.major = other.major ∧ item.parts.1 = other.parts.1 ∧
      item.parts.2 ++ rest = other.parts.2 ++ rest' := by
  obtain ⟨known, fits, written⟩ := writable.encode_eq
  obtain ⟨known', fits', written'⟩ := writable'.encode_eq
  rw [written, written', List.append_assoc, List.append_assoc] at same
  exact head_cancel known known' fits fits' same

theorem encodeItems_cancel (told : ∀ item ∈ items, item.Told) (writable : ∀ item ∈ others, item.Writable)
    (length : items.length = others.length)
    (same : encodeItems items ++ rest = encodeItems others ++ rest') : items = others ∧ rest = rest' := by
  induction items generalizing others with
  | nil =>
      obtain rfl := List.length_eq_zero_iff.mp length.symm
      exact ⟨rfl, same⟩
  | cons item items ih =>
      cases others with
      | nil => cases length
      | cons other others =>
          rw [encodeItems, encodeItems, List.append_assoc, List.append_assoc] at same
          obtain ⟨rfl, later⟩ := told item List.mem_cons_self other _ _
            (writable other List.mem_cons_self) same
          obtain ⟨rfl, rfl⟩ := ih (fun item member => told item (List.mem_cons_of_mem _ member))
            (fun item member => writable item (List.mem_cons_of_mem _ member)) (Nat.succ.inj length) later
          exact ⟨rfl, rfl⟩

theorem encodeEntries_cancel (keys : ∀ entry ∈ entries, entry.1.Told)
    (values : ∀ entry ∈ entries, entry.2.Told)
    (writable : ∀ entry ∈ entries', entry.1.Writable ∧ entry.2.Writable)
    (length : entries.length = entries'.length)
    (same : encodeEntries entries ++ rest = encodeEntries entries' ++ rest') :
    entries = entries' ∧ rest = rest' := by
  induction entries generalizing entries' with
  | nil =>
      obtain rfl := List.length_eq_zero_iff.mp length.symm
      exact ⟨rfl, same⟩
  | cons entry entries ih =>
      cases entries' with
      | nil => cases length
      | cons entry' entries' =>
          obtain ⟨key, value⟩ := entry
          obtain ⟨key', value'⟩ := entry'
          obtain ⟨keyWritable, valueWritable⟩ := writable _ List.mem_cons_self
          simp only [encodeEntries, List.append_assoc] at same
          obtain ⟨rfl, between⟩ := keys _ List.mem_cons_self key' _ _ keyWritable same
          obtain ⟨rfl, later⟩ := values _ List.mem_cons_self value' _ _ valueWritable between
          obtain ⟨rfl, rfl⟩ := ih (fun entry member => keys entry (List.mem_cons_of_mem _ member))
            (fun entry member => values entry (List.mem_cons_of_mem _ member))
            (fun entry member => writable entry (List.mem_cons_of_mem _ member)) (Nat.succ.inj length)
            later
          exact ⟨rfl, rfl⟩

/-- No writable item's encoding is the start of another's. -/
theorem Item.Writable.told (writable : item.Writable) : item.Told := by
  have whole := writable
  induction writable with
  | unsigned fits =>
      intro other rest rest' writable' same
      obtain ⟨major, argument, later⟩ := whole.cancel writable' same
      cases writable' with
      | unsigned => exact ⟨congrArg _ argument, later⟩
      | text | array | map | simple => cases major
  | text unicode fits =>
      intro other rest rest' writable' same
      obtain ⟨major, argument, later⟩ := whole.cancel writable' same
      cases writable' with
      | text unicode' _ =>
          obtain ⟨bytes, remaining⟩ := List.append_inj later argument
          exact ⟨congrArg _ (Text.toBytes_injective unicode unicode' bytes), remaining⟩
      | unsigned | array | map | simple => cases major
  | array fits each ih =>
      intro other rest rest' writable' same
      obtain ⟨major, argument, later⟩ := whole.cancel writable' same
      cases writable' with
      | array _ each' =>
          obtain ⟨rfl, remaining⟩ := encodeItems_cancel (fun item member => ih item member (each item member))
            each' argument later
          exact ⟨rfl, remaining⟩
      | unsigned | text | map | simple => cases major
  | map fits keys values keysTold valuesTold =>
      intro other rest rest' writable' same
      obtain ⟨major, argument, later⟩ := whole.cancel writable' same
      cases writable' with
      | map _ keys' values' =>
          obtain ⟨rfl, remaining⟩ := encodeEntries_cancel
            (fun entry member => keysTold entry member (keys entry member))
            (fun entry member => valuesTold entry member (values entry member))
            (fun entry member => ⟨keys' entry member, values' entry member⟩) argument later
          exact ⟨rfl, remaining⟩
      | unsigned | text | array | simple => cases major
  | simple fits =>
      intro other rest rest' writable' same
      obtain ⟨major, argument, later⟩ := whole.cancel writable' same
      cases writable' with
      | simple => exact ⟨congrArg _ argument, later⟩
      | unsigned | text | array | map => cases major

theorem encode_injective {other : Item} (writable : item.Writable) (writable' : other.Writable)
    (same : item.encode = other.encode) : item = other :=
  (writable.told other [] [] writable' (by rw [same])).1

end Cbor

/-! ### Documents -/

structure DocumentParam.Writable (p : DocumentParam) : Prop where
  name : p.name.Encodable
  sigil : p.sigil < Cbor.argumentLimit
  traits : ∀ trait ∈ p.traits, trait.Encodable
  fewTraits : p.traits.length < Cbor.argumentLimit
  defaultSource : p.defaultSource.Encodable

/-- A document whose texts are well-formed. Its lists may be as long as a head can tell. -/
structure Document.Writable (d : Document) : Prop where
  version : d.version < Cbor.argumentLimit
  text : d.text.Encodable
  invocant : d.invocant.Encodable
  params : ∀ params, d.params = some params → ∀ p ∈ params, p.Writable
  fewParams : ∀ params, d.params = some params → params.length < Cbor.argumentLimit

namespace Document

open Cbor (Item)

/-- Fields that can be written, with numbers for keys. -/
def Written (entries : List (Item × Item)) : Prop :=
  ∀ entry ∈ entries, entry.1.Writable ∧ entry.2.Writable

namespace Written

variable {key : Nat} {entries others : List (Item × Item)}

theorem append (first : Written entries) (second : Written others) : Written (entries ++ others) :=
  List.forall_mem_append.mpr ⟨first, second⟩

theorem single {value : Item} (small : key < Cbor.argumentLimit) (writable : value.Writable) :
    Written [(.unsigned key, value)] :=
  List.forall_mem_singleton.mpr ⟨.unsigned small, writable⟩

theorem textField {t : Text} (small : key < Cbor.argumentLimit) (encodable : t.Encodable) :
    Written (textField key t) := by
  unfold Document.textField
  split
  · simp [Written]
  · exact single small (.text encodable.unicode encodable.fits)

theorem flagField (flag : Bool) (small : key < Cbor.argumentLimit) : Written (flagField key flag) := by
  unfold Document.flagField
  split
  · exact single small (.simple (by decide))
  · simp [Written]

theorem listField {texts : List Text} (small : key < Cbor.argumentLimit)
    (encodable : ∀ t ∈ texts, t.Encodable) (few : texts.length < Cbor.argumentLimit) :
    Written (listField key texts) := by
  unfold Document.listField
  split
  · simp [Written]
  · refine single small (.array (by simpa using few) fun item member => ?_)
    obtain ⟨t, listed, rfl⟩ := List.mem_map.mp member
    exact .text (encodable t listed).unicode (encodable t listed).fits

theorem writable (written : Written entries) (few : entries.length < Cbor.argumentLimit) :
    (Item.map entries).Writable :=
  .map few (fun entry member => (written entry member).1) fun entry member => (written entry member).2

end Written

theorem paramItem_writable {p : DocumentParam} (writable : p.Writable) : (paramItem p).Writable := by
  have front : Written [(.unsigned 1, .text p.name), (.unsigned 2, .unsigned p.sigil)] :=
    (Written.single (by decide) (.text writable.name.unicode writable.name.fits)).append
      (.single (by decide) (.unsigned writable.sigil))
  have middle := ((front.append (.flagField p.named (by decide : 3 < _))).append
    (.flagField p.refAlias (by decide : 4 < _))).append
    (.listField (by decide : 5 < _) writable.traits writable.fewTraits)
  have whole := ((middle.append (.textField (by decide : 6 < _) writable.defaultSource)).append
    (.flagField p.optional (by decide : 7 < _))).append (.flagField p.required (by decide : 8 < _))
  exact whole.writable (Nat.lt_of_le_of_lt (length_paramEntries p) (by decide))

theorem paramsItem_writable {d : Document} (writable : d.Writable) :
    (paramsItem d.params).Writable := by
  cases given : d.params with
  | none => exact .simple (by decide)
  | some params =>
      refine .array (by simpa using writable.fewParams params given) fun item member => ?_
      obtain ⟨p, listed, rfl⟩ := List.mem_map.mp member
      exact paramItem_writable (writable.params params given p listed)

theorem length_entries (d : Document) : d.entries.length ≤ 5 := by
  have text := length_textField 2 d.text
  have invocant := length_textField 3 d.invocant
  have passthrough := length_flagField 4 d.passthrough
  simp only [entries, List.length_append, List.length_cons, List.length_nil]
  omega

theorem item_writable {d : Document} (writable : d.Writable) : d.item.Writable := by
  have first : Written [(.unsigned 1, .unsigned d.version)] :=
    .single (by decide) (.unsigned writable.version)
  have texts := (first.append (.textField (by decide : 2 < _) writable.text)).append
    (.textField (by decide : 3 < _) writable.invocant)
  have whole := (texts.append (.flagField d.passthrough (by decide : 4 < _))).append
    (.single (by decide : 5 < _) (paramsItem_writable writable))
  exact whole.writable (Nat.lt_of_le_of_lt d.length_entries (by decide))

/-! What a field gives for its key tells what it was written from. -/

theorem text_of_field {t u : Text} (same : (if t ≠ [] then some (Item.text t) else none) =
    if u ≠ [] then some (.text u) else none) : t = u := by
  cases t <;> cases u <;> simp_all

theorem flag_of_field {a b : Bool} (same : (if a = true then some (Item.simple 21) else none) =
    if b = true then some (.simple 21) else none) : a = b := by
  cases a <;> cases b <;> simp_all

theorem list_of_field {texts texts' : List Text}
    (same : (if texts ≠ [] then some (Item.array (texts.map .text)) else none) =
      if texts' ≠ [] then some (.array (texts'.map .text)) else none) : texts = texts' := by
  cases texts with
  | nil => cases texts' <;> simp_all
  | cons t rest =>
      cases texts' with
      | nil => simp at same
      | cons u rest' =>
          simp only [ne_eq, reduceCtorEq, not_false_eq_true, if_true, Option.some.injEq,
            Item.array.injEq] at same
          exact List.map_injective_iff.mpr (fun _ _ => Item.text.inj) same

theorem paramItem_injective {p q : DocumentParam} (same : paramItem p = paramItem q) : p = q := by
  have field (key : Nat) : (numbered (paramEntries p)).lookup (some key) =
      (numbered (paramEntries q)).lookup (some key) := by
    rw [show paramEntries p = paramEntries q from Item.map.inj same]
  have name : p.name = q.name := by simpa [paramEntries] using field 1
  have sigil : p.sigil = q.sigil := by simpa [paramEntries] using field 2
  have named : p.named = q.named :=
    flag_of_field (by simpa [paramEntries, List.lookup_append] using field 3)
  have refAlias : p.refAlias = q.refAlias :=
    flag_of_field (by simpa [paramEntries, List.lookup_append] using field 4)
  have traits : p.traits = q.traits :=
    list_of_field (by simpa [paramEntries, List.lookup_append] using field 5)
  have defaultSource : p.defaultSource = q.defaultSource :=
    text_of_field (by simpa [paramEntries, List.lookup_append] using field 6)
  have optional : p.optional = q.optional :=
    flag_of_field (by simpa [paramEntries, List.lookup_append] using field 7)
  have required : p.required = q.required :=
    flag_of_field (by simpa [paramEntries, List.lookup_append] using field 8)
  cases p
  cases q
  simp_all

theorem item_injective {d e : Document} (same : d.item = e.item) : d = e := by
  have field (key : Nat) : (numbered d.entries).lookup (some key) =
      (numbered e.entries).lookup (some key) := by
    rw [show d.entries = e.entries from Item.map.inj same]
  have version : d.version = e.version := by simpa [entries] using field 1
  have text : d.text = e.text := text_of_field (by simpa [entries, List.lookup_append] using field 2)
  have invocant : d.invocant = e.invocant :=
    text_of_field (by simpa [entries, List.lookup_append] using field 3)
  have passthrough : d.passthrough = e.passthrough :=
    flag_of_field (by simpa [entries, List.lookup_append] using field 4)
  have item : paramsItem d.params = paramsItem e.params := by
    simpa [entries, List.lookup_append] using field 5
  have params : d.params = e.params := by
    cases given : d.params with
    | none => cases given' : e.params <;> simp_all [paramsItem]
    | some params =>
        cases given' : e.params with
        | none => simp_all [paramsItem]
        | some params' =>
            rw [given, given'] at item
            exact congrArg some (List.map_injective_iff.mpr (fun _ _ => paramItem_injective)
              (Item.array.inj item))
  cases d
  cases e
  simp_all

/-- Documents with the same bytes are the same. -/
theorem bytes_injective {d e : Document} (writable : d.Writable) (writable' : e.Writable)
    (same : d.bytes = e.bytes) : d = e :=
  item_injective (Cbor.encode_injective (item_writable writable) (item_writable writable') same)

end Document
end CallPlan
