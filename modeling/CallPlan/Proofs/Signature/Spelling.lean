import CallPlan.Proofs.Signature.Canonical

/-!
How the names and flags of a signature are spelled. A clause that reads as a parameter spells it properly.
A document is read by the rules on lists of parameters alone, so a signature read from bytes is spelled
properly if and only if the document itself is.
-/

namespace CallPlan

/-- What a clause makes sure of: names are identifiers, and the two flags follow from the rest. -/
structure Param.Spelled (p : Param) : Prop where
  name : p.name.isIdentifier = true
  traits : ∀ trait ∈ p.traits, trait.isIdentifier = true
  exclusive : ¬ (p.required = true ∧ p.optional = true)
  optional : p.required = false → p.role = .named ∨ p.hasDefault = true → p.optional = true

/-- The parameters are spelled properly, and the invocant is a name that a prefix can carry. -/
structure Signature.Spelled (s : Signature) : Prop where
  params : ∀ p ∈ s.params, p.Spelled
  invocant : ∀ name ∈ s.invocant, Invocant.isName name = true

structure DocumentParam.Spelled (p : DocumentParam) : Prop where
  name : p.name.isIdentifier = true
  traits : ∀ trait ∈ p.traits, trait.isIdentifier = true
  exclusive : ¬ (p.required = true ∧ p.optional = true)
  optional : p.required = false → p.named = true ∨ p.defaultSource ≠ [] → p.optional = true

structure Document.Spelled (d : Document) : Prop where
  params : ∀ p ∈ d.params.getD [], p.Spelled
  invocant : d.invocant ≠ [] → Invocant.isName d.invocant = true

theorem forall_mem_iff {α β : Type} {related : α → β → Prop} {P : α → Prop} {Q : β → Prop} {xs : List α}
    {ys : List β} (pairs : List.Forall₂ related xs ys) (same : ∀ x y, related x y → (P x ↔ Q y)) :
    (∀ x ∈ xs, P x) ↔ ∀ y ∈ ys, Q y := by
  induction pairs with
  | nil => simp
  | cons first _ ih => rw [List.forall_mem_cons, List.forall_mem_cons, same _ _ first, ih]

theorem Param.spelled_index {p : Param} {index : Option Nat} :
    Param.Spelled { p with index } ↔ p.Spelled :=
  ⟨fun spelled => ⟨spelled.name, spelled.traits, spelled.exclusive, spelled.optional⟩,
    fun spelled => ⟨spelled.name, spelled.traits, spelled.exclusive, spelled.optional⟩⟩

/-! ### Clauses -/

namespace Clause

variable {p q : Param} {clause word : Text} {head : List Text}

theorem token_spelled (read : token p word = .ok q)
    (traits : ∀ trait ∈ p.traits, trait.isIdentifier = true) : q.Spelled := by
  cases word with
  | nil => simp [token] at read
  | cons first rest =>
      cases sigil : Sigil.ofGlyph? first with
      | none => simp [token, sigil] at read
      | some sigil =>
          simp only [token, sigil] at read
          generalize (takeLastMark '!' rest).1 = required at read
          generalize (takeLastMark '?' (takeLastMark '!' rest).2).1 = optional at read
          generalize (takeLastMark '?' (takeLastMark '!' rest).2).2 = name at read
          split at read
          · cases read
          split at read
          · cases read
          next valid =>
          cases read
          refine ⟨by simpa using valid, traits, ?_, ?_⟩
          · cases required <;> simp
          · rintro rfl implied
            have implied : p.role = .named ∨ p.hasDefault = true := implied
            rcases implied with named | given
            · simp [named]
            · simp [given]

theorem words_spelled (read : words p head = .ok q) : q.passthrough = true ∨ q.Spelled := by
  cases head with
  | nil => simp [words] at read
  | cons word others =>
      simp only [words, except_bind_ok] at read
      obtain ⟨written, listed, read⟩ := read
      split at read
      · split at read
        · cases read
        · cases read
          exact .inl rfl
      · exact .inr (token_spelled read fun trait member =>
          (traits_ok listed).1 trait (Text.mem_sorted.mp member))

theorem parse_spelled (parsed : parse clause = .ok p) : p.passthrough = true ∨ p.Spelled := by
  obtain ⟨start, head, read, -⟩ := parse_words parsed
  exact words_spelled read

end Clause

namespace Signature

open Param (Admissible binding)

variable {s : Signature} {options : AssemblyOptions} {invocant : Option Text} {params : List Param}

/-- What does not depend on indexes holds of a signature's parameters if it holds of those it is made
of. -/
theorem forall_ofParams {P : Param → Prop} (stable : ∀ (p : Param) index, P { p with index } ↔ P p) :
    (∀ p ∈ (ofParams invocant params).params, P p) ↔ ∀ p ∈ binding params, P p := by
  simp only [Signature.params, ofParams, List.mem_append, List.mem_mapIdx, List.mem_map]
  constructor
  · intro each p member
    cases role : p.role with
    | positional =>
        have listed : p ∈ (binding params).filter fun p => p.role = .positional := by
          simp [member, role]
        obtain ⟨index, within, rfl⟩ := List.getElem_of_mem listed
        exact (stable _ _).mp (each _ (.inl ⟨index, within, rfl⟩))
    | named =>
        have listed : p ∈ (binding params).filter fun p => p.role = .named := by simp [member, role]
        exact (stable _ _).mp (each _ (.inr ⟨p, listed, rfl⟩))
  · rintro each p (⟨index, within, rfl⟩ | ⟨q, listed, rfl⟩)
    · exact (stable _ _).mpr (each _ (List.mem_filter.mp (List.getElem_mem within)).1)
    · exact (stable _ _).mpr (each _ (List.mem_filter.mp listed).1)

theorem parse_params_spelled {text : Text} (parsed : parse text options = .ok s) :
    ∀ p ∈ s.params, p.Spelled := by
  obtain ⟨a, list, rfl⟩ := parse_ok_iff.mp parsed
  obtain ⟨clauses, params, _, read, added⟩ := readList_ok_iff.mp list
  obtain ⟨_, made⟩ := (addAll_new_iff _).mp ⟨a, added, rfl⟩
  have spelled : ∀ p ∈ binding params, p.Spelled := by
    intro p member
    obtain ⟨listed, binds⟩ := List.mem_filter.mp member
    obtain ⟨clause, _, reads⟩ := mem_of_forall₂ read listed
    exact (Clause.parse_spelled reads).resolve_left (by simpa using binds)
  have each : ∀ p ∈ (ofParams (invocantOf text options) params).params, p.Spelled :=
    (forall_ofParams fun _ _ => Param.spelled_index).mpr spelled
  rwa [made] at each

/-- A parsed signature is spelled properly if the invocant it may be given is. -/
theorem parse_spelled {text : Text} (parsed : parse text options = .ok s)
    (implied : ∀ name ∈ options.invocant, Invocant.isName name = true) : s.Spelled := by
  refine ⟨parse_params_spelled parsed, ?_⟩
  obtain ⟨a, list, rfl⟩ := parse_ok_iff.mp parsed
  obtain ⟨_, _, _, _, added⟩ := readList_ok_iff.mp list
  obtain ⟨_, made⟩ := (addAll_new_iff _).mp ⟨a, added, rfl⟩
  have invocant : (a.setText text).signature.invocant = invocantOf text options := by
    rw [Assembler.setText, ← made]
    rfl
  exact invocant ▸ invocantOf_isName implied

end Signature

namespace Document

open Param (Admissible binding)

variable {a a' : Assembler} {d : Document} {s : Signature}

/-- A parameter as a document gives it, if it has one of the sigils. -/
def Gives (written : DocumentParam) (p : Param) : Prop :=
  ∃ sigil, Sigil.ofCode? written.sigil = some sigil ∧ p = written.toParam sigil

theorem addParams_ok_iff {written : List DocumentParam} : addParams a written = .ok a' ↔
    ∃ params, List.Forall₂ Gives written params ∧ a.addAll params = .ok a' := by
  induction written generalizing a with
  | nil =>
      constructor
      · intro added
        cases added
        exact ⟨[], .nil, rfl⟩
      · rintro ⟨_, given, added⟩
        cases given
        cases added
        rfl
  | cons first rest ih =>
      simp only [addParams, addParam, except_bind_ok, ih]
      constructor
      · rintro ⟨next, recorded, params, others, remaining⟩
        cases known : Sigil.ofCode? first.sigil with
        | none => simp [known] at recorded
        | some sigil =>
            simp only [known, except_mapError_ok] at recorded
            refine ⟨first.toParam sigil :: params, .cons ⟨sigil, known, rfl⟩ others, ?_⟩
            simpa only [Assembler.addAll, recorded, except_ok_bind] using remaining
      · rintro ⟨_, given, added⟩
        cases given with
        | @cons _ p _ params given others =>
            obtain ⟨sigil, known, rfl⟩ := given
            simp only [Assembler.addAll, except_bind_ok] at added
            obtain ⟨next, recorded, remaining⟩ := added
            exact ⟨next, by simpa only [known, except_mapError_ok] using recorded, params, others, remaining⟩

theorem Gives.binds {written : DocumentParam} {p : Param} (gives : Gives written p) :
    p.passthrough = false := by
  obtain ⟨sigil, _, rfl⟩ := gives
  rfl

theorem Gives.spelled_iff {written : DocumentParam} {p : Param} (gives : Gives written p) :
    p.Spelled ↔ written.Spelled := by
  obtain ⟨sigil, _, rfl⟩ := gives
  have role : (written.toParam sigil).role = .named ↔ written.named = true := by
    cases named : written.named <;> simp [DocumentParam.toParam, named]
  have default : (written.toParam sigil).hasDefault = true ↔ written.defaultSource ≠ [] := by
    cases source : written.defaultSource <;> simp [DocumentParam.toParam, Param.hasDefault, source]
  have traits : (∀ trait ∈ (written.toParam sigil).traits, trait.isIdentifier = true) ↔
      ∀ trait ∈ written.traits, trait.isIdentifier = true := by
    simp only [DocumentParam.toParam, Text.mem_sorted]
  constructor
  · rintro ⟨name, identifiers, exclusive, optional⟩
    exact ⟨name, traits.mp identifiers, exclusive, by rw [← role, ← default]; exact optional⟩
  · rintro ⟨name, identifiers, exclusive, optional⟩
    exact ⟨name, traits.mpr identifiers, exclusive, by rw [role, default]; exact optional⟩

theorem binds_of_gives {written : List DocumentParam} {params : List Param}
    (given : List.Forall₂ Gives written params) : ∀ p ∈ params, p.passthrough = false :=
  (forall_mem_iff (P := fun _ => True) given fun _ _ gives => iff_of_true trivial gives.binds).mp
    fun _ _ => trivial

/-- The raw argument list of a document, as the parameter that stands for it. -/
def raw (d : Document) : List Param := if d.passthrough then [{ name := [], passthrough := true }] else []

theorem addAll_raw (d : Document) (options : AssemblyOptions) :
    (Assembler.new options).addAll d.raw = .ok { Assembler.new options with
      signature := { (Assembler.new options).signature with passthrough := d.passthrough } } := by
  unfold raw
  cases d.passthrough <;> rfl

theorem binding_raw_append {params : List Param} (binds : ∀ p ∈ params, p.passthrough = false) :
    binding (d.raw ++ params) = params := by
  have raw : binding d.raw = [] := by
    unfold Document.raw
    cases d.passthrough <;> rfl
  rw [Param.binding_append, raw, List.nil_append]
  exact List.filter_eq_self.mpr (by simpa using binds)

theorem ofParams_raw_append {params : List Param} (binds : ∀ p ∈ params, p.passthrough = false)
    (invocant : Option Text) : Signature.ofParams invocant (d.raw ++ params) =
      { Signature.ofParams invocant params with passthrough := d.passthrough } := by
  have bound : binding params = params := List.filter_eq_self.mpr (by simpa using binds)
  have unmarked : params.any (·.passthrough) = false := by simpa using binds
  have marked : d.raw.any (·.passthrough) = d.passthrough := by
    unfold Document.raw
    cases d.passthrough <;> rfl
  simp only [Signature.ofParams, binding_raw_append binds, bound, List.any_append, unmarked, marked,
    Bool.or_false]

/-- The documents that are signatures are those of the one version whose parameters have known sigils and
are an admissible list. -/
theorem signature_ok_iff : d.signature = .ok s ↔ d.version = currentVersion ∧
    ∃ params, List.Forall₂ Gives (d.params.getD []) params ∧
      Admissible d.invocant? false params ∧
      s = { Signature.ofParams d.invocant? params with
        text := d.text.trim, passthrough := d.passthrough } := by
  have assembled : d.signature = .ok s ↔ d.version = currentVersion ∧
      ∃ params, List.Forall₂ Gives (d.params.getD []) params ∧
        ∃ a, (Assembler.new { invocant := d.invocant? }).addAll (d.raw ++ params) = .ok a ∧
          (a.setText d.text).signature = s := by
    unfold signature
    split
    · next other => simp [other]
    · next same =>
        simp only [Decidable.not_not.mp same, true_and, except_bind_ok, except_pure, Except.ok.injEq,
          addParams_ok_iff, Assembler.addAll_append, addAll_raw, except_ok_bind]
        constructor
        · rintro ⟨a, ⟨params, given, added⟩, made⟩
          exact ⟨params, given, a, added, made⟩
        · rintro ⟨params, given, a, added, made⟩
          exact ⟨a, ⟨params, given, added⟩, made⟩
  rw [assembled]
  refine and_congr_right fun _ => exists_congr fun params => and_congr_right fun given => ?_
  have binds := binds_of_gives given
  have taken (s : Signature) :
      (∃ a, (Assembler.new { invocant := d.invocant? }).addAll (d.raw ++ params) = .ok a ∧
        a.signature = s) ↔ _ := Signature.addAll_new_iff { invocant := d.invocant? }
  simp only [binding_raw_append binds, ofParams_raw_append binds] at taken
  constructor
  · rintro ⟨a, added, rfl⟩
    obtain ⟨admissible, made⟩ := (taken _).mp ⟨a, added, rfl⟩
    exact ⟨admissible, by rw [Assembler.setText, ← made]⟩
  · rintro ⟨admissible, rfl⟩
    obtain ⟨a, added, made⟩ := (taken _).mpr ⟨admissible, rfl⟩
    exact ⟨a, added, by rw [Assembler.setText, made]⟩

/-- The parameters of a document are as its signature has them, so either is spelled properly if the other
is. -/
theorem spelled_iff (read : d.signature = .ok s) : s.Spelled ↔ d.Spelled := by
  obtain ⟨_, params, given, _, rfl⟩ := signature_ok_iff.mp read
  have bound : binding params = params :=
    List.filter_eq_self.mpr (by simpa using binds_of_gives given)
  have each : (∀ p ∈ (Signature.ofParams d.invocant? params).params, p.Spelled) ↔
      ∀ p ∈ d.params.getD [], p.Spelled := by
    rw [Signature.forall_ofParams fun _ _ => Param.spelled_index, bound]
    exact (forall_mem_iff given fun _ _ gives => gives.spelled_iff.symm).symm
  have named : (∀ name ∈ d.invocant?, Invocant.isName name = true) ↔
      (d.invocant ≠ [] → Invocant.isName d.invocant = true) := by
    cases own : d.invocant <;> simp [invocant?, own]
  constructor
  · rintro ⟨params, invocant⟩
    exact ⟨each.mp params, named.mp invocant⟩
  · rintro ⟨params, invocant⟩
    exact ⟨each.mpr params, named.mpr invocant⟩

end Document

namespace Signature

open Document (Gives)

/-- Bytes are read if they are a document of the one version whose parameters keep the rules on lists of
parameters. The names and flags of the signature are then spelled as properly as the document's. -/
theorem decode_spelled_iff (bytes : List UInt8) :
    (∀ s, decode bytes = .ok s ↔ ∃ d params,
      (Cbor.Item.decode? bytes).bind Document.ofItem? = some d ∧ d.version = Document.currentVersion ∧
      List.Forall₂ Gives (d.params.getD []) params ∧ Param.Admissible d.invocant? false params ∧
      s = { ofParams d.invocant? params with text := d.text.trim, passthrough := d.passthrough }) ∧
    ∀ d s, (Cbor.Item.decode? bytes).bind Document.ofItem? = some d → decode bytes = .ok s →
      (s.Spelled ↔ d.Spelled) := by
  constructor
  · intro s
    unfold decode
    split
    · next d found =>
        simp only [found, Option.some.injEq, exists_and_left, exists_eq_left', Document.signature_ok_iff]
    · next unread => simp only [unread, reduceCtorEq, false_and, exists_false]
  · intro d s found read
    rw [decode, found] at read
    exact Document.spelled_iff read

/-- A receiver and a named parameter that is read-only. -/
def tidyDocument : Document where
  version := 1
  text := "$self: :$year is ro"
  invocant := "self"
  params := some [{ name := "year", named := true, traits := ["ro"], optional := true }]

def tidySample : Signature where
  text := "$self: :$year is ro"
  invocant := some "self"
  named := [{ name := "year", role := .named, traits := ["ro"], optional := true }]

theorem decode_spelled_iff_tidy : decode tidyDocument.bytes = .ok tidySample ∧ tidySample.Spelled := by
  have found : (Cbor.Item.decode? tidyDocument.bytes).bind Document.ofItem? = some tidyDocument := by
    decide +kernel
  have read : decode tidyDocument.bytes = .ok tidySample := by decide +kernel
  have spelled : tidyDocument.Spelled := by
    refine ⟨?_, fun _ => by decide⟩
    intro p member
    obtain rfl := List.mem_singleton.mp member
    exact ⟨by decide +kernel, by decide +kernel, by decide, by decide⟩
  exact ⟨read, ((decode_spelled_iff _).2 _ _ found read).mpr spelled⟩

/-- The map 1: 1, 3: `my self`, 5: two parameters. The first is called `1x` and has the trait `a b`, is
named, optional and required. The second is called `y` and is named. -/
def slovenlyBytes : List UInt8 :=
  [0xa3, 0x01, 0x01, 0x03, 0x67, 0x6d, 0x79, 0x20, 0x73, 0x65, 0x6c, 0x66, 0x05, 0x82,
    0xa6, 0x01, 0x62, 0x31, 0x78, 0x02, 0x00, 0x03, 0xf5, 0x05, 0x81, 0x63, 0x61, 0x20, 0x62,
    0x07, 0xf5, 0x08, 0xf5,
    0xa3, 0x01, 0x61, 0x79, 0x02, 0x00, 0x03, 0xf5]

def slovenlyFirst : Param where
  name := "1x"
  role := .named
  traits := ["a b"]
  optional := true
  required := true

def slovenlySecond : Param where
  name := "y"
  role := .named

theorem decode_misspelled : ∃ s, decode slovenlyBytes = .ok s ∧ ¬ s.Spelled ∧
    s.invocant = some "my self" ∧ Invocant.isName "my self" = false ∧
    s.params = [slovenlyFirst, slovenlySecond] ∧
    slovenlyFirst.name.isIdentifier = false ∧
    (∀ trait ∈ slovenlyFirst.traits, trait.isIdentifier = false) ∧
    (slovenlyFirst.required = true ∧ slovenlyFirst.optional = true) ∧
    (slovenlySecond.required = false ∧ slovenlySecond.role = .named ∧ slovenlySecond.optional = false) := by
  have digit : slovenlyFirst.name.isIdentifier = false := by decide
  refine ⟨{ invocant := some "my self", named := [slovenlyFirst, slovenlySecond] }, by decide +kernel, ?_,
    rfl, by decide +kernel, rfl, digit, by decide +kernel, by decide, by decide⟩
  intro spelled
  have name := (spelled.params slovenlyFirst List.mem_cons_self).name
  rw [digit] at name
  cases name

end Signature
end CallPlan
