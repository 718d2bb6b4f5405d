import CallPlan.Proofs.Document
import CallPlan.Proofs.Signature.Assembled
import CallPlan.Proofs.Text.Blank
import CallPlan.Proofs.Text.Sorted

/-!
A signature is read back from its canonical bytes. What a document leaves out follows from the rest of
it, and its parameters pass once more the checks they have passed before.
-/

namespace CallPlan

/-- A parameter whose texts can stand in a document. -/
structure Param.Encodable (p : Param) : Prop where
  name : p.name.Encodable
  traits : ∀ trait ∈ p.traits, trait.Encodable
  fewTraits : p.traits.length ≤ Cbor.maxElements
  defaultSource : ∀ source, p.defaultSource = some source → source.Encodable

/-- A signature whose texts are well-formed and whose lists are no longer than a reader takes. -/
structure Signature.Encodable (s : Signature) : Prop where
  text : s.text.Encodable
  invocant : ∀ name, s.invocant = some name → name.Encodable
  params : ∀ p ∈ s.params, p.Encodable
  fewParams : s.params.length ≤ Cbor.maxElements

theorem Text.Encodable.getD {t? : Option Text} (encodable : ∀ t, t? = some t → t.Encodable) :
    (t?.getD []).Encodable := by
  cases t? with
  | none => exact ⟨rfl, by decide⟩
  | some t => exact encodable t rfl

theorem Sigil.ofCode?_code (sigil : Sigil) : ofCode? sigil.code = some sigil := by
  cases sigil <;> rfl

namespace DocumentParam

variable {p : Param}

theorem ofParam_encodable (encodable : p.Encodable) : (ofParam p).Encodable where
  name := encodable.name
  sigil := by cases sigil : p.sigil <;> simp [ofParam, sigil, Sigil.code]
  traits := encodable.traits
  fewTraits := encodable.fewTraits
  defaultSource := .getD encodable.defaultSource

/-- A parameter comes back without its index, which the assembler gives it again. -/
theorem toParam_ofParam (regular : p.Regular) (binds : p.passthrough = false)
    (encodable : p.Encodable) : (ofParam p).toParam p.sigil = { p with index := none } := by
  obtain ⟨slurpy, ⟨written, traits⟩, nonempty⟩ := regular
  have again : Text.sorted p.traits = p.traits := by
    rw [traits]
    exact Text.sorted_sorted fun t member => (encodable.traits t (traits ▸ member)).unicode
  have source : (if (p.defaultSource.getD []).isEmpty then none else some (p.defaultSource.getD [])) =
      p.defaultSource := by
    cases given : p.defaultSource with
    | none => rfl
    | some source =>
        cases source with
        | nil => exact (nonempty given).elim
        | cons g rest => rfl
  have role : (if (decide (p.role = .named)) = true then Role.named else .positional) = p.role := by
    cases p.role <;> rfl
  rw [toParam, Param.mk.injEq]
  exact ⟨rfl, rfl, role, rfl, slurpy.symm, rfl, again, source, rfl, rfl, binds.symm⟩

end DocumentParam

namespace Document

variable {s : Signature} {options : AssemblyOptions}

theorem ofSignature_encodable (encodable : s.Encodable) : (ofSignature s).Encodable where
  version := (by decide : 1 < 256)
  text := encodable.text
  invocant := .getD encodable.invocant
  params := by
    rintro params ⟨⟩ p member
    obtain ⟨q, listed, rfl⟩ := List.mem_map.mp member
    exact DocumentParam.ofParam_encodable (encodable.params q listed)
  fewParams := by
    rintro params ⟨⟩
    simpa using encodable.fewParams

theorem addParams_ofParam {a b : Assembler} {params : List Param}
    (again : ∀ p ∈ params, (DocumentParam.ofParam p).toParam p.sigil = { p with index := none })
    (added : a.addAll (params.map fun p => { p with index := none }) = .ok b) :
    addParams a (params.map .ofParam) = .ok b := by
  induction params generalizing a with
  | nil => exact congrArg _ (Except.ok.inj added)
  | cons p rest ih =>
      simp only [List.map_cons, Assembler.addAll, except_bind_ok] at added
      obtain ⟨next, recorded, remaining⟩ := added
      have known : Sigil.ofCode? (DocumentParam.ofParam p).sigil = some p.sigil :=
        Sigil.ofCode?_code p.sigil
      have first : addParam a (.ofParam p) = .ok next := by
        simp only [addParam, known, again p List.mem_cons_self, except_mapError_ok, recorded]
      have later := ih (fun q member => again q (List.mem_cons_of_mem _ member)) remaining
      simp [addParams, first, later]

theorem invocant_ofSignature (named : s.invocant ≠ some []) :
    (ofSignature s).invocant? = s.invocant := by
  cases declared : s.invocant with
  | none => simp [invocant?, ofSignature, declared]
  | some name =>
      cases name with
      | nil => exact (named declared).elim
      | cons g rest => simp [invocant?, ofSignature, declared]

/-- The signature of its own document is the signature again. -/
theorem signature_ofSignature (assembled : s.Assembled options) (named : s.invocant ≠ some [])
    (encodable : s.Encodable) : (ofSignature s).signature = .ok s := by
  have again : ∀ p ∈ s.params,
      (DocumentParam.ofParam p).toParam p.sigil = { p with index := none } := by
    intro p member
    obtain ⟨binds, regular⟩ := assembled.regular member
    exact DocumentParam.toParam_ofParam regular binds (encodable.params p member)
  have invocant := invocant_ofSignature named
  obtain ⟨a, text, built, rfl⟩ := assembled
  let start : Assembler := {
    Assembler.new { invocant := (ofSignature (a.setText text).signature).invocant? } with
    signature := {
      invocant := (ofSignature (a.setText text).signature).invocant?
      passthrough := a.signature.passthrough } }
  have same : (ofSignature (a.setText text).signature).invocant? = options.invocant :=
    invocant.trans built.invocant_eq
  have agrees : Assembler.Agrees (.new options) start := by
    refine ⟨rfl, same, rfl, rfl, ?_, rfl, rfl, rfl, rfl⟩
    simp only [start, Assembler.new, same]
  obtain ⟨b, replayed, agrees, passthrough, _⟩ := built.replay agrees
  have added : addParams start _ = .ok b := addParams_ofParam again replayed
  have version : ¬ (ofSignature (a.setText text).signature).version ≠ currentVersion :=
    fun different => different rfl
  rw [signature, if_neg version]
  have read : (b.setText (a.setText text).signature.text).signature = (a.setText text).signature := by
    simp only [Assembler.setText, Text.trim_trim, Signature.mk.injEq]
    exact ⟨trivial, agrees.invocant, agrees.positional, agrees.named, passthrough⟩
  rw [except_bind_ok]
  exact ⟨b, added, congrArg _ read⟩

end Document

/-- A signature that was read from a text or from bytes is read back from its own bytes. -/
theorem Signature.decode_encode {s : Signature}
    (read : (∃ text options, options.invocant ≠ some [] ∧ Signature.parse text options = .ok s) ∨
      ∃ bytes, Signature.decode bytes = .ok s)
    (encodable : s.Encodable) : Signature.decode s.encode = .ok s := by
  have assembled : ∃ options, s.Assembled options ∧ s.invocant ≠ some [] := by
    rcases read with ⟨text, options, named, parsed⟩ | ⟨bytes, decoded⟩
    · have assembled := Signature.parse_assembled parsed
      exact ⟨_, assembled, assembled.invocant_eq ▸ Signature.invocantOf_ne_empty named⟩
    · obtain ⟨d, assembled⟩ := Signature.decode_assembled decoded
      exact ⟨_, assembled, assembled.invocant_eq ▸ d.invocant?_ne_empty⟩
  obtain ⟨options, assembled, named⟩ := assembled
  have written := Document.ofSignature_encodable encodable
  have item := Cbor.decode?_encode (Document.item_readable written)
  rw [Signature.decode, Signature.encode, Document.bytes, item, Option.bind_some,
    Document.ofItem?_item written]
  exact Document.signature_ofSignature assembled named encodable

/-- Traits out of order, a reference with a default, and blanks around the text. -/
def traitSample : Signature where
  text := "$self: $a is ro is copy, :\\@b = [1]"
  invocant := some "self"
  positional := [{ name := "a", index := some 0, traits := ["copy", "ro"] }]
  named := [{ name := "b", sigil := .array, role := .named, refAlias := true, optional := true
              defaultSource := some "[1]" }]

theorem traitSample_encodable : traitSample.Encodable where
  text := by decide
  invocant := by
    rintro name ⟨⟩
    decide
  params := by
    intro p member
    simp only [traitSample, Signature.params, List.cons_append, List.nil_append, List.mem_cons,
      List.not_mem_nil, or_false] at member
    rcases member with rfl | rfl
    · exact ⟨by decide +kernel, by decide +kernel, by decide, by simp⟩
    · refine ⟨by decide +kernel, by simp, by decide, ?_⟩
      rintro source ⟨⟩
      decide +kernel
  fewParams := by decide

theorem Signature.decode_encode_traits :
    Signature.parse " $self: $a is ro is copy, :\\@b = [1] " {} = .ok traitSample ∧
      Signature.decode traitSample.encode = .ok traitSample := by
  have parsed : Signature.parse " $self: $a is ro is copy, :\\@b = [1] " {} = .ok traitSample := by
    rfl
  exact ⟨parsed, Signature.decode_encode (.inl ⟨_, {}, by decide, parsed⟩) traitSample_encodable⟩

end CallPlan
