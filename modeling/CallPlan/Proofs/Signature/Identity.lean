import CallPlan.Proofs.Plan.Compiled
import CallPlan.Proofs.Signature.Extent

/-!
What identifies a signature. The bytes that are hashed are those of its document without the text, and
they tell the invocant, the passthrough flag and the parameters. So signatures that differ in layout only
have one digest and one plan identifier, and others can share them only if the hash collides.
-/

namespace CallPlan

/-! ### Hexadecimal digests -/

theorem Text.hexDigit_injective :
    ∀ m < 16, ∀ n < 16, Text.hexDigit m = Text.hexDigit n → m = n := by decide

namespace Digest

theorem hex_cons (byte : UInt8) (rest : List UInt8) : hex (byte :: rest) =
    .char (Text.hexDigit (byte.toNat / 16 % 16)) :: .char (Text.hexDigit (byte.toNat % 16)) ::
      hex rest := rfl

theorem hex_injective : ∀ {bytes bytes' : List UInt8}, hex bytes = hex bytes' → bytes = bytes'
  | [], [], _ => rfl
  | [], byte :: rest, same => by rw [hex_cons] at same; cases same
  | byte :: rest, [], same => by rw [hex_cons] at same; cases same
  | byte :: rest, byte' :: rest', same => by
      simp only [hex_cons, List.cons.injEq, Glyph.char.injEq] at same
      obtain ⟨high, low, later⟩ := same
      have high := Text.hexDigit_injective _ (Nat.mod_lt _ (by decide)) _ (Nat.mod_lt _ (by decide)) high
      have low := Text.hexDigit_injective _ (Nat.mod_lt _ (by decide)) _ (Nat.mod_lt _ (by decide)) low
      have small := byte.toNat_lt
      have small' := byte'.toNat_lt
      have first : byte = byte' := UInt8.toNat_inj.mp (by omega)
      rw [first, hex_injective later]

theorem take_hex (count : Nat) (bytes : List UInt8) :
    (hex bytes).take (2 * count) = hex (bytes.take count) := by
  induction count generalizing bytes with
  | zero => rfl
  | succ count ih =>
      cases bytes with
      | nil => simp [hex]
      | cons byte rest =>
          rw [hex_cons, Nat.mul_succ, List.take_succ_cons, List.take_succ_cons, List.take_succ_cons,
            hex_cons, ih]

end Digest

/-! ### Documents of signatures -/

theorem getD_injective {α : Type} {default : α} {a b : Option α} (given : a ≠ some default)
    (given' : b ≠ some default) (same : a.getD default = b.getD default) : a = b := by
  cases a <;> cases b <;> simp_all

namespace DocumentParam

variable {p q : Param} {params params' : List Param}

/-- A document tells a parameter but for its index. -/
theorem ofParam_injective (regular : p.passthrough = false ∧ p.Regular)
    (regular' : q.passthrough = false ∧ q.Regular) (same : ofParam p = ofParam q) :
    { p with index := none } = { q with index := none } := by
  obtain ⟨binds, slurpy, _, given⟩ := regular
  obtain ⟨binds', slurpy', _, given'⟩ := regular'
  simp only [ofParam, DocumentParam.mk.injEq] at same
  obtain ⟨name, code, named, refAlias, traits, source, optional, required⟩ := same
  have sigil : p.sigil = q.sigil := by
    have known := congrArg Sigil.ofCode? code
    simpa only [Sigil.ofCode?_code, Option.some.injEq] using known
  have role : p.role = q.role := by
    cases role : p.role <;> cases role' : q.role <;> simp [role, role'] at named ⊢
  have source := getD_injective given given' source
  rw [sigil, refAlias, ← slurpy'] at slurpy
  rw [Param.mk.injEq]
  exact ⟨name, sigil, role, rfl, slurpy, refAlias, traits, source, optional, required,
    binds.trans binds'.symm⟩

theorem map_ofParam_injective (regular : ∀ p ∈ params, p.passthrough = false ∧ p.Regular)
    (regular' : ∀ p ∈ params', p.passthrough = false ∧ p.Regular)
    (same : params.map ofParam = params'.map ofParam) :
    params.map (fun p => { p with index := none }) = params'.map fun p => { p with index := none } := by
  induction params generalizing params' with
  | nil => rw [List.map_eq_nil_iff.mp same.symm]
  | cons p rest ih =>
      cases params' with
      | nil => cases same
      | cons q rest' =>
          rw [List.forall_mem_cons] at regular regular'
          rw [List.map_cons, List.map_cons, List.cons.injEq] at same
          rw [List.map_cons, List.map_cons, ofParam_injective regular.1 regular'.1 same.1,
            ih regular.2 regular'.2 same.2]

end DocumentParam

namespace Signature

variable {s t : Signature} {options options' : AssemblyOptions} {text text' : Text}

theorem Assembled.withoutText (assembled : Assembled options s) :
    Assembled options { s with text := [] } := by
  obtain ⟨a, text, built, rfl⟩ := assembled
  exact ⟨a, [], built, rfl⟩

theorem Assembled.eq_of_params (assembled : Assembled options s) (assembled' : Assembled options' t)
    (text : s.text = t.text) (invocant : s.invocant = t.invocant)
    (passthrough : s.passthrough = t.passthrough)
    (params : s.params.map (fun p => { p with index := none }) =
      t.params.map fun p => { p with index := none }) : s = t := by
  -- The indexes follow from the rest: adding the parameters again gives them.
  obtain ⟨b, replayed, _, _, positional, named⟩ := assembled.replay
  obtain ⟨b', replayed', _, _, positional', named'⟩ := assembled'.replay
  rw [invocant, passthrough, params] at replayed
  obtain rfl : b = b' := Except.ok.inj (replayed.symm.trans replayed')
  have samePositional := positional.symm.trans positional'
  have sameNamed := named.symm.trans named'
  cases s
  cases t
  simp_all

theorem ofSignature_injective (assembled : Assembled options s) (assembled' : Assembled options' t)
    (named : s.invocant ≠ some []) (named' : t.invocant ≠ some [])
    (same : Document.ofSignature s = Document.ofSignature t) : s = t := by
  simp only [Document.ofSignature, Document.mk.injEq, true_and, Option.some.injEq] at same
  obtain ⟨text, invocant, passthrough, params⟩ := same
  exact assembled.eq_of_params assembled' text (getD_injective named named' invocant) passthrough
    (DocumentParam.map_ofParam_injective (fun p => assembled.regular) (fun p => assembled'.regular) params)

theorem Alike.identity_eq (alike : s.Alike t) : s.identity = t.identity := by
  have same : Document.ofSignature { s with text := [] } = Document.ofSignature { t with text := [] } := by
    simp only [Document.ofSignature, alike.invocant, alike.passthrough, Document.mk.injEq,
      Option.some.injEq, true_and]
    exact congrArg _ alike.params
  rw [identity, identity, encode, encode, same]

/-- A signature that can be written, and is told by its document. -/
structure Documented (s : Signature) : Prop where
  assembled : ∃ options, Assembled options s
  named : s.invocant ≠ some []
  writable : (Document.ofSignature s).Writable

theorem parse_documented (parsed : parse text options = .ok s) (encodable : text.Encodable)
    (implied : options.Encodable) : s.Documented where
  assembled := ⟨_, parse_assembled parsed⟩
  named := (parse_assembled parsed).invocant_eq ▸ invocantOf_ne_empty implied.named
  writable := parse_writable parsed encodable implied

namespace Documented

theorem withoutText (documented : s.Documented) : Documented { s with text := [] } where
  assembled := documented.assembled.imp fun _ assembled => assembled.withoutText
  named := documented.named
  writable := { documented.writable with text := ⟨rfl, (by decide : 0 < Cbor.argumentLimit)⟩ }

theorem encode_eq_iff (documented : s.Documented) (documented' : t.Documented) :
    s.encode = t.encode ↔ s = t := by
  constructor
  · intro same
    obtain ⟨_, assembled⟩ := documented.assembled
    obtain ⟨_, assembled'⟩ := documented'.assembled
    exact ofSignature_injective assembled assembled' documented.named documented'.named
      (Document.bytes_injective documented.writable documented'.writable same)
  · rintro rfl
    rfl

theorem identity_eq_iff (documented : s.Documented) (documented' : t.Documented) :
    s.identity = t.identity ↔ s.Alike t := by
  constructor
  · intro same
    have bare := (documented.withoutText.encode_eq_iff documented'.withoutText).mp same
    simp only [Signature.mk.injEq, true_and] at bare
    obtain ⟨invocant, positional, named, passthrough⟩ := bare
    exact ⟨invocant, passthrough, by rw [params, params, positional, named]⟩
  · exact Alike.identity_eq

/-- What is made of the hashed bytes is the same for alike signatures, and else only if it is the same for
different bytes. -/
theorem image_eq_iff {α : Type} (f : List UInt8 → α) (documented : s.Documented)
    (documented' : t.Documented) : f s.identity = f t.identity ↔
      s.Alike t ∨ s.identity ≠ t.identity ∧ f s.identity = f t.identity := by
  rw [← documented.identity_eq_iff documented']
  constructor
  · intro same
    exact (em (s.identity = t.identity)).imp id fun different => ⟨different, same⟩
  · rintro (same | ⟨_, same⟩)
    · rw [same]
    · exact same

end Documented

theorem digest_eq_iff : s.digest = t.digest ↔ Digest.sum s.identity = Digest.sum t.identity :=
  ⟨Digest.hex_injective, congrArg Digest.hex⟩

theorem plan_id_eq {settings : PlanOptions} {plan : Plan}
    (compiled : (Plan.compile s settings).outcome = .ok plan) :
    plan.id = Digest.hex ((Digest.sum s.identity).take 8) := by
  obtain ⟨_, _, _, _, _, _, rfl⟩ := Plan.compile_parts compiled
  exact Digest.take_hex 8 _

/-- The hashed bytes of two signatures are the same if and only if the signatures differ in their text at
most, whatever the layout of that. So alike signatures have one digest and one plan identifier, and others
share them only if the hash, or its first eight bytes, collides. The bytes with the text tell signatures
apart altogether. -/
theorem identified_by_params (parsed : parse text options = .ok s)
    (parsed' : parse text' options' = .ok t) (encodable : text.Encodable)
    (encodable' : text'.Encodable) (implied : options.Encodable) (implied' : options'.Encodable) :
    (s.identity = t.identity ↔ s.Alike t) ∧
      (s.digest = t.digest ↔ s.Alike t ∨
        s.identity ≠ t.identity ∧ Digest.sum s.identity = Digest.sum t.identity) ∧
      (∀ settings settings' plan plan', (Plan.compile s settings).outcome = .ok plan →
        (Plan.compile t settings').outcome = .ok plan' →
        (plan.id = plan'.id ↔ s.Alike t ∨ s.identity ≠ t.identity ∧
          (Digest.sum s.identity).take 8 = (Digest.sum t.identity).take 8)) ∧
      (s.encode = t.encode ↔ s = t) ∧
      ∀ relaid, Relaid text relaid →
        ∃ u, parse relaid options = .ok u ∧ s.Alike u ∧ s.identity = u.identity := by
  have documented := parse_documented parsed encodable implied
  have documented' := parse_documented parsed' encodable' implied'
  refine ⟨documented.identity_eq_iff documented', ?_, ?_, documented.encode_eq_iff documented', ?_⟩
  · rw [digest_eq_iff]
    exact documented.image_eq_iff Digest.sum documented'
  · intro settings settings' plan plan' compiled compiled'
    have ids : plan.id = plan'.id ↔
        (Digest.sum s.identity).take 8 = (Digest.sum t.identity).take 8 := by
      rw [plan_id_eq compiled, plan_id_eq compiled']
      exact ⟨Digest.hex_injective, congrArg Digest.hex⟩
    rw [ids]
    exact documented.image_eq_iff (fun bytes => (Digest.sum bytes).take 8) documented'
  · intro relaid related
    obtain ⟨u, again, alike⟩ := parse_relaid parsed related
    exact ⟨u, again, alike, alike.identity_eq⟩

/-- A declared invocant, traits out of order, and a default. -/
def plainText : Text := "$self: $a is ro is copy, :$b = [1]"

/-- The same with other blanks, a repeated trait and a comma at the end. -/
def relaidText : Text := " $self :$a  is copy is ro is copy , : $b=[1] ,"

def plainSample : Signature where
  text := plainText
  invocant := some "self"
  positional := [{ name := "a", index := some 0, traits := ["copy", "ro"] }]
  named := [{ name := "b", role := .named, optional := true, defaultSource := some "[1]" }]

theorem plainText_relaid : Relaid plainText relaidText where
  invocant := by decide +kernel
  clauses := by
    let first : Clause.Form := { role := .positional, refAlias := false, word := "$a",
                                 traits := ["ro", "copy"], defaultSource := none }
    let second : Clause.Form := { role := .named, refAlias := false, word := "$b", traits := [],
                                  defaultSource := some "[1]" }
    have traits (t : Text) : t ∈ first.traits ↔ t ∈ (["copy", "ro", "copy"] : List Text) := by
      simp only [first, List.mem_cons, List.not_mem_nil]
      tauto
    refine ⟨["$a is ro is copy", ":$b = [1]"], ["$a  is copy is ro is copy", ": $b=[1]"],
      by decide +kernel, by decide +kernel, .cons ?_ (.cons ?_ .nil)⟩
    · exact ⟨first, ["copy", "ro", "copy"], "$a is ro is copy", none, "$a  is copy is ro is copy", none,
        ⟨by decide, by decide, by decide, by decide, by decide⟩,
        ⟨by decide, by decide, by decide, by decide, by decide⟩, traits⟩
    · exact ⟨second, [], "$b ", some " [1]", " $b", some "[1]",
        ⟨by decide, by decide, by decide, by decide, by decide⟩,
        ⟨by decide, by decide, by decide, by decide, by decide⟩, fun _ => .rfl⟩

/-- An engine that takes any source, and computes nothing. -/
def idle : Engine where
  compile source _ := .ok (.ofData source fun _ => .ok .null)

theorem identified_by_params_relaid :
    parse plainText {} = .ok plainSample ∧
    ∃ t plan plan', parse relaidText {} = .ok t ∧ plainSample ≠ t ∧
      (Plan.compile plainSample { engine := some idle }).outcome = .ok plan ∧
      (Plan.compile t { engine := some idle }).outcome = .ok plan' ∧
      plainSample.identity = t.identity ∧ plainSample.digest = t.digest ∧ plan.id = plan'.id ∧
      plainSample.encode ≠ t.encode := by
  have parsed : parse plainText {} = .ok plainSample := by rfl
  have parsed' : parse relaidText {} = .ok { plainSample with text := relaidText.trim } := by rfl
  have implied : AssemblyOptions.Encodable {} := ⟨by rintro name ⟨⟩, by decide⟩
  obtain ⟨_, digest, ids, encode, relaid⟩ := identified_by_params parsed parsed' (by decide)
    (by decide) implied implied
  obtain ⟨t, again, alike, identity⟩ := relaid relaidText plainText_relaid
  obtain rfl := Except.ok.inj (parsed'.symm.trans again)
  obtain ⟨plan, plan', compiled, compiled'⟩ : ∃ plan plan',
      (Plan.compile plainSample { engine := some idle }).outcome = .ok plan ∧
        (Plan.compile { plainSample with text := relaidText.trim } { engine := some idle }).outcome =
          .ok plan' := ⟨_, _, rfl, rfl⟩
  have different : plainSample ≠ { plainSample with text := relaidText.trim } := by decide
  exact ⟨parsed, _, plan, plan', parsed', different, compiled, compiled', identity,
    digest.mpr (.inl alike), (ids _ _ _ _ compiled compiled').mpr (.inl alike), mt encode.mp different⟩

end Signature
end CallPlan
