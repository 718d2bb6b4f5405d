import CallPlan.Document
import CallPlan.Proofs.Signature.Assembly
import CallPlan.Proofs.Signature.Clause
import CallPlan.Proofs.Signature.Invocant
import CallPlan.Signature.Parse

/-!
Signatures come from texts and from documents. Both are assembled from parameters whose flags follow
from what is written, so whatever is proved of assembled signatures holds of both.
-/

namespace CallPlan

/-- A parameter whose flags are those that a clause or a document gives it. -/
structure Param.Regular (p : Param) : Prop where
  slurpy : p.slurpy = (decide (p.sigil ≠ .scalar) && !p.refAlias)
  traits : ∃ written, p.traits = Text.sorted written
  defaultSource : p.defaultSource ≠ some []

/-- The raw argument list, or a regular parameter. -/
def Param.Accepted (p : Param) : Prop := p.passthrough = true ∨ p.Regular

theorem Param.Accepted.index {p : Param} (accepted : p.Accepted) (index : Option Nat) :
    Param.Accepted { p with index } :=
  accepted.imp id fun regular => ⟨regular.slurpy, regular.traits, regular.defaultSource⟩

namespace Clause

theorem token_regular {p q : Param} {word : Text} (read : token p word = .ok q)
    (traits : ∃ written, p.traits = Text.sorted written) (given : p.defaultSource ≠ some []) :
    q.Regular := by
  cases word with
  | nil => simp [token] at read
  | cons first rest =>
      cases sigil : Sigil.ofGlyph? first with
      | none => simp [token, sigil] at read
      | some sigil =>
          simp only [token, sigil] at read
          split at read
          · cases read
          · split at read
            · cases read
            · cases read
              exact ⟨rfl, traits, given⟩

theorem words_accepted {p q : Param} {head : List Text} (read : words p head = .ok q)
    (given : p.defaultSource ≠ some []) : q.Accepted := by
  cases head with
  | nil => simp [words] at read
  | cons word rest =>
      simp only [words, except_bind_ok] at read
      obtain ⟨written, _, read⟩ := read
      split at read
      · split at read
        · cases read
        · cases read
          exact .inl rfl
      · exact .inr (token_regular read ⟨written, rfl⟩ given)

theorem parse_accepted {clause : Text} {p : Param} (parsed : parse clause = .ok p) : p.Accepted := by
  obtain ⟨start, head, read, given⟩ := parse_words parsed
  exact words_accepted read given

end Clause

namespace Signature

open Assembler (Built)

variable {a a' : Assembler} {options : AssemblyOptions} {s : Signature}

/-- A signature put together from accepted parameters, with the text it was written as. -/
def Assembled (options : AssemblyOptions) (s : Signature) : Prop :=
  ∃ a text, Built Param.Accepted options a ∧ s = (a.setText text).signature

/-- Positional parameters are at their indexes, and no two names are the same. This is so of every
signature that an assembler has put together. -/
structure WellFormed (s : Signature) : Prop where
  placed : ∀ (i : Nat) (p : Param), s.positional[i]? = some p → p.index = some i
  distinct : (s.invocant.toList ++ s.params.map (·.name)).Nodup

theorem wellFormed_of_built {accepts : Param → Prop} (built : Built accepts options a) (text : Text) :
    (a.setText text).signature.WellFormed :=
  ⟨built.sound.placed, built.sound.distinct⟩

theorem Assembled.wellFormed (assembled : Assembled options s) : s.WellFormed := by
  obtain ⟨a, text, built, rfl⟩ := assembled
  exact wellFormed_of_built built text

theorem Assembled.invocant_eq (assembled : Assembled options s) : s.invocant = options.invocant := by
  obtain ⟨a, text, built, rfl⟩ := assembled
  exact built.invocant_eq

theorem Assembled.regular (assembled : Assembled options s) {p : Param} (member : p ∈ s.params) :
    p.passthrough = false ∧ p.Regular := by
  obtain ⟨a, text, built, rfl⟩ := assembled
  obtain ⟨binds, accepted⟩ := built.params_accepted (fun _ index accepted => accepted.index index) p
    member
  refine ⟨binds, accepted.resolve_left ?_⟩
  simp [binds]

theorem addClauses_built {clauses : List Text} (built : Built Param.Accepted options a)
    (added : addClauses a clauses = .ok a') : Built Param.Accepted options a' := by
  induction clauses generalizing a with
  | nil =>
      cases added
      exact built
  | cons clause rest ih =>
      simp only [addClauses, addClause, except_bind_ok, except_mapError_ok] at added
      obtain ⟨next, ⟨p, read, recorded⟩, remaining⟩ := added
      exact ih (.add built (Clause.parse_accepted read) recorded) remaining

/-- The invocant of a text: the declared one, or else the implied one. -/
def invocantOf (text : Text) (options : AssemblyOptions) : Option Text :=
  (Invocant.split text).1 <|> options.invocant

theorem invocantOf_ne_empty {text : Text} (named : options.invocant ≠ some []) :
    invocantOf text options ≠ some [] := by
  unfold invocantOf Invocant.split
  split
  · next name rest found =>
      rintro empty
      have valid := Invocant.isName_of_prefixed? found
      rw [Option.some.inj empty] at valid
      cases valid
  · exact named

theorem parse_assembled {text : Text} (parsed : parse text options = .ok s) :
    Assembled { options with invocant := invocantOf text options } s := by
  unfold parse at parsed
  dsimp only at parsed
  split at parsed
  · next a read =>
      cases parsed
      simp only [readList, except_bind_ok, except_mapError_ok] at read
      obtain ⟨clauses, _, added⟩ := read
      exact ⟨a, text, addClauses_built .new added, rfl⟩
  · cases parsed

end Signature

namespace Document

open Assembler (Built)

variable {a a' : Assembler} {options : AssemblyOptions}

theorem toParam_regular (p : DocumentParam) (sigil : Sigil) : (p.toParam sigil).Regular where
  slurpy := rfl
  traits := ⟨p.traits, rfl⟩
  defaultSource := by
    cases empty : p.defaultSource <;> simp [DocumentParam.toParam, empty]

theorem addParams_built {params : List DocumentParam} (built : Built Param.Accepted options a)
    (added : addParams a params = .ok a') : Built Param.Accepted options a' := by
  induction params generalizing a with
  | nil =>
      cases added
      exact built
  | cons p rest ih =>
      simp only [addParams, except_bind_ok, addParam] at added
      obtain ⟨next, recorded, remaining⟩ := added
      cases known : Sigil.ofCode? p.sigil with
      | none => simp [known] at recorded
      | some sigil =>
          simp only [known, except_mapError_ok] at recorded
          exact ih (.add built (.inr (toParam_regular p sigil)) recorded) remaining

/-- The invocant of a document; an empty name stands for none. -/
def invocant? (d : Document) : Option Text := if d.invocant.isEmpty then none else some d.invocant

theorem invocant?_ne_empty (d : Document) : d.invocant? ≠ some [] := by
  unfold invocant?
  split
  · simp
  · next nonempty =>
      intro empty
      rw [Option.some.inj empty] at nonempty
      exact nonempty rfl

theorem signature_assembled {d : Document} {s : Signature} (read : d.signature = .ok s) :
    s.Assembled { invocant := d.invocant? } := by
  unfold signature at read
  split at read
  · cases read
  · simp only [except_bind_ok] at read
    obtain ⟨a, added, assembled⟩ := read
    cases assembled
    refine ⟨a, d.text, addParams_built ?_ added, rfl⟩
    cases raw : d.passthrough with
    | false => exact .new
    | true =>
        have passthrough : Param.Accepted { name := [], passthrough := true } := .inl rfl
        exact .add .new passthrough (Assembler.add_passthrough rfl)

end Document

theorem Signature.decode_assembled {bytes : List UInt8} {s : Signature}
    (read : Signature.decode bytes = .ok s) :
    ∃ d : Document, s.Assembled { invocant := d.invocant? } := by
  unfold Signature.decode at read
  split at read
  · next d _ => exact ⟨d, Document.signature_assembled read⟩
  · cases read

end CallPlan
