import CallPlan.Proofs.Signature.Acceptance
import Mathlib.Data.List.Forall2

/-!
The layout of a signature makes no difference. What a clause reads as is given by its marks, the words of
its head and its trimmed default, and of the traits only by which there are. Texts with such clauses in
common, and with the same invocant, read as signatures that differ in nothing but their text.
-/

namespace CallPlan

/-- Signatures that differ in nothing but their text. -/
structure Signature.Alike (s t : Signature) : Prop where
  invocant : s.invocant = t.invocant
  passthrough : s.passthrough = t.passthrough
  params : s.params = t.params

namespace Clause

variable {source clause clause' head word : Text} {tail : Option Text} {p : Param}

/-- What a clause says, apart from its layout. -/
structure Form where
  role : Role
  refAlias : Bool
  word : Text
  traits : List Text
  defaultSource : Option Text

/-- The parameter that the words of a form are added to. -/
def Form.start (form : Form) : Param where
  name := []
  role := form.role
  refAlias := form.refAlias
  defaultSource := form.defaultSource

/-- A clause that says what a form says. There may be blanks anywhere between the words, and around the
default. -/
structure Laid (form : Form) (source head : Text) (tail : Option Text) : Prop where
  source : source = form.start.marks ++ head ++ defaultPart tail
  words : head.fields = form.word :: traitWords form.traits
  unmarked : ∀ g ∈ form.word.head?, g ≠ .char ':' ∧ g ≠ .char '\\'
  unsigned : .char '=' ∉ head
  defaultSource : form.defaultSource = tail.map Text.trim

/-- Clauses that say the same, with the same traits in any order and any number of times. -/
def Relaid (clause clause' : Text) : Prop :=
  ∃ form traits head tail head' tail', Laid form clause head tail ∧
    Laid { form with traits } clause' head' tail' ∧ ∀ trait, trait ∈ form.traits ↔ trait ∈ traits

/-! ### The parts of a clause -/

theorem cutDefault_append (unsigned : .char '=' ∉ head) :
    cutDefault (head ++ defaultPart tail) = (head, tail) := by
  induction head with
  | nil => cases tail <;> rfl
  | cons g rest ih =>
      rw [List.mem_cons, not_or] at unsigned
      simp [cutDefault, Ne.symm unsigned.1, ih unsigned.2]

theorem cutDefault_unsigned (t : Text) : .char '=' ∉ (cutDefault t).1 := by
  induction t with
  | nil => simp [cutDefault]
  | cons g rest ih =>
      unfold cutDefault
      split
      · simp
      · next other => simpa [Ne.symm other] using ih

/-- The order and the number of the traits make no difference. -/
theorem words_relaid {start : Param} {traits traits' : List Text}
    (same : ∀ trait, trait ∈ traits ↔ trait ∈ traits')
    (read : words start (word :: traitWords traits) = .ok p) :
    words start (word :: traitWords traits') = .ok p := by
  simp only [words, except_bind_ok] at read ⊢
  obtain ⟨written, listed, read⟩ := read
  obtain ⟨again, identifiers⟩ := traits_ok_iff.mp listed
  obtain rfl := traitWords_injective again
  refine ⟨traits', traits_ok_iff.mpr ⟨rfl, fun trait member => ?_⟩, ?_⟩
  · exact identifiers trait ((same trait).mpr member)
  · have sorted := Text.sorted_eq_of_mem_iff
      (fun trait member => Text.isUnicode_of_isIdentifier (identifiers trait member)) same
    rwa [← sorted]

namespace Laid

variable {form : Form}

theorem takeMarks (laid : Laid form source head tail) :
    (takeMark ':' source).1 = decide (form.role = .named) ∧
      takeMark '\\' (takeMark ':' source).2 = (form.refAlias, head ++ defaultPart tail) := by
  obtain ⟨g, rest, rfl, first⟩ := Text.head_of_fields laid.words
  have plain : g ≠ .char ':' ∧ g ≠ .char '\\' := by
    rcases first with blank | first
    · constructor <;> rintro rfl <;> cases blank
    · exact laid.unmarked g first
  rw [laid.source, Param.marks, Form.start]
  cases form.role <;> cases form.refAlias <;> simp [takeMark, plain]

theorem read (laid : Laid form source head tail) (given : form.defaultSource ≠ some []) :
    Clause.read source = Clause.words form.start (form.word :: traitWords form.traits) := by
  obtain ⟨named, aliased⟩ := laid.takeMarks
  have role : (if decide (form.role = .named) = true then Role.named else .positional) = form.role := by
    cases form.role <;> rfl
  unfold Clause.read
  dsimp only
  rw [named, aliased, cutDefault_append laid.unsigned, role, ← laid.defaultSource, laid.words]
  split
  · next empty => exact (given empty).elim
  · rfl

theorem given (laid : Laid form source head tail) (read : Clause.read source = .ok p) :
    form.defaultSource ≠ some [] := by
  obtain ⟨_, aliased⟩ := laid.takeMarks
  intro empty
  unfold Clause.read at read
  dsimp only at read
  rw [aliased, cutDefault_append laid.unsigned, ← laid.defaultSource, empty] at read
  cases read

end Laid

theorem exists_laid (read : Clause.read source = .ok p) :
    ∃ form head tail, Laid form source head tail := by
  have named := takeMark_eq ':' source
  have aliased := takeMark_eq '\\' (takeMark ':' source).2
  have cut := cutDefault_eq (takeMark '\\' (takeMark ':' source).2).2
  have unsigned := cutDefault_unsigned (takeMark '\\' (takeMark ':' source).2).2
  unfold Clause.read at read
  dsimp only at read
  split at read
  · cases read
  obtain ⟨word, others, listed, words⟩ := words_ok rfl read
  obtain ⟨written, traits, _⟩ := words.traits
  obtain ⟨rfl, _⟩ := traits_ok_iff.mp traits
  let form : Form := { role := p.role, refAlias := p.refAlias, word, traits := written,
                       defaultSource := p.defaultSource }
  refine ⟨form, _, _, ?_, listed, ?_, unsigned, words.defaultSource⟩
  · have marks : form.start.marks = (if (takeMark ':' source).1 then [.char ':'] else []) ++
        (if (takeMark '\\' (takeMark ':' source).2).1 then [.char '\\'] else []) := by
      simp only [Param.marks, form, Form.start, words.role, words.refAlias]
      cases (takeMark ':' source).1 <;> rfl
    rw [marks, List.append_assoc, ← cut, List.append_assoc, ← aliased, ← named]
  · cases raw : p.passthrough with
    | true =>
        rw [show form.word = _ from (words.raw raw).1]
        decide
    | false =>
        obtain ⟨_, suffix, _, spelled⟩ := words.token raw
        rw [show form.word = _ from spelled]
        cases sigil : p.sigil <;> simp [Param.var, sigil, Sigil.char]

theorem read_relaid (relaid : Relaid source clause') (read : Clause.read source = .ok p) :
    Clause.read clause' = .ok p := by
  obtain ⟨form, traits, head, tail, head', tail', laid, laid', same⟩ := relaid
  have given := laid.given read
  rw [laid.read given] at read
  rw [laid'.read given]
  exact words_relaid same read

theorem relaid_self (trimmed : clause.trim = clause) (parsed : Clause.parse clause = .ok p) :
    Relaid clause clause := by
  rw [parse_ok_iff, trimmed] at parsed
  obtain ⟨form, head, tail, laid⟩ := exists_laid parsed
  exact ⟨form, form.traits, head, tail, head, tail, laid, laid, fun _ => .rfl⟩

theorem parse_relaid (relaid : Relaid clause clause') (trimmed : clause.trim = clause)
    (trimmed' : clause'.trim = clause') (parsed : Clause.parse clause = .ok p) :
    Clause.parse clause' = .ok p := by
  rw [parse_ok_iff, trimmed] at parsed
  rw [parse_ok_iff, trimmed']
  exact read_relaid relaid parsed

variable {clauses clauses' : List Text} {params : List Param}

theorem forall₂_relaid_self (trimmed : ∀ clause ∈ clauses, clause.trim = clause)
    (read : List.Forall₂ (fun clause p => Clause.parse clause = .ok p) clauses params) :
    List.Forall₂ Relaid clauses clauses := by
  induction read with
  | nil => exact .nil
  | cons parsed _ ih =>
      rw [List.forall_mem_cons] at trimmed
      exact .cons (relaid_self trimmed.1 parsed) (ih trimmed.2)

theorem forall₂_parse_relaid
    (relaid : List.Forall₂ Relaid clauses clauses')
    (trimmed : ∀ clause ∈ clauses, clause.trim = clause)
    (trimmed' : ∀ clause ∈ clauses', clause.trim = clause)
    (read : List.Forall₂ (fun clause p => Clause.parse clause = .ok p) clauses params) :
    List.Forall₂ (fun clause p => Clause.parse clause = .ok p) clauses' params := by
  induction relaid generalizing params with
  | nil => exact read
  | cons first _ ih =>
      cases read with
      | cons parsed others =>
          rw [List.forall_mem_cons] at trimmed trimmed'
          exact .cons (parse_relaid first trimmed.1 trimmed'.1 parsed) (ih trimmed.2 trimmed'.2 others)

end Clause

namespace Signature

variable {s : Signature} {options : AssemblyOptions} {text text' : Text}

/-- Texts with the same invocant, and with clauses that say the same. Blanks around the invocant and
around the clauses, and a comma after the last clause, make no difference. -/
structure Relaid (text text' : Text) : Prop where
  invocant : (Invocant.split text).1 = (Invocant.split text').1
  clauses : ∃ clauses clauses', Split.split (Invocant.split text).2 = .ok clauses ∧
    Split.split (Invocant.split text').2 = .ok clauses' ∧ List.Forall₂ Clause.Relaid clauses clauses'

/-- Every signature is laid out in some way. -/
theorem relaid_self (parsed : parse text options = .ok s) : Relaid text text := by
  obtain ⟨a, list, _⟩ := parse_ok_iff.mp parsed
  obtain ⟨clauses, params, cut, read, _⟩ := readList_ok_iff.mp list
  exact ⟨rfl, clauses, clauses, cut, cut, Clause.forall₂_relaid_self (Split.split_trimmed cut) read⟩

/-- A signature in another layout is read as well, and it is the same but for its text. -/
theorem parse_relaid (parsed : parse text options = .ok s) (relaid : Relaid text text') :
    ∃ t, parse text' options = .ok t ∧ s.Alike t := by
  obtain ⟨a, list, rfl⟩ := parse_ok_iff.mp parsed
  obtain ⟨clauses, params, cut, read, added⟩ := readList_ok_iff.mp list
  obtain ⟨again, clauses', cutAgain, cut', related⟩ := relaid.clauses
  obtain rfl : clauses = again := Except.ok.inj (cut.symm.trans cutAgain)
  have read' := Clause.forall₂_parse_relaid related (Split.split_trimmed cut)
    (Split.split_trimmed cut') read
  have invocant : invocantOf text' options = invocantOf text options := by
    rw [invocantOf, invocantOf, relaid.invocant]
  refine ⟨(a.setText text').signature, parse_ok_iff.mpr ⟨a, ?_, rfl⟩, rfl, rfl, rfl⟩
  rw [invocant]
  exact readList_ok_iff.mpr ⟨clauses', params, cut', read', added⟩

end Signature
end CallPlan
