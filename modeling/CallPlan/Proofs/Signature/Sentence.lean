import CallPlan.Proofs.Signature.Rereading

/-!
The grammar of clauses. A sentence is what a clause can be written as: its marks, a token of sigil, name and
suffix, traits, each behind the word that announces it, and the text of a default. The reader cuts a clause
at its first equals sign and at blanks, and it takes marks off both ends of what it has cut; none of these
cuts can fall inside a part of a sentence, so it accepts the sentences, and finds the parts they have.
-/

namespace CallPlan.Clause

/-- What can stand behind a name. -/
inductive Suffix where
  | optional
  | required
deriving DecidableEq

def Suffix.char : Suffix → Char
  | .optional => '?'
  | .required => '!'

structure Sentence where
  named : Bool
  refAlias : Bool
  sigil : Sigil
  name : Text
  suffix : Option Suffix
  traits : List Text
  tail : Option Text

/-- Traits as they are written, each behind the word `is`, with blanks in front of both. -/
inductive TraitList : List Text → Text → Prop
  | nil {gap : Text} (blank : gap.isBlank = true) : TraitList [] gap
  | cons {before between trait rest : Text} {traits : List Text} (early : before.isBlank = true)
      (apart : before ≠ []) (late : between.isBlank = true) (parted : between ≠ [])
      (identifier : trait.isIdentifier = true) (more : TraitList traits rest) :
      TraitList (trait :: traits) (before ++ (Text.ofString "is" ++ (between ++ (trait ++ rest))))

namespace Sentence

def marks (s : Sentence) : Text :=
  (if s.named then [.char ':'] else []) ++ (if s.refAlias then [.char '\\'] else [])

def suffixText (s : Sentence) : Text :=
  match s.suffix with
  | some suffix => [.char suffix.char]
  | none => []

def token (s : Sentence) : Text := .char s.sigil.char :: (s.name ++ s.suffixText)

/-- The texts that a sentence can be written as. -/
structure Spells (s : Sentence) (t : Text) : Prop where
  text : ∃ gap written, gap.isBlank = true ∧ TraitList s.traits written ∧
    t = s.marks ++ (gap ++ (s.token ++ written)) ++ defaultPart s.tail
  name : s.name.isIdentifier = true
  given : ∀ tail, s.tail = some tail → tail.isBlank = false

/-- The parameter that a sentence stands for. -/
structure Describes (s : Sentence) (p : Param) : Prop where
  name : p.name = s.name
  sigil : p.sigil = s.sigil
  role : p.role = .named ↔ s.named = true
  refAlias : p.refAlias = s.refAlias
  traits : ∀ trait, trait ∈ p.traits ↔ trait ∈ s.traits
  ordered : Text.Ascending p.traits
  defaultSource : p.defaultSource = s.tail.map Text.trim
  required : p.required = true ↔ s.suffix = some .required
  optional : p.optional = true ↔ s.suffix ≠ some .required ∧
    (s.suffix = some .optional ∨ s.tail.isSome = true ∨ s.named = true)
  slurpy : p.slurpy = true ↔ s.sigil ≠ .scalar ∧ s.refAlias = false
  index : p.index = none
  binds : p.passthrough = false

end Sentence

variable {traits : List Text} {t : Text}

/-! ### Traits -/

theorem TraitList.identifiers (list : TraitList traits t) :
    ∀ trait ∈ traits, trait.isIdentifier = true := by
  induction list with
  | nil => simp
  | cons _ _ _ _ identifier _ ih => exact List.forall_mem_cons.mpr ⟨identifier, ih⟩

theorem head_blank {gap : Text} (blank : gap.isBlank = true) (nonempty : gap ≠ []) (rest : Text) :
    ∀ g ∈ (gap ++ rest).head?, g.isBlank = true := by
  intro g first
  rw [List.head?_append_of_ne_nil gap nonempty] at first
  exact List.all_eq_true.mp blank g (List.mem_of_head? first)

theorem TraitList.starts (list : TraitList traits t) : ∀ g ∈ t.head?, g.isBlank = true := by
  cases list with
  | nil blank => exact fun g first => List.all_eq_true.mp blank g (List.mem_of_head? first)
  | cons early apart => exact head_blank early apart _

theorem TraitList.fields (list : TraitList traits t) : t.fields = traitWords traits := by
  induction list with
  | nil blank => exact Text.fields_blank (List.all_eq_true.mp blank)
  | cons early apart late parted identifier more ih =>
      rw [Text.fields_blank_append (List.all_eq_true.mp early),
        Text.fields_append (by decide) (by decide) (head_blank late parted _),
        Text.fields_blank_append (List.all_eq_true.mp late),
        Text.fields_append (identifier_shown identifier) (Text.ne_nil_of_isIdentifier identifier)
          more.starts, ih, traitWords_cons]

/-- A text whose words are traits is written as they are. -/
theorem traitList_of_fields (starts : ∀ g ∈ t.head?, g.isBlank = true)
    (read : t.fields = traitWords traits) (identifiers : ∀ trait ∈ traits, trait.isIdentifier = true) :
    TraitList traits t := by
  induction traits generalizing t with
  | nil => exact .nil (List.all_eq_true.mpr (Text.fieldsFrom_nil read).2)
  | cons trait rest ih =>
      obtain ⟨identifier, others⟩ := List.forall_mem_cons.mp identifiers
      obtain ⟨before, t, rfl, _, early, _, next, read⟩ := Text.exists_of_fields read
      obtain ⟨between, t, rfl, nonempty, late, shown, last, read⟩ := Text.exists_of_fields read
      have apart : before ≠ [] := by
        rintro rfl
        have blank := starts (.char 'i') rfl
        cases blank
      have parted : between ≠ [] := by
        rintro rfl
        obtain ⟨g, more, rfl⟩ := List.exists_cons_of_ne_nil nonempty
        have blank := next g rfl
        rw [shown g List.mem_cons_self] at blank
        cases blank
      rw [List.append_assoc, List.append_assoc]
      exact .cons (List.all_eq_true.mpr early) apart (List.all_eq_true.mpr late) parted identifier
        (ih last read others)

theorem unsigned_of_blank {gap : Text} (blank : gap.isBlank = true) : .char '=' ∉ gap := by
  intro member
  have sign := List.all_eq_true.mp blank _ member
  cases sign

theorem TraitList.unsigned (list : TraitList traits t) : .char '=' ∉ t := by
  induction list with
  | nil blank => exact unsigned_of_blank blank
  | cons early _ late _ identifier _ ih =>
      have word : .char '=' ∉ Text.ofString "is" := by decide
      simp only [List.mem_append, not_or]
      exact ⟨unsigned_of_blank early, word, unsigned_of_blank late,
        Param.identifier_unsigned identifier, ih⟩

namespace Sentence

variable {s s' : Sentence} {p : Param}

/-! ### What a sentence reads as -/

def form (s : Sentence) : Form where
  role := if s.named then .named else .positional
  refAlias := s.refAlias
  word := s.token
  traits := s.traits
  defaultSource := s.tail.map Text.trim

theorem marks_eq (s : Sentence) : s.form.start.marks = s.marks := by
  unfold marks form Form.start Param.marks
  cases s.named <;> rfl

theorem suffix_listed (s : Sentence) : s.suffixText ∈ suffixes := by
  unfold suffixText
  split
  · next suffix _ => cases suffix <;> decide
  · decide

theorem Spells.laid (spells : s.Spells t) : ∃ head, Laid s.form t head s.tail := by
  obtain ⟨gap, written, blank, list, rfl⟩ := spells.text
  have plain : ∀ g ∈ s.token, g.isBlank = false ∧ g ≠ .char '=' :=
    Param.token_plain s.sigil spells.name s.suffix_listed
  have shown : ∀ g ∈ s.token, g.isBlank = false := fun g member => (plain g member).1
  have unsigned : .char '=' ∉ s.token := fun member => (plain _ member).2 rfl
  refine ⟨gap ++ (s.token ++ written), ?_, ?_, ?_, ?_, rfl⟩
  · rw [marks_eq]
  · rw [Text.fields_blank_append (List.all_eq_true.mp blank),
      Text.fields_append shown (List.cons_ne_nil _ _) list.starts, list.fields]
    rfl
  · simp only [form, token]
    cases s.sigil <;> rintro g ⟨⟩ <;> decide
  · simp only [List.mem_append, not_or]
    exact ⟨unsigned_of_blank blank, unsigned, list.unsigned⟩

theorem Spells.read (spells : s.Spells t) :
    Clause.read t = words s.form.start (s.token :: traitWords s.traits) := by
  obtain ⟨head, laid⟩ := spells.laid
  refine laid.read fun empty => ?_
  obtain ⟨tail, written, none⟩ := Option.map_eq_some_iff.mp empty
  have shown := spells.given tail written
  rw [Text.isBlank_of_trim none] at shown
  cases shown

theorem suffixText_iff (s : Sentence) :
    (s.suffixText = [.char '!'] ↔ s.suffix = some .required) ∧
      (s.suffixText = [.char '?'] ↔ s.suffix = some .optional) := by
  unfold suffixText
  cases s.suffix with
  | none => decide
  | some suffix => cases suffix <;> decide

theorem token_read (identifier : s.name.isIdentifier = true) (start : Param) :
    Clause.token start s.token = .ok { start with
      name := s.name
      sigil := s.sigil
      required := s.suffix = some .required
      optional := s.suffix ≠ some .required &&
        (s.suffix = some .optional || start.hasDefault || start.role = .named)
      slurpy := s.sigil ≠ .scalar && !start.refAlias } := by
  obtain ⟨required, optional⟩ := suffix_read identifier s.suffix_listed
  obtain ⟨exclaimed, queried⟩ := s.suffixText_iff
  have single : ¬ (decide (s.suffix = some .optional) && decide (s.suffix = some .required)) = true := by
    cases s.suffix with
    | none => simp
    | some suffix => cases suffix <;> simp
  simp only [token, Clause.token, ofGlyph?_char, required, optional, exclaimed, queried]
  rw [if_neg single, if_neg (by simp [identifier])]
  simp

theorem Spells.identifiers (spells : s.Spells t) : ∀ trait ∈ s.traits, trait.isIdentifier = true := by
  obtain ⟨_, _, _, list, _⟩ := spells.text
  exact list.identifiers

/-- A sentence is read, unless its token is the raw argument list's. -/
theorem Spells.accepted (spells : s.Spells t) (other : s.token ≠ Param.passthroughName) :
    ∃ p, Clause.read t = .ok p ∧ s.Describes p := by
  have identifiers := spells.identifiers
  have traits : Clause.traits (traitWords s.traits) = .ok s.traits := traits_ok_iff.mpr ⟨rfl, identifiers⟩
  rw [spells.read, words, traits, except_ok_bind, if_neg other, token_read spells.name]
  refine ⟨_, rfl, rfl, rfl, ?_, rfl, fun trait => Text.mem_sorted, ?_, rfl, ?_, ?_, ?_, rfl, rfl⟩
  · cases named : s.named <;> simp [form, Form.start, named]
  · exact Text.sorted_ascending fun trait member =>
      Text.isUnicode_of_isIdentifier (identifiers trait member)
  · simp
  · cases named : s.named <;> simp [form, Form.start, Param.hasDefault, named]
  · simp [form, Form.start]

/-- A sentence with the raw argument list's token is that token, or is refused. -/
theorem Spells.raw (spells : s.Spells t) (raw : s.token = Param.passthroughName)
    (read : Clause.read t = .ok p) : p.passthrough = true := by
  rw [spells.read, words, raw] at read
  simp only [except_bind_ok, if_true] at read
  obtain ⟨_, _, read⟩ := read
  split at read
  · cases read
  · cases read
    rfl

/-! ### Sentences are told apart -/

theorem token_injective (identifier : s.name.isIdentifier = true)
    (identifier' : s'.name.isIdentifier = true) (same : s.token = s'.token) :
    s.sigil = s'.sigil ∧ s.name = s'.name ∧ s.suffix = s'.suffix := by
  have read := token_read identifier { name := [] }
  rw [same, token_read identifier', Except.ok.injEq, Param.mk.injEq] at read
  obtain ⟨name, sigil, -, -, -, -, -, -, optional, required, -⟩ := read
  refine ⟨sigil.symm, name.symm, ?_⟩
  -- The two flags tell the three suffixes apart.
  rcases first : s.suffix with _ | _ | _ <;> rcases second : s'.suffix with _ | _ | _ <;>
    simp_all [Param.hasDefault]

/-- A text is one sentence at most, and its default is what is behind the first equals sign. -/
theorem Spells.unique (spells : s.Spells t) (spells' : s'.Spells t) : s = s' := by
  obtain ⟨head, laid⟩ := spells.laid
  obtain ⟨head', laid'⟩ := spells'.laid
  have named : s.named = s'.named := by
    have taken := laid.takeMarks.1.symm.trans laid'.takeMarks.1
    cases first : s.named <;> cases second : s'.named <;> simp_all [form]
  obtain ⟨refAlias, rest⟩ := Prod.mk.inj (laid.takeMarks.2.symm.trans laid'.takeMarks.2)
  have cut : cutDefault (head ++ defaultPart s.tail) = (head, s.tail) := cutDefault_append laid.unsigned
  rw [rest, cutDefault_append laid'.unsigned] at cut
  obtain ⟨rfl, tail⟩ := Prod.mk.inj cut
  obtain ⟨token, words⟩ := List.cons.inj (laid.words.symm.trans laid'.words)
  obtain ⟨sigil, name, suffix⟩ := token_injective spells.name spells'.name token
  have traits := traitWords_injective words
  cases s
  cases s'
  simp_all [form]

theorem cutDefault_eq_cut (t : Text) : cutDefault t = t.cut '=' := by
  induction t with
  | nil => rfl
  | cons g rest ih => simp only [cutDefault, Text.cut, ih]

theorem Spells.tail (spells : s.Spells t) : (t.cut '=').2 = s.tail := by
  obtain ⟨head, laid⟩ := spells.laid
  have unsigned : .char '=' ∉ s.form.start.marks ++ head := by
    refine fun member => (List.mem_append.mp member).elim ?_ laid.unsigned
    rw [marks_eq, marks]
    cases s.named <;> cases s.refAlias <;> decide
  rw [← cutDefault_eq_cut, laid.source, cutDefault_append unsigned]

/-! ### Every parameter is a sentence -/

theorem exists_spells (parsed : Clause.read t = .ok p) (binds : p.passthrough = false) :
    ∃ s : Sentence, s.Spells t ∧ s.token ≠ Param.passthroughName ∧ s.Describes p := by
  obtain ⟨head, tail, layout⟩ := read_ok parsed
  obtain ⟨word, others, listed, words⟩ := layout.words
  obtain ⟨written, traits, -⟩ := words.traits
  obtain ⟨rfl, identifiers⟩ := traits_ok_iff.mp traits
  obtain ⟨identifier, suffix, known, spelled⟩ := words.token binds
  obtain ⟨gap, rest, text, -, blank, -, starts, read⟩ := Text.exists_of_fields listed
  have list := traitList_of_fields starts read identifiers
  let s : Sentence := {
    named := p.role = .named
    refAlias := p.refAlias
    sigil := p.sigil
    name := p.name
    suffix := if suffix = [.char '!'] then some .required
      else if suffix = [.char '?'] then some .optional else none
    traits := written
    tail }
  have token : s.token = word := by
    rw [spelled, Sentence.token, suffixText]
    simp only [suffixes, List.mem_cons, List.not_mem_nil, or_false] at known
    rcases known with rfl | rfl | rfl <;> rfl
  have marks : s.marks = p.marks := by simp [s, Sentence.marks, Param.marks]
  have spells : s.Spells t := by
    refine ⟨⟨gap, rest, List.all_eq_true.mpr blank, list, ?_⟩, identifier, fun after given => ?_⟩
    · rw [layout.source, text, token, marks, List.append_assoc gap]
    · cases empty : after.isBlank with
      | false => rfl
      | true =>
          refine (layout.given ?_).elim
          rw [layout.defaultSource, show tail = some after from given, Option.map_some,
            Text.trim_of_blank (List.all_eq_true.mp empty)]
  have other : s.token ≠ Param.passthroughName := fun raw => by
    rw [spells.raw raw parsed] at binds
    cases binds
  obtain ⟨p', again, describes⟩ := spells.accepted other
  cases parsed.symm.trans again
  exact ⟨s, spells, other, describes⟩

theorem Describes.unique {p' : Param} (unicode : ∀ trait ∈ s.traits, trait.isUnicode = true)
    (first : s.Describes p) (second : s.Describes p') : p = p' := by
  have traits : p.traits = p'.traits := by
    rw [← Text.sorted_of_ascending first.ordered, ← Text.sorted_of_ascending second.ordered]
    refine Text.sorted_eq_of_mem_iff (fun trait member => ?_) fun trait => ?_
    · exact unicode trait ((first.traits trait).mp member)
    · rw [first.traits, second.traits]
  have role : p.role = p'.role := by
    have named := first.role.trans second.role.symm
    cases one : p.role <;> cases two : p'.role <;> simp_all
  have required := Bool.eq_iff_iff.mpr (first.required.trans second.required.symm)
  have optional := Bool.eq_iff_iff.mpr (first.optional.trans second.optional.symm)
  have slurpy := Bool.eq_iff_iff.mpr (first.slurpy.trans second.slurpy.symm)
  have name := first.name.trans second.name.symm
  have sigil := first.sigil.trans second.sigil.symm
  have refAlias := first.refAlias.trans second.refAlias.symm
  have defaultSource := first.defaultSource.trans second.defaultSource.symm
  have index := first.index.trans second.index.symm
  have binds := first.binds.trans second.binds.symm
  cases p
  cases p'
  simp_all

end Sentence

theorem read_raw : Clause.read Param.passthroughName =
    .ok { name := "_", sigil := .array, passthrough := true } := by
  decide

theorem parse_raw {clause : Text} {p : Param} (parsed : Clause.parse clause = .ok p)
    (raw : p.passthrough = true) : clause.trim = Param.passthroughName :=
  (passthrough_iff (Text.trim_trim clause) (parse_trim parsed)).mp raw

/-- A clause is accepted if and only if it is the raw argument list or a sentence with another token. The
sentence is the only one it can be read as, and the parameter is the one the sentence stands for. -/
theorem parse_sentence_iff (clause : Text) :
    ((∃ p, Clause.parse clause = .ok p) ↔ clause.trim = Param.passthroughName ∨
      ∃ s : Sentence, s.Spells clause.trim ∧ s.token ≠ Param.passthroughName) ∧
    (∀ p, Clause.parse clause = .ok p ↔
      clause.trim = Param.passthroughName ∧ p = { name := "_", sigil := .array, passthrough := true } ∨
      ∃ s : Sentence, s.Spells clause.trim ∧ s.token ≠ Param.passthroughName ∧ s.Describes p) ∧
    (∀ s s' : Sentence, s.Spells clause.trim → s'.Spells clause.trim → s = s') ∧
    ∀ s : Sentence, s.Spells clause.trim → (clause.trim.cut '=').2 = s.tail := by
  have each (p : Param) : Clause.parse clause = .ok p ↔
      clause.trim = Param.passthroughName ∧ p = { name := "_", sigil := .array, passthrough := true } ∨
      ∃ s : Sentence, s.Spells clause.trim ∧ s.token ≠ Param.passthroughName ∧ s.Describes p := by
    constructor
    · intro parsed
      cases binds : p.passthrough with
      | true =>
          have bare := parse_raw parsed binds
          have read := parse_ok_iff.mp parsed
          rw [bare, read_raw] at read
          exact .inl ⟨bare, (Except.ok.inj read).symm⟩
      | false => exact .inr (Sentence.exists_spells (parse_ok_iff.mp parsed) binds)
    · rintro (⟨bare, rfl⟩ | ⟨s, spells, other, describes⟩)
      · rw [parse_ok_iff, bare, read_raw]
      · obtain ⟨p', read, described⟩ := spells.accepted other
        have unicode := fun trait member =>
          Text.isUnicode_of_isIdentifier (spells.identifiers trait member)
        rw [describes.unique unicode described]
        exact parse_ok_iff.mpr read
  refine ⟨?_, each, fun s s' => Sentence.Spells.unique, fun s => Sentence.Spells.tail⟩
  constructor
  · rintro ⟨p, parsed⟩
    rcases (each p).mp parsed with ⟨bare, -⟩ | ⟨s, spells, other, -⟩
    · exact .inl bare
    · exact .inr ⟨s, spells, other⟩
  · rintro (bare | ⟨s, spells, other⟩)
    · exact ⟨_, (each _).mpr (.inl ⟨bare, rfl⟩)⟩
    · obtain ⟨p, read, -⟩ := spells.accepted other
      exact ⟨p, parse_ok_iff.mpr read⟩

/-- The raw argument list has the sigil of an array and is no reference, but it is not slurpy. -/
theorem parse_raw_not_slurpy : ∃ p, Clause.parse Param.passthroughName = .ok p ∧
    ¬ (p.slurpy = true ↔ p.sigil ≠ .scalar ∧ p.refAlias = false) :=
  ⟨{ name := "_", sigil := .array, passthrough := true }, by decide, by decide⟩

example : Clause.parse " :\\  %rows! is ro\tis lazy= f(a = 1) " = .ok
    { name := "rows", sigil := .hash, role := .named, refAlias := true, traits := ["lazy", "ro"]
      defaultSource := some "f(a = 1)", required := true } := by
  decide

end CallPlan.Clause
