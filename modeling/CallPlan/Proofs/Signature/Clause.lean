import CallPlan.Proofs.Data.Except
import CallPlan.Proofs.Text.Fields
import CallPlan.Proofs.Text.Sorted
import CallPlan.Signature.Clause

/-!
What a clause that reads as a parameter is made of: the marks, a head of words, and the default after the
first equals sign. The words are the token of the parameter and its traits.
-/

namespace CallPlan

/-- The role and reference marks in front of a parameter. -/
def Param.marks (p : Param) : Text :=
  (if p.role = .named then [.char ':'] else []) ++ (if p.refAlias then [.char '\\'] else [])

theorem Param.display_eq (p : Param) : p.display = p.marks ++ p.var := rfl

namespace Clause

variable {p q : Param} {source clause word t : Text} {mark : Char}

theorem takeMark_eq (mark : Char) (t : Text) :
    t = (if (takeMark mark t).1 then [.char mark] else []) ++ (takeMark mark t).2 := by
  cases t with
  | nil => rfl
  | cons g rest =>
      by_cases same : g = .char mark
      · simp [takeMark, same]
      · simp [takeMark, same]

theorem takeLastMark_eq (mark : Char) (t : Text) :
    t = (takeLastMark mark t).2 ++ (if (takeLastMark mark t).1 then [.char mark] else []) := by
  unfold takeLastMark
  split
  · next last =>
      obtain ⟨before, rfl⟩ := List.getLast?_eq_some_iff.mp last
      simp
  · simp

/-- The default of a clause with the sign in front of it. -/
def defaultPart : Option Text → Text
  | some tail => .char '=' :: tail
  | none => []

theorem cutDefault_eq (t : Text) : t = (cutDefault t).1 ++ defaultPart (cutDefault t).2 := by
  induction t with
  | nil => rfl
  | cons g rest ih =>
      unfold cutDefault
      split
      · next sign => rw [sign]; rfl
      · exact congrArg (g :: ·) ih

/-- The words of traits, each behind the word that announces it. -/
def traitWords (traits : List Text) : List Text :=
  traits.flatMap fun trait => [Text.ofString "is", trait]

@[simp] theorem traitWords_nil : traitWords [] = [] := rfl

@[simp] theorem traitWords_cons (trait : Text) (rest : List Text) :
    traitWords (trait :: rest) = Text.ofString "is" :: trait :: traitWords rest := rfl

theorem traitWords_injective {traits traits' : List Text}
    (same : traitWords traits = traitWords traits') : traits = traits' := by
  induction traits generalizing traits' with
  | nil => cases traits' <;> simp_all
  | cons trait rest ih =>
      cases traits' with
      | nil => cases same
      | cons trait' rest' =>
          simp only [traitWords_cons, List.cons.injEq, true_and] at same
          rw [same.1, ih same.2]

theorem traits_ok_iff {words written : List Text} : Clause.traits words = .ok written ↔
    words = traitWords written ∧ ∀ trait ∈ written, trait.isIdentifier = true := by
  induction words using Clause.traits.induct generalizing written with
  | case1 => cases written <;> simp [Clause.traits]
  | case2 word => cases written <;> simp [Clause.traits]
  | case3 word trait rest other => cases written <;> simp [Clause.traits, other]
  | case4 word trait rest same invalid =>
      rw [Clause.traits, if_neg same, if_pos invalid]
      cases written with
      | nil => simp
      | cons first others =>
          simp only [reduceCtorEq, traitWords_cons, List.cons.injEq, List.forall_mem_cons, false_iff]
          rintro ⟨⟨_, rfl, _⟩, identifier, _⟩
          simp [identifier] at invalid
  | case5 word trait rest same valid ih =>
      rw [Clause.traits, if_neg same, if_neg valid]
      simp only [except_bind_ok, except_pure, Except.ok.injEq, ih]
      have word : word = Text.ofString "is" := by simpa using same
      have identifier : trait.isIdentifier = true := by simpa using valid
      constructor
      · rintro ⟨others, ⟨rfl, all⟩, rfl⟩
        exact ⟨by rw [word, traitWords_cons], List.forall_mem_cons.mpr ⟨identifier, all⟩⟩
      · rintro ⟨whole, all⟩
        cases written with
        | nil => cases whole
        | cons first others =>
            rw [traitWords_cons, List.cons.injEq, List.cons.injEq] at whole
            obtain ⟨_, rfl, rfl⟩ := whole
            exact ⟨others, ⟨rfl, (List.forall_mem_cons.mp all).2⟩, rfl⟩

theorem traits_ok {words written : List Text} (read : traits words = .ok written) :
    (∀ trait ∈ written, trait.isIdentifier = true) ∧
      (∀ word ∈ words, word = Text.ofString "is" ∨ word ∈ written) ∧ (written = [] → words = []) := by
  obtain ⟨rfl, identifiers⟩ := traits_ok_iff.mp read
  refine ⟨identifiers, fun word member => ?_, ?_⟩
  · obtain ⟨trait, listed, either⟩ := List.mem_flatMap.mp member
    have either : word = Text.ofString "is" ∨ word = trait := by simpa using either
    rcases either with is | rfl
    · exact .inl is
    · exact .inr listed
  · rintro rfl
    rfl

/-- The suffixes of a parameter's token. -/
def suffixes : List Text := [[], [.char '!'], [.char '?']]

/-- What is left of a word without its marks, if not both of them are there. -/
theorem suffix_exists {rest : Text}
    (single : ¬ ((takeLastMark '?' (takeLastMark '!' rest).2).1 && (takeLastMark '!' rest).1) = true) :
    ∃ suffix ∈ suffixes, rest = (takeLastMark '?' (takeLastMark '!' rest).2).2 ++ suffix := by
  have marked := takeLastMark_eq '!' rest
  have queried := takeLastMark_eq '?' (takeLastMark '!' rest).2
  generalize (takeLastMark '!' rest).1 = required at single marked
  generalize (takeLastMark '?' (takeLastMark '!' rest).2).1 = optional at single queried
  cases required <;> cases optional
  · exact ⟨[], by simp [suffixes], marked.trans (by simpa using queried)⟩
  · exact ⟨[.char '?'], by simp [suffixes], by simpa using marked.trans (by simpa using queried)⟩
  · refine ⟨[.char '!'], by simp [suffixes], ?_⟩
    simp only [Bool.false_eq_true, if_false, List.append_nil] at queried
    rw [← queried]
    simpa using marked
  · simp at single

theorem sigil_of_glyph {g : Glyph} {sigil : Sigil} (known : Sigil.ofGlyph? g = some sigil) :
    g = .char sigil.char := by
  unfold Sigil.ofGlyph? at known
  split at known <;> cases known <;> rfl

theorem token_ok (read : token p word = .ok q) :
    (∃ suffix ∈ suffixes, word = q.var ++ suffix) ∧ q.name.isIdentifier = true ∧
      q.role = p.role ∧ q.refAlias = p.refAlias ∧ q.defaultSource = p.defaultSource ∧
      q.traits = p.traits ∧ q.passthrough = p.passthrough ∧ q.index = p.index := by
  cases word with
  | nil => simp [token] at read
  | cons first rest =>
      cases known : Sigil.ofGlyph? first with
      | none => simp [token, known] at read
      | some sigil =>
          simp only [token, known] at read
          split at read
          · cases read
          next single =>
          split at read
          · cases read
          next valid =>
          cases read
          obtain ⟨suffix, listed, same⟩ := suffix_exists single
          refine ⟨⟨suffix, listed, ?_⟩, by simpa using valid, rfl, rfl, rfl, rfl, rfl, rfl⟩
          rw [sigil_of_glyph known]
          exact congrArg (_ :: ·) same

theorem sorted_eq_nil {texts : List Text} (none : Text.sorted texts = []) : texts = [] := by
  refine List.eq_nil_iff_forall_not_mem.mpr fun t member => ?_
  have held := Text.mem_sorted.mpr member
  rw [none] at held
  cases held

/-- The parameter that the words of a head are read into. -/
structure Words (start p : Param) (word : Text) (others : List Text) : Prop where
  role : p.role = start.role
  refAlias : p.refAlias = start.refAlias
  defaultSource : p.defaultSource = start.defaultSource
  index : p.index = start.index
  traits : ∃ written, Clause.traits others = .ok written ∧ p.traits = Text.sorted written
  token : p.passthrough = false →
    p.name.isIdentifier = true ∧ ∃ suffix ∈ suffixes, word = p.var ++ suffix
  raw : p.passthrough = true → word = Param.passthroughName ∧ others = [] ∧ p.role = .positional ∧
    p.refAlias = false ∧ p.defaultSource = none

theorem words_ok {start : Param} {head : List Text} (binds : start.passthrough = false)
    (read : words start head = .ok p) :
    ∃ word others, head = word :: others ∧ Words start p word others := by
  cases head with
  | nil => simp [words] at read
  | cons word others =>
      simp only [words, except_bind_ok] at read
      obtain ⟨written, listed, read⟩ := read
      refine ⟨word, others, rfl, ?_⟩
      split at read
      · next named =>
          split at read
          · cases read
          next bare =>
          cases read
          refine ⟨rfl, rfl, rfl, rfl, ⟨written, listed, rfl⟩, by simp, fun _ => ?_⟩
          simp only [Bool.or_eq_true, not_or, decide_eq_true_eq, Bool.not_eq_true,
            Bool.not_eq_false'] at bare
          obtain ⟨⟨⟨positional, notRef⟩, noTraits⟩, noDefault⟩ := bare
          have unwritten : written = [] := sorted_eq_nil (List.isEmpty_iff.mp noTraits)
          refine ⟨named, (traits_ok listed).2.2 unwritten, ?_, notRef, ?_⟩
          · cases role : start.role with
            | positional => rfl
            | named => exact (positional role).elim
          · exact Option.isNone_iff_eq_none.mp (by simpa [Param.hasDefault] using noDefault)
      · obtain ⟨spelled, identifier, role, refAlias, defaultSource, traits, passthrough, index⟩ :=
          token_ok read
        refine ⟨role, refAlias, defaultSource, index, ⟨written, listed, traits⟩,
          fun _ => ⟨identifier, spelled⟩, ?_⟩
        rw [passthrough, binds]
        simp

/-- A clause, cut where it is read apart. -/
structure Layout (source : Text) (p : Param) (head : Text) (tail : Option Text) : Prop where
  source : source = p.marks ++ head ++ defaultPart tail
  defaultSource : p.defaultSource = tail.map Text.trim
  given : p.defaultSource ≠ some []
  words : ∃ word others, head.fields = word :: others ∧
    Words { name := [], role := p.role, refAlias := p.refAlias, defaultSource := p.defaultSource } p
      word others

theorem read_ok (read : Clause.read source = .ok p) : ∃ head tail, Layout source p head tail := by
  have named := takeMark_eq ':' source
  have aliased := takeMark_eq '\\' (takeMark ':' source).2
  have cut := cutDefault_eq (takeMark '\\' (takeMark ':' source).2).2
  unfold Clause.read at read
  dsimp only at read
  split at read
  · cases read
  next given =>
  obtain ⟨word, others, listed, words⟩ := words_ok rfl read
  refine ⟨_, _, ?_, words.defaultSource, ?_, word, others, listed, ?_⟩
  · have marks : p.marks = (if (takeMark ':' source).1 then [.char ':'] else []) ++
        (if (takeMark '\\' (takeMark ':' source).2).1 then [.char '\\'] else []) := by
      rw [Param.marks, words.role, words.refAlias]
      cases (takeMark ':' source).1 <;> rfl
    rw [marks, List.append_assoc, ← cut, List.append_assoc, ← aliased, ← named]
  · rw [words.defaultSource]
    exact given
  · obtain ⟨role, refAlias, defaultSource, index, traits, token, raw⟩ := words
    exact ⟨rfl, rfl, rfl, index, traits, token, raw⟩

theorem parse_ok_iff : Clause.parse clause = .ok p ↔ Clause.read clause.trim = .ok p := by
  unfold Clause.parse
  split
  · next empty => simp [empty, Clause.read, takeMark, cutDefault, Text.fields, Text.fieldsFrom, words]
  · exact except_mapError_ok

theorem parse_words (parsed : Clause.parse clause = .ok p) :
    ∃ start head, words start head = .ok p ∧ start.defaultSource ≠ some [] := by
  have read := parse_ok_iff.mp parsed
  unfold Clause.read at read
  dsimp only at read
  split at read
  · cases read
  · next given => exact ⟨_, _, read, given⟩

theorem parse_ok (read : Clause.parse clause = .ok p) : ∃ head tail, Layout clause.trim p head tail :=
  read_ok (parse_ok_iff.mp read)

theorem Layout.index {head : Text} {tail : Option Text} (layout : Layout source p head tail) :
    p.index = none := by
  obtain ⟨word, others, _, words⟩ := layout.words
  exact words.index

theorem parse_passthroughName :
    Clause.parse Param.passthroughName = .ok { name := "_", sigil := .array, passthrough := true } := by
  decide

theorem passthrough_iff (trimmed : clause.trim = clause) (read : Clause.parse clause = .ok p) :
    p.passthrough = true ↔ clause = Param.passthroughName := by
  constructor
  · intro raw
    obtain ⟨head, tail, layout⟩ := parse_ok read
    obtain ⟨word, others, listed, words⟩ := layout.words
    obtain ⟨rfl, rfl, positional, plain, undefaulted⟩ := words.raw raw
    have source := layout.source
    have none : tail = none := by
      have mapped := layout.defaultSource
      rw [undefaulted] at mapped
      exact Option.map_eq_none_iff.mp mapped.symm
    rw [trimmed, none, Param.marks, positional, plain] at source
    have same : clause = head := by simpa [defaultPart] using source
    rw [same] at trimmed ⊢
    exact Text.eq_of_fields trimmed listed
  · rintro rfl
    rw [parse_passthroughName] at read
    cases read
    rfl

end Clause
end CallPlan
