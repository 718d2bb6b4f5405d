import CallPlan.Document
import CallPlan.Proofs.Signature.Acceptance
import CallPlan.Proofs.Signature.Invocant
import CallPlan.Proofs.Signature.Rendering
import Mathlib.Data.List.Forall2

/-!
The canonical text of a signature reads as the signature. Its clauses are cut where they were joined,
since each is whole on its own, and what stands in front of them is taken for an invocant exactly when it
is one.
-/

namespace CallPlan

namespace Invocant

theorem prefixed?_name {name rest : Text} (valid : isName name = true)
    (single : rest.head? ≠ some (.char ':')) :
    prefixed? (.char '$' :: (name ++ .char ':' :: rest)) = some (name, rest) := by
  let d : Declaration :=
    { before := []
      dollar := true
      name
      between := []
      rest
      before_blank := by simp
      named := isName_iff.mp valid
      between_blank := by simp
      single }
  have text : d.text = .char '$' :: (name ++ .char ':' :: rest) := by
    simp [d, Declaration.text, Declaration.written, Declaration.sign]
  rw [← text, d.prefixed?_text]

theorem apart_cons {g : Glyph} (mark : g ∈ [Glyph.char '!', .char '?', .char ',']) (rest : Text) :
    Apart (g :: rest) := by
  have marks : ∀ g ∈ [Glyph.char '!', .char '?', .char ','],
      g.isAsciiBlank = false ∧ continuesName g = false ∧ g ≠ .char ':' := by decide
  obtain ⟨visible, outside, notColon⟩ := marks g mark
  constructor
  · rintro _ ⟨⟩
    exact outside
  · rw [List.dropWhile_cons_of_neg (by simp [visible])]
    rintro _ ⟨⟩
    exact notColon

theorem apart_space {g : Glyph} (word : g ∈ [Glyph.char 'i', .char '=']) (rest : Text) :
    Apart (.char ' ' :: g :: rest) := by
  constructor
  · rintro _ ⟨⟩
    decide
  · simp only [List.mem_cons, List.not_mem_nil, or_false] at word
    rcases word with rfl | rfl <;> rintro _ ⟨⟩ <;> decide

theorem apart_nil : Apart [] := ⟨by simp, by simp⟩

end Invocant

namespace Param

variable {p : Param}

/-- What a list of clauses goes on with after one of them. -/
def Following (more : Text) : Prop := more = [] ∨ ∃ rest, more = .char ',' :: rest

theorem Following.apart {more : Text} (following : Following more) : Invocant.Apart more := by
  rcases following with rfl | ⟨rest, rfl⟩
  · exact Invocant.apart_nil
  · exact Invocant.apart_cons (by simp) rest

theorem trailer_apart (p : Param) {more : Text} (following : Following more) :
    Invocant.Apart (p.trailer ++ more) := by
  have marker := p.marker_mem
  simp only [Clause.suffixes, List.mem_cons, List.not_mem_nil, or_false] at marker
  unfold trailer
  rcases marker with none | required | optional
  · rw [none, List.nil_append, List.append_assoc]
    cases traits : p.traits with
    | cons trait rest => exact Invocant.apart_space (g := .char 'i') (by simp) _
    | nil =>
        cases p.defaultSource with
        | some source => exact Invocant.apart_space (g := .char '=') (by simp) _
        | none => exact following.apart
  · rw [required, List.append_assoc]
    exact Invocant.apart_cons (by simp) _
  · rw [optional, List.append_assoc]
    exact Invocant.apart_cons (by simp) _

theorem display_visible (p : Param) : ∃ g rest, p.display = g :: rest ∧ g.isAsciiBlank = false := by
  rw [display_eq, marks, var]
  cases p.role with
  | named => exact ⟨_, _, rfl, rfl⟩
  | positional =>
      cases p.refAlias with
      | true => exact ⟨_, _, rfl, rfl⟩
      | false => exact ⟨_, _, rfl, by cases p.sigil <;> rfl⟩

/-- A clause begins with an invocant only if the parameter's own display form does. -/
theorem prefixed?_render_iff (p : Param) {more : Text} (following : Following more) :
    Invocant.prefixed? (p.render ++ more) = none ↔
      p.passthrough = true ∨ Invocant.prefixed? p.display = none := by
  cases binds : p.passthrough with
  | true =>
      have raw : p.render = Param.passthroughName := by simp [render, binds]
      rw [raw]
      exact iff_of_true (Invocant.prefixed?_cons rfl (by decide) (by decide) _) (.inl rfl)
  | false =>
      obtain ⟨g, rest, display, visible⟩ := p.display_visible
      rw [render_eq binds, List.append_assoc, display, List.cons_append,
        (p.trailer_apart following).prefixed?_append visible, Option.map_eq_none_iff]
      simp

theorem prefixed?_display (name : p.name.isIdentifier = true) : Invocant.prefixed? p.display = none := by
  have colon : .char ':' ∉ p.name := by
    intro member
    have continues := Text.continues_of_isIdentifier name _ member
    revert continues
    decide
  rw [display_eq, marks, var]
  cases p.role with
  | named => exact Invocant.prefixed?_cons rfl (by decide) Invocant.continuesName_colon _
  | positional =>
      refine Invocant.prefixed?_of_no_colon ?_
      cases p.refAlias <;> cases p.sigil <;> simp [Sigil.char, colon]

theorem Legible.cuttable (legible : p.Legible) (binds : p.passthrough = false) :
    Split.Cuttable p.render :=
  ⟨legible.render_whole binds, render_starts binds, legible.render_ends binds, render_ne_nil binds⟩

end Param

namespace Signature

variable {s : Signature} {options : AssemblyOptions} {text : Text}

/-- The clauses of the canonical text. -/
def clauses (s : Signature) : List Text :=
  (if s.passthrough then [Param.passthroughName] else []) ++ s.params.map Param.render

/-- A signature whose parameters are as clauses give them. -/
def Legible (s : Signature) : Prop := ∀ p ∈ s.params, p.passthrough = false ∧ p.Legible

theorem passthroughName_cuttable : Split.Cuttable Param.passthroughName where
  whole := by decide
  starts := by rintro g ⟨⟩; rfl
  ends := by rintro g ⟨⟩; rfl
  nonempty := by decide

theorem Legible.cuttable (legible : s.Legible) : ∀ clause ∈ s.clauses, Split.Cuttable clause := by
  intro clause member
  rcases List.mem_append.mp member with raw | rendered
  · split at raw
    · rw [List.mem_singleton.mp raw]
      exact passthroughName_cuttable
    · cases raw
  · obtain ⟨p, listed, rfl⟩ := List.mem_map.mp rendered
    obtain ⟨binds, here⟩ := legible p listed
    exact here.cuttable binds

theorem following_flatMap (clauses : List Text) :
    Param.Following (clauses.flatMap (Text.ofString ", " ++ ·)) := by
  cases clauses with
  | nil => exact .inl rfl
  | cons first rest => exact .inr ⟨_, rfl⟩

/-- A list of clauses is never taken for an invocant when its names are identifiers. -/
theorem prefixed?_clauses (names : ∀ p ∈ s.params, p.name.isIdentifier = true) :
    Invocant.prefixed? (Text.join ", " s.clauses) = none := by
  unfold clauses
  cases s.passthrough with
  | true =>
      rw [if_pos rfl, List.singleton_append, Text.join_cons]
      exact Invocant.prefixed?_cons rfl (by decide) (by decide) _
  | false =>
      cases listed : s.params with
      | nil => rfl
      | cons p rest =>
          have name := names p (listed ▸ List.mem_cons_self)
          rw [if_neg (by simp), List.nil_append, List.map_cons, Text.join_cons]
          exact (p.prefixed?_render_iff (following_flatMap _)).mpr (.inr (Param.prefixed?_display name))

theorem Legible.names (legible : s.Legible) : ∀ p ∈ s.params, p.name.isIdentifier = true :=
  fun p member => (legible p member).2.name

/-- The canonical text has the invocant in front and then the clauses. -/
theorem Legible.split_render (legible : s.Legible)
    (valid : ∀ name, s.invocant = some name → Invocant.isName name = true) :
    ∃ blanks : Text, (∀ g ∈ blanks, g.isBlank = true) ∧
      Invocant.split s.render = (s.invocant, blanks ++ Text.join ", " s.clauses) := by
  have starts := Split.join_starts ", " legible.cuttable
  have ends := Split.join_ends ", " legible.cuttable
  cases declared : s.invocant with
  | none =>
      refine ⟨[], by simp, ?_⟩
      have rendered : s.render = Text.trim (Text.join ", " s.clauses) := by
        simp only [render, declared, clauses]
      rw [rendered, Text.trim_of_firm starts ends, Invocant.split, prefixed?_clauses legible.names]
      rfl
  | some name =>
      have named := valid name declared
      have colon : Text.ofString ": " = [.char ':', .char ' '] := by decide
      have rendered : s.render =
          Text.trim (.char '$' :: name ++ ": " ++ Text.join ", " s.clauses) := by
        simp only [render, declared, clauses]
      rw [rendered]
      cases listed : s.clauses with
      | nil =>
          have trimmed : Text.trim (.char '$' :: name ++ ": " ++ Text.join ", " []) =
              .char '$' :: (name ++ .char ':' :: []) := by
            have shown : (Glyph.char '$').isBlank = false ∧ (Glyph.char ':').isBlank = false ∧
              (Glyph.char ' ').isBlank = true := by decide
            simp [Text.join, colon, Text.trim, Text.trimStart, Text.trimEnd, shown]
          refine ⟨[], by simp, ?_⟩
          rw [trimmed, Invocant.split, Invocant.prefixed?_name named (by simp)]
          rfl
      | cons first rest =>
          have nonempty : Text.join ", " (first :: rest) ≠ [] := by
            have cuttable := legible.cuttable first (listed ▸ List.mem_cons_self)
            rw [Text.join_cons]
            simp [cuttable.nonempty]
          have trimmed : Text.trim (.char '$' :: name ++ ": " ++ Text.join ", " (first :: rest)) =
              .char '$' :: (name ++ .char ':' :: (.char ' ' :: Text.join ", " (first :: rest))) := by
            rw [Text.trim_of_firm _ ((listed ▸ ends).append _ nonempty)]
            · simp [colon]
            · rintro g ⟨⟩
              rfl
          refine ⟨[.char ' '], by decide, ?_⟩
          rw [trimmed, Invocant.split, Invocant.prefixed?_name named (by simp)]
          rfl

theorem mem_of_forall₂ {clauses : List Text} {params : List Param} {p : Param}
    (read : List.Forall₂ (fun clause p => Clause.parse clause = .ok p) clauses params)
    (member : p ∈ params) : ∃ clause ∈ clauses, Clause.parse clause = .ok p := by
  induction read with
  | nil => cases member
  | cons first rest ih =>
      rcases List.mem_cons.mp member with rfl | later
      · exact ⟨_, List.mem_cons_self, first⟩
      · obtain ⟨clause, listed, read⟩ := ih later
        exact ⟨clause, List.mem_cons_of_mem _ listed, read⟩

theorem mem_ofParams {invocant : Option Text} {params : List Param} {p : Param}
    (member : p ∈ (ofParams invocant params).params) :
    ∃ q ∈ params, ∃ index, q.passthrough = false ∧ p = { q with index } := by
  have bound : ∀ q ∈ Param.binding params, q ∈ params ∧ q.passthrough = false := by
    intro q listed
    simpa using List.mem_filter.mp listed
  rcases List.mem_append.mp member with positional | named
  · obtain ⟨i, inside, rfl⟩ := List.mem_mapIdx.mp positional
    obtain ⟨listed, binds⟩ := bound _ (List.mem_filter.mp (List.getElem_mem inside)).1
    exact ⟨_, listed, some i, binds, rfl⟩
  · obtain ⟨q, listed, rfl⟩ := List.mem_map.mp named
    obtain ⟨listed, binds⟩ := bound q (List.mem_filter.mp listed).1
    exact ⟨q, listed, none, binds, rfl⟩

theorem parse_legible (parsed : parse text options = .ok s) : s.Legible := by
  obtain ⟨a, read, rfl⟩ := parse_ok_iff.mp parsed
  obtain ⟨clauses, params, cut, read, added⟩ := readList_ok_iff.mp read
  obtain ⟨_, made⟩ := (addAll_new_iff _).mp ⟨a, added, rfl⟩
  intro p member
  have given : p ∈ (ofParams (invocantOf text options) params).params := by
    rw [made]
    exact member
  obtain ⟨q, listed, index, binds, rfl⟩ := mem_ofParams given
  obtain ⟨clause, written, read⟩ := mem_of_forall₂ read listed
  obtain ⟨head, tail, layout⟩ := Clause.parse_ok read
  obtain ⟨name, traits, whole, ends⟩ :=
    layout.legible binds (Split.split_whole cut clause written).trim
  exact ⟨binds, name, traits, whole, ends⟩

theorem invocantOf_isName
    (implied : ∀ name, options.invocant = some name → Invocant.isName name = true) :
    ∀ name, invocantOf text options = some name → Invocant.isName name = true := by
  unfold invocantOf Invocant.split
  split
  · next declared rest found =>
      rintro name ⟨⟩
      exact Invocant.isName_of_prefixed? found
  · exact implied

/-- The parameter that the raw argument list reads as. -/
def raw : Param := { name := "_", sigil := .array, passthrough := true }

theorem clauses_read (readable : ∀ p ∈ s.params, Clause.parse p.render = .ok { p with index := none }) :
    List.Forall₂ (fun clause p => Clause.parse clause = .ok p) s.clauses
      ((if s.passthrough then [raw] else []) ++ s.params.map fun p => { p with index := none }) := by
  refine List.rel_append ?_ ?_
  · cases s.passthrough with
    | false => exact .nil
    | true => exact .cons Clause.parse_passthroughName .nil
  · rw [List.forall₂_map_left_iff, List.forall₂_map_right_iff, List.forall₂_same]
    exact readable

/-- The parameters of an assembled signature, behind the raw argument list if it takes one, make the
signature again. -/
theorem Assembled.replay (assembled : Assembled options s) :
    ∃ b : Assembler, (Assembler.new { invocant := s.invocant }).addAll
        ((if s.passthrough then [raw] else []) ++ s.params.map fun p => { p with index := none }) = .ok b ∧
      b.signature.invocant = s.invocant ∧ b.signature.passthrough = s.passthrough ∧
      b.signature.positional = s.positional ∧ b.signature.named = s.named := by
  obtain ⟨a, text, built, rfl⟩ := assembled
  let fresh := Assembler.new { invocant := options.invocant }
  let start : Assembler :=
    { fresh with signature := { fresh.signature with passthrough := a.signature.passthrough } }
  -- Taking the raw argument list first only sets its flag, and no later parameter looks at that.
  have agrees : Assembler.Agrees (.new options) start := ⟨rfl, rfl, rfl, rfl, rfl, rfl, rfl, rfl, rfl⟩
  obtain ⟨b, replayed, agrees, passthrough, _⟩ := built.replay agrees
  refine ⟨b, ?_, agrees.invocant, passthrough, agrees.positional, agrees.named⟩
  have opened : fresh.addAll (if a.signature.passthrough then [raw] else []) = .ok start := by
    cases taken : a.signature.passthrough with
    | false => simp [Assembler.addAll, start, fresh, taken, Assembler.new]
    | true => simp [Assembler.addAll, Assembler.add, raw, start, taken]
  have same : (a.setText text).signature.invocant = options.invocant := built.invocant_eq
  rw [same, Assembler.addAll_append]
  show (fresh.addAll (if a.signature.passthrough then [raw] else []) >>= _) = _
  rw [opened]
  exact replayed

/-- A signature's canonical text reads as the signature again, apart from the text itself, and is its own
canonical text. -/
theorem parse_render (parsed : parse text options = .ok s)
    (implied : ∀ name, options.invocant = some name → Invocant.isName name = true)
    (readable : ∀ p ∈ s.params, Clause.parse p.render = .ok { p with index := none }) :
    ∃ s', parse s.render {} = .ok s' ∧
      s'.invocant = s.invocant ∧ s'.passthrough = s.passthrough ∧
      s'.positional = s.positional ∧ s'.named = s.named ∧
      s'.render = s.render ∧ s'.digest = s.digest ∧ parse s'.render {} = .ok s' := by
  have assembled := parse_assembled parsed
  have legible := parse_legible parsed
  have valid : ∀ name, s.invocant = some name → Invocant.isName name = true := by
    rw [assembled.invocant_eq]
    exact invocantOf_isName implied
  -- The canonical text is cut into the invocant and the clauses, and those make the signature again.
  obtain ⟨blanks, blank, cut⟩ := legible.split_render valid
  obtain ⟨b, replayed, invocant, passthrough, positional, named⟩ := assembled.replay
  have declared : invocantOf s.render {} = s.invocant := by
    rw [invocantOf, cut]
    cases s.invocant <;> rfl
  have read : parse s.render {} = .ok (b.setText s.render).signature := by
    refine parse_ok_iff.mpr ⟨b, readList_ok_iff.mpr ⟨s.clauses, _, ?_, clauses_read readable, ?_⟩, rfl⟩
    · rw [cut]
      exact Split.Cuttable.split_join blank legible.cuttable
    · rw [declared]
      exact replayed
  have rendered : (b.setText s.render).signature.render = s.render := by
    simp only [render, params, Assembler.setText, invocant, passthrough, positional, named]
  have digest : (b.setText s.render).signature.digest = s.digest := by
    simp only [Signature.digest, identity, Assembler.setText, invocant, passthrough, positional, named]
  refine ⟨_, read, invocant, passthrough, positional, named, rendered, digest, ?_⟩
  rw [rendered]
  exact read

/-- A raw argument list in the middle, and commas inside a default. -/
def nestedSample : Signature where
  text := "$self :$a, @_ , $b= pair([1, 2], ',')"
  invocant := some "self"
  positional := [{ name := "a", index := some 0 },
    { name := "b", index := some 1, optional := true, defaultSource := some "pair([1, 2], ',')" }]
  passthrough := true

theorem parse_render_nested :
    parse " $self :$a, @_ , $b= pair([1, 2], ',') " {} = .ok nestedSample ∧
      ∃ s', parse nestedSample.render {} = .ok s' ∧ s'.positional = nestedSample.positional ∧
        s'.digest = nestedSample.digest := by
  have parsed : parse " $self :$a, @_ , $b= pair([1, 2], ',') " {} = .ok nestedSample := by
    decide +kernel
  obtain ⟨s', read, _, _, positional, _, _, digest, _⟩ :=
    parse_render parsed (by rintro name ⟨⟩) (by decide)
  exact ⟨parsed, s', read, positional, digest⟩

end Signature

end CallPlan
