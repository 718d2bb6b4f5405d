import CallPlan.Proofs.Signature.Clause
import CallPlan.Proofs.Signature.Scanning

/-!
Parameters as clauses. The parts of a parameter that was read from a clause open and close nothing, the
default apart, which is whole; so the clause a parameter is rendered as can stand between commas and is
cut out as it is.
-/

namespace CallPlan

open Split (Whole delimiters)

/-- A parameter whose parts are as a whole clause gives them. -/
structure Param.Legible (p : Param) : Prop where
  name : p.name.isIdentifier = true
  traits : ∀ trait ∈ p.traits, trait.isIdentifier = true
  whole : ∀ source, p.defaultSource = some source → Whole source
  ends : ∀ source, p.defaultSource = some source → source.EndsFirm ∧ source ≠ []

theorem Text.isIdentifier_plain {t : Text} (identifier : t.isIdentifier = true) :
    ∀ g ∈ t, g ∉ delimiters := by
  have none : ∀ d ∈ delimiters, d.continuesIdentifier = false := by decide
  intro g member delimiter
  have continues := Text.continues_of_isIdentifier identifier g member
  rw [none g delimiter] at continues
  cases continues

namespace Clause

variable {p : Param} {clause source head : Text} {tail : Option Text}

theorem suffixes_plain {suffix : Text} (listed : suffix ∈ suffixes) : ∀ g ∈ suffix, g ∉ delimiters := by
  have all : ∀ suffix ∈ suffixes, ∀ g ∈ suffix, g ∉ delimiters := by decide
  exact all suffix listed

theorem marks_plain (p : Param) : ∀ g ∈ p.marks, g ∉ delimiters := by
  unfold Param.marks
  cases p.role <;> cases p.refAlias <;> decide

theorem sigil_plain (sigil : Sigil) : Glyph.char sigil.char ∉ delimiters := by
  cases sigil <;> decide

theorem Layout.head_plain (layout : Layout source p head tail) (binds : p.passthrough = false) :
    ∀ g ∈ head, g ∉ delimiters := by
  obtain ⟨word, others, listed, words⟩ := layout.words
  obtain ⟨identifier, suffix, known, spelled⟩ := words.token binds
  obtain ⟨written, read, _⟩ := words.traits
  obtain ⟨identifiers, covered, _⟩ := traits_ok read
  intro g member
  cases blank : g.isBlank with
  | true => exact Split.blank_plain blank
  | false =>
      obtain ⟨w, field, inside⟩ := Text.mem_fields member blank
      rw [listed] at field
      rcases List.mem_cons.mp field with rfl | later
      · rw [spelled, Param.var, List.cons_append] at inside
        rcases List.mem_cons.mp inside with rfl | inside
        · exact sigil_plain _
        rcases List.mem_append.mp inside with inside | inside
        · exact Text.isIdentifier_plain identifier g inside
        · exact suffixes_plain known g inside
      · rcases covered w later with rfl | trait
        · have plain : ∀ g ∈ Text.ofString "is", g ∉ delimiters := by decide
          exact plain g inside
        · exact Text.isIdentifier_plain (identifiers w trait) g inside

theorem Layout.legible (layout : Layout source p head tail) (binds : p.passthrough = false)
    (whole : Whole source) : p.Legible := by
  obtain ⟨word, others, listed, words⟩ := layout.words
  obtain ⟨written, read, sorted⟩ := words.traits
  refine ⟨(words.token binds).1, ?_, ?_, ?_⟩
  · intro trait member
    rw [sorted] at member
    exact (traits_ok read).1 trait (Text.mem_sorted.mp member)
  · intro given same
    rw [layout.defaultSource] at same
    obtain ⟨rest, rfl, rfl⟩ := Option.map_eq_some_iff.mp same
    have plain : Whole (p.marks ++ head) :=
      (Split.whole_of_plain (marks_plain p)).append
        (Split.whole_of_plain (layout.head_plain binds))
    rw [layout.source] at whole
    have after : Whole ([.char '='] ++ rest) := plain.of_append whole
    have sign : Whole [.char '='] := by decide
    exact (sign.of_append after).trim
  · intro given same
    have nonempty : given ≠ [] := by
      rintro rfl
      exact layout.given same
    rw [layout.defaultSource] at same
    obtain ⟨rest, rfl, rfl⟩ := Option.map_eq_some_iff.mp same
    exact ⟨Text.endsFirm_of_trim (Text.trim_trim rest), nonempty⟩

end Clause

namespace Param

variable {p : Param}

/-- What a parameter is rendered as after its display form. -/
def trailer (p : Param) : Text :=
  p.marker ++ (p.traits.flatMap (Text.ofString " is " ++ ·) ++
    match p.defaultSource with
    | some source => Text.ofString " = " ++ source
    | none => [])

theorem render_eq (binds : p.passthrough = false) : p.render = p.display ++ p.trailer := by
  simp only [render, binds, trailer, List.append_assoc]
  rfl

theorem marker_mem (p : Param) : p.marker ∈ Clause.suffixes := by
  unfold marker
  split
  · simp [Clause.suffixes]
  · split <;> simp [Clause.suffixes]

theorem Legible.display_whole (legible : p.Legible) : Whole p.display := by
  refine Split.whole_of_plain fun g member => ?_
  rw [display_eq, var] at member
  rcases List.mem_append.mp member with mark | member
  · exact Clause.marks_plain p g mark
  rcases List.mem_cons.mp member with rfl | name
  · exact Clause.sigil_plain _
  · exact Text.isIdentifier_plain legible.name g name

theorem traits_whole {traits : List Text} (all : ∀ trait ∈ traits, trait.isIdentifier = true) :
    Whole (traits.flatMap (Text.ofString " is " ++ ·)) := by
  induction traits with
  | nil => rfl
  | cons trait rest ih =>
      have word : Whole (Text.ofString " is ") := by decide
      have first := Split.whole_of_plain (Text.isIdentifier_plain (all trait List.mem_cons_self))
      exact (word.append first).append (ih fun t member => all t (List.mem_cons_of_mem _ member))

theorem Legible.trailer_whole (legible : p.Legible) : Whole p.trailer := by
  have marker : Whole p.marker := Split.whole_of_plain (Clause.suffixes_plain p.marker_mem)
  refine marker.append ((traits_whole legible.traits).append ?_)
  split
  · next source given =>
      have sign : Whole (Text.ofString " = ") := by decide
      exact sign.append (legible.whole source given)
  · rfl

theorem trailer_ends (traits : ∀ trait ∈ p.traits, trait.isIdentifier = true)
    (ends : ∀ source, p.defaultSource = some source → source.EndsFirm ∧ source ≠ []) :
    p.trailer.EndsFirm := by
  have marker : p.marker.EndsFirm := by
    have all : ∀ suffix ∈ Clause.suffixes, ∀ g ∈ suffix.getLast?, g.isBlank = false := by decide
    exact all p.marker p.marker_mem
  refine marker.append_firm (.append_firm (Text.endsFirm_flatMap fun trait member => ?_) ?_)
  · have identifier := traits trait member
    exact (Text.endsFirm_of_isIdentifier identifier).append _ (Text.ne_nil_of_isIdentifier identifier)
  · split
    · next source given =>
        obtain ⟨ends, nonempty⟩ := ends source given
        exact ends.append _ nonempty
    · intro g last
      cases last

theorem Legible.render_whole (legible : p.Legible) (binds : p.passthrough = false) :
    Whole p.render := by
  rw [render_eq binds]
  exact legible.display_whole.append legible.trailer_whole

theorem render_ends (binds : p.passthrough = false) (name : p.name.isIdentifier = true)
    (traits : ∀ trait ∈ p.traits, trait.isIdentifier = true)
    (ends : ∀ source, p.defaultSource = some source → source.EndsFirm ∧ source ≠ []) :
    p.render.EndsFirm := by
  have shown := (Text.endsFirm_of_isIdentifier name).append (p.marks ++ [.char p.sigil.char])
    (Text.ne_nil_of_isIdentifier name)
  have display : p.display.EndsFirm := by
    rw [display_eq, var]
    simpa using shown
  rw [render_eq binds]
  exact display.append_firm (trailer_ends traits ends)

theorem Legible.render_ends (legible : p.Legible) (binds : p.passthrough = false) :
    p.render.EndsFirm :=
  Param.render_ends binds legible.name legible.traits legible.ends

theorem display_ne_nil (p : Param) : p.display ≠ [] := by simp [display, var]

theorem render_starts (binds : p.passthrough = false) : p.render.StartsFirm := by
  have display : p.display.StartsFirm := by
    unfold display var
    cases p.role <;> cases p.refAlias <;> cases p.sigil <;> rintro g ⟨⟩ <;> rfl
  rw [render_eq binds]
  exact display.append p.display_ne_nil _

theorem render_ne_nil (binds : p.passthrough = false) : p.render ≠ [] := by
  rw [render_eq binds]
  simp [p.display_ne_nil]

end Param

namespace Text

theorem join_cons (separator first : Text) (rest : List Text) :
    join separator (first :: rest) = first ++ rest.flatMap (separator ++ ·) := by
  induction rest generalizing first with
  | nil => simp [join, List.intercalate]
  | cons next later ih =>
      have joined : join separator (first :: next :: later) =
          first ++ (separator ++ join separator (next :: later)) := by
        simp [join, List.intercalate]
      rw [joined, ih, List.flatMap_cons, List.append_assoc]

theorem join_append (separator : Text) (front : List Text) (part : Text) (back : List Text) :
    join separator (front ++ part :: back) =
      front.flatMap (· ++ separator) ++ join separator (part :: back) := by
  induction front with
  | nil => rfl
  | cons first rest ih =>
      obtain ⟨next, later, listed⟩ := List.exists_cons_of_ne_nil
        (show rest ++ part :: back ≠ [] by simp)
      have joined : join separator (first :: next :: later) =
          first ++ (separator ++ join separator (next :: later)) := by
        simp [join, List.intercalate]
      rw [List.cons_append, listed, joined, ← listed, ih, List.flatMap_cons, List.append_assoc, List.append_assoc]

end Text

namespace Split

/-- A text that can stand between two commas and be read as it is. -/
structure Cuttable (clause : Text) : Prop where
  whole : Whole clause
  starts : clause.StartsFirm
  ends : clause.EndsFirm
  nonempty : clause ≠ []

theorem Cuttable.trim {clause : Text} (cuttable : Cuttable clause) : clause.trim = clause :=
  Text.trim_of_firm cuttable.starts cuttable.ends

theorem segments_whole_text {t : Text} (whole : Whole t) : segments t = .ok [t] := by
  have alone : ∀ u ∈ [t], Whole u := by simpa using whole
  simpa [Text.join_cons] using segments_join alone

section

variable {front before after clause : Text} {clauses : List Text}

/-- Blanks around the commas of a list go with the clauses, and are trimmed once the commas have been
found. -/
theorem parts_of_join (lead : ∀ g ∈ front, g.isBlank = true) (early : ∀ g ∈ before, g.isBlank = true)
    (late : ∀ g ∈ after, g.isBlank = true) (whole : ∀ t ∈ clause :: clauses, Whole t)
    (trimmed : ∀ t ∈ clause :: clauses, t.trim = t) :
    ∃ part parts, front ++ Text.join (before ++ .char ',' :: after) (clause :: clauses) =
        Text.join [.char ','] (part :: parts) ∧
      (∀ t ∈ part :: parts, Whole t) ∧ (part :: parts).map Text.trim = clause :: clauses := by
  induction clauses generalizing front clause with
  | nil =>
      have first := whole clause List.mem_cons_self
      refine ⟨front ++ clause, [], by simp [Text.join_cons], ?_, ?_⟩
      · simpa using (whole_of_blank lead).append first
      · simp [Text.trim_blank_append lead, trimmed clause]
  | cons next rest ih =>
      obtain ⟨first, others⟩ := List.forall_mem_cons.mp whole
      obtain ⟨same, sames⟩ := List.forall_mem_cons.mp trimmed
      obtain ⟨part, parts, text, each, read⟩ := ih late others sames
      refine ⟨front ++ clause ++ before, part :: parts, ?_, ?_, ?_⟩
      · rw [Text.join_cons, Text.join_cons] at text
        rw [Text.join_cons, Text.join_cons, List.flatMap_cons, List.flatMap_cons, List.append_assoc _ part,
          List.singleton_append, ← text]
        simp only [List.append_assoc, List.cons_append]
      · exact List.forall_mem_cons.mpr
          ⟨((whole_of_blank lead).append first).append (whole_of_blank early), each⟩
      · rw [List.map_cons, read, Text.trim_append_blank _ early, Text.trim_blank_append lead, same]

/-- Clauses that open and close what they quote and group are cut out of a list as they are, whatever
blanks stand at its commas. -/
theorem split_join (lead : ∀ g ∈ front, g.isBlank = true) (early : ∀ g ∈ before, g.isBlank = true)
    (late : ∀ g ∈ after, g.isBlank = true) (whole : ∀ t ∈ clauses, Whole t)
    (trimmed : ∀ t ∈ clauses, t.trim = t) (ends : clauses.getLast? ≠ some []) :
    split (front ++ Text.join (before ++ .char ',' :: after) clauses) = .ok clauses := by
  cases clauses with
  | nil =>
      have alone : segments (front ++ Text.join (before ++ .char ',' :: after) []) = .ok [front] := by
        simpa [Text.join] using segments_whole_text (whole_of_blank lead)
      rw [split, alone, except_ok_bind, List.map_singleton, Text.trim_of_blank lead]
      rfl
  | cons clause rest =>
      obtain ⟨part, parts, text, each, clauses⟩ := parts_of_join lead early late whole trimmed
      rw [split, text, segments_join each, except_ok_bind, clauses, except_pure, dropBlankLast_eq ends]

end

theorem Cuttable.split_join {blanks : Text} {clauses : List Text}
    (blank : ∀ g ∈ blanks, g.isBlank = true) (all : ∀ clause ∈ clauses, Cuttable clause) :
    split (blanks ++ Text.join ", " clauses) = .ok clauses := by
  have none : ∀ g ∈ ([] : Text), g.isBlank = true := by simp
  have space : ∀ g ∈ [Glyph.char ' '], g.isBlank = true := by decide
  refine Split.split_join blank none space (fun clause member => (all clause member).whole)
    (fun clause member => (all clause member).trim) fun last => ?_
  exact (all [] (List.mem_of_getLast? last)).nonempty rfl

theorem join_starts (separator : Text) {clauses : List Text}
    (all : ∀ clause ∈ clauses, Cuttable clause) : (Text.join separator clauses).StartsFirm := by
  cases clauses with
  | nil =>
      intro g first
      cases first
  | cons first rest =>
      have head := all first List.mem_cons_self
      rw [Text.join_cons]
      exact head.starts.append head.nonempty _

theorem join_ends (separator : Text) {clauses : List Text}
    (all : ∀ clause ∈ clauses, Cuttable clause) : (Text.join separator clauses).EndsFirm := by
  cases clauses with
  | nil =>
      intro g last
      cases last
  | cons first rest =>
      rw [Text.join_cons]
      refine (all first List.mem_cons_self).ends.append_firm
        (Text.endsFirm_flatMap fun clause member => ?_)
      have later := all clause (List.mem_cons_of_mem _ member)
      exact later.ends.append _ later.nonempty

end Split

end CallPlan
