import CallPlan.Proofs.Signature.Assembled
import CallPlan.Proofs.Signature.Layout
import CallPlan.Proofs.Signature.Spelling

/-!
A parameter that was read from a clause, rendered and read again. The rendering is laid out as a clause that
says what the parameter is, so reading it gives the parameter back. The one exception is a parameter `@_`
whose optionality is implied: its mark is left out, and what is left is the token of the raw argument list.
-/

namespace CallPlan

/-- A parameter as a clause gives it. -/
structure Param.Written (p : Param) : Prop where
  binds : p.passthrough = false
  index : p.index = none
  spelled : p.Spelled
  regular : p.Regular
  trimmed : ∀ source, p.defaultSource = some source → source.trim = source
  shown : p.var = passthroughName → p.required = true ∨ p.optional = true

/-- A parameter that is optional without a mark to show it, and is called as the raw argument list is. -/
structure Param.Masked (p : Param) : Prop where
  var : p.var = passthroughName
  unrequired : p.required = false
  implied : p.role = .named ∨ p.hasDefault = true

namespace Clause

variable {p : Param} {clause name suffix word : Text} {mark : Char} {traits : List Text}

theorem parse_trim (read : Clause.parse clause = .ok p) : Clause.parse clause.trim = .ok p := by
  rw [parse_ok_iff, Text.trim_trim]
  exact parse_ok_iff.mp read

/-! ### The token -/

theorem takeLastMark_append (mark : Char) (t : Text) :
    takeLastMark mark (t ++ [.char mark]) = (true, t) := by
  simp [takeLastMark]

theorem takeLastMark_other {t : Text} (other : t.getLast? ≠ some (.char mark)) :
    takeLastMark mark t = (false, t) :=
  if_neg other

theorem identifier_unmarked (identifier : name.isIdentifier = true) (known : mark ∈ ['!', '?']) :
    name.getLast? ≠ some (.char mark) := by
  have outside : Glyph.continuesIdentifier (.char mark) = false := by
    rcases List.mem_pair.mp known with rfl | rfl <;> decide
  intro last
  have continues := Text.continues_of_isIdentifier identifier _ (List.mem_of_getLast? last)
  rw [outside] at continues
  cases continues

/-- Both marks are told apart from the name in front of them. -/
theorem suffix_read (identifier : name.isIdentifier = true) (listed : suffix ∈ suffixes) :
    (takeLastMark '!' (name ++ suffix)).1 = decide (suffix = [.char '!']) ∧
      takeLastMark '?' (takeLastMark '!' (name ++ suffix)).2 =
        (decide (suffix = [.char '?']), name) := by
  have required := takeLastMark_other (identifier_unmarked identifier (by simp : '!' ∈ ['!', '?']))
  have optional := takeLastMark_other (identifier_unmarked identifier (by simp : '?' ∈ ['!', '?']))
  simp only [suffixes, List.mem_cons, List.not_mem_nil, or_false] at listed
  rcases listed with rfl | rfl | rfl
  · simp [required, optional]
  · simp [takeLastMark_append, optional]
  · have queried : takeLastMark '!' (name ++ [.char '?']) = (false, name ++ [.char '?']) :=
      takeLastMark_other (by simp)
    simp [queried, takeLastMark_append]

theorem ofGlyph?_char (sigil : Sigil) : Sigil.ofGlyph? (.char sigil.char) = some sigil := by
  cases sigil <;> rfl

/-- The flags that the marker of a parameter stands for, and those that follow from the rest. -/
theorem marker_flags (written : p.Written) :
    decide (p.marker = [.char '!']) = p.required ∧
      (!p.required && (decide (p.marker = [.char '?']) || p.hasDefault || decide (p.role = .named))) =
        p.optional := by
  have exclusive := written.spelled.exclusive
  have implied := written.spelled.optional
  unfold Param.marker
  cases required : p.required with
  | true =>
      have optional : p.optional = false := by simpa [required] using exclusive
      simp [optional]
  | false =>
      cases given : p.hasDefault with
      | true => simp [implied required (.inr given)]
      | false =>
          cases role : p.role with
          | named => simp [implied required (.inl role)]
          | positional => cases optional : p.optional <;> simp

theorem token_written (written : p.Written) (start : Param) (role : start.role = p.role)
    (refAlias : start.refAlias = p.refAlias) (defaultSource : start.defaultSource = p.defaultSource)
    (traits : start.traits = p.traits) (index : start.index = none)
    (binds : start.passthrough = false) : token start (p.var ++ p.marker) = .ok p := by
  obtain ⟨required, optional⟩ := marker_flags written
  obtain ⟨readRequired, readOptional⟩ := suffix_read written.spelled.name p.marker_mem
  have given : start.hasDefault = p.hasDefault := by rw [Param.hasDefault, defaultSource, Param.hasDefault]
  have single : ¬ (decide (p.marker = [.char '?']) && p.required) = true := by
    rw [← required]
    cases same : decide (p.marker = [.char '!']) with
    | false => simp
    | true => simp [of_decide_eq_true same]
  rw [Param.var, List.cons_append]
  simp only [token, ofGlyph?_char, readRequired, readOptional, required]
  rw [if_neg single, if_neg (by simp [written.spelled.name]), given, role, optional, refAlias,
    ← written.regular.slurpy]
  obtain ⟨_, _, _, _, _, _, _, _, _, _, _⟩ := p
  obtain ⟨_, _, _, _, _, _, _, _, _, _, _⟩ := start
  have unmarked := written.binds
  have unplaced := written.index
  simp_all

/-- The token that a parameter was read from, and the flags that its suffix gives. -/
theorem token_flags {start : Param} (read : token start word = .ok p) :
    ∃ suffix ∈ suffixes, word = p.var ++ suffix ∧ p.required = decide (suffix = [.char '!']) ∧
      (suffix = [.char '?'] → p.optional = true) := by
  obtain ⟨⟨suffix, listed, spelled⟩, identifier, -⟩ := token_ok read
  obtain ⟨required, optional⟩ := suffix_read identifier listed
  refine ⟨suffix, listed, spelled, ?_⟩
  rw [spelled, Param.var, List.cons_append] at read
  simp only [token, ofGlyph?_char, required, optional] at read
  split at read
  · cases read
  split at read
  · cases read
  have flags := Except.ok.inj read
  refine ⟨(congrArg Param.required flags).symm, ?_⟩
  rintro rfl
  exact (congrArg Param.optional flags).symm.trans (by simp)

/-! ### What a clause gives -/

theorem words_shown {start : Param} {head : List Text} (read : words start head = .ok p)
    (binds : p.passthrough = false) (raw : p.var = Param.passthroughName) :
    p.required = true ∨ p.optional = true := by
  cases head with
  | nil => simp [words] at read
  | cons word others =>
      simp only [words, except_bind_ok] at read
      obtain ⟨written, -, read⟩ := read
      split at read
      · split at read
        · cases read
        · cases read
          cases binds
      · next other =>
          obtain ⟨suffix, listed, spelled, required, optional⟩ := token_flags read
          simp only [suffixes, List.mem_cons, List.not_mem_nil, or_false] at listed
          rcases listed with rfl | rfl | rfl
          · rw [spelled, raw, List.append_nil] at other
            exact (other rfl).elim
          · exact .inl (by simpa using required)
          · exact .inr (optional rfl)

theorem parse_writes (read : Clause.parse clause = .ok p) (binds : p.passthrough = false) :
    p.Written := by
  have unraw : ¬ p.passthrough = true := by simp [binds]
  obtain ⟨head, tail, layout⟩ := parse_ok read
  refine ⟨binds, layout.index, (parse_spelled read).resolve_left unraw,
    (parse_accepted read).resolve_left unraw, fun source given => ?_, ?_⟩
  · rw [layout.defaultSource] at given
    obtain ⟨rest, rfl, rfl⟩ := Option.map_eq_some_iff.mp given
    exact Text.trim_trim rest
  · obtain ⟨start, words, read, -⟩ := parse_words read
    exact words_shown read binds

/-! ### The words -/

theorem identifier_shown (identifier : name.isIdentifier = true) : ∀ g ∈ name, g.isBlank = false :=
  fun g member =>
    Text.isBlank_of_continuesIdentifier (Text.continues_of_isIdentifier identifier g member)

theorem fields_traits {blanks : Text} (shown : ∀ g ∈ word, g.isBlank = false) (nonempty : word ≠ [])
    (identifiers : ∀ trait ∈ traits, trait.isIdentifier = true)
    (blank : ∀ g ∈ blanks, g.isBlank = true) :
    Text.fields (word ++ (traits.flatMap (Text.ofString " is " ++ ·) ++ blanks)) =
      word :: traitWords traits := by
  induction traits generalizing word with
  | nil => exact Text.fields_word shown nonempty blank
  | cons trait rest ih =>
      rw [List.forall_mem_cons] at identifiers
      have announced : word ++ ((trait :: rest).flatMap (Text.ofString " is " ++ ·) ++ blanks) =
          word ++ .char ' ' :: (Text.ofString "is" ++ .char ' ' ::
            (trait ++ (rest.flatMap (Text.ofString " is " ++ ·) ++ blanks))) := by
        simp [Text.ofString]
      have space : Glyph.isBlank (.char ' ') = true := by decide
      rw [announced, Text.fields_cons shown nonempty space,
        Text.fields_cons (by decide) (by decide) space,
        ih (identifier_shown identifiers.1) (Text.ne_nil_of_isIdentifier identifiers.1) identifiers.2]
      rfl

end Clause

namespace Param

open Clause (Form Laid defaultPart suffixes)

variable {p : Param} {clause : Text}

/-- What the clause of a parameter says. -/
def form (p : Param) : Form where
  role := p.role
  refAlias := p.refAlias
  word := p.var ++ p.marker
  traits := p.traits
  defaultSource := p.defaultSource

/-- The head of the clause that a parameter is rendered as. A default is set apart by a blank. -/
def head (p : Param) : Text :=
  p.var ++ p.marker ++ (p.traits.flatMap (Text.ofString " is " ++ ·) ++
    if p.hasDefault then [.char ' '] else [])

theorem identifier_unsigned {t : Text} (identifier : t.isIdentifier = true) : .char '=' ∉ t := by
  have outside : Glyph.continuesIdentifier (.char '=') = false := by decide
  intro member
  rw [Text.continues_of_isIdentifier identifier _ member] at outside
  cases outside

/-- There are no blanks and no equals sign in a token. -/
theorem token_plain {name suffix : Text} (sigil : Sigil) (identifier : name.isIdentifier = true)
    (listed : suffix ∈ suffixes) :
    ∀ g ∈ Glyph.char sigil.char :: (name ++ suffix), g.isBlank = false ∧ g ≠ .char '=' := by
  have all : ∀ suffix ∈ suffixes, ∀ g ∈ suffix, g.isBlank = false ∧ g ≠ .char '=' := by decide
  intro g member
  rcases List.mem_cons.mp member with rfl | member
  · cases sigil <;> decide
  rcases List.mem_append.mp member with named | marked
  · refine ⟨Clause.identifier_shown identifier g named, ?_⟩
    rintro rfl
    exact identifier_unsigned identifier named
  · exact all suffix listed g marked

theorem head_unsigned (identifier : p.name.isIdentifier = true)
    (traits : ∀ trait ∈ p.traits, trait.isIdentifier = true) : .char '=' ∉ p.head := by
  intro member
  rcases List.mem_append.mp member with token | member
  · exact (token_plain p.sigil identifier p.marker_mem _ token).2 rfl
  rcases List.mem_append.mp member with listed | gap
  · obtain ⟨trait, listed, inside⟩ := List.mem_flatMap.mp listed
    rcases List.mem_append.mp inside with word | inside
    · revert word
      decide
    · exact identifier_unsigned (traits trait listed) inside
  · split at gap <;> simp at gap

/-- A parameter is rendered as a clause that says what the parameter is. -/
theorem Written.laid (written : p.Written) :
    Laid p.form p.render p.head (p.defaultSource.map (.char ' ' :: ·)) where
  source := by
    rw [render_eq written.binds, display_eq, trailer, head]
    cases given : p.defaultSource <;>
      simp [hasDefault, given, defaultPart, form, Form.start, marks, Text.ofString]
  words := by
    refine Clause.fields_traits
      (fun g member => (token_plain p.sigil written.spelled.name p.marker_mem g member).1) (by simp [var])
      written.spelled.traits ?_
    split <;> decide
  unmarked := by
    simp only [form, var]
    cases p.sigil <;> rintro g ⟨⟩ <;> decide
  unsigned := head_unsigned written.spelled.name written.spelled.traits
  defaultSource := by
    have space : ∀ g ∈ [Glyph.char ' '], g.isBlank = true := by decide
    rw [form, Option.map_map]
    cases given : p.defaultSource with
    | none => rfl
    | some source =>
        have trimmed : Text.trim (.char ' ' :: source) = source :=
          (Text.trim_blank_append space source).trans (written.trimmed source given)
        simp [trimmed]

theorem Written.render_trim (written : p.Written) : p.render.trim = p.render := by
  refine Text.trim_of_firm (render_starts written.binds)
    (render_ends written.binds written.spelled.name written.spelled.traits fun source given => ?_)
  refine ⟨Text.endsFirm_of_trim (written.trimmed source given), ?_⟩
  rintro rfl
  exact written.regular.defaultSource given

/-- What the rendering of a parameter reads as. -/
theorem Written.parse_rendering (written : p.Written) : Clause.parse p.render =
    (Clause.words p.form.start (p.form.word :: Clause.traitWords p.traits)).mapError (⟨p.render, ·⟩) := by
  have read := written.laid.read written.regular.defaultSource
  unfold Clause.parse
  rw [written.render_trim]
  split
  · next empty => exact (render_ne_nil written.binds empty).elim
  · rw [read]
    rfl

theorem Written.words_eq (written : p.Written) :
    Clause.words p.form.start (p.form.word :: Clause.traitWords p.traits) =
      if p.var ++ p.marker = passthroughName then
        if p.role = .named || p.refAlias || !p.traits.isEmpty || p.hasDefault then
          .error .passthroughMarked
        else .ok { p.form.start with traits := p.traits, name := "_", sigil := .array, passthrough := true }
      else .ok p := by
  have traits : Clause.traits (Clause.traitWords p.traits) = .ok p.traits :=
    Clause.traits_ok_iff.mpr ⟨rfl, written.spelled.traits⟩
  have sorted : Text.sorted p.traits = p.traits := by
    obtain ⟨listed, same⟩ := written.regular.traits
    rw [same]
    exact Text.sorted_sorted fun trait member =>
      Text.isUnicode_of_isIdentifier (written.spelled.traits trait (same ▸ member))
  have token := Clause.token_written written { p.form.start with traits := p.traits }
    rfl rfl rfl rfl rfl rfl
  rw [Clause.words, traits, except_ok_bind, sorted]
  split
  · next raw => rw [if_pos (show p.var ++ p.marker = _ from raw)]; rfl
  · next other => rw [if_neg (show p.var ++ p.marker ≠ _ from other)]; exact token

theorem Written.masked_iff (written : p.Written) : p.var ++ p.marker = passthroughName ↔ p.Masked := by
  constructor
  · intro raw
    obtain ⟨first, rest, name⟩ := List.exists_cons_of_ne_nil
      (Text.ne_nil_of_isIdentifier written.spelled.name)
    -- Sigil and name take up the two characters, so there is none left for a marker.
    have unmarked : p.marker = [] := by
      have length := congrArg List.length raw
      simp only [var, name, List.cons_append, List.length_cons, List.length_append] at length
      have two : passthroughName.length = 2 := by decide
      exact List.length_eq_zero_iff.mp (by omega)
    have var : p.var = passthroughName := by rwa [unmarked, List.append_nil] at raw
    unfold marker at unmarked
    split at unmarked
    · cases unmarked
    next unrequired =>
    split at unmarked
    · cases unmarked
    next implied =>
    have optional := (written.shown var).resolve_left unrequired
    refine ⟨var, by simpa using unrequired, ?_⟩
    cases role : p.role with
    | named => exact .inl rfl
    | positional => exact .inr (by simpa [optional, role] using implied)
  · rintro ⟨var, unrequired, implied⟩
    have unmarked : p.marker = [] := by
      unfold marker
      rcases implied with named | given
      · simp [unrequired, named]
      · simp [unrequired, given]
    rw [var, unmarked, List.append_nil]

end Param

namespace Clause

variable {p : Param} {clause : Text}

/-- The rendering of a parameter that a clause gives reads as the parameter again, unless the parameter is
masked. Then it does not read at all. -/
theorem parse_rendered (read : Clause.parse clause = .ok p) :
    (Clause.parse p.render = .ok p ↔ ¬ p.Masked) ∧
      (p.Masked → Clause.parse p.render = .error ⟨p.render, .passthroughMarked⟩) := by
  cases binds : p.passthrough with
  | true =>
      have trimmed := parse_trim read
      have raw := (passthrough_iff (Text.trim_trim clause) trimmed).mp binds
      rw [raw] at trimmed
      have rendered : p.render = Param.passthroughName := by rw [Param.render, if_pos binds]
      have unmasked : ¬ p.Masked := by
        rw [parse_passthroughName] at trimmed
        cases trimmed
        rintro ⟨-, -, named | given⟩
        · cases named
        · cases given
      rw [rendered]
      exact ⟨iff_of_true trimmed unmasked, fun masked => (unmasked masked).elim⟩
  | false =>
      have written := parse_writes read binds
      have outcome := written.parse_rendering
      rw [written.words_eq] at outcome
      by_cases masked : p.Masked
      · have marked : (p.role = .named || p.refAlias || !p.traits.isEmpty || p.hasDefault) = true := by
          rcases masked.implied with named | given
          · simp [named]
          · simp [given]
        rw [if_pos (written.masked_iff.mpr masked), if_pos marked] at outcome
        have unread : Clause.parse p.render ≠ .ok p := by simp [outcome, Except.mapError]
        exact ⟨iff_of_false unread (not_not_intro masked), fun _ => outcome⟩
      · rw [if_neg fun raw => masked (written.masked_iff.mp raw)] at outcome
        exact ⟨iff_of_true outcome masked, fun other => (masked other).elim⟩

/-- A required reference with two traits, and an equals sign in its default. -/
def markedSample : Param where
  name := "list"
  sigil := .array
  role := .named
  refAlias := true
  traits := ["copy", "ro"]
  defaultSource := some "a = b"
  required := true

theorem parse_rendered_marked :
    Clause.parse " :\\ @list! is ro is copy=a = b " = .ok markedSample ∧ ¬ markedSample.Masked ∧
      markedSample.render = Text.ofString ":\\@list! is copy is ro = a = b" ∧
      Clause.parse markedSample.render = .ok markedSample := by
  have read : Clause.parse " :\\ @list! is ro is copy=a = b " = .ok markedSample := by decide
  have unmasked : ¬ markedSample.Masked := fun masked => by cases masked.unrequired
  exact ⟨read, unmasked, by decide, (parse_rendered read).1.mpr unmasked⟩

/-- A named list that is called as the raw argument list is. -/
def maskedSample : Param where
  name := "_"
  sigil := .array
  role := .named
  slurpy := true
  optional := true

theorem rendered_unread : Clause.parse ":@_?" = .ok maskedSample ∧
    maskedSample.render = Text.ofString ":@_" ∧
    Clause.parse maskedSample.render = .error ⟨":@_", .passthroughMarked⟩ := by
  decide +kernel

end Clause
end CallPlan
