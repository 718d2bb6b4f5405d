import CallPlan.Proofs.Signature.Balance
import CallPlan.Proofs.Signature.Canonical

/-!
The blanks around a signature. They make no difference to where a list is cut, nor to an invocant where
they follow it. In front of an invocant only ASCII blanks are passed over: behind any other blank the
invocant is taken for a parameter, which it cannot be.
-/

namespace CallPlan

namespace Split

variable {before after t : Text} {part last : Text} {parts front clauses : List Text}

/-! ### Segments -/

theorem join_concat (front : List Text) (last : Text) :
    Text.join [.char ','] (front ++ [last]) = front.flatMap (· ++ [.char ',']) ++ last := by
  rw [Text.join_append, Text.join_cons, List.flatMap_nil, List.append_nil]

namespace Scan

variable {s s' : Scan} {g : Glyph}

/-- What a scan has read. -/
def written (s : Scan) : Text := s.segments.reverse.flatMap (· ++ [.char ',']) ++ s.segment.reverse

theorem step_written (read : s.step g = .ok s') : s'.written = s.written ++ [g] := by
  have steps := step_steps s g
  rw [read] at steps
  cases steps with
  | take inside took => simp [written, took.segment, took.segments]
  | comma is open_ => simp [written, cut, is]

theorem run_written (read : s.run t = .ok s') : s'.written = s.written ++ t := by
  induction t generalizing s with
  | nil =>
      cases read
      exact (List.append_nil _).symm
  | cons g rest ih =>
      simp only [run, except_bind_ok] at read
      obtain ⟨next, first, later⟩ := read
      rw [ih later, step_written first, List.append_assoc, List.singleton_append]

end Scan

/-- A text is its segments with commas between them. -/
theorem segments_text (read : segments t = .ok parts) :
    ∃ front last, parts = front ++ [last] ∧ t = Text.join [.char ','] parts := by
  simp only [segments, except_bind_ok, Scan.finish_ok_iff] at read
  obtain ⟨s, ran, -, rfl⟩ := read
  refine ⟨s.segments.reverse, s.segment.reverse, List.reverse_cons, ?_⟩
  rw [List.reverse_cons, join_concat]
  exact (Scan.run_written ran).symm

theorem segments_cons (read : segments t = .ok parts) : ∃ part rest, parts = part :: rest := by
  obtain ⟨front, last, rfl, -⟩ := segments_text read
  cases front with
  | nil => exact ⟨last, [], rfl⟩
  | cons part rest => exact ⟨part, rest ++ [last], rfl⟩

theorem segments_of_whole (whole : ∀ part ∈ front ++ [last], Whole part) :
    segments (Text.join [.char ','] (front ++ [last])) = .ok (front ++ [last]) := by
  cases front with
  | nil => exact segments_join whole
  | cons part rest => exact segments_join whole

theorem segments_append (whole : Whole after) (read : segments t = .ok (front ++ [last])) :
    segments (t ++ after) = .ok (front ++ [last ++ after]) := by
  have each := segments_whole read
  obtain ⟨_, _, _, rfl⟩ := segments_text read
  rw [join_concat, List.append_assoc, ← join_concat]
  refine segments_of_whole fun part member => ?_
  rcases List.mem_append.mp member with early | final
  · exact each part (List.mem_append_left _ early)
  · rw [List.mem_singleton.mp final]
    exact (each last (by simp)).append whole

theorem segments_prepend (whole : Whole before) (read : segments t = .ok (part :: parts)) :
    segments (before ++ t) = .ok ((before ++ part) :: parts) := by
  have each := segments_whole read
  obtain ⟨_, _, _, rfl⟩ := segments_text read
  have joined : before ++ Text.join [.char ','] (part :: parts) =
      Text.join [.char ','] ((before ++ part) :: parts) := by
    cases parts <;> simp [Text.join, List.intercalate]
  rw [joined]
  refine segments_join fun other member => ?_
  rcases List.mem_cons.mp member with rfl | later
  · exact whole.append (each part List.mem_cons_self)
  · exact each other (List.mem_cons_of_mem _ later)

/-! ### Texts that open and close nothing -/

theorem runIn_plain {commas : Bool} {n : Nesting} (outside : n.literal = none)
    (plain : ∀ g ∈ t, g ∉ delimiters) : n.runIn commas t = some n := by
  induction t with
  | nil => rfl
  | cons g rest ih =>
      have first := plain g List.mem_cons_self
      have other : g ≠ .char ',' := by
        rintro rfl
        exact first (by decide)
      rw [Nesting.runIn, Nesting.stepIn_of_not_comma other, step_plain outside first]
      exact ih fun g member => plain g (List.mem_cons_of_mem _ member)

theorem segments_prepend_iff (plain : ∀ g ∈ before, g ∉ delimiters) :
    (∃ parts, segments (before ++ t) = .ok parts) ↔ ∃ parts, segments t = .ok parts := by
  rw [segments_ok_iff, segments_ok_iff, Nesting.runIn_append, runIn_plain rfl plain, Option.bind_some]

theorem Nesting.Quoted.runIn_blanks {commas : Bool} {n : Nesting} (quoted : n.Quoted)
    (blank : ∀ g ∈ t, g.isBlank = true) (read : n.runIn commas t = some {}) : n = {} := by
  induction t generalizing n with
  | nil => exact Option.some.inj read
  | cons g rest ih =>
      obtain ⟨m, first, later⟩ := Option.bind_eq_some_iff.mp read
      obtain rfl := ih (quoted.stepIn first) (fun g member => blank g (List.mem_cons_of_mem _ member)) later
      have shown := blank g List.mem_cons_self
      have other : g ≠ .char ',' := by
        rintro rfl
        cases shown
      rw [stepIn_of_not_comma other] at first
      exact quoted.before_blank shown first

theorem Nesting.Quoted.runIn {commas : Bool} {n m : Nesting} (quoted : n.Quoted)
    (read : n.runIn commas t = some m) : m.Quoted := by
  induction t generalizing n with
  | nil =>
      cases read
      exact quoted
  | cons g rest ih =>
      obtain ⟨next, first, later⟩ := Option.bind_eq_some_iff.mp read
      exact ih (quoted.stepIn first) later

theorem segments_append_iff (blank : ∀ g ∈ after, g.isBlank = true) :
    (∃ parts, segments (t ++ after) = .ok parts) ↔ ∃ parts, segments t = .ok parts := by
  rw [segments_ok_iff, segments_ok_iff, Nesting.runIn_append, Option.bind_eq_some_iff]
  constructor
  · rintro ⟨n, read, later⟩
    rwa [(Nesting.quoted_start.runIn read).runIn_blanks blank later] at read
  · intro read
    exact ⟨{}, read, runIn_plain rfl fun g member => blank_plain (blank g member)⟩

/-! ### Clauses -/

theorem split_eq_ok_iff : split t = .ok clauses ↔
    ∃ parts, segments t = .ok parts ∧ dropBlankLast (parts.map Text.trim) = clauses := by
  simp only [split, except_bind_ok, except_pure, Except.ok.injEq]

/-- Texts that are cut alike, blanks around their segments apart, have the same clauses. -/
theorem split_congr {u : Text}
    (ends : (∃ parts, segments u = .ok parts) ↔ ∃ parts, segments t = .ok parts)
    (same : ∀ parts, segments t = .ok parts → ∃ parts', segments u = .ok parts' ∧
      parts'.map Text.trim = parts.map Text.trim) :
    split u = .ok clauses ↔ split t = .ok clauses := by
  simp only [split_eq_ok_iff]
  constructor
  · rintro ⟨parts', read', rfl⟩
    obtain ⟨parts, read⟩ := ends.mp ⟨parts', read'⟩
    obtain ⟨_, again, trimmed⟩ := same parts read
    cases read'.symm.trans again
    exact ⟨parts, read, by rw [trimmed]⟩
  · rintro ⟨parts, read, rfl⟩
    obtain ⟨parts', read', trimmed⟩ := same parts read
    exact ⟨parts', read', by rw [trimmed]⟩

/-- Blanks in front of a list make no difference to its clauses. -/
theorem split_blank_append (blank : ∀ g ∈ before, g.isBlank = true) :
    split (before ++ t) = .ok clauses ↔ split t = .ok clauses := by
  have plain : ∀ g ∈ before, g ∉ delimiters := fun g member => blank_plain (blank g member)
  refine split_congr (segments_prepend_iff plain) fun parts read => ?_
  obtain ⟨part, rest, rfl⟩ := segments_cons read
  exact ⟨_, segments_prepend (whole_of_blank blank) read, by simp [Text.trim_blank_append blank]⟩

/-- Blanks after a list make no difference to its clauses. -/
theorem split_append_blank (blank : ∀ g ∈ after, g.isBlank = true) :
    split (t ++ after) = .ok clauses ↔ split t = .ok clauses := by
  have whole : Whole after := whole_of_blank blank
  refine split_congr (segments_append_iff blank) fun parts read => ?_
  obtain ⟨front, last, rfl, -⟩ := segments_text read
  exact ⟨_, segments_append whole read, by simp [Text.trim_append_blank last blank]⟩

/-- The first clause of a list that starts with something to see starts with it. -/
theorem split_head {mark : Text} (plain : ∀ g ∈ mark, g ∉ delimiters) (starts : mark.StartsFirm)
    (ends : mark.EndsFirm) (nonempty : mark ≠ []) (cut : split (mark ++ t) = .ok clauses) :
    ∃ rest more, clauses = (mark ++ rest) :: more := by
  obtain ⟨parts', read', rfl⟩ := split_eq_ok_iff.mp cut
  obtain ⟨parts, read⟩ := (segments_prepend_iff plain).mp ⟨parts', read'⟩
  obtain ⟨part, others, rfl⟩ := segments_cons read
  cases read'.symm.trans (segments_prepend (whole_of_plain plain) read)
  have trimmed : Text.trim (mark ++ part) = mark ++ part.trimEnd := by
    rw [Text.trim, Text.trimStart_of_firm (starts.append nonempty part), Text.trimEnd_append ends nonempty]
  rw [List.map_cons, trimmed]
  cases others with
  | nil => exact ⟨part.trimEnd, [], by simp [dropBlankLast, nonempty]⟩
  | cons => exact ⟨part.trimEnd, _, rfl⟩

end Split

namespace Invocant

variable {before : Text} {g : Glyph}

/-! ### Blanks in front of an invocant -/

theorem prefixed?_cons_blank (blank : g.isBlank = true) (wide : g.isAsciiBlank = false) (t : Text) :
    prefixed? (g :: t) = none := by
  have unsigned : g ≠ .char '$' := by
    rintro rfl
    cases blank
  exact prefixed?_cons wide unsigned (continuesName_of_blank blank) t

/-- An invocant is not seen behind blanks that are not all ASCII. -/
theorem prefixed?_hidden (blank : ∀ g ∈ before, g.isBlank = true)
    (wide : ¬ ∀ g ∈ before, g.isAsciiBlank = true) (t : Text) : prefixed? (before ++ t) = none := by
  induction before with
  | nil => exact (wide (by simp)).elim
  | cons g rest ih =>
      rw [List.forall_mem_cons] at blank wide
      cases first : g.isAsciiBlank with
      | false => exact prefixed?_cons_blank blank.1 first _
      | true =>
          have skipped : ∀ t : Text, prefixed? (g :: t) = prefixed? t :=
            prefixed?_ascii_append (List.forall_mem_singleton.mpr first)
          rw [List.cons_append, skipped]
          exact ih blank.2 fun ascii => wide ⟨first, ascii⟩

/-! ### An invocant as a clause -/

namespace Declaration

variable {d : Declaration}

theorem before_of_firm (starts : d.text.StartsFirm) : d.before = [] := by
  cases before : d.before with
  | nil => rfl
  | cons g more =>
      have blank := d.before_blank g (by rw [before]; exact List.mem_cons_self)
      have shown := starts g (by rw [text, before]; rfl)
      rw [isAsciiBlank_blank blank] at shown
      cases shown

variable (d)

theorem written_eq : d.written = d.sign ++ (d.name ++ (d.between ++ [.char ':'])) := by
  simp [written]

theorem written_head : ∃ first more, d.written = first :: more ∧
    (first = .char '$' ∨ continuesName first = true) := by
  have head := d.sign_head (d.between ++ [.char ':'])
  rw [← written_eq] at head
  cases same : d.written with
  | nil => simp [written] at same
  | cons first more => exact ⟨first, more, rfl, head first (by rw [same]; rfl)⟩

theorem written_starts : d.written.StartsFirm := by
  rw [written_eq]
  exact d.sign_starts _

/-- Nothing in an invocant begins a default, and nothing cuts it. -/
theorem written_plain : ∀ g ∈ d.written, g ∉ Glyph.char '=' :: Split.delimiters := by
  have apart : ∀ mark ∈ Glyph.char '=' :: Split.delimiters,
      mark ≠ .char '$' ∧ continuesName mark = false ∧ mark.isBlank = false ∧ mark ≠ .char ':' := by
    decide
  intro g member among
  obtain ⟨notDollar, notName, shown, notColon⟩ := apart g among
  simp only [written, List.mem_append, List.mem_singleton] at member
  rcases member with ((inSign | inName) | inBetween) | colon
  · unfold sign at inSign
    split at inSign
    · exact notDollar (List.mem_singleton.mp inSign)
    · cases inSign
  · rw [all_continuesName d.valid g inName] at notName
    cases notName
  · rw [isAsciiBlank_blank (d.between_blank g inBetween)] at shown
    cases shown
  · exact notColon colon

end Declaration

end Invocant

namespace Clause

variable {source clause head : Text} {tail : Option Text} {p : Param}

/-- The signs that stand around the head of a clause are not in it. -/
theorem Layout.sign_not_mem (layout : Layout source p head tail) {sign : Char}
    (known : sign ∈ [':', '=']) : .char sign ∉ head := by
  rw [List.mem_cons, List.mem_singleton] at known
  have signs : Glyph.continuesIdentifier (.char sign) = false ∧ Glyph.isBlank (.char sign) = false ∧
      .char sign ∉ Param.passthroughName ∧ .char sign ∉ Text.ofString "is" ∧
      ∀ suffix ∈ suffixes, Glyph.char sign ∉ suffix := by
    rcases known with rfl | rfl <;> decide
  obtain ⟨continues, shown, notRaw, notIs, notSuffix⟩ := signs
  have identifiers : ∀ {t : Text}, t.isIdentifier = true → .char sign ∉ t := by
    intro t identifier member
    rw [Text.continues_of_isIdentifier identifier _ member] at continues
    cases continues
  intro member
  obtain ⟨word, others, listed, words⟩ := layout.words
  obtain ⟨w, among, inside⟩ := Text.mem_fields member shown
  rw [listed] at among
  obtain ⟨written, traits, -⟩ := words.traits
  obtain ⟨valid, each, -⟩ := traits_ok traits
  rcases List.mem_cons.mp among with rfl | later
  · cases raw : p.passthrough with
    | true => exact notRaw ((words.raw raw).1 ▸ inside)
    | false =>
        obtain ⟨identifier, suffix, marked, rfl⟩ := words.token raw
        rw [Param.var, List.cons_append, List.mem_cons, List.mem_append] at inside
        rcases inside with sigil | name | suffixed
        · have apart : Glyph.char sign ≠ .char p.sigil.char := by
            rcases known with rfl | rfl <;> cases p.sigil <;> decide
          exact apart sigil
        · exact identifiers identifier name
        · exact notSuffix suffix marked suffixed
  · rcases each w later with rfl | trait
    · exact notIs inside
    · exact identifiers (valid w trait) inside

theorem mem_marks {mark : Glyph} (member : mark ∈ p.marks) : mark ∈ [Glyph.char ':', .char '\\'] := by
  revert mark
  unfold Param.marks
  cases p.role <;> cases p.refAlias <;> decide

/-- A clause that starts as an invocant does has no marks. -/
theorem Layout.unmarked {first : Glyph} {more : Text} (layout : Layout (first :: more) p head tail)
    (begins : first = .char '$' ∨ Invocant.continuesName first = true) : p.marks = [] := by
  have apart : ∀ mark ∈ [Glyph.char ':', .char '\\'],
      mark ≠ .char '$' ∧ Invocant.continuesName mark = false := by decide
  cases marks : p.marks with
  | nil => rfl
  | cons mark others =>
      have source := layout.source
      rw [marks] at source
      obtain rfl : first = mark := (List.cons.inj source).1
      obtain ⟨notDollar, notName⟩ := apart first (mem_marks (by rw [marks]; exact List.mem_cons_self))
      rcases begins with dollar | continues
      · exact (notDollar dollar).elim
      · rw [continues] at notName
        cases notName

/-- No parameter is written as an invocant with its colon. -/
theorem parse_written (d : Invocant.Declaration) {rest : Text} (trimmed : clause.trim = d.written ++ rest) :
    Clause.parse clause ≠ .ok p := by
  intro read
  obtain ⟨head, tail, layout⟩ := parse_ok read
  obtain ⟨first, more, starts, begins⟩ := d.written_head
  have unread : ∀ rest, head ≠ d.written ++ rest := by
    rintro rest rfl
    exact layout.sign_not_mem List.mem_cons_self (by simp [Invocant.Declaration.written])
  have unsigned : .char '=' ∉ d.written := fun member => d.written_plain _ member List.mem_cons_self
  rw [trimmed] at layout
  have source := layout.source
  rw [starts] at layout
  have unmarked := layout.unmarked begins
  rw [unmarked, List.nil_append, List.append_eq_append_iff] at source
  rcases source with ⟨more, same, -⟩ | ⟨between', same, others⟩
  · exact unread more same
  · -- The head would have to end inside the invocant, at an equals sign.
    cases between' with
    | nil => exact unread [] (by simpa using same.symm)
    | cons g others' =>
        cases tail with
        | none => cases others
        | some tail =>
            cases others
            exact unsigned (by simp [same])

end Clause

/-- The invocant of a text, if it has one once it is trimmed, stands behind ASCII blanks only. -/
def Invocant.InSight (text : Text) : Prop :=
  (prefixed? text.trim).isSome = true → ∀ g ∈ text.takeWhile Glyph.isBlank, g.isAsciiBlank = true

namespace Signature

variable {options : AssemblyOptions} {s : Signature} {a : Assembler} {text list list' : Text}

theorem readList_congr (same : ∀ clauses, Split.split list = .ok clauses ↔ Split.split list' = .ok clauses) :
    readList options list = .ok a ↔ readList options list' = .ok a := by
  simp only [readList_ok_iff, same]

/-- A list that starts with an invocant and its colon has no meaning as a list of parameters. -/
theorem readList_prefixed {name rest : Text} (starts : list.StartsFirm)
    (found : Invocant.prefixed? list = some (name, rest)) : readList options list ≠ .ok a := by
  intro read
  obtain ⟨d, rfl, -⟩ := Invocant.prefixed?_eq_some_iff.mp found
  rw [Invocant.Declaration.text, d.before_of_firm starts, List.nil_append] at read
  obtain ⟨clauses, params, cut, each, -⟩ := readList_ok_iff.mp read
  have plain : ∀ g ∈ d.written, g ∉ Split.delimiters := fun g member among =>
    d.written_plain g member (List.mem_cons_of_mem _ among)
  have ends : d.written.EndsFirm := Text.EndsFirm.append _ (by rintro g ⟨⟩; rfl) (by simp)
  have nonempty : d.written ≠ [] := by simp [Invocant.Declaration.written]
  obtain ⟨after, more, rfl⟩ := Split.split_head plain d.written_starts ends nonempty cut
  cases each with
  | cons parsed _ =>
      exact Clause.parse_written d (Split.split_trimmed cut _ List.mem_cons_self) parsed

theorem startsFirm_trim (text : Text) : text.trim.StartsFirm := by
  intro g first
  obtain ⟨rest, same⟩ := List.head?_eq_some_iff.mp first
  exact Text.head_of_trim rest (same ▸ Text.trim_trim text)

/-- Trimming a text changes nothing about what it reads as, so long as its invocant is in sight. -/
theorem parse_trim_iff : parse text options = .ok s ↔
    parse text.trim options = .ok s ∧ Invocant.InSight text := by
  obtain ⟨after, whole, behind⟩ := text.trim_margins
  have front : ∀ g ∈ text.takeWhile Glyph.isBlank, g.isBlank = true := fun g => List.mem_takeWhile_imp
  have starts := startsFirm_trim text
  have recorded : ∀ a : Assembler, a.setText text.trim = a.setText text := fun a => by
    rw [Assembler.setText, Text.trim_trim, Assembler.setText]
  unfold Invocant.InSight
  generalize text.takeWhile Glyph.isBlank = before at whole front ⊢
  generalize text.trim = body at whole starts recorded ⊢
  subst whole
  rw [List.append_assoc] at recorded ⊢
  have lists : ∀ clauses, Split.split (before ++ (body ++ after)) = .ok clauses ↔
      Split.split body = .ok clauses := fun clauses => by
    rw [Split.split_blank_append front, Split.split_append_blank behind]
  simp only [parse_ok_iff, recorded]
  by_cases ascii : ∀ g ∈ before, g.isAsciiBlank = true
  · -- Only ASCII blanks: the same invocant is seen, and the list behind it ends in more blanks.
    have seen : Invocant.prefixed? (before ++ (body ++ after)) =
        (Invocant.prefixed? body).map fun found => (found.1, found.2 ++ after) := by
      rw [Invocant.prefixed?_ascii_append ascii, Invocant.prefixed?_append_blank behind]
    cases found : Invocant.prefixed? body with
    | none => simp only [invocantOf, Invocant.split, seen, found, Option.map_none, readList_congr lists,
        Option.isSome_none, Bool.false_eq_true, false_implies, and_true]
    | some invocant =>
        have rest : ∀ clauses, Split.split (invocant.2 ++ after) = .ok clauses ↔
            Split.split invocant.2 = .ok clauses := fun clauses => Split.split_append_blank behind
        simp only [invocantOf, Invocant.split, seen, found, Option.map_some, readList_congr rest]
        exact (and_iff_left fun _ => ascii).symm
  · -- Other blanks: no invocant is seen, so there must be none.
    have hidden : Invocant.prefixed? (before ++ (body ++ after)) = none :=
      Invocant.prefixed?_hidden front ascii _
    cases found : Invocant.prefixed? body with
    | none => simp only [invocantOf, Invocant.split, hidden, found, readList_congr lists,
        Option.isSome_none, Bool.false_eq_true, false_implies, and_true]
    | some invocant =>
        refine ⟨?_, fun both => (ascii (both.2 rfl)).elim⟩
        rintro ⟨a, read, -⟩
        simp only [Invocant.split, hidden, readList_congr lists] at read
        exact (readList_prefixed starts found read).elim

end Signature
end CallPlan
