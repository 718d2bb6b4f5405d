import CallPlan.Proofs.Default.Literals
import CallPlan.Proofs.Signature.Margins

/-!
The literals of a default. The scan that cuts a parameter list at its commas and the one that takes the sigils
out of a default start at different places, and what they keep of a literal is not the same; but they
recognise the same literals there.
-/

namespace CallPlan

namespace Split

variable {n n' : Nesting} {g : Glyph} {t list before source after : Text} {k : Nat}

/-- A literal is open after a number of glyphs of a list. -/
def InLiteral (list : Text) (k : Nat) : Prop :=
  ∃ s, Scan.run {} (list.take k) = .ok s ∧ s.literal.isSome = true

/-- A stretch of a list in which commas do not cut because it is a literal. -/
def IsLiteral (list : Text) (start stop : Nat) : Prop := Stretch (InLiteral list) list.length start stop

theorem inLiteral_iff : InLiteral list k ↔
    ∃ n, Nesting.runIn true {} (list.take k) = some n ∧ n.literal.isSome = true := by
  have read := Scan.run_runIn {} (list.take k)
  have start : ({} : Scan).nesting = {} := rfl
  rw [start] at read
  rw [InLiteral, ← read]
  cases Scan.run {} (list.take k) with
  | error e => simp [Except.toOption]
  | ok s => simp [Except.toOption, Scan.nesting]

/-- What the scan of a source has open where a nesting has a literal open. -/
def Nesting.opened (n : Nesting) : Option Source.Literal :=
  n.literal.map fun open_ => { quote := .char open_.1, escaped := open_.2 }

/-- Both scans open and close literals at the same glyphs. -/
theorem Nesting.step_opened (read : n.step g = some n') : Source.literalStep n.opened g = n'.opened := by
  cases literal : n.literal with
  | some open_ =>
      obtain ⟨quote, escaped⟩ := open_
      simp only [Nesting.step, literal, Option.some.injEq] at read
      subst read
      simp only [opened, literal, Option.map_some, Source.literalStep, Source.Literal.next, inLiteral]
      split
      · rfl
      · split
        · rfl
        · next escape => split <;> simp_all
  | none =>
      cases g with
      | stray byte =>
          simp only [Nesting.step, literal, Option.some.injEq] at read
          subst read
          simp [opened, literal, Source.literalStep, Source.isQuote]
      | char c =>
          simp only [Nesting.step, literal] at read
          by_cases quote : c = '\'' ∨ c = '"'
          · simp only [plain, Bool.or_eq_true, decide_eq_true_eq, quote, if_true, Option.some.injEq] at read
            subst read
            simp [opened, literal, Source.literalStep, Source.isQuote, quote]
          · rcases plain_literal read with ⟨-, either⟩ | same
            · exact (quote either).elim
            · simp [opened, same, literal, Source.literalStep, Source.isQuote, quote]

theorem Nesting.run_opened (read : n.run t = some n') : t.foldl Source.literalStep n.opened = n'.opened := by
  induction t generalizing n with
  | nil =>
      cases read
      rfl
  | cons g rest ih =>
      obtain ⟨m, first, later⟩ := Option.bind_eq_some_iff.mp read
      rw [List.foldl_cons, Nesting.step_opened first, ih later]

/-- What is read without a comma outside is read where commas are allowed, too. -/
theorem Nesting.runIn_of_run {commas : Bool} (read : n.run t = some n') : n.runIn commas t = some n' := by
  induction t generalizing n with
  | nil => exact read
  | cons g rest ih =>
      obtain ⟨m, first, later⟩ := Option.bind_eq_some_iff.mp read
      have step : n.stepIn commas g = some m := by
        rw [stepIn, if_neg, first]
        intro cuts
        simp only [Bool.and_eq_true, decide_eq_true_eq] at cuts
        rw [cuts.1.2, cuts.2] at first
        cases first
      rw [runIn, step]
      exact ih later

/-- In a part that is whole, and that the scan of a list comes to outside of everything, a literal is open for
both scans at once. -/
theorem inLiteral_part (outside : Nesting.runIn true {} before = some {}) (whole : Whole source)
    (within : k ≤ source.length) :
    InLiteral (before ++ source ++ after) (before.length + k) ↔ Source.InLiteral source k := by
  have taken : (before ++ source ++ after).take (before.length + k) = before ++ source.take k := by
    rw [List.append_assoc, List.take_length_add_append, List.take_append_of_le_length within]
  rw [Whole, ← List.take_append_drop k source] at whole
  obtain ⟨m, read, -⟩ := Nesting.run_append_some.mp whole
  have opened := Nesting.run_opened read
  rw [inLiteral_iff, taken, Nesting.runIn_append, outside, Option.bind_some, Nesting.runIn_of_run read,
    Source.inLiteral_iff, Source.openLiteral]
  have start : (none : Option Source.Literal) = Nesting.opened {} := rfl
  rw [start, opened, Nesting.opened, Option.isSome_map]
  simp

theorem runIn_parts {front : List Text} (whole : ∀ part ∈ front, Whole part) :
    Nesting.runIn true {} (front.flatMap (· ++ [.char ','])) = some {} := by
  induction front with
  | nil => rfl
  | cons part rest ih =>
      have comma : Nesting.runIn true {} [.char ','] = some {} := by decide
      rw [List.flatMap_cons, Nesting.runIn_append, Nesting.runIn_append,
        Nesting.runIn_of_run (whole part List.mem_cons_self), Option.bind_some, comma, Option.bind_some]
      exact ih fun other member => whole other (List.mem_cons_of_mem _ member)

/-- Where the default of a parameter stands in a list: behind the first equals sign of the segment that the
parameter is read from, between blanks. -/
structure Stands (list : Text) (p : Param) (before source after : Text) : Prop where
  joined : list = before ++ source ++ after
  written : ∃ front back head early late,
    segments list = .ok (front ++ (head ++ .char '=' :: early ++ source ++ late) :: back) ∧
    Clause.parse (head ++ .char '=' :: early ++ source ++ late) = .ok p ∧
    .char '=' ∉ head ∧ (∀ g ∈ early ++ late, g.isBlank = true) ∧
    before = front.flatMap (· ++ [.char ',']) ++ (head ++ .char '=' :: early)

/-- A clause that gives a default has it behind its first equals sign. -/
theorem clause_default {segment : Text} {p : Param} (read : Clause.parse segment = .ok p)
    (binds : p.passthrough = false) (given : p.defaultSource = some source) : ∃ head early late,
    segment = head ++ .char '=' :: early ++ source ++ late ∧ .char '=' ∉ head ∧
    (∀ g ∈ head, g ∉ delimiters) ∧ (∀ g ∈ early ++ late, g.isBlank = true) ∧ source.trim = source := by
  obtain ⟨head, tail, layout⟩ := Clause.parse_ok read
  rw [layout.defaultSource] at given
  obtain ⟨rest, rfl, rfl⟩ := Option.map_eq_some_iff.mp given
  obtain ⟨late, parts, blank⟩ := rest.trim_margins
  obtain ⟨trail, margins, blank'⟩ := segment.trim_margins
  have lead : ∀ g ∈ segment.takeWhile Glyph.isBlank, g.isBlank = true := fun g member =>
    List.mem_takeWhile_imp member
  have early : ∀ g ∈ rest.takeWhile Glyph.isBlank, g.isBlank = true := fun g member =>
    List.mem_takeWhile_imp member
  refine ⟨segment.takeWhile Glyph.isBlank ++ (p.marks ++ head), rest.takeWhile Glyph.isBlank, late ++ trail,
    ?_, ?_, ?_, ?_, Text.trim_trim rest⟩
  · have written := layout.source
    rw [Clause.defaultPart, parts] at written
    rw [written] at margins
    simpa using margins
  · intro member
    rcases List.mem_append.mp member with blank | member
    · cases lead _ blank
    rcases List.mem_append.mp member with mark | member
    · have apart : Glyph.char '=' ∉ [Glyph.char ':', .char '\\'] := by decide
      exact apart (Clause.mem_marks mark)
    · exact layout.sign_not_mem (by decide) member
  · intro g member
    rcases List.mem_append.mp member with blank | member
    · exact blank_plain (lead g blank)
    rcases List.mem_append.mp member with mark | member
    · exact Clause.marks_plain p g mark
    · exact layout.head_plain binds g member
  · intro g member
    rcases List.mem_append.mp member with before | after
    · exact early g before
    · exact (List.mem_append.mp after).elim (blank g) (blank' g)

end Split

namespace Signature

open Split (Stands Whole)

variable {text source : Text} {options : AssemblyOptions} {s : Signature} {p : Param}

/-- Every parameter of a signature that is read from a text is read from a segment of its list. -/
theorem segment_of_param (parsed : parse text options = .ok s) (member : p ∈ s.params) :
    ∃ parts segment, Split.segments (Invocant.split text).2 = .ok parts ∧ segment ∈ parts ∧
      Clause.parse segment = .ok { p with index := none } ∧ p.passthrough = false := by
  obtain ⟨a, list, rfl⟩ := parse_ok_iff.mp parsed
  obtain ⟨clauses, params, cut, read, added⟩ := readList_ok_iff.mp list
  obtain ⟨_, made⟩ := (addAll_new_iff _).mp ⟨a, added, rfl⟩
  have same : (a.setText text).signature.params = (ofParams (invocantOf text options) params).params := by
    rw [made]
    rfl
  obtain ⟨q, given, index, binds, rfl⟩ := mem_ofParams (same ▸ member)
  obtain ⟨clause, listed, reads⟩ := mem_of_forall₂ read given
  obtain ⟨parts, found, rfl⟩ := Split.split_eq_ok_iff.mp cut
  obtain ⟨segment, among, rfl⟩ := List.mem_map.mp (Split.mem_dropBlankLast listed)
  have whole : Clause.parse segment = .ok q := by
    rw [Clause.parse_ok_iff] at reads ⊢
    rwa [Text.trim_trim] at reads
  obtain ⟨_, _, layout⟩ := Clause.parse_ok whole
  have unplaced : { q with index := none } = q := by
    rw [← layout.index]
  exact ⟨parts, segment, found, among, whole.trans (congrArg _ unplaced.symm), binds⟩

/-- A default stands in the list that it was written in, at a place that the scan of the list comes to outside
of everything, and it is whole. -/
theorem default_stands (parsed : parse text options = .ok s) (member : p ∈ s.params)
    (given : p.defaultSource = some source) : ∃ before after,
      Stands (Invocant.split text).2 { p with index := none } before source after ∧
      Split.Nesting.runIn true {} before = some {} ∧ Whole source ∧ source.trim = source ∧ source ≠ [] := by
  obtain ⟨parts, segment, found, among, read, binds⟩ := segment_of_param parsed member
  obtain ⟨head, early, late, rfl, unsigned, plain, blank, trimmed⟩ := Split.clause_default read binds given
  obtain ⟨front, back, rfl⟩ := List.append_of_mem among
  obtain ⟨_, _, -, joined⟩ := Split.segments_text found
  have each := Split.segments_whole found
  obtain ⟨_, _, layout⟩ := Clause.parse_ok read
  have legible := layout.legible binds (each _ among).trim
  refine ⟨front.flatMap (· ++ [.char ',']) ++ (head ++ .char '=' :: early),
    late ++ back.flatMap ([.char ','] ++ ·),
    ⟨?_, front, back, head, early, late, found, read, unsigned, blank, rfl⟩,
    ?_, legible.whole source given, trimmed, (legible.ends source given).2⟩
  · rw [joined, Text.join_append, Text.join_cons]
    simp only [List.append_assoc]
  · have lead : ∀ g ∈ head ++ .char '=' :: early, g ∉ Split.delimiters := by
      have sign : Glyph.char '=' ∉ Split.delimiters := by decide
      refine List.forall_mem_append.mpr ⟨plain, List.forall_mem_cons.mpr ⟨sign, fun g member => ?_⟩⟩
      exact Split.blank_plain (blank g (List.mem_append_left _ member))
    have earlier : ∀ part ∈ front, Whole part := fun part member => each part (List.mem_append_left _ member)
    rw [Split.Nesting.runIn_append, Split.runIn_parts earlier, Option.bind_some, Split.runIn_plain rfl lead]

/-- The literals that are recognised in a default are those that were recognised where it stands in the list.
Each has its quote at both ends and is left as it was when the sigils are taken out. The default is a list of
one clause, itself. -/
theorem default_literals_agree (parsed : parse text options = .ok s) (member : p ∈ s.params)
    (given : p.defaultSource = some source) : ∃ before after,
      Stands (Invocant.split text).2 { p with index := none } before source after ∧
      Split.split source = .ok [source] ∧
      (∀ start stop, Source.IsLiteral source start stop →
        Split.IsLiteral (Invocant.split text).2 (before.length + start) (before.length + stop)) ∧
      (∀ start stop, Split.IsLiteral (Invocant.split text).2 start stop →
        start < before.length + source.length → before.length < stop →
        ∃ i j, start = before.length + i ∧ stop = before.length + j ∧ Source.IsLiteral source i j) ∧
      ∀ start stop, Source.IsLiteral source start stop → ∃ quote ∈ Source.quotes, ∃ body,
        Source.Body quote body ∧ (source.drop start).take (stop - start) = quote :: body ++ [quote] ∧
        ∃ front back, Source.stripSigils source = front ++ (quote :: body ++ [quote]) ++ back := by
  obtain ⟨before, after, stands, outside, whole, trimmed, shown⟩ := default_stands parsed member given
  have same : ∀ k ≤ source.length, Split.InLiteral (Invocant.split text).2 (before.length + k) ↔
      Source.InLiteral source k := fun k within => by
    rw [stands.joined]
    exact Split.inLiteral_part outside whole within
  have fits : before.length + source.length ≤ (Invocant.split text).2.length := by
    rw [stands.joined, List.length_append, List.length_append]
    omega
  have begins : ¬ Source.InLiteral source 0 := by simp [Source.InLiteral, Source.State.after]
  have closed : ¬ Source.InLiteral source source.length := by
    have opened := Split.Nesting.run_opened whole
    have none : Source.openLiteral source = Option.none := opened
    simp [Source.inLiteral_iff, none]
  refine ⟨before, after, stands, ?_, fun start stop literal => literal.shift same fits closed,
    fun start stop literal early late => literal.unshift same fits begins closed early late,
    fun start stop literal => literal.copied ?_⟩
  · rw [Split.split_eq_ok_iff]
    refine ⟨[source], Split.segments_whole_text whole, ?_⟩
    simp [Split.dropBlankLast, trimmed, shown]
  · rcases literal.ends with closes | rfl
    · exact closes
    · exact closed

/-- Two literals, with a comma, a sigil, a bracket and a quote of their own in them. -/
def quotedDefault : Text := "$a ~ \", $a\" ~ 'it\\'s ]'"

def quotedText : Text := Text.ofString "$a, :$b = " ++ quotedDefault

def quotedParam : Param where
  name := "b"
  role := .named
  optional := true
  defaultSource := some quotedDefault

theorem default_literals_agree_quoted : ∃ s, parse quotedText {} = .ok s ∧ quotedParam ∈ s.params ∧
    quotedParam.defaultSource = some quotedDefault ∧ ∃ before after,
      Stands (Invocant.split quotedText).2 { quotedParam with index := none } before quotedDefault after ∧
      Split.split quotedDefault = .ok [quotedDefault] ∧
      Split.IsLiteral (Invocant.split quotedText).2 (before.length + 5) (before.length + 11) ∧
      Split.IsLiteral (Invocant.split quotedText).2 (before.length + 14) (before.length + 23) ∧
      Source.stripSigils quotedDefault = Text.ofString "a ~ \", $a\" ~ 'it\\'s ]'" := by
  obtain ⟨s, parsed, member⟩ : ∃ s, parse quotedText {} = .ok s ∧ quotedParam ∈ s.params :=
    ⟨_, rfl, by decide⟩
  have double : Source.IsLiteral quotedDefault 5 11 := by decide
  have single : Source.IsLiteral quotedDefault 14 23 := by decide
  obtain ⟨before, after, stands, whole, agree, -, -⟩ := default_literals_agree parsed member rfl
  exact ⟨s, parsed, member, rfl, before, after, stands, whole, agree 5 11 double, agree 14 23 single,
    by decide⟩

end Signature
end CallPlan
