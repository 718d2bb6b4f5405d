import CallPlan.Proofs.Data.Except
import CallPlan.Proofs.Text.Fields
import CallPlan.Signature.Split

/-!
Where a text is cut depends on the groups and the literal that are open, and on nothing else of the scan.
A text is whole if reading it opens nothing that it does not close, and meets no comma outside. The
segments of a text are whole, and whole texts with commas between them are the segments again.
-/

namespace CallPlan.Split

/-- The closers that are expected, and the quote of an open literal with whether the next glyph is
escaped. -/
structure Nesting where
  closers : List Char := []
  literal : Option (Char × Bool) := none
deriving DecidableEq, Repr

namespace Nesting

def inLiteral (n : Nesting) (quote : Char) (escaped : Bool) (g : Glyph) : Nesting :=
  if escaped then { n with literal := some (quote, false) }
  else if g = .char '\\' then { n with literal := some (quote, true) }
  else if g = .char quote then { n with literal := none }
  else { n with literal := some (quote, false) }

def plain (n : Nesting) (c : Char) : Option Nesting :=
  if c = '\'' || c = '"' then some { n with literal := some (c, false) }
  else match Scan.closer? c with
    | some closer => some { n with closers := closer :: n.closers }
    | none =>
        if Scan.isCloser c then
          match n.closers with
          | [] => none
          | expected :: closers => if c = expected then some { n with closers } else none
        else if c = ',' && n.closers.isEmpty then none
        else some n

/-- Reads a glyph that belongs to the segment; a comma outside and an unexpected closer do not. -/
def step (n : Nesting) (g : Glyph) : Option Nesting :=
  match n.literal, g with
  | some (quote, escaped), g => some (n.inLiteral quote escaped g)
  | none, .char c => n.plain c
  | none, .stray _ => some n

def run (n : Nesting) : Text → Option Nesting
  | [] => some n
  | g :: rest => (n.step g).bind fun n => n.run rest

variable {n n' m : Nesting} {g : Glyph} {t u : Text}

@[simp] theorem run_nil : n.run [] = some n := rfl

theorem run_cons : n.run (g :: t) = (n.step g).bind fun n => n.run t := rfl

theorem run_append (n : Nesting) (t u : Text) : n.run (t ++ u) = (n.run t).bind fun n => n.run u := by
  induction t generalizing n with
  | nil => rfl
  | cons g rest ih =>
      rw [List.cons_append, run_cons, run_cons, Option.bind_assoc]
      exact congrArg _ (funext fun n => ih n)

theorem run_append_some : n.run (t ++ u) = some n' ↔ ∃ m, n.run t = some m ∧ m.run u = some n' := by
  rw [run_append, Option.bind_eq_some_iff]

end Nesting

/-- A text that is a segment of its own. -/
def Whole (t : Text) : Prop := Nesting.run {} t = some {}

instance (t : Text) : Decidable (Whole t) := inferInstanceAs (Decidable (_ = _))

theorem Whole.append {t u : Text} (first : Whole t) (second : Whole u) : Whole (t ++ u) :=
  Nesting.run_append_some.mpr ⟨{}, first, second⟩

theorem Whole.of_append {t u : Text} (first : Whole t) (both : Whole (t ++ u)) : Whole u := by
  obtain ⟨m, read, rest⟩ := Nesting.run_append_some.mp both
  rw [first] at read
  cases read
  exact rest

/-! ### Glyphs that open and close nothing -/

def delimiters : List Glyph :=
  ['\'', '"', '(', ')', '[', ']', '\x7b', '\x7d', ','].map Glyph.char

theorem step_plain {n : Nesting} {g : Glyph} (outside : n.literal = none) (plain : g ∉ delimiters) :
    n.step g = some n := by
  cases g with
  | stray byte => simp [Nesting.step, outside]
  | char c =>
      simp only [delimiters, List.map_cons, List.map_nil, List.mem_cons, Glyph.char.injEq,
        List.not_mem_nil, or_false, not_or] at plain
      obtain ⟨single, double, paren, paren', bracket, bracket', brace, brace', comma⟩ := plain
      have opens : Scan.closer? c = none := by
        unfold Scan.closer?
        split <;> simp_all
      simp [Nesting.step, outside, Nesting.plain, single, double, opens, Scan.isCloser, paren', bracket',
        brace', comma]

theorem whole_of_plain {t : Text} (plain : ∀ g ∈ t, g ∉ delimiters) : Whole t := by
  induction t with
  | nil => rfl
  | cons g rest ih =>
      have first := step_plain (n := {}) rfl (plain g List.mem_cons_self)
      have later := ih fun g member => plain g (List.mem_cons_of_mem _ member)
      rw [Whole, Nesting.run_cons, first]
      exact later

theorem blank_plain {g : Glyph} (blank : g.isBlank = true) : g ∉ delimiters := by
  have shown : ∀ d ∈ delimiters, d.isBlank = false := by decide
  intro member
  rw [shown g member] at blank
  cases blank

theorem whole_of_blank {t : Text} (blank : ∀ g ∈ t, g.isBlank = true) : Whole t :=
  whole_of_plain fun g member => blank_plain (blank g member)

/-! ### Trimming -/

/-- An open literal ends with one of two quotes. -/
def Nesting.Quoted (n : Nesting) : Prop :=
  ∀ quote escaped, n.literal = some (quote, escaped) → quote = '\'' ∨ quote = '"'

namespace Nesting

variable {n n' : Nesting} {g : Glyph} {t : Text}

theorem plain_literal {c : Char} (read : n.plain c = some n') :
    (n'.literal = some (c, false) ∧ (c = '\'' ∨ c = '"')) ∨ n'.literal = n.literal := by
  unfold plain at read
  split at read
  · next quote =>
      cases read
      exact .inl ⟨rfl, by simpa using quote⟩
  · refine .inr ?_
    split at read
    · cases read
      rfl
    · split at read
      · split at read
        · cases read
        · split at read
          · cases read
            rfl
          · cases read
      · split at read
        · cases read
        · cases read
          rfl

theorem Quoted.step (quoted : n.Quoted) (read : n.step g = some n') : n'.Quoted := by
  intro quote escaped opened
  -- Inside a literal the quote stays what it was; outside only a quote opens one.
  cases literal : n.literal with
  | some written =>
      obtain ⟨quote', escaped'⟩ := written
      have kept := quoted quote' escaped' literal
      simp only [Nesting.step, literal, Option.some.injEq, inLiteral] at read
      subst read
      split at opened
      · cases opened
        exact kept
      · split at opened
        · cases opened
          exact kept
        · split at opened
          · cases opened
          · cases opened
            exact kept
  | none =>
      cases g with
      | stray byte =>
          simp only [Nesting.step, literal, Option.some.injEq] at read
          rw [← read, literal] at opened
          cases opened
      | char c =>
          simp only [Nesting.step, literal] at read
          rcases plain_literal read with ⟨started, either⟩ | same
          · rw [started] at opened
            cases opened
            exact either
          · rw [same, literal] at opened
            cases opened

theorem Quoted.run (quoted : n.Quoted) (read : n.run t = some n') : n'.Quoted := by
  induction t generalizing n with
  | nil =>
      cases read
      exact quoted
  | cons g rest ih =>
      obtain ⟨m, first, later⟩ := Option.bind_eq_some_iff.mp read
      exact ih (quoted.step first) later

theorem Quoted.before_blank (quoted : n.Quoted) (blank : g.isBlank = true)
    (read : n.step g = some {}) : n = {} := by
  cases literal : n.literal with
  | none =>
      rw [step_plain literal (blank_plain blank)] at read
      exact Option.some.inj read
  | some open_ =>
      obtain ⟨quote, escaped⟩ := open_
      have different : g ≠ .char quote := by
        rintro rfl
        rcases quoted quote escaped literal with rfl | rfl <;> revert blank <;> decide
      simp only [Nesting.step, literal, inLiteral, different, if_false, Option.some.injEq] at read
      have closed := congrArg Nesting.literal read
      split at closed
      · cases closed
      · split at closed <;> cases closed

theorem Quoted.before_blanks (quoted : n.Quoted) (blank : ∀ g ∈ t, g.isBlank = true)
    (read : n.run t = some {}) : n = {} := by
  induction t generalizing n with
  | nil => exact Option.some.inj read
  | cons g rest ih =>
      obtain ⟨m, first, later⟩ := Option.bind_eq_some_iff.mp read
      have none := ih (quoted.step first) (fun g member => blank g (List.mem_cons_of_mem _ member)) later
      rw [none] at first
      exact quoted.before_blank (blank g List.mem_cons_self) first

end Nesting

theorem quoted_run {t : Text} {n : Nesting} (read : Nesting.run {} t = some n) : n.Quoted := by
  refine Nesting.Quoted.run ?_ read
  intro quote escaped opened
  cases opened

theorem Whole.trimEnd {t : Text} (whole : Whole t) : Whole t.trimEnd := by
  have blank : ∀ g ∈ (t.reverse.takeWhile Glyph.isBlank).reverse, g.isBlank = true := fun g member =>
    List.mem_takeWhile_imp (List.mem_reverse.mp member)
  rw [← Text.trimEnd_append_blanks t] at whole
  obtain ⟨n, read, later⟩ := Nesting.run_append_some.mp whole
  rw [(quoted_run read).before_blanks blank later] at read
  exact read

theorem Whole.trimStart {t : Text} (whole : Whole t) : Whole t.trimStart := by
  have blank : Whole (t.takeWhile Glyph.isBlank) :=
    whole_of_blank fun _ member => List.mem_takeWhile_imp member
  refine blank.of_append ?_
  rwa [Text.trimStart, List.takeWhile_append_dropWhile]

theorem Whole.trim {t : Text} (whole : Whole t) : Whole t.trim := whole.trimStart.trimEnd

/-! ### The scan -/

namespace Scan

variable {s s' : Scan} {g : Glyph} {t : Text}

def nesting (s : Scan) : Nesting where
  closers := s.closers
  literal := s.literal.map fun literal => (literal.quote, literal.escaped)

/-- One scan has taken a text into its segment to become the other. -/
structure Took (s s' : Scan) (t : Text) : Prop where
  segment : s'.segment = t.reverse ++ s.segment
  segments : s'.segments = s.segments

/-- The scan after a comma that cuts. -/
def cut (s : Scan) : Scan :=
  { s with offset := s.offset + 1, segment := [], segments := s.segment.reverse :: s.segments }

/-- What a scan can do with a glyph. -/
inductive Steps (s : Scan) (g : Glyph) : Except Fault Scan → Prop
  | take {s' : Scan} (inside : s.nesting.step g = some s'.nesting) (took : Took s s' [g]) :
      Steps s g (.ok s')
  | comma (is : g = .char ',') (open_ : s.nesting = {}) : Steps s g (.ok s.cut)
  | fault {e : Fault} (outside : s.nesting.step g = none) : Steps s g (.error e)

theorem inLiteral_steps {literal : Literal} (opened : s.literal = some literal) (g : Glyph) :
    Steps s g (.ok (s.inLiteral literal g)) := by
  have nesting : s.nesting.step g =
      some (s.nesting.inLiteral literal.quote literal.escaped g) := by
    simp [Nesting.step, Scan.nesting, opened]
  refine .take (nesting.trans (congrArg some ?_)) ?_
  · unfold Nesting.inLiteral inLiteral
    split
    · rfl
    · split
      · rfl
      · split
        · rfl
        · next escaped _ _ => simp [Scan.nesting, Scan.advance, opened, escaped]
  · unfold inLiteral
    split
    · exact ⟨rfl, rfl⟩
    · split
      · exact ⟨rfl, rfl⟩
      · split <;> exact ⟨rfl, rfl⟩

theorem plain_steps (outside : s.literal = none) (c : Char) : Steps s (.char c) (s.plain c) := by
  have nesting : s.nesting.step (.char c) = s.nesting.plain c := by
    simp [Nesting.step, Scan.nesting, outside]
  have nest : s.nesting = { closers := s.closers } := by simp [Scan.nesting, outside]
  -- Scan and nesting test a glyph in the same order; only a comma outside of all is treated differently.
  unfold plain
  unfold Nesting.plain at nesting
  split
  · next quote => exact .take (by rw [nesting, if_pos quote]; rfl) ⟨rfl, rfl⟩
  next unquoted =>
  rw [if_neg unquoted] at nesting
  split
  · next closer opens =>
      rw [opens] at nesting
      exact .take (by rw [nesting]; simp [Scan.nesting, outside, advance]) ⟨rfl, rfl⟩
  next opens =>
  rw [opens] at nesting
  dsimp only at nesting
  split
  · next closes =>
      rw [if_pos closes] at nesting
      split
      · next none =>
          refine .fault ?_
          rw [nesting, nest, none]
      · next expected closers more =>
          rw [nest, more] at nesting
          dsimp only at nesting
          split
          · next same =>
              refine .take ?_ ⟨rfl, rfl⟩
              rw [nest, more, nesting, if_pos same]
              simp [Scan.nesting, outside, advance]
          · next different => exact .fault (by rw [nest, more, nesting, if_neg different])
  next stays =>
  rw [if_neg stays] at nesting
  split
  · next cuts =>
      simp only [Bool.and_eq_true, decide_eq_true_eq, List.isEmpty_iff] at cuts
      exact .comma (congrArg _ cuts.1) (by rw [nest, cuts.2])
  · next kept =>
      rw [if_neg (by simpa [nest] using kept)] at nesting
      exact .take (by rw [nesting]; simp [Scan.nesting, outside, advance]) ⟨rfl, rfl⟩

theorem step_steps (s : Scan) (g : Glyph) : Steps s g (s.step g) := by
  unfold step
  split
  · next literal opened => exact inLiteral_steps opened _
  · next c outside => exact plain_steps outside c
  · next byte outside =>
      refine .take ?_ ⟨rfl, rfl⟩
      simp [Nesting.step, Scan.nesting, outside, advance]

theorem Took.trans {u : Text} {s'' : Scan} (first : Took s s' t) (second : Took s' s'' u) :
    Took s s'' (t ++ u) where
  segment := by rw [second.segment, first.segment, List.reverse_append, List.append_assoc]
  segments := second.segments.trans first.segments

theorem step_took {n : Nesting} (inside : s.nesting.step g = some n) :
    ∃ s', s.step g = .ok s' ∧ s'.nesting = n ∧ Took s s' [g] := by
  cases outcome : s.step g with
  | ok s' =>
      have steps := step_steps s g
      rw [outcome] at steps
      cases steps with
      | take same took =>
          rw [inside] at same
          exact ⟨s', rfl, (Option.some.inj same).symm, took⟩
      | comma is open_ =>
          rw [is, open_] at inside
          cases inside
  | error e =>
      have steps := step_steps s g
      rw [outcome] at steps
      cases steps with
      | fault outside =>
          rw [inside] at outside
          cases outside

/-- A scan takes a text as its nesting reads it. -/
theorem run_took {n : Nesting} (read : s.nesting.run t = some n) :
    ∃ s', s.run t = .ok s' ∧ s'.nesting = n ∧ Took s s' t := by
  induction t generalizing s with
  | nil => exact ⟨s, rfl, Option.some.inj read, rfl, rfl⟩
  | cons g rest ih =>
      obtain ⟨m, inside, later⟩ := Option.bind_eq_some_iff.mp read
      obtain ⟨next, stepped, rfl, first⟩ := step_took inside
      obtain ⟨last, ran, reached, second⟩ := ih later
      exact ⟨last, by simpa [Scan.run, stepped] using ran, reached, first.trans second⟩

theorem run_append (s : Scan) (t u : Text) : s.run (t ++ u) = s.run t >>= fun s => s.run u := by
  induction t generalizing s with
  | nil => rfl
  | cons g rest ih =>
      simp only [List.cons_append, Scan.run]
      cases s.step g with
      | error e => rfl
      | ok next => exact ih next

theorem finish_ok_iff {parts : List Text} : s.finish = .ok parts ↔
    s.nesting = {} ∧ (s.segment.reverse :: s.segments).reverse = parts := by
  cases literal : s.literal <;> cases closers : s.closers <;>
    simp [finish, Scan.nesting, literal, closers]

theorem step_comma (open_ : s.nesting = {}) : s.step (.char ',') = .ok s.cut := by
  have outside : s.literal = none := by simpa [Scan.nesting] using congrArg Nesting.literal open_
  have closers : s.closers = [] := congrArg Nesting.closers open_
  simp [step, outside, plain, closers, closer?, isCloser, cut]

/-- What has been read of the segment leads to where the scan is, and the segments before it are whole. -/
structure Sound (s : Scan) : Prop where
  segment : Nesting.run {} s.segment.reverse = some s.nesting
  segments : ∀ part ∈ s.segments, Whole part

theorem Sound.step (sound : Sound s) (read : s.step g = .ok s') : Sound s' := by
  have steps := step_steps s g
  rw [read] at steps
  cases steps with
  | take inside took =>
      constructor
      · rw [took.segment]
        simpa [Nesting.run_append, sound.segment, Nesting.run_cons] using inside
      · rw [took.segments]
        exact sound.segments
  | comma is open_ =>
      have here : Whole s.segment.reverse := by
        rw [Whole, sound.segment, open_]
      constructor
      · exact congrArg some open_.symm
      · intro part member
        rcases List.mem_cons.mp member with rfl | earlier
        · exact here
        · exact sound.segments part earlier

theorem Sound.run (sound : Sound s) (read : s.run t = .ok s') : Sound s' := by
  induction t generalizing s with
  | nil =>
      cases read
      exact sound
  | cons g rest ih =>
      simp only [Scan.run, except_bind_ok] at read
      obtain ⟨next, first, later⟩ := read
      exact ih (sound.step first) later

end Scan

theorem segments_whole {text : Text} {parts : List Text} (read : segments text = .ok parts) :
    ∀ part ∈ parts, Whole part := by
  simp only [segments, except_bind_ok, Scan.finish_ok_iff] at read
  obtain ⟨s, ran, closed, rfl⟩ := read
  have start : Scan.Sound {} := ⟨rfl, by simp⟩
  have sound := start.run ran
  intro part member
  rcases List.mem_cons.mp (List.mem_reverse.mp member) with rfl | earlier
  · rw [Whole, sound.segment, closed]
  · exact sound.segments part earlier

/-- Whole texts with commas between them are read as they are. -/
theorem run_join {s : Scan} (part : Text) {parts : List Text} (open_ : s.nesting = {})
    (whole : ∀ t ∈ part :: parts, Whole t) :
    ∃ s', s.run (Text.join [.char ','] (part :: parts)) = .ok s' ∧ s'.nesting = {} ∧
      (s'.segment.reverse :: s'.segments).reverse =
        s.segments.reverse ++ (s.segment.reverse ++ part) :: parts := by
  induction parts generalizing s part with
  | nil =>
      obtain ⟨s', ran, reached, took⟩ := Scan.run_took (s := s) (t := part)
        (by rw [open_]; exact whole part List.mem_cons_self)
      refine ⟨s', by simpa [Text.join] using ran, reached, ?_⟩
      simp [took.segment, took.segments]
  | cons next rest ih =>
      obtain ⟨s', ran, reached, took⟩ := Scan.run_took (s := s) (t := part)
        (by rw [open_]; exact whole part List.mem_cons_self)
      obtain ⟨last, later, closed, read⟩ := ih next (s := s'.cut) reached
        fun t member => whole t (List.mem_cons_of_mem _ member)
      refine ⟨last, ?_, closed, ?_⟩
      · have joined : Text.join [.char ','] (part :: next :: rest) =
            part ++ .char ',' :: Text.join [.char ','] (next :: rest) := by
          simp [Text.join, List.intercalate]
        rw [joined, Scan.run_append, ran, except_ok_bind, Scan.run,
          Scan.step_comma reached, except_ok_bind, later]
      · rw [read]
        simp [Scan.cut, took.segment, took.segments]

theorem segments_join {part : Text} {parts : List Text} (whole : ∀ t ∈ part :: parts, Whole t) :
    segments (Text.join [.char ','] (part :: parts)) = .ok (part :: parts) := by
  obtain ⟨s, ran, closed, read⟩ := run_join part (s := {}) rfl whole
  simp only [segments, except_bind_ok, Scan.finish_ok_iff]
  exact ⟨s, ran, closed, by simpa using read⟩

/-! ### Clauses -/

variable {text : Text} {clauses : List Text}

theorem mem_dropBlankLast {clause : Text} (member : clause ∈ dropBlankLast clauses) :
    clause ∈ clauses := by
  induction clauses using dropBlankLast.induct with
  | case1 => exact member
  | case2 last blank => simp [dropBlankLast, blank] at member
  | case3 last shown => simpa [dropBlankLast, shown] using member
  | case4 first rest more ih =>
      rw [dropBlankLast] at member
      · rcases List.mem_cons.mp member with rfl | later
        · exact List.mem_cons_self
        · exact List.mem_cons_of_mem _ (ih later)
      · exact more

theorem split_trimmed (cut : split text = .ok clauses) : ∀ clause ∈ clauses, clause.trim = clause := by
  simp only [split, except_bind_ok, except_pure, Except.ok.injEq] at cut
  obtain ⟨segments, _, rfl⟩ := cut
  intro clause member
  obtain ⟨segment, _, rfl⟩ := List.mem_map.mp (mem_dropBlankLast member)
  exact Text.trim_trim segment

theorem split_whole (cut : split text = .ok clauses) :
    ∀ clause ∈ clauses, Whole clause := by
  simp only [split, except_bind_ok, except_pure, Except.ok.injEq] at cut
  obtain ⟨segments, read, rfl⟩ := cut
  intro clause member
  obtain ⟨segment, listed, rfl⟩ := List.mem_map.mp (mem_dropBlankLast member)
  exact (segments_whole read segment listed).trim

theorem dropBlankLast_eq (shown : clauses.getLast? ≠ some []) : dropBlankLast clauses = clauses := by
  induction clauses using dropBlankLast.induct with
  | case1 => rfl
  | case2 last blank => exact (shown (by rw [List.isEmpty_iff.mp blank]; rfl)).elim
  | case3 last visible => simp [dropBlankLast, visible]
  | case4 first rest more ih =>
      rw [dropBlankLast]
      · rw [List.getLast?_cons_of_ne_nil more] at shown
        rw [ih shown]
      · exact more

end CallPlan.Split
