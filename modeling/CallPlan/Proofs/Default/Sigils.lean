import CallPlan.Default.Source
import CallPlan.Proofs.Text.Blank

/-!
Which sigils are taken out of a source, said of the source alone. The scan decides from the last glyph
it has kept, and it jumps over literals. A glyph it drops is followed by a name, so the next glyph that is
looked at with an eye to what stands before it comes after that name: what the scan remembers and what
the source shows agree wherever it matters.
-/

namespace CallPlan.Source

def quotes : Text := [.char '\'', .char '"']

/-- The inside of a literal: a backslash takes the glyph after it along, and no other quote is in it. -/
inductive Body (quote : Glyph) : Text → Prop where
  | nil : Body quote []
  | plain {g : Glyph} {t : Text} (other : g ≠ quote) (bare : g ≠ .char '\\') (rest : Body quote t) :
      Body quote (g :: t)
  | escaped {g : Glyph} {t : Text} (rest : Body quote t) : Body quote (.char '\\' :: g :: t)

/-- A text with its literals read from left to right, that ends in none of them. -/
inductive Outside : Text → Prop where
  | start : Outside []
  | plain {t : Text} {g : Glyph} (before : Outside t) (bare : g ∉ quotes) : Outside (t ++ [g])
  | literal {t body : Text} {quote : Glyph} (before : Outside t) (opens : quote ∈ quotes)
      (inner : Body quote body) :
      Outside (t ++ quote :: body ++ [quote])

/-- A literal in front of `after`: closed by its quote, or by the end of the source. -/
inductive Quoted (after : Text) : Text → Prop where
  | closed {quote : Glyph} {body : Text} (opens : quote ∈ quotes) (inner : Body quote body) :
      Quoted after (quote :: body ++ [quote])
  | unclosed {quote : Glyph} {body : Text} (opens : quote ∈ quotes) (inner : Body quote body)
      (last : after = []) : Quoted after (quote :: body)
  | dangling {quote : Glyph} {body : Text} (opens : quote ∈ quotes) (inner : Body quote body)
      (last : after = []) : Quoted after (quote :: body ++ [.char '\\'])

/-- The last glyph that is not blank. -/
def lastShown (t : Text) : Option Glyph := (t.filter fun g => !g.isBlank).getLast?

/-- The glyph at a position is a sigil. -/
@[mk_iff sigilAt_and]
structure SigilAt (source : Text) (position : Nat) : Prop where
  outside : Outside (source.take position)
  mark : ∃ g ∈ [.char '$', .char '@', .char '%'], source[position]? = some g
  named : ∃ next ∈ source[position + 1]?, next.isLetter = true ∨ next = .char '_'
  operand : source[position]? = some (.char '$') ∨
    ∀ last ∈ lastShown (source.take position), last.isLetter = false ∧ last.isDigit = false ∧
      last ∉ [.char '_', .char ')', .char ']', .char '\x7d', .char '\'', .char '"']

variable {s : State} {g quote : Glyph} {source before body after t rest : Text}

/-! ## The literal a text ends in -/

theorem isQuote_iff : isQuote g = true ↔ g ∈ quotes := by
  simp [isQuote, quotes]

/-- The open literal after one more glyph. -/
def literalStep : Option Literal → Glyph → Option Literal
  | some l, g => l.next g
  | none, g => if isQuote g then some { quote := g } else none

/-- The literal that a text leaves open. -/
def openLiteral (t : Text) : Option Literal := t.foldl literalStep none

theorem openLiteral_append (t : Text) (g : Glyph) :
    openLiteral (t ++ [g]) = literalStep (openLiteral t) g := by
  simp [openLiteral, List.foldl_append]

theorem Body.append (front : Body quote t) (back : Body quote rest) : Body quote (t ++ rest) := by
  induction front with
  | nil => exact back
  | plain other bare _ ih => exact .plain other bare ih
  | escaped _ ih => exact .escaped ih

theorem Body.foldl (inner : Body quote body) :
    body.foldl literalStep (some { quote := quote }) = some { quote := quote } := by
  induction inner with
  | nil => rfl
  | plain other bare _ ih =>
      simpa only [List.foldl_cons, literalStep, Literal.next, Bool.false_eq_true, if_false, bare,
        other] using ih
  | escaped _ ih =>
      simpa only [List.foldl_cons, literalStep, Literal.next, Bool.false_eq_true, if_false,
        if_true] using ih

theorem quote_ne_backslash (opens : quote ∈ quotes) : quote ≠ .char '\\' := by
  rintro rfl
  revert opens
  decide

theorem Outside.openLiteral (outside : Outside t) : openLiteral t = none := by
  induction outside with
  | start => rfl
  | plain _ bare ih =>
      have bare : isQuote _ = false := Bool.eq_false_iff.mpr fun quote => bare (isQuote_iff.mp quote)
      rw [openLiteral_append, ih]
      simp [literalStep, bare]
  | @literal t body quote _ opens inner ih =>
      have opened : literalStep none quote = some { quote := quote } := by
        simp [literalStep, isQuote_iff.mpr opens]
      have closed : Literal.next { quote := quote } quote = none := by
        simp [Literal.next, quote_ne_backslash opens]
      rw [openLiteral_append, Source.openLiteral, List.foldl_append, ← Source.openLiteral, ih,
        List.foldl_cons, opened, inner.foldl]
      exact closed

/-- A text goes on behind another with a literal that is still open. -/
def Opens (before : Text) (l : Literal) (t : Text) : Prop :=
  ∃ body, t = before ++ l.quote :: body ∧
    if l.escaped then ∃ inner, body = inner ++ [.char '\\'] ∧ Body l.quote inner else Body l.quote body

/-- One more glyph stays in the literal or closes it. -/
theorem Opens.step {l : Literal} (opened : Opens before l t) (g : Glyph) :
    match l.next g with
    | some after => after.quote = l.quote ∧ Opens before after (t ++ [g])
    | none => ∃ body, Body l.quote body ∧ t ++ [g] = before ++ l.quote :: body ++ [l.quote] := by
  obtain ⟨body, rfl, inner⟩ := opened
  obtain ⟨quote, escaped⟩ := l
  simp only [Literal.next]
  cases escaped with
  | true =>
      obtain ⟨inner, rfl, bare⟩ := inner
      exact ⟨rfl, inner ++ [.char '\\', g], by simp, bare.append (.escaped .nil)⟩
  | false =>
      simp only [Bool.false_eq_true, if_false]
      split
      next after read =>
        split at read
        next backslash =>
          cases read
          exact ⟨rfl, body ++ [g], by simp, body, by rw [backslash], inner⟩
        next bare =>
          split at read
          next closes => cases read
          next other =>
            cases read
            exact ⟨rfl, body ++ [g], by simp, inner.append (.plain other bare .nil)⟩
      next read =>
        split at read
        next backslash => cases read
        next bare =>
          split at read
          next closes => exact ⟨body, inner, by rw [closes]⟩
          next other => cases read

/-- What is known of a text from the literal that is open at its end. -/
def EndsIn (t : Text) : Option Literal → Prop
  | none => Outside t
  | some l => ∃ before, Outside before ∧ l.quote ∈ quotes ∧ Opens before l t

theorem EndsIn.step {state : Option Literal} (ends : EndsIn t state) (g : Glyph) :
    EndsIn (t ++ [g]) (literalStep state g) := by
  cases state with
  | none =>
      simp only [literalStep]
      split
      next opens => exact ⟨t, ends, isQuote_iff.mp opens, [], rfl, .nil⟩
      next bare => exact .plain ends fun opens => bare (isQuote_iff.mpr opens)
  | some l =>
      obtain ⟨before, outside, opens, opened⟩ := ends
      have step := opened.step g
      simp only [literalStep]
      cases read : l.next g with
      | some after =>
          rw [read] at step
          exact ⟨before, outside, step.1 ▸ opens, step.2⟩
      | none =>
          rw [read] at step
          obtain ⟨body, inner, whole⟩ := step
          rw [whole]
          exact .literal outside opens inner

theorem endsIn_openLiteral (t : Text) : EndsIn t (openLiteral t) := by
  induction t using List.reverseRecOn with
  | nil => exact .start
  | append_singleton t g ih =>
      rw [openLiteral_append]
      exact ih.step g

theorem outside_iff : Outside t ↔ openLiteral t = none := by
  refine ⟨Outside.openLiteral, fun closed => ?_⟩
  have ends := endsIn_openLiteral t
  rwa [closed] at ends

instance : Decidable (Outside t) := decidable_of_iff _ outside_iff.symm

/-! ## Sigils by what stands before them -/

theorem lastShown_append (t : Text) (shown : g.isBlank = false) : lastShown (t ++ [g]) = some g := by
  simp [lastShown, List.filter_append, shown]

theorem lastShown_append_blank (t : Text) (blank : g.isBlank = true) :
    lastShown (t ++ [g]) = lastShown t := by
  simp [lastShown, List.filter_append, blank]

theorem endsOperand_eq_false_iff : endsOperand g = false ↔ g.isLetter = false ∧ g.isDigit = false ∧
    g ∉ [.char '_', .char ')', .char ']', .char '\x7d', .char '\'', .char '"'] := by
  simp only [endsOperand, Glyph.startsIdentifier, Bool.or_eq_false_iff, decide_eq_false_iff_not,
    List.mem_cons, List.not_mem_nil, or_false]
  tauto

theorem nameFollows_iff : nameFollows rest = true ↔
    ∃ next ∈ rest[0]?, next.isLetter = true ∨ next = .char '_' := by
  cases rest with
  | nil => simp [nameFollows]
  | cons g rest => simp [nameFollows, Glyph.startsIdentifier, or_comm]

theorem isSigil_iff (previous : Option Glyph) : isSigil previous g rest = true ↔
    g ∈ [.char '$', .char '@', .char '%'] ∧ nameFollows rest = true ∧
      (g = .char '$' ∨ ∀ last ∈ previous, endsOperand last = false) := by
  simp only [isSigil, Bool.and_eq_true, Bool.or_eq_true, decide_eq_true_eq, Bool.not_eq_true',
    List.mem_cons, List.not_mem_nil, or_false]
  cases previous with
  | none => simp; tauto
  | some last => simp; tauto

theorem sigilAt_iff : SigilAt (t ++ g :: rest) t.length ↔
    openLiteral t = none ∧ isSigil (lastShown t) g rest = true := by
  have taken : (t ++ g :: rest).take t.length = t := by simp
  have here : (t ++ g :: rest)[t.length]? = some g := by simp
  have next : (t ++ g :: rest)[t.length + 1]? = rest[0]? := by
    rw [List.getElem?_append_right (by omega)]
    simp
  rw [isSigil_iff, nameFollows_iff, ← outside_iff]
  constructor
  · rintro ⟨outside, mark, named, operand⟩
    simp only [taken, here, next, Option.some.injEq, exists_eq_right', ← endsOperand_eq_false_iff] at *
    exact ⟨outside, mark, named, operand⟩
  · rintro ⟨outside, mark, named, operand⟩
    constructor <;>
      simp only [taken, here, next, Option.some.injEq, exists_eq_right', ← endsOperand_eq_false_iff]
    exacts [outside, mark, named, operand]

instance (source : Text) (position : Nat) : Decidable (SigilAt source position) :=
  decidable_of_iff' _ (sigilAt_and source position)

/-! ## The scan -/

theorem shown_eq (unicode : Text.isUnicode [g] = true) : shown g = g := by
  cases g with
  | char c => rfl
  | stray byte => cases unicode

theorem isUnicode_cons : Text.isUnicode (g :: t) = true ↔
    Text.isUnicode [g] = true ∧ Text.isUnicode t = true := by
  simp [Text.isUnicode]

theorem stripFrom_literal {l : Literal} (literal : s.literal = some l) (g : Glyph) (rest : Text) :
    stripFrom s (g :: rest) = g :: stripFrom { s with literal := l.next g } rest := by
  rw [stripFrom, literal]

theorem stripFrom_opens (outside : s.literal = none) (opens : isQuote g = true) (rest : Text) :
    stripFrom s (g :: rest) =
      g :: stripFrom { literal := some { quote := g }, previous := some g } rest := by
  rw [stripFrom, outside]
  exact if_pos opens

/-- What the scan does with a glyph: it copies it, in a literal, at the start of one or in front of
none, or it drops it as a sigil. -/
theorem stripFrom_cases (unicode : Text.isUnicode [g] = true) (s : State) (rest : Text) :
    (∃ l, s.literal = some l ∧
      stripFrom s (g :: rest) = g :: stripFrom { s with literal := l.next g } rest) ∨
    (s.literal = none ∧ isQuote g = true ∧ stripFrom s (g :: rest) =
      g :: stripFrom { literal := some { quote := g }, previous := some g } rest) ∨
    (s.literal = none ∧ isQuote g = false ∧ isSigil s.previous g rest = true ∧
      stripFrom s (g :: rest) = stripFrom s rest) ∨
    (s.literal = none ∧ isQuote g = false ∧ isSigil s.previous g rest = false ∧
      stripFrom s (g :: rest) =
        g :: stripFrom { previous := if g.isBlank then s.previous else some g } rest) := by
  cases literal : s.literal with
  | some l => exact .inl ⟨l, rfl, stripFrom_literal literal g rest⟩
  | none =>
      right
      cases opens : isQuote g with
      | true => exact .inl ⟨rfl, rfl, stripFrom_opens literal opens rest⟩
      | false =>
          right
          cases drops : isSigil s.previous g rest with
          | true => exact .inl ⟨rfl, rfl, rfl, by rw [stripFrom, literal]; simp [opens, drops]⟩
          | false =>
              refine .inr ⟨rfl, rfl, rfl, ?_⟩
              rw [stripFrom, literal]
              simp [opens, drops, shown_eq unicode]

theorem not_isSigil_of_name (previous : Option Glyph) (named : nameFollows (g :: t) = true) :
    isSigil previous g t = false := by
  rw [Bool.eq_false_iff, Ne, isSigil_iff]
  rintro ⟨mark, -⟩
  have marks : ∀ g ∈ [Glyph.char '$', .char '@', .char '%'], g.startsIdentifier = false := by
    decide
  rw [nameFollows, marks g mark] at named
  cases named

theorem quote_shown (opens : quote ∈ quotes) : quote.isBlank = false := by
  revert quote
  decide

/-- What the scan remembers, beside what it has read and what is left. -/
structure Tracks (s : State) (read rest : Text) : Prop where
  literal : s.literal = openLiteral read
  inside : ∀ l, s.literal = some l → l.quote ∈ quotes ∧ s.previous = some l.quote
  outside : s.literal = none → s.previous = lastShown read ∨ nameFollows rest = true

theorem Tracks.isSigil_eq (tracks : Tracks s before (g :: rest)) (outside : s.literal = none) :
    isSigil s.previous g rest = isSigil (lastShown before) g rest := by
  rcases tracks.outside outside with same | named
  · rw [same]
  · rw [not_isSigil_of_name _ named, not_isSigil_of_name _ named]

theorem Tracks.sigilAt_iff (tracks : Tracks s before (g :: rest)) :
    SigilAt (before ++ g :: rest) before.length ↔ s.literal = none ∧ isSigil s.previous g rest = true := by
  rw [Source.sigilAt_iff, ← tracks.literal]
  exact and_congr_right fun outside => by rw [tracks.isSigil_eq outside]

theorem Literal.next_quote {l after : Literal} (read : l.next g = some after) :
    after.quote = l.quote := by
  grind [Literal.next]

theorem Literal.next_closes {l : Literal} (read : l.next g = none) : g = l.quote := by
  grind [Literal.next]

theorem Tracks.inLiteral {l : Literal} (tracks : Tracks s before (g :: rest))
    (literal : s.literal = some l) : Tracks { s with literal := l.next g } (before ++ [g]) rest := by
  obtain ⟨opens, previous⟩ := tracks.inside l literal
  refine ⟨?_, fun after read => ?_, fun read => .inl ?_⟩
  · rw [openLiteral_append, ← tracks.literal, literal]
    rfl
  · rw [Literal.next_quote read]
    exact ⟨opens, previous⟩
  · have closes : g = l.quote := Literal.next_closes read
    rw [lastShown_append before (closes ▸ quote_shown opens), previous, closes]

theorem Tracks.opens (tracks : Tracks s before (g :: rest)) (outside : s.literal = none)
    (opens : isQuote g = true) :
    Tracks { literal := some { quote := g }, previous := some g } (before ++ [g]) rest := by
  refine ⟨?_, ?_, ?_⟩
  · simp [openLiteral_append, ← tracks.literal, outside, literalStep, opens]
  · rintro l ⟨rfl⟩
    exact ⟨isQuote_iff.mp opens, rfl⟩
  · rintro ⟨⟩

theorem Tracks.dropped (tracks : Tracks s before (g :: rest)) (outside : s.literal = none)
    (bare : isQuote g = false) (sigil : isSigil s.previous g rest = true) :
    Tracks s (before ++ [g]) rest := by
  refine ⟨?_, tracks.inside, fun _ => .inr ((isSigil_iff _).mp sigil).2.1⟩
  simp [openLiteral_append, ← tracks.literal, outside, literalStep, bare]

theorem Tracks.kept (tracks : Tracks s before (g :: rest)) (outside : s.literal = none)
    (bare : isQuote g = false) :
    Tracks { previous := if g.isBlank then s.previous else some g } (before ++ [g]) rest := by
  refine ⟨?_, nofun, fun _ => .inl ?_⟩
  · simp [openLiteral_append, ← tracks.literal, outside, literalStep, bare]
  · cases blank : g.isBlank with
    | false => simp [lastShown_append before blank]
    | true =>
        rcases tracks.outside outside with same | named
        · simpa [lastShown_append_blank before blank] using same
        · -- A sigil was dropped just before, so a name starts here, and that is not a blank.
          have starts : g.startsIdentifier = true := named
          have continues : g.continuesIdentifier = true := by simp [Glyph.continuesIdentifier, starts]
          rw [Text.isBlank_of_continuesIdentifier continues] at blank
          cases blank

theorem not_isSigil_of_quote (opens : isQuote g = true) (previous : Option Glyph) (rest : Text) :
    isSigil previous g rest = false := by
  simp only [isQuote, Bool.or_eq_true, decide_eq_true_eq] at opens
  rcases opens with rfl | rfl <;> simp [isSigil]

/-- The scan keeps what is left of the source without its sigils. -/
theorem stripFrom_tracks (unicode : rest.isUnicode = true) (tracks : Tracks s before rest) :
    stripFrom s rest = ((rest.zipIdx before.length).filter
      fun c => ¬ SigilAt (before ++ rest) c.2).map Prod.fst := by
  induction rest generalizing s before with
  | nil => rfl
  | cons g rest ih =>
      obtain ⟨first, others⟩ := isUnicode_cons.mp unicode
      -- Positions are those of the whole source, so what was read is a part of the statement.
      have later {s : State} (tracks : Tracks s (before ++ [g]) rest) :
          stripFrom s rest = ((rest.zipIdx (before.length + 1)).filter
            fun c => ¬ SigilAt (before ++ g :: rest) c.2).map Prod.fst := by
        simpa using ih others tracks
      rw [List.zipIdx_cons, List.filter_cons]
      simp only [tracks.sigilAt_iff]
      obtain ⟨l, literal, read⟩ | ⟨outside, opens, read⟩ | ⟨outside, bare, drops, read⟩ |
        ⟨outside, bare, keeps, read⟩ := stripFrom_cases first s rest
      · rw [read, later (tracks.inLiteral literal)]
        simp [literal]
      · rw [read, later (tracks.opens outside opens)]
        simp [not_isSigil_of_quote opens]
      · rw [read, later (tracks.dropped outside bare drops)]
        simp [outside, drops]
      · rw [read, later (tracks.kept outside bare)]
        simp [keeps]

/-! ## Literals are copied -/

theorem stripFrom_cons (unicode : Text.isUnicode [g] = true) (s : State) (rest : Text) :
    ∃ front after, stripFrom s (g :: rest) = front ++ stripFrom after rest ∧ front.Sublist [g] ∧
      after.literal = literalStep s.literal g := by
  obtain ⟨l, literal, read⟩ | ⟨outside, opens, read⟩ | ⟨outside, bare, -, read⟩ |
    ⟨outside, bare, -, read⟩ := stripFrom_cases unicode s rest
  · exact ⟨[g], _, read, .refl _, by rw [literal]; rfl⟩
  · exact ⟨[g], _, read, .refl _, by simp [outside, literalStep, opens]⟩
  · exact ⟨[], s, read, List.nil_sublist _, by simp [outside, literalStep, bare]⟩
  · exact ⟨[g], _, read, .refl _, by simp [outside, literalStep, bare]⟩

theorem stripFrom_append (unicode : t.isUnicode = true) (s : State) (rest : Text) :
    ∃ front after, stripFrom s (t ++ rest) = front ++ stripFrom after rest ∧ front.Sublist t ∧
      after.literal = t.foldl literalStep s.literal := by
  induction t generalizing s with
  | nil => exact ⟨[], s, rfl, .slnil, rfl⟩
  | cons g t ih =>
      obtain ⟨first, others⟩ := isUnicode_cons.mp unicode
      obtain ⟨head, next, read, part, state⟩ := stripFrom_cons first s (t ++ rest)
      obtain ⟨front, after, reads, parts, states⟩ := ih others next
      refine ⟨head ++ front, after, ?_, part.append parts, ?_⟩
      · rw [List.cons_append, read, reads, List.append_assoc]
      · rw [states, state, List.foldl_cons]

theorem stripFrom_sublist (unicode : t.isUnicode = true) (s : State) :
    (stripFrom s t).Sublist t := by
  obtain ⟨front, after, read, part, -⟩ := stripFrom_append unicode s []
  rw [List.append_nil] at read
  rwa [read, stripFrom, List.append_nil]

theorem Body.stripFrom (inner : Body quote body) (previous : Option Glyph) (rest : Text) :
    stripFrom { literal := some { quote := quote }, previous := previous } (body ++ rest) =
      body ++ stripFrom { literal := some { quote := quote }, previous := previous } rest := by
  induction inner with
  | nil => rfl
  | plain other bare _ ih =>
      rw [List.cons_append, stripFrom_literal rfl]
      simp only [Literal.next, Bool.false_eq_true, if_false, bare, other, ih, List.cons_append]
  | escaped _ ih =>
      rw [List.cons_append, stripFrom_literal rfl, List.cons_append, stripFrom_literal rfl]
      simp only [Literal.next, if_true, ih, List.cons_append]

/-- A literal is copied, and the scan goes on behind it. -/
theorem Quoted.stripFrom {literal : Text} (quoted : Quoted after literal) (outside : s.literal = none) :
    ∃ next, stripFrom s (literal ++ after) = literal ++ stripFrom next after := by
  have opened {quote : Glyph} {body : Text} (opens : quote ∈ quotes) (inner : Body quote body)
      (rest : Text) : Source.stripFrom s (quote :: body ++ rest) = quote :: body ++
        Source.stripFrom { literal := some { quote := quote }, previous := some quote } rest := by
    rw [List.cons_append, stripFrom_opens outside (isQuote_iff.mpr opens), inner.stripFrom,
      List.cons_append]
  cases quoted with
  | closed opens inner => exact ⟨_, by
      rw [List.append_assoc, opened opens inner, List.singleton_append, stripFrom_literal rfl,
        List.append_assoc, List.singleton_append]⟩
  | unclosed opens inner last => exact ⟨_, opened opens inner after⟩
  | dangling opens inner last => exact ⟨_, by
      rw [List.append_assoc, opened opens inner, List.singleton_append, stripFrom_literal rfl,
        List.append_assoc, List.singleton_append]⟩

/-- The source with just its sigils taken out, so that each of its literals is still there. -/
theorem stripSigils_exactly (source : Text) (unicode : source.isUnicode = true) :
    stripSigils source =
      (source.zipIdx.filter fun c => ¬ SigilAt source c.2).map Prod.fst ∧
    ∀ before literal after, source = before ++ literal ++ after → Outside before →
      Quoted after literal → ∃ front back, stripSigils source = front ++ literal ++ back ∧
        front.Sublist before ∧ back.Sublist after := by
  constructor
  · have start : Tracks {} [] source := ⟨rfl, nofun, fun _ => .inl rfl⟩
    exact stripFrom_tracks unicode start
  · rintro before literal after rfl outside quoted
    simp only [Text.isUnicode, List.all_append, Bool.and_eq_true] at unicode
    obtain ⟨front, s, read, part, open'⟩ := stripFrom_append unicode.1.1 {} (literal ++ after)
    obtain ⟨next, copied⟩ := quoted.stripFrom (s := s) (open'.trans outside.openLiteral)
    refine ⟨front, stripFrom next after, ?_, part, stripFrom_sublist unicode.2 next⟩
    rw [stripSigils, List.append_assoc, read, copied, List.append_assoc]

theorem stripSigils_exactly_remainder :
    Text.isUnicode "@x + \"$y\" % @z" = true ∧
      stripSigils "@x + \"$y\" % @z" = Text.ofString "x + \"$y\" % z" := by
  have unicode : Text.isUnicode "@x + \"$y\" % @z" = true := by decide +kernel
  refine ⟨unicode, ?_⟩
  rw [(stripSigils_exactly _ unicode).1]
  decide +kernel

end CallPlan.Source
