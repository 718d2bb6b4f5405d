import CallPlan.Proofs.Signature.Scanning
import CallPlan.Proofs.Text.Utf8
import Mathlib.Tactic.Tauto

/-!
Balanced texts, as a grammar over bytes: plain bytes, commas, quoted literals and groups around balanced
text. A text splits if and only if it is balanced, and it is cut at the commas that stand outside its
literals and groups.
-/

namespace CallPlan.Split

/-- The byte of an ASCII character. -/
def byte (c : Char) : UInt8 := c.toNat.toUInt8

def quotes : List Char := ['\'', '"']

def groups : List (Char × Char) := [('(', ')'), ('[', ']'), ('\x7b', '\x7d')]

/-- The bytes that are not plain. -/
def marks : List UInt8 :=
  ['\'', '"', '(', ')', '[', ']', '\x7b', '\x7d', ','].map byte

/-- What completes a literal that a quote has opened: bytes up to the next such quote, where a backslash
escapes the byte after it. -/
inductive Quotation (quote : UInt8) : List UInt8 → Prop
  | close : Quotation quote [quote]
  | escaped {rest : List UInt8} (b : UInt8) (later : Quotation quote rest) :
      Quotation quote (byte '\\' :: b :: rest)
  | other {b : UInt8} {rest : List UInt8} (unescaped : b ≠ byte '\\') (open_ : b ≠ quote)
      (later : Quotation quote rest) : Quotation quote (b :: rest)

/-- Balanced bytes, with or without commas outside literals and groups. -/
inductive Balanced : (commas : Bool) → List UInt8 → Prop
  | nil (commas : Bool) : Balanced commas []
  | plain {commas : Bool} {b : UInt8} {rest : List UInt8} (unmarked : b ∉ marks)
      (later : Balanced commas rest) : Balanced commas (b :: rest)
  | comma {rest : List UInt8} (later : Balanced true rest) : Balanced true (byte ',' :: rest)
  | quoted {commas : Bool} {quote : Char} {literal rest : List UInt8} (known : quote ∈ quotes)
      (closed : Quotation (byte quote) literal) (later : Balanced commas rest) :
      Balanced commas (byte quote :: literal ++ rest)
  | group {commas : Bool} {opener closer : Char} {inner rest : List UInt8}
      (known : (opener, closer) ∈ groups) (inside : Balanced true inner)
      (later : Balanced commas rest) :
      Balanced commas (byte opener :: inner ++ byte closer :: rest)

/-- Segments without a comma outside literals and groups, which are the bytes when commas join them. -/
structure Cuts (parts : List (List UInt8)) (bytes : List UInt8) : Prop where
  nonempty : parts ≠ []
  balanced : ∀ part ∈ parts, Balanced false part
  joined : [byte ','].intercalate parts = bytes

/-- The clause that a segment holds. -/
def clause (part : List UInt8) : Text := (Text.ofBytes part).trim

variable {commas : Bool} {b quote : UInt8} {bytes rest literal inner : List UInt8}

/-! ### The grammar alone -/

theorem join_cons (part next : List UInt8) (parts : List (List UInt8)) :
    [byte ','].intercalate (part :: next :: parts) =
      part ++ byte ',' :: [byte ','].intercalate (next :: parts) := by
  simp [List.intercalate]

theorem Cuts.prepend {parts : List (List UInt8)} (bytes : List UInt8) (cuts : Cuts parts rest)
    (front : ∀ {part : List UInt8}, Balanced false part → Balanced false (bytes ++ part)) :
    ∃ parts, Cuts parts (bytes ++ rest) := by
  obtain ⟨nonempty, balanced, rfl⟩ := cuts
  cases parts with
  | nil => exact (nonempty rfl).elim
  | cons part parts =>
      refine ⟨(bytes ++ part) :: parts, by simp, ?_, ?_⟩
      · intro other member
        rcases List.mem_cons.mp member with rfl | later
        · exact front (balanced part List.mem_cons_self)
        · exact balanced other (List.mem_cons_of_mem _ later)
      · cases parts with
        | nil => simp [List.intercalate]
        | cons next parts => rw [join_cons, join_cons, List.append_assoc]

theorem Balanced.cuts (balanced : Balanced commas bytes) : ∃ parts, Cuts parts bytes := by
  induction balanced with
  | nil => exact ⟨[[]], by simp, by simpa using .nil false, rfl⟩
  | @plain _ b _ unmarked _ ih =>
      obtain ⟨parts, cuts⟩ := ih
      exact cuts.prepend [b] (.plain unmarked)
  | comma _ ih =>
      obtain ⟨parts, nonempty, balanced, rfl⟩ := ih
      cases parts with
      | nil => exact (nonempty rfl).elim
      | cons part parts =>
          refine ⟨[] :: part :: parts, by simp, ?_, by rw [join_cons]; rfl⟩
          intro other member
          rcases List.mem_cons.mp member with rfl | later
          · exact .nil false
          · exact balanced other later
  | quoted known closed _ ih =>
      obtain ⟨parts, cuts⟩ := ih
      exact cuts.prepend _ (.quoted known closed)
  | @group _ opener closer inner rest known inside _ _ ih =>
      obtain ⟨parts, cuts⟩ := ih
      have grouped : byte opener :: inner ++ byte closer :: rest =
          (byte opener :: inner ++ [byte closer]) ++ rest := by simp
      rw [grouped]
      refine cuts.prepend _ fun part => ?_
      simpa using Balanced.group known inside part

/-! ### Bytes read one at a time -/

/-- The glyph of a byte that is read by itself. -/
def glyph (b : UInt8) : Glyph :=
  if b.toNat < 0x80 then .char (Char.ofNat b.toNat) else .stray b

theorem glyph_injective : Function.Injective glyph := by
  intro a b same
  unfold glyph at same
  split at same <;> split at same
  · next low low' =>
      have code := congrArg Char.toNat (Glyph.char.inj same)
      rw [Text.toNat_ofNat_of_scalar (by omega), Text.toNat_ofNat_of_scalar (by omega)] at code
      exact UInt8.toNat_inj.mp code
  · cases same
  · cases same
  · exact Glyph.stray.inj same

theorem glyph_byte {c : Char} (ascii : c.toNat < 0x80) : glyph (byte c) = .char c := by
  have code : (byte c).toNat = c.toNat := Text.lead_toNat (by omega)
  rw [glyph, code, if_pos ascii, Char.ofNat_toNat]

theorem quote_ascii : ∀ quote ∈ quotes, quote.toNat < 0x80 ∧ quote ≠ '\\' := by
  simp [quotes]

theorem glyph_unmarked (unmarked : b ∉ marks) : glyph b ∉ delimiters := by
  intro member
  obtain ⟨c, listed, same⟩ := List.mem_map.mp member
  have ascii : ∀ c ∈ ['\'', '"', '(', ')', '[', ']', '\x7b', '\x7d', ','], c.toNat < 0x80 := by simp
  rw [← glyph_byte (ascii c listed)] at same
  exact unmarked (glyph_injective same ▸ List.mem_map_of_mem listed)

theorem byte_cases (b : UInt8) : b ∉ marks ∨ b = byte ',' ∨ (∃ quote ∈ quotes, b = byte quote) ∨
    (∃ pair ∈ groups, b = byte pair.1) ∨ ∃ pair ∈ groups, b = byte pair.2 := by
  by_cases marked : b ∈ marks
  · refine .inr ?_
    simp only [marks, List.map_cons, List.map_nil, List.mem_cons, List.not_mem_nil, or_false] at marked
    simp only [quotes, groups, List.mem_cons, List.not_mem_nil, or_false, exists_eq_or_imp,
      exists_eq_left]
    tauto
  · exact .inl marked

namespace Nesting

variable {n n' : Nesting} {g : Glyph} {t : Text}

/-- Reads a glyph, where a comma outside belongs to the text if commas are allowed there. -/
def stepIn (commas : Bool) (n : Nesting) (g : Glyph) : Option Nesting :=
  if commas && n = {} && g = .char ',' then some n else n.step g

def runIn (commas : Bool) (n : Nesting) : Text → Option Nesting
  | [] => some n
  | g :: rest => (n.stepIn commas g).bind fun n => n.runIn commas rest

theorem runIn_false (n : Nesting) (t : Text) : n.runIn false t = n.run t := by
  induction t generalizing n with
  | nil => rfl
  | cons g rest ih =>
      rw [runIn, run_cons]
      exact congrArg _ (funext ih)

theorem runIn_append (n : Nesting) (t u : Text) :
    n.runIn commas (t ++ u) = (n.runIn commas t).bind fun n => n.runIn commas u := by
  induction t generalizing n with
  | nil => rfl
  | cons g rest ih =>
      rw [List.cons_append, runIn, runIn, Option.bind_assoc]
      exact congrArg _ (funext fun n => ih n)

theorem stepIn_of_not_comma (other : g ≠ .char ',') : n.stepIn commas g = n.step g := by
  simp [stepIn, other]

theorem stepIn_char {c : Char} (outside : n.literal = none) (other : c ≠ ',') :
    n.stepIn commas (.char c) = n.plain c := by
  rw [stepIn_of_not_comma (by simpa using other)]
  simp only [step, outside]

theorem stepIn_plain (outside : n.literal = none) (unmarked : b ∉ marks) :
    n.stepIn commas (glyph b) = some n := by
  have plain := glyph_unmarked unmarked
  rw [stepIn_of_not_comma (fun comma => plain (by simp [comma, delimiters])), step_plain outside plain]

theorem stepIn_comma (outside : n.literal = none) : n.stepIn commas (glyph (byte ',')) =
    if commas = true ∨ n.closers ≠ [] then some n else none := by
  obtain ⟨closers, literal⟩ := n
  subst outside
  rw [glyph_byte (by decide)]
  cases commas <;> cases closers <;> rfl

theorem stepIn_quote {quote : Char} (known : quote ∈ quotes) (outside : n.literal = none) :
    n.stepIn commas (glyph (byte quote)) = some { n with literal := some (quote, false) } := by
  simp only [quotes, List.mem_cons, List.not_mem_nil, or_false] at known
  rcases known with rfl | rfl <;>
    rw [glyph_byte (by decide), stepIn_char outside (by decide)] <;> rfl

theorem stepIn_opener {opener closer : Char} (known : (opener, closer) ∈ groups)
    (outside : n.literal = none) :
    n.stepIn commas (glyph (byte opener)) = some { n with closers := closer :: n.closers } := by
  simp only [groups, List.mem_cons, Prod.mk.injEq, List.not_mem_nil, or_false] at known
  rcases known with ⟨rfl, rfl⟩ | ⟨rfl, rfl⟩ | ⟨rfl, rfl⟩ <;>
    rw [glyph_byte (by decide), stepIn_char outside (by decide)] <;> rfl

theorem stepIn_closer {opener closer : Char} (known : (opener, closer) ∈ groups)
    (outside : n.literal = none) :
    n.stepIn commas (glyph (byte closer)) = some n' ↔
      ∃ closers, n.closers = closer :: closers ∧ n' = { n with closers } := by
  obtain ⟨expecting, literal⟩ := n
  have step : Nesting.stepIn commas ⟨expecting, literal⟩ (glyph (byte closer)) =
      expecting.head?.bind fun expected =>
        if closer = expected then some ⟨expecting.tail, literal⟩ else none := by
    simp only [groups, List.mem_cons, Prod.mk.injEq, List.not_mem_nil, or_false] at known
    rcases known with ⟨rfl, rfl⟩ | ⟨rfl, rfl⟩ | ⟨rfl, rfl⟩ <;>
      rw [glyph_byte (by decide), stepIn_char outside (by decide)] <;> cases expecting <;> rfl
  rw [step]
  cases expecting with
  | nil => simp
  | cons expected closers => by_cases same : closer = expected <;> simp [same, eq_comm]

theorem stepIn_literal {quote : Char} {escaped : Bool} (opened : n.literal = some (quote, escaped)) :
    n.stepIn commas g = some (n.inLiteral quote escaped g) := by
  have inside : n ≠ {} := by
    rintro rfl
    cases opened
  simp [stepIn, inside, step, opened]

end Nesting

theorem Nesting.quoted_start : Nesting.Quoted {} := by
  intro quote escaped opened
  cases opened

theorem Nesting.Quoted.stepIn {n n' : Nesting} {g : Glyph} (quoted : n.Quoted)
    (read : n.stepIn commas g = some n') : n'.Quoted := by
  unfold Nesting.stepIn at read
  split at read
  · cases read
    exact quoted
  · exact quoted.step read

/-! ### What the reader accepts -/

/-- What may follow when groups are open. -/
def Closes (commas : Bool) : List Char → List UInt8 → Prop
  | [], bytes => Balanced commas bytes
  | closer :: closers, bytes => ∃ inner rest, bytes = inner ++ byte closer :: rest ∧
      Balanced true inner ∧ Closes commas closers rest

/-- What may follow a state of the reader. -/
def Follows (commas : Bool) (n : Nesting) (bytes : List UInt8) : Prop :=
  match n.literal with
  | none => Closes commas n.closers bytes
  | some (quote, false) => ∃ literal rest, bytes = literal ++ rest ∧
      Quotation (byte quote) literal ∧ Closes commas n.closers rest
  | some (quote, true) => ∃ b literal rest, bytes = b :: literal ++ rest ∧
      Quotation (byte quote) literal ∧ Closes commas n.closers rest

variable {n n' : Nesting} {closers : List Char}

theorem Closes.prepend (bytes : List UInt8) (closes : Closes commas closers rest)
    (front : ∀ {commas : Bool} {part : List UInt8}, Balanced commas part →
      Balanced commas (bytes ++ part)) : Closes commas closers (bytes ++ rest) := by
  cases closers with
  | nil => exact front closes
  | cons closer closers =>
      obtain ⟨inner, rest, rfl, inside, later⟩ := closes
      exact ⟨bytes ++ inner, rest, by simp, front inside, later⟩

theorem Closes.comma (allowed : commas = true ∨ closers ≠ []) (closes : Closes commas closers rest) :
    Closes commas closers (byte ',' :: rest) := by
  cases closers with
  | nil =>
      obtain rfl : commas = true := allowed.resolve_right (by simp)
      exact Balanced.comma closes
  | cons closer closers =>
      obtain ⟨inner, rest, rfl, inside, later⟩ := closes
      exact ⟨byte ',' :: inner, rest, rfl, .comma inside, later⟩

theorem Follows.of_outside (outside : n.literal = none) :
    Follows commas n bytes ↔ Closes commas n.closers bytes := by
  rw [Follows, outside]

theorem Follows.step_outside (outside : n.literal = none)
    (read : n.stepIn commas (glyph b) = some n') (follows : Follows commas n' rest) :
    Closes commas n.closers (b :: rest) := by
  rcases byte_cases b with unmarked | rfl | ⟨quote, known, rfl⟩ | ⟨⟨opener, closer⟩, known, rfl⟩ |
    ⟨⟨opener, closer⟩, known, rfl⟩
  · rw [Nesting.stepIn_plain outside unmarked] at read
    cases read
    exact ((of_outside outside).mp follows).prepend [b] (.plain unmarked)
  · rw [Nesting.stepIn_comma outside] at read
    split at read
    · next allowed =>
        cases read
        exact ((of_outside outside).mp follows).comma allowed
    · cases read
  · rw [Nesting.stepIn_quote known outside] at read
    cases read
    obtain ⟨content, rest, rfl, closed, later⟩ := follows
    exact later.prepend (byte quote :: content) (.quoted known closed)
  · rw [Nesting.stepIn_opener known outside] at read
    cases read
    obtain ⟨inner, rest, rfl, inside, later⟩ :=
      (of_outside (n := { n with closers := closer :: n.closers }) outside).mp follows
    have grouped : byte opener :: (inner ++ byte closer :: rest) =
        (byte opener :: inner ++ [byte closer]) ++ rest := by simp
    rw [grouped]
    refine later.prepend _ fun part => ?_
    simpa using Balanced.group known inside part
  · obtain ⟨closers, expected, rfl⟩ := (Nesting.stepIn_closer known outside).mp read
    rw [expected]
    exact ⟨[], rest, rfl, .nil true, (of_outside (n := { n with closers }) outside).mp follows⟩

theorem Follows.step_literal {quote : Char} {escaped : Bool}
    (opened : n.literal = some (quote, escaped)) (known : quote = '\'' ∨ quote = '"')
    (follows : Follows commas (n.inLiteral quote escaped (glyph b)) rest) :
    Follows commas n (b :: rest) := by
  have spelled : ∀ {c : Char}, c.toNat < 0x80 → glyph b = .char c → b = byte c := fun small same =>
    glyph_injective (same.trans (glyph_byte small).symm)
  have ascii : quote.toNat < 0x80 := by rcases known with rfl | rfl <;> decide
  have written : ∀ {c : Char}, c.toNat < 0x80 → glyph b ≠ .char c → b ≠ byte c := by
    rintro c small different rfl
    exact different (glyph_byte small)
  simp only [Follows, opened]
  unfold Nesting.inLiteral at follows
  cases escaped with
  | true =>
      obtain ⟨content, rest, rfl, closed, later⟩ := follows
      exact ⟨b, content, rest, rfl, closed, later⟩
  | false =>
      split at follows
      · next wrong => cases wrong
      split at follows
      · next escape =>
          obtain ⟨hidden, content, rest, rfl, closed, later⟩ := follows
          rw [spelled (by decide) escape]
          exact ⟨_ :: hidden :: content, rest, rfl, .escaped hidden closed, later⟩
      split at follows
      · next same =>
          rw [spelled ascii same]
          exact ⟨[byte quote], rest, rfl, .close, follows⟩
      · next unescaped different =>
          obtain ⟨content, rest, rfl, closed, later⟩ := follows
          exact ⟨b :: content, rest, rfl,
            .other (written (by decide) unescaped) (written ascii different) closed, later⟩

/-- Whatever the reader accepts from a state may follow that state. -/
theorem follows_of_runIn (quoted : n.Quoted) (read : n.runIn commas (bytes.map glyph) = some {}) :
    Follows commas n bytes := by
  induction bytes generalizing n with
  | nil =>
      cases read
      exact .nil commas
  | cons b rest ih =>
      obtain ⟨n', first, later⟩ := Option.bind_eq_some_iff.mp read
      have follows := ih (quoted.stepIn first) later
      cases literal : n.literal with
      | none => exact (Follows.of_outside literal).mpr (follows.step_outside literal first)
      | some opened =>
          rw [Nesting.stepIn_literal literal] at first
          cases first
          exact follows.step_literal literal (quoted _ _ literal)

theorem Quotation.runIn {quote : Char} (known : quote ∈ quotes)
    (closed : Quotation (byte quote) literal) (opened : n.literal = some (quote, false)) :
    n.runIn commas (literal.map glyph) = some { n with literal := none } := by
  obtain ⟨ascii, unescaping⟩ := quote_ascii quote known
  induction closed generalizing n with
  | close =>
      simp [Nesting.runIn, Nesting.stepIn_literal opened, glyph_byte ascii, Nesting.inLiteral, unescaping]
  | @escaped rest b _ ih =>
      have escape : n.inLiteral quote false (.char '\\') = { n with literal := some (quote, true) } := rfl
      have hidden : Nesting.inLiteral { n with literal := some (quote, true) } quote true (glyph b) =
          { n with literal := some (quote, false) } := rfl
      rw [List.map_cons, List.map_cons, Nesting.runIn, Nesting.stepIn_literal opened,
        glyph_byte (by decide), escape, Option.bind_some, Nesting.runIn, Nesting.stepIn_literal rfl,
        hidden, Option.bind_some, ih rfl]
  | @other b rest unescaped different _ ih =>
      have kept : n.inLiteral quote false (glyph b) = { n with literal := some (quote, false) } := by
        have plain : glyph b ≠ .char '\\' := fun same =>
          unescaped (glyph_injective (same.trans (glyph_byte (by decide)).symm))
        have inside : glyph b ≠ .char quote := fun same =>
          different (glyph_injective (same.trans (glyph_byte ascii).symm))
        simp [Nesting.inLiteral, plain, inside]
      rw [List.map_cons, Nesting.runIn, Nesting.stepIn_literal opened, kept, Option.bind_some, ih rfl]

/-- Balanced bytes leave the reader as it was. Their own commas have to be allowed where it stands. -/
theorem Balanced.runIn {allowed : Bool} (balanced : Balanced commas bytes) (outside : n.literal = none)
    (admits : commas = true → allowed = true ∨ n.closers ≠ []) :
    n.runIn allowed (bytes.map glyph) = some n := by
  induction balanced generalizing n with
  | nil => rfl
  | plain unmarked _ ih =>
      rw [List.map_cons, Nesting.runIn, Nesting.stepIn_plain outside unmarked, Option.bind_some,
        ih outside admits]
  | comma _ ih =>
      rw [List.map_cons, Nesting.runIn, Nesting.stepIn_comma outside, if_pos (admits rfl),
        Option.bind_some, ih outside admits]
  | quoted known closed _ ih =>
      rw [List.cons_append, List.map_cons, List.map_append, Nesting.runIn,
        Nesting.stepIn_quote known outside, Option.bind_some, Nesting.runIn_append,
        closed.runIn known rfl, Option.bind_some]
      rw [← outside]
      exact ih outside admits
  | @group _ opener closer inner rest known _ _ inside later =>
      have close : Nesting.stepIn allowed { n with closers := closer :: n.closers } (glyph (byte closer)) =
          some n := (Nesting.stepIn_closer (n := { n with closers := closer :: n.closers }) known
          outside).mpr ⟨n.closers, rfl, rfl⟩
      rw [List.cons_append, List.map_cons, List.map_append, List.map_cons, Nesting.runIn,
        Nesting.stepIn_opener known outside, Option.bind_some, Nesting.runIn_append,
        inside (n := { n with closers := closer :: n.closers }) outside fun _ => .inr (by simp),
        Option.bind_some, Nesting.runIn, close, Option.bind_some, later outside admits]

/-- The grammar is what the reader accepts, byte by byte. -/
theorem balanced_iff_runIn :
    Balanced commas bytes ↔ Nesting.runIn commas {} (bytes.map glyph) = some {} := by
  constructor
  · intro balanced
    exact balanced.runIn rfl .inl
  · intro read
    exact follows_of_runIn Nesting.quoted_start read

/-! ### Bytes read as text -/

/-- The state after a glyph that is no ASCII character: only an escape is used up. -/
def Nesting.settled (n : Nesting) : Nesting :=
  { n with literal := n.literal.map fun opened => (opened.1, false) }

/-- A glyph that is no ASCII character. -/
def Wide (g : Glyph) : Prop := ∀ c : Char, c.toNat < 0x80 → g ≠ .char c

theorem glyph_wide (high : 0x80 ≤ b.toNat) : Wide (glyph b) := by
  intro c _ same
  rw [glyph, if_neg (by omega)] at same
  cases same

theorem Nesting.stepIn_wide {g : Glyph} (quoted : n.Quoted) (wide : Wide g) :
    n.stepIn commas g = some n.settled := by
  have plain : g ∉ delimiters := by
    have ascii : ∀ d ∈ delimiters, ∃ c : Char, c.toNat < 0x80 ∧ d = .char c := by
      simp [delimiters]
    intro member
    obtain ⟨c, small, same⟩ := ascii g member
    exact wide c small same
  cases literal : n.literal with
  | none =>
      have same : n.settled = n := by
        rw [settled, literal]
        exact congrArg (Nesting.mk n.closers) literal.symm
      rw [stepIn_of_not_comma (wide ',' (by decide)), step_plain literal plain, same]
  | some opened =>
      obtain ⟨quote, escaped⟩ := opened
      have ascii : quote.toNat < 0x80 := by
        rcases quoted quote escaped literal with rfl | rfl <;> decide
      rw [stepIn_literal literal]
      cases escaped <;>
        simp [inLiteral, settled, literal, wide '\\' (by decide), wide quote ascii]

theorem Nesting.Quoted.settled (quoted : n.Quoted) : n.settled.Quoted := by
  intro quote escaped opened
  obtain ⟨⟨quote', escaped'⟩, literal, same⟩ := Option.map_eq_some_iff.mp opened
  cases same
  exact quoted _ _ literal

theorem Nesting.settled_settled (n : Nesting) : n.settled.settled = n.settled := by
  obtain ⟨closers, literal⟩ := n
  cases literal <;> rfl

theorem Nesting.runIn_wide {g : Glyph} {t : Text} (quoted : n.Quoted) (wide : ∀ h ∈ g :: t, Wide h) :
    n.runIn commas (g :: t) = some n.settled := by
  induction t generalizing n g with
  | nil => rw [runIn, stepIn_wide quoted (wide g List.mem_cons_self)]; rfl
  | cons h rest ih =>
      rw [runIn, stepIn_wide quoted (wide g List.mem_cons_self), Option.bind_some,
        ih quoted.settled fun other member => wide other (List.mem_cons_of_mem _ member),
        settled_settled]

/-- Characters of several bytes make no difference to the reader. -/
theorem runIn_ofBytes (quoted : n.Quoted) :
    n.runIn commas (Text.ofBytes bytes) = n.runIn commas (bytes.map glyph) := by
  induction bytes using Text.ofBytes.induct generalizing n with
  | case1 => rw [Text.ofBytes]; rfl
  | case2 first rest c tail read ih =>
      rw [Text.ofBytes, read]
      dsimp only
      by_cases ascii : first.toNat < 0x80
      · rw [Text.scalar?_ascii ascii] at read
        cases read
        have same : glyph first = .char (Char.ofNat first.toNat) := by rw [glyph, if_pos ascii]
        rw [List.map_cons, same, Nesting.runIn, Nesting.runIn]
        cases taken : n.stepIn commas (.char (Char.ofNat first.toNat)) with
        | none => rfl
        | some next => exact ih (quoted.stepIn taken)
      · obtain ⟨wide, -, tails⟩ := Text.scalar?_wide (by omega) read
        have character : Wide (.char c) := by
          rintro d small same
          rw [Glyph.char.inj same] at wide
          omega
        have split : (first :: rest).map glyph =
            glyph first :: (rest.take tail).map glyph ++ (rest.drop tail).map glyph := by
          rw [List.cons_append, ← List.map_append, List.take_append_drop, List.map_cons]
        have bytesWide : ∀ h ∈ glyph first :: (rest.take tail).map glyph, Wide h := by
          intro h member
          rcases List.mem_cons.mp member with rfl | member
          · exact glyph_wide (by omega)
          · obtain ⟨b, listed, rfl⟩ := List.mem_map.mp member
            exact glyph_wide (tails b listed)
        rw [split, Nesting.runIn_append, Nesting.runIn_wide quoted bytesWide, Nesting.runIn,
          Nesting.stepIn_wide quoted character, Option.bind_some, Option.bind_some, ih quoted.settled]
  | case3 first rest read ih =>
      have high : 0x80 ≤ first.toNat := by
        refine Nat.le_of_not_lt fun ascii => ?_
        rw [Text.scalar?_ascii ascii] at read
        cases read
      have stray : glyph first = .stray first := by rw [glyph, if_neg (by omega)]
      rw [Text.ofBytes, read]
      dsimp only
      rw [List.map_cons, stray, Nesting.runIn, Nesting.runIn,
        Nesting.stepIn_wide quoted (stray ▸ glyph_wide high), Option.bind_some, Option.bind_some,
        ih quoted.settled]

theorem read_join {read : List UInt8 → Text} (empty : read [] = [])
    (comma : ∀ part rest, read (part ++ byte ',' :: rest) = read part ++ .char ',' :: read rest)
    (parts : List (List UInt8)) :
    read ([byte ','].intercalate parts) = Text.join [.char ','] (parts.map read) := by
  induction parts with
  | nil => exact empty
  | cons part parts ih =>
      cases parts with
      | nil => simp [Text.join, List.intercalate]
      | cons next parts =>
          rw [join_cons, comma, ih]
          simp [Text.join, List.intercalate]

theorem ofBytes_join (parts : List (List UInt8)) :
    Text.ofBytes ([byte ','].intercalate parts) = Text.join [.char ','] (parts.map Text.ofBytes) := by
  refine read_join (by rw [Text.ofBytes]) (fun part rest => ?_) parts
  have comma : Char.ofNat (byte ',').toNat = ',' := by decide
  rw [Text.ofBytes_append_ascii _ (by decide), Text.ofBytes_ascii (by decide), comma]

theorem glyph_join (parts : List (List UInt8)) :
    ([byte ','].intercalate parts).map glyph = Text.join [.char ','] (parts.map (List.map glyph)) :=
  read_join rfl (fun part rest => by rw [List.map_append, List.map_cons, glyph_byte (by decide)]) parts

/-! ### Splitting -/

theorem Scan.step_stepIn (s : Scan) (g : Glyph) :
    (s.step g).toOption.map Scan.nesting = s.nesting.stepIn true g := by
  by_cases cuts : s.nesting = {} ∧ g = .char ','
  · obtain ⟨outside, rfl⟩ := cuts
    rw [Scan.step_comma outside, outside]
    exact congrArg some outside
  · have inside : s.nesting.stepIn true g = s.nesting.step g := by
      rw [Nesting.stepIn, if_neg (by simpa using cuts)]
    have steps := Scan.step_steps s g
    rw [inside]
    generalize s.step g = outcome at steps
    cases steps with
    | take read _ => exact read.symm
    | comma is outside => exact (cuts ⟨outside, is⟩).elim
    | fault outside => exact outside.symm

theorem Scan.run_runIn (s : Scan) (t : Text) :
    (s.run t).toOption.map Scan.nesting = s.nesting.runIn true t := by
  induction t generalizing s with
  | nil => rfl
  | cons g rest ih =>
      rw [Scan.run, Nesting.runIn, ← Scan.step_stepIn]
      cases s.step g with
      | error e => rfl
      | ok next => exact ih next

theorem segments_ok_iff {text : Text} :
    (∃ parts, segments text = .ok parts) ↔ Nesting.runIn true {} text = some {} := by
  have read := Scan.run_runIn {} text
  have start : ({} : Scan).nesting = {} := rfl
  rw [start] at read
  rw [← read, segments]
  cases Scan.run {} text with
  | error e => simp [Except.toOption]
  | ok s => simp [Except.toOption, Scan.finish_ok_iff]

theorem split_ok_iff : (∃ clauses, split (.ofBytes bytes) = .ok clauses) ↔ Balanced true bytes := by
  rw [balanced_iff_runIn, ← runIn_ofBytes Nesting.quoted_start, ← segments_ok_iff]
  simp only [split, except_bind_ok, except_pure, Except.ok.injEq]
  constructor
  · rintro ⟨_, parts, read, _⟩
    exact ⟨parts, read⟩
  · rintro ⟨parts, read⟩
    exact ⟨_, parts, read, rfl⟩

theorem balanced_iff_whole : Balanced false bytes ↔ Whole (.ofBytes bytes) := by
  rw [balanced_iff_runIn, ← runIn_ofBytes Nesting.quoted_start, Nesting.runIn_false, Whole]

theorem Cuts.segments_eq {parts : List (List UInt8)} (cuts : Cuts parts bytes) :
    segments (.ofBytes bytes) = .ok (parts.map Text.ofBytes) := by
  obtain ⟨nonempty, balanced, rfl⟩ := cuts
  rw [ofBytes_join]
  cases parts with
  | nil => exact (nonempty rfl).elim
  | cons part parts =>
      refine segments_join fun text member => ?_
      obtain ⟨other, listed, rfl⟩ := List.mem_map.mp (List.map_cons ▸ member)
      exact balanced_iff_whole.mp (balanced other listed)

theorem Cuts.unique {parts parts' : List (List UInt8)} (cuts : Cuts parts bytes)
    (cuts' : Cuts parts' bytes) : parts = parts' := by
  have read : ∀ {parts : List (List UInt8)}, Cuts parts bytes →
      segments (bytes.map glyph) = .ok (parts.map (List.map glyph)) := by
    rintro parts ⟨nonempty, balanced, rfl⟩
    rw [glyph_join]
    cases parts with
    | nil => exact (nonempty rfl).elim
    | cons part parts =>
        refine segments_join fun text member => ?_
        obtain ⟨other, listed, rfl⟩ := List.mem_map.mp (List.map_cons ▸ member)
        rw [Whole, ← Nesting.runIn_false]
        exact balanced_iff_runIn.mp (balanced other listed)
  have same := Except.ok.inj ((read cuts).symm.trans (read cuts'))
  exact List.map_injective_iff.mpr (List.map_injective_iff.mpr glyph_injective) same

theorem dropBlankLast_concat (clauses : List Text) (last : Text) :
    dropBlankLast (clauses ++ [last]) = clauses ++ if last.isEmpty then [] else [last] := by
  induction clauses with
  | nil => rfl
  | cons clause rest ih =>
      rw [List.cons_append, dropBlankLast, ih]
      · rfl
      · simp

theorem Cuts.split_eq {front : List (List UInt8)} {last : List UInt8}
    (cuts : Cuts (front ++ [last]) bytes) : split (.ofBytes bytes) =
      .ok (front.map clause ++ if (clause last).isEmpty then [] else [clause last]) := by
  rw [split, cuts.segments_eq, except_ok_bind, except_pure, List.map_append, List.map_append,
    List.map_singleton, List.map_singleton, dropBlankLast_concat, List.map_map]
  rfl

/-- A text splits if and only if it is balanced. Then it is cut in one way only, and its segments are the
clauses, trimmed, where a blank last one is dropped. -/
theorem split_cuts_balanced (bytes : List UInt8) :
    ((∃ clauses, split (.ofBytes bytes) = .ok clauses) ↔ Balanced true bytes) ∧
      (Balanced true bytes → ∃ front last, Cuts (front ++ [last]) bytes ∧
        (∀ parts, Cuts parts bytes → parts = front ++ [last]) ∧
        split (.ofBytes bytes) =
          .ok (front.map clause ++ if (clause last).isEmpty then [] else [clause last])) := by
  refine ⟨split_ok_iff, fun balanced => ?_⟩
  obtain ⟨parts, cuts⟩ := balanced.cuts
  obtain ⟨front, last, rfl⟩ := parts.eq_nil_or_concat.resolve_left cuts.nonempty
  rw [List.concat_eq_append] at cuts
  exact ⟨front, last, cuts, fun _ other => other.unique cuts, cuts.split_eq⟩

/-- Commas and closers in quotes and groups, an escaped quote, and a blank end. -/
def nestedList : Text := "$s = 'it\\'s, [', %o = [1, (2, \x7b3\x7d)] , "

def nestedClauses : List Text := ["$s = 'it\\'s, ['", "%o = [1, (2, \x7b3\x7d)]"]

theorem split_cuts_balanced_nested : Balanced true nestedList.toBytes ∧
    ∃ front last, Cuts (front ++ [last]) nestedList.toBytes ∧
      (front.map clause ++ if (clause last).isEmpty then [] else [clause last]) = nestedClauses := by
  have clauses : split (.ofBytes nestedList.toBytes) = .ok nestedClauses := by
    rw [Text.ofBytes_toBytes (by decide)]
    decide +kernel
  obtain ⟨accepts, cut⟩ := split_cuts_balanced nestedList.toBytes
  have balanced := accepts.mp ⟨nestedClauses, clauses⟩
  obtain ⟨front, last, cuts, -, read⟩ := cut balanced
  exact ⟨balanced, front, last, cuts, Except.ok.inj (read.symm.trans clauses)⟩

end CallPlan.Split
