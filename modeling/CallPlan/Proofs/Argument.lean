import CallPlan.Engine.Extism
import CallPlan.Proofs.Json.Meaning
import CallPlan.Proofs.Json.Reading

/-!
When an argument or an output is JSON. It ought to be when all of it writes one document, and to be plain
text otherwise. The reader stops behind the first document and then looks at the next character only,
which it takes for the end of the text when it is a closing bracket: `1 ]` is read as the number. In all
other cases the reader does what it ought to.
-/

namespace CallPlan.Argument

open Json (Blank Document Takes Apart)

variable {t after rest : Text} {bracket : Glyph} {v w : Json}

/-- The value of a text that is JSON if all of it is, and plain text otherwise. -/
def Lawful (t : Text) (value : Datum) : Prop :=
  (∃ v, Document t v ∧ v.Means value) ∨ (¬ ∃ v, Document t v) ∧ value = .text t

/-- A text that is a document up to a closing bracket that belongs to nothing. -/
def Closed (t : Text) (v : Json) : Prop :=
  ∃ body bracket rest, t = body ++ bracket :: rest ∧ Document body v ∧
    bracket ∈ [.char ']', .char '\x7d']

/-! ## Where the reader stops -/

theorem bracket_shown (listed : bracket ∈ [.char ']', .char '\x7d']) :
    Json.isSpace bracket = false := by
  revert bracket
  decide

theorem bracket_apart (listed : bracket ∈ [.char ']', .char '\x7d']) (rest : Text) :
    Apart (bracket :: rest) :=
  Json.apart_token (.tail _ listed) rest

theorem endsValue_blank (blank : Blank rest) : endsValue rest = true := by
  rw [endsValue, blank.skipSpace]

theorem endsValue_bracket (blank : Blank after) (listed : bracket ∈ [.char ']', .char '\x7d']) :
    endsValue (after ++ bracket :: rest) = true := by
  rw [endsValue, Json.skipSpace_token blank (bracket_shown listed)]
  simpa using listed

theorem read_document (document : Document t v) : read t = .ofJson v := by
  obtain ⟨after, back, found⟩ := document.read? Json.apart_nil
  rw [List.append_nil, List.append_nil] at found
  simp only [read, found, endsValue_blank back, if_true]

theorem Closed.read_eq (closed : Closed t v) : read t = .ofJson v := by
  obtain ⟨body, bracket, rest, rfl, document, listed⟩ := closed
  obtain ⟨after, back, found⟩ := document.read? (bracket_apart listed rest)
  simp only [read, found, endsValue_bracket back listed, if_true]

theorem Closed.means (closed : Closed t v) : v.Means (read t) := by
  obtain ⟨body, bracket, rest, -, document, -⟩ := id closed
  rw [closed.read_eq]
  exact document.padded.means

theorem Closed.not_document (closed : Closed t v) : ¬ Document t w := by
  intro whole
  obtain ⟨body, bracket, rest, rfl, document, listed⟩ := closed
  obtain ⟨after, -, found⟩ := document.read? (bracket_apart listed rest)
  obtain ⟨blanks, blank, other⟩ := whole.read? Json.apart_nil
  rw [List.append_nil, List.append_nil, found] at other
  cases other
  have space := blank bracket (by simp)
  rw [bracket_shown listed] at space
  cases space

/-- The reader gives JSON for a document only, or for one with a closing bracket behind it. -/
theorem read_other (mixed : ¬ ∃ v, Document t v) (unclosed : ¬ ∃ v, Closed t v) :
    read t = .text t := by
  unfold read
  cases found : Json.read? t with
  | none => rfl
  | some result =>
      obtain ⟨v, rest⟩ := result
      refine if_neg fun ends => ?_
      rw [endsValue] at ends
      split at ends
      · next empty =>
        have parsed : Json.parse? t = some v := by simp [Json.parse?, found, empty]
        exact mixed ⟨v, Json.parse?_iff.mp parsed⟩
      · next bracket tail next =>
        have takes : Takes t v rest := (Json.reader_takes _).1 _ _ _ _ found
        obtain ⟨body, rfl, padded⟩ := takes.padded next
        have listed : bracket ∈ [.char ']', .char '\x7d'] := by simpa using ends
        have document := Json.document_of_read? padded (bracket_apart listed tail) found
        exact unclosed ⟨v, body, bracket, tail, rfl, document, listed⟩

/-! ## The law -/

/-- What the bracket hides is shorter than the text, so the text itself is not what is read. -/
theorem Closed.unlawful (closed : Closed t v) : ¬ Lawful t (read t) := by
  rintro (⟨w, document, -⟩ | ⟨-, same⟩)
  · exact closed.not_document document
  · have means := closed.means
    rw [same] at means
    obtain ⟨body, bracket, rest, rfl, ⟨padded, -⟩, -⟩ := closed
    cases padded with
    | around front written back =>
        have short := written.length_le means
        simp only [List.length_append, List.length_cons] at short
        omega

theorem lawful_iff : Lawful t (read t) ↔ ¬ ∃ v, Closed t v := by
  constructor
  · exact fun lawful ⟨_, closed⟩ => closed.unlawful lawful
  · intro unclosed
    by_cases document : ∃ v, Document t v
    · obtain ⟨v, document⟩ := document
      refine .inl ⟨v, document, ?_⟩
      rw [read_document document]
      exact document.padded.means
    · exact .inr ⟨document, read_other document unclosed⟩

/-- An argument, and an output that is not blank, is the document it writes or else its text, unless a
document is followed by a closing bracket: then it is that document. -/
theorem read_lawful_iff (bytes : List UInt8) :
    (Lawful (.ofBytes bytes) (read (.ofBytes bytes)) ↔ ¬ ∃ v, Closed (.ofBytes bytes) v) ∧
    (∀ v, Closed (.ofBytes bytes) v → v.Means (read (.ofBytes bytes))) ∧
    Extism.decodeOutput bytes =
      if (Text.ofBytes bytes).isBlank then .null else read (.ofBytes bytes) :=
  ⟨lawful_iff, fun _ closed => closed.means, rfl⟩

/-- The numeral `1`. -/
def one : Json.Numeral where
  negative := false
  whole := "1"
  fraction := []
  exponent := none
  nonempty := by decide
  decimal := by decide
  lead := by decide
  broken := nofun

theorem closed_one : Closed "1 ]" (.number one.literal) := by
  have blank : Blank [.char ' '] := by simp [Blank, Json.isSpace]
  have padded : Json.Padded ([] ++ one.literal ++ [.char ' ']) (.number one.literal) :=
    .around nofun (.number one) blank
  exact ⟨_, .char ']', [], rfl, ⟨padded, by decide⟩, by decide⟩

theorem read_lawful_iff_closed :
    Closed (.ofBytes (Text.toBytes "1 ]")) (.number one.literal) ∧
      (Json.number one.literal).Means (read (.ofBytes (Text.toBytes "1 ]"))) := by
  have closed : Closed (.ofBytes (Text.toBytes "1 ]")) (.number one.literal) := by
    rw [Text.ofBytes_toBytes (by decide)]
    exact closed_one
  exact ⟨closed, (read_lawful_iff _).2.1 _ closed⟩

theorem read_unlawful : read "1 ]" = .int64 1 ∧ ¬ Lawful "1 ]" (read "1 ]") := by
  have integer : Datum.ofJson (.number one.literal) = .int64 one.integer := by
    rw [Datum.ofJson, Json.ofLiteral_fits ⟨⟨rfl, rfl⟩, by decide⟩]
  exact ⟨closed_one.read_eq.trans integer, closed_one.unlawful⟩

end CallPlan.Argument
