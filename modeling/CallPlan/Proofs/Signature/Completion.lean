import CallPlan.Proofs.Signature.Balance
import CallPlan.Signature.Error

/-!
Whether a text that is no list of clauses can still become one. A closer that nothing has opened is refused
where it stands, whatever comes after it. Any other text that is refused has something open at its end, and
what closes that completes the text.
-/

namespace CallPlan.Split

variable {commas : Bool} {n n' : Nesting} {b : UInt8} {bytes : List UInt8} {text : Text} {fault : Fault}

/-! ### What completes a text -/

namespace Nesting

/-- The closers that are expected belong to groups. -/
def Grouped (n : Nesting) : Prop := ∀ closer ∈ n.closers, ∃ opener, (opener, closer) ∈ groups

theorem inLiteral_closers (n : Nesting) (quote : Char) (escaped : Bool) (g : Glyph) :
    (n.inLiteral quote escaped g).closers = n.closers := by
  unfold inLiteral
  split
  · rfl
  · split
    · rfl
    · split <;> rfl

theorem Grouped.stepIn (grouped : n.Grouped) (read : n.stepIn commas (glyph b) = some n') :
    n'.Grouped := by
  cases literal : n.literal with
  | some opened =>
      rw [stepIn_literal literal] at read
      cases read
      unfold Grouped
      rwa [inLiteral_closers]
  | none =>
      rcases byte_cases b with unmarked | rfl | ⟨quote, known, rfl⟩ | ⟨⟨opener, closer⟩, known, rfl⟩ |
        ⟨⟨opener, closer⟩, known, rfl⟩
      · rw [stepIn_plain literal unmarked] at read
        cases read
        exact grouped
      · rw [stepIn_comma literal] at read
        split at read
        · cases read
          exact grouped
        · cases read
      · rw [stepIn_quote known literal] at read
        cases read
        exact grouped
      · rw [stepIn_opener known literal] at read
        cases read
        exact List.forall_mem_cons.mpr ⟨⟨opener, known⟩, grouped⟩
      · obtain ⟨closers, expected, rfl⟩ := (stepIn_closer known literal).mp read
        unfold Grouped at grouped
        rw [expected] at grouped
        exact (List.forall_mem_cons.mp grouped).2

theorem reached (quoted : n.Quoted) (grouped : n.Grouped)
    (read : n.runIn commas (bytes.map glyph) = some n') : n'.Quoted ∧ n'.Grouped := by
  induction bytes generalizing n with
  | nil =>
      cases read
      exact ⟨quoted, grouped⟩
  | cons b rest ih =>
      obtain ⟨next, first, later⟩ := Option.bind_eq_some_iff.mp read
      exact ih (quoted.stepIn first) (grouped.stepIn first) later

/-- What ends an open literal. An escape that is pending takes a byte first. -/
def closing : Option (Char × Bool) → List UInt8
  | none => []
  | some (quote, false) => [byte quote]
  | some (quote, true) => [byte ' ', byte quote]

/-- What closes the open literal and then the open groups, the inner ones first. -/
def completion (n : Nesting) : List UInt8 := closing n.literal ++ n.closers.map byte

theorem closing_runIn (quoted : n.Quoted) :
    n.runIn commas ((closing n.literal).map glyph) = some { n with literal := none } := by
  obtain ⟨closers, literal⟩ := n
  cases literal with
  | none => rfl
  | some opened =>
      obtain ⟨quote, escaped⟩ := opened
      have known : quote ∈ quotes := by simpa [quotes] using quoted quote escaped rfl
      have closes : runIn commas ⟨closers, some (quote, false)⟩ ([byte quote].map glyph) =
          some ⟨closers, none⟩ := Quotation.close.runIn known rfl
      cases escaped with
      | false => exact closes
      | true =>
          -- The blank takes the place of the character that the escape was waiting for.
          have hidden : Nesting.stepIn commas ⟨closers, some (quote, true)⟩ (glyph (byte ' ')) =
              some ⟨closers, some (quote, false)⟩ := by
            rw [stepIn_literal rfl]
            rfl
          rw [closing, List.map_cons, runIn, hidden, Option.bind_some, closes]

theorem closers_runIn (grouped : n.Grouped) (outside : n.literal = none) :
    n.runIn commas ((n.closers.map byte).map glyph) = some {} := by
  obtain ⟨closers, literal⟩ := n
  subst outside
  induction closers with
  | nil => rfl
  | cons closer closers ih =>
      obtain ⟨⟨opener, known⟩, later⟩ := List.forall_mem_cons.mp grouped
      have closes : Nesting.stepIn commas ⟨closer :: closers, none⟩ (glyph (byte closer)) =
          some ⟨closers, none⟩ := (stepIn_closer known rfl).mpr ⟨closers, rfl, rfl⟩
      rw [List.map_cons, List.map_cons, runIn, closes, Option.bind_some]
      exact ih later

theorem completion_runIn (quoted : n.Quoted) (grouped : n.Grouped) :
    n.runIn commas (n.completion.map glyph) = some {} := by
  rw [completion, List.map_append, runIn_append, closing_runIn quoted, Option.bind_some]
  exact closers_runIn (n := { n with literal := none }) grouped rfl

end Nesting

/-- A text can be completed as long as the reader has not refused a part of it. -/
theorem completable_iff : (∃ more, Balanced true (bytes ++ more)) ↔
    ∃ n, Nesting.runIn true {} (bytes.map glyph) = some n := by
  constructor
  · rintro ⟨more, balanced⟩
    rw [balanced_iff_runIn, List.map_append, Nesting.runIn_append] at balanced
    obtain ⟨n, read, _⟩ := Option.bind_eq_some_iff.mp balanced
    exact ⟨n, read⟩
  · rintro ⟨n, read⟩
    have start : Nesting.Grouped {} := by
      intro closer member
      cases member
    obtain ⟨quoted, grouped⟩ := Nesting.reached Nesting.quoted_start start read
    refine ⟨n.completion, ?_⟩
    rw [balanced_iff_runIn, List.map_append, Nesting.runIn_append, read, Option.bind_some,
      Nesting.completion_runIn quoted grouped]

/-! ### Which faults a text can be completed after -/

theorem Scan.plain_fault {s : Scan} {c : Char} (refused : s.plain c = .error fault) :
    fault.isUnbalanced = false := by
  unfold Scan.plain at refused
  split at refused
  · cases refused
  split at refused
  · cases refused
  split at refused
  · split at refused
    · cases refused
      rfl
    · split at refused
      · cases refused
      · cases refused
        rfl
  · split at refused <;> cases refused

theorem Scan.run_fault {s : Scan} (refused : s.run text = .error fault) :
    fault.isUnbalanced = false := by
  induction text generalizing s with
  | nil => cases refused
  | cons g rest ih =>
      rw [Scan.run] at refused
      cases step : s.step g with
      | ok next =>
          rw [step, except_ok_bind] at refused
          exact ih refused
      | error other =>
          rw [step, except_error_bind] at refused
          cases refused
          unfold Scan.step at step
          split at step
          · cases step
          · exact Scan.plain_fault step
          · cases step

theorem Scan.finish_fault {s : Scan} (refused : s.finish = .error fault) :
    fault.isUnbalanced = true := by
  unfold Scan.finish at refused
  split at refused <;> cases refused <;> rfl

/-- A fault is an unbalanced text if the reader came to the end of it. -/
theorem split_fault (refused : split text = .error fault) :
    fault.isUnbalanced = true ↔ ∃ n, Nesting.runIn true {} text = some n := by
  have read := Scan.run_runIn {} text
  have start : ({} : Scan).nesting = {} := rfl
  rw [start] at read
  rw [split, segments] at refused
  cases ran : Scan.run {} text with
  | error other =>
      rw [ran] at read refused
      cases refused
      have none : Nesting.runIn true {} text = none := read.symm
      simp [Scan.run_fault ran, none]
  | ok s =>
      rw [ran] at read refused
      have some : Nesting.runIn true {} text = some s.nesting := read.symm
      cases finished : s.finish with
      | ok parts =>
          rw [except_ok_bind, finished] at refused
          cases refused
      | error other =>
          rw [except_ok_bind, finished] at refused
          cases refused
          simp [Scan.finish_fault finished, some]

theorem unbalanced_mem_iff (text : Text) (fault : Fault) :
    Condition.unbalanced ∈ (SignatureError.ofSplit text fault).conditions ↔
      fault.isUnbalanced = true := by
  cases unbalanced : fault.isUnbalanced <;>
    simp [SignatureError.ofSplit, SignatureError.conditions, Cause.conditions, unbalanced]

/-- A text that does not split is malformed, and it is unbalanced besides if and only if some continuation
of it splits. -/
theorem unbalanced_iff_completable (refused : split (.ofBytes bytes) = .error fault) :
    .malformed ∈ (SignatureError.ofSplit (.ofBytes bytes) fault).conditions ∧
      (.unbalanced ∈ (SignatureError.ofSplit (.ofBytes bytes) fault).conditions ↔
        ∃ more clauses, split (.ofBytes (bytes ++ more)) = .ok clauses) := by
  refine ⟨by simp [SignatureError.ofSplit, SignatureError.conditions], ?_⟩
  simp only [split_ok_iff]
  rw [unbalanced_mem_iff, split_fault refused, runIn_ofBytes Nesting.quoted_start, completable_iff]

/-- An open list, and in it an open literal with an escape at the end. -/
def openList : Text := "$x = [1, 'it\\"

theorem unbalanced_iff_completable_escaped :
    split (.ofBytes openList.toBytes) = .error (.unterminated '\'' 9) ∧
      ∃ more clauses, split (.ofBytes (openList.toBytes ++ more)) = .ok clauses := by
  have refused : split (.ofBytes openList.toBytes) = .error (.unterminated '\'' 9) := by
    rw [Text.ofBytes_toBytes (by decide)]
    decide
  exact ⟨refused, (unbalanced_iff_completable refused).2.mp (by decide)⟩

end CallPlan.Split
