import CallPlan.Proofs.Argument
import CallPlan.Proofs.Command.Console
import CallPlan.Proofs.Json.Elements

/-!
A line of arguments that is a JSON list. Its elements are cut out and read one by one, which gives what the
list as a whole is read as. A line that starts like a list and is none gives no arguments.
-/

namespace CallPlan

namespace Json

theorem height_le_heightItems {item : Json} {items : List Json} (member : item ∈ items) :
    item.height ≤ heightItems items := by
  induction items with
  | nil => cases member
  | cons first rest ih =>
      rw [heightItems]
      rcases List.mem_cons.mp member with rfl | later
      · exact Nat.le_max_left ..
      · exact Nat.le_trans (ih later) (Nat.le_max_right ..)

end Json

namespace Argument

open Json (Written)

variable {line : Text} {items : List Json} {raws : List Text}

theorem map_read (each : List.Forall₂ Written raws items)
    (shallow : ∀ item ∈ items, item.height ≤ Json.maxDepth) :
    raws.map read = items.map Datum.ofJson := by
  induction each with
  | nil => rfl
  | cons written _ ih =>
      obtain ⟨first, others⟩ := List.forall_mem_cons.mp shallow
      rw [List.map_cons, List.map_cons, read_document ⟨written.padded, first⟩, ih others]

/-- The elements of a list are read as the list is. -/
theorem readLine_list (starts : line.head? = some (.char '[')) (document : Json.Document line (.list items)) :
    readLine line = .ok (items.map Datum.ofJson) ∧ read line = .anyList (items.map Datum.ofJson) := by
  constructor
  · obtain ⟨raws, cut, each⟩ := document.elements
    have depth := document.shallow
    rw [Json.height] at depth
    rw [readLine, if_pos starts, cut]
    dsimp only
    rw [map_read each fun item member => ?_]
    have inside := Json.height_le_heightItems member
    omega
  · rw [read_document document, Datum.ofJson, Json.itemsOfJson_eq]

/-- A line that starts with a bracket gives the elements that it has as one JSON list, if it is one. If it is
none, it gives no arguments: the console complains, and the plan stays as it is. -/
theorem readLine_agrees (starts : line.head? = some (.char '[')) :
    (∀ items, Json.Document line (.list items) →
      ∃ values, readLine line = .ok values ∧ read line = .anyList values) ∧
    ((¬ ∃ items, Json.Document line (.list items)) → ∃ cause, readLine line = .error cause ∧
      ∀ prepare prepared, Console.reply prepare (some prepared) line =
        { writes := [Console.complaint (.other cause)], plan := some prepared }) := by
  constructor
  · exact fun items document => ⟨_, readLine_list starts document⟩
  · intro broken
    have uncut : Json.elements? line = none := by
      cases cut : Json.elements? line with
      | none => rfl
      | some raws => exact (broken (Json.document_of_elements? cut)).elim
    have refused : readLine line =
        .error (.within "invalid argument list" (.message "not a JSON list")) := by
      rw [readLine, if_pos starts, uncut]
    refine ⟨_, refused, fun prepare prepared => ?_⟩
    have plain : Request.ofLine line = .plain line :=
      Console.ofLine_plain.mpr ⟨rfl, by rw [starts]; decide⟩
    simp only [Console.reply, plain, Console.answer, refused]

/-- Numbers of both kinds, a map, a text that is a list, and blanks at all places. -/
def spaced : Text := "[ 1 ,\t2.5e1,\x7b\"a\" : [null]\x7d , \"[3]\"]"

def spacedElements : List Text := ["1", "2.5e1", "\x7b\"a\" : [null]\x7d", "\"[3]\""]

/-- A list with something behind it. -/
def trailing : Text := "[1] 2"

theorem readLine_agrees_spaced :
    Json.elements? spaced = some spacedElements ∧
      (∃ values, readLine spaced = .ok values ∧ read spaced = .anyList values) ∧
      ∃ cause, readLine trailing = .error cause := by
  have cut : Json.elements? spaced = some spacedElements := by decide +kernel
  refine ⟨cut, ?_, ?_⟩
  · have starts : spaced.head? = some (.char '[') := rfl
    obtain ⟨items, document⟩ := Json.document_of_elements? cut
    exact (readLine_agrees starts).1 items document
  · have starts : trailing.head? = some (.char '[') := rfl
    have uncut : Json.elements? trailing = none := by decide
    have broken : ¬ ∃ items, Json.Document trailing (.list items) := by
      rintro ⟨items, document⟩
      obtain ⟨raws, cut, -⟩ := document.elements
      rw [uncut] at cut
      cases cut
    obtain ⟨cause, refused, -⟩ := (readLine_agrees starts).2 broken
    exact ⟨cause, refused⟩

end Argument

end CallPlan
