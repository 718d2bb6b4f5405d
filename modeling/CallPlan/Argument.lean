import CallPlan.Condition
import CallPlan.Json.Value
import CallPlan.Text.Blank

/-!
Arguments as a user types them: JSON where it is JSON, and plain text otherwise.
-/

namespace CallPlan.Argument

/-- Whether a reader that has read one value stops there. A closing bracket belongs to whatever
stands around the value. -/
def endsValue (rest : Text) : Bool :=
  match Json.skipSpace rest with
  | [] => true
  | g :: _ => g = .char ']' || g = .char '\x7d'

/-- The value of an argument. -/
def read (t : Text) : Datum :=
  match Json.read? t with
  | some (json, rest) => if endsValue rest then .ofJson json else .text t
  | none => .text t

/-- A value as an argument: compact JSON, or words where JSON cannot hold it. -/
def write (d : Datum) : Text :=
  match d.toJson? with
  | some json => json.render {}
  | none => d.display

/-- The arguments of a line: the elements of a JSON list, or values with blanks between them. What a reader
of JSON would say about a line that is no list is left out. -/
def readLine (line : Text) : Except Cause (List Datum) :=
  if line.head? = some (.char '[') then
    match Json.elements? line with
    | some elements => .ok (elements.map read)
    | none => .error (.within "invalid argument list" (.message "not a JSON list"))
  else .ok (line.fields.map read)

end CallPlan.Argument
