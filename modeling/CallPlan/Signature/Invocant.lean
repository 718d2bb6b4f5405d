import CallPlan.Text.Blank
import CallPlan.Text.Identifier

/-!
The invocant prefix of a signature: an optional dollar sign, a name and a colon in front of the
parameter list. A second colon right after the first makes it no prefix.
-/

namespace CallPlan.Invocant

def startsName (g : Glyph) : Bool := g = .char '_' || g.isLetter

def continuesName (g : Glyph) : Bool := g = .char '_' || g.isLetter || g.isNumber

/-- A name that the invocant prefix can carry. -/
def isName : Text → Bool
  | [] => false
  | first :: rest => startsName first && rest.all continuesName

/-- Reads the colon that ends the prefix; the parameter list follows it. -/
def afterColon? : Text → Option Text
  | .char ':' :: rest => if rest.head? = some (.char ':') then none else some rest
  | _ => none

def dropDollar : Text → Text
  | .char '$' :: rest => rest
  | text => text

/-- The invocant's name and the parameter list after it. -/
def prefixed? (text : Text) : Option (Text × Text) :=
  let start := dropDollar (text.dropWhile Glyph.isAsciiBlank)
  let name := start.takeWhile continuesName
  if isName name then
    (afterColon? ((start.dropWhile continuesName).dropWhile Glyph.isAsciiBlank)).map (name, ·)
  else none

/-- The declared invocant, if any, and the parameter list. -/
def split (text : Text) : Option Text × Text :=
  match prefixed? text with
  | some (name, rest) => (some name, rest)
  | none => (none, text)

end CallPlan.Invocant
