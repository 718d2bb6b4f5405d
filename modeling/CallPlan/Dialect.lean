import CallPlan.Text.Blank
import CallPlan.Text.Case
import CallPlan.Text.Quoted

/-!
The languages that default expressions may be written in, known by their names.
-/

namespace CallPlan

inductive Dialect where
  | starlark
  | risor
  | hcl
  | extism
deriving DecidableEq, Repr, Inhabited

namespace Dialect

def all : List Dialect := [.starlark, .risor, .hcl, .extism]

def name : Dialect → Text
  | .starlark => "starlark"
  | .risor => "risor"
  | .hcl => "hcl"
  | .extism => "extism"

/-- What the engine of a dialect calls itself. -/
def engineName (d : Dialect) : Text := d.name ++ ".Compiler"

/-- The dialect of exactly this name. -/
def ofName? (name : Text) : Option Dialect := all.find? (·.name = name)

/-- The dialect that a user's spelling stands for: case and surrounding blanks do not matter. -/
def parse? (spelling : Text) : Option Dialect := ofName? spelling.trim.lower

/-- The complaint about a spelling that stands for no dialect. -/
def unknownMessage (spelling : Text) : Text :=
  "unknown engine " ++ spelling.quoted ++ ", expected one of [" ++
    Text.join " " (all.map name) ++ "]"

end Dialect
end CallPlan
