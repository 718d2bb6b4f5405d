import CallPlan.Text.Blank
import CallPlan.Text.Identifier

/-!
A parameter of a signature and its renderings. `Param.render` writes a parameter as a clause.
-/

namespace CallPlan

/-- The arity marker in front of a name. -/
inductive Sigil where
  | scalar
  | array
  | hash
deriving DecidableEq, Repr, Inhabited

namespace Sigil

def char : Sigil → Char
  | .scalar => '$'
  | .array => '@'
  | .hash => '%'

def ofGlyph? : Glyph → Option Sigil
  | .char '$' => some .scalar
  | .char '@' => some .array
  | .char '%' => some .hash
  | _ => none

/-- The number that stands for the sigil in documents. -/
def code : Sigil → Nat
  | .scalar => 0
  | .array => 1
  | .hash => 2

def ofCode? : Nat → Option Sigil
  | 0 => some .scalar
  | 1 => some .array
  | 2 => some .hash
  | _ => none

end Sigil

/-- Whether a parameter is taken by position or by key. -/
inductive Role where
  | positional
  | named
deriving DecidableEq, Repr, Inhabited

def Role.label : Role → Text
  | .positional => "positional"
  | .named => "named"

/-- The role with a number. -/
def Role.ofCode (code : Nat) : Role := if code = 1 then .named else .positional

/-- One parameter. Traits are distinct and in byte order. The index is the position of a
positional parameter and `none` for a named one. -/
structure Param where
  name : Text
  sigil : Sigil := .scalar
  role : Role := .positional
  index : Option Nat := none
  slurpy : Bool := false
  refAlias : Bool := false
  traits : List Text := []
  defaultSource : Option Text := none
  optional : Bool := false
  required : Bool := false
  passthrough : Bool := false
deriving DecidableEq, Repr, Inhabited

namespace Param

/-- The raw argument list parameter. It binds nothing. -/
def passthroughName : Text := "@_"

def hasDefault (p : Param) : Bool := p.defaultSource.isSome

def hasTrait (p : Param) (trait : Text) : Bool := p.traits.contains trait

/-- The parameter as written in code, with its sigil. -/
def var (p : Param) : Text := .char p.sigil.char :: p.name

/-- The parameter with its role and reference markers. -/
def display (p : Param) : Text :=
  (if p.role = .named then [.char ':'] else []) ++
    (if p.refAlias then [.char '\\'] else []) ++ p.var

def marker (p : Param) : Text :=
  if p.required then [.char '!']
  else if p.optional && !p.hasDefault && p.role = .positional then [.char '?']
  else []

/-- The parameter as a clause. -/
def render (p : Param) : Text :=
  if p.passthrough then passthroughName
  else
    p.display ++ p.marker ++ p.traits.flatMap (Text.ofString " is " ++ ·) ++
      match p.defaultSource with
      | some source => Text.ofString " = " ++ source
      | none => []

end Param
end CallPlan
