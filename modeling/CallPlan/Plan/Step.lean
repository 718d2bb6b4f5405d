import CallPlan.Default.Engine
import CallPlan.Signature.Param
import CallPlan.Text.Quoted

/-!
The steps of a binding plan. Each binds one parameter, or reads the key/value pairs that named
parameters are taken from.
-/

namespace CallPlan

/-- How a bound value relates to the caller's argument. -/
inductive Mode where
  | copy
  | alias
  | readOnly
deriving DecidableEq, Repr

def Mode.label : Mode → Text
  | .copy => "copy"
  | .alias => "alias"
  | .readOnly => "ro"

/-- The mode with a number. -/
def Mode.ofCode : Nat → Mode
  | 1 => .alias
  | 2 => .readOnly
  | _ => .copy

/-- The mode of a parameter: a read-only trait goes before aliasing. -/
def Mode.ofParam (p : Param) : Mode :=
  if p.hasTrait "ro" then .readOnly
  else if p.refAlias || p.hasTrait "alias" then .alias
  else .copy

/-- What a step does. -/
inductive StepKind where
  | invocant
  | positional
  | slurpy
  | collectNamed
  | named
  | rejectUnknown
deriving DecidableEq, Repr

namespace StepKind

def label : StepKind → Text
  | .invocant => "invocant"
  | .positional => "positional"
  | .slurpy => "slurpy"
  | .collectNamed => "collect-named"
  | .named => "named"
  | .rejectUnknown => "reject-unknown"

def all : List StepKind :=
  [.invocant, .positional, .slurpy, .collectNamed, .named, .rejectUnknown]

/-- The label of the kind with a number, also of a number that stands for none. -/
def labelOf (code : Nat) : Text :=
  match all[code]? with
  | some kind => kind.label
  | none => "Kind(" ++ Text.ofNat code ++ ")"

end StepKind

/-- One binding instruction. The index counts arguments after the invocant; steps that take none by
position have index zero. -/
structure Step where
  kind : StepKind
  param : Param := { name := [] }
  index : Nat := 0
  required : Bool := false
  mode : Mode := .copy
  default? : Option Expression := none

namespace Step

/-- The index as shown: a named parameter has none. -/
def position (s : Step) : Int := if s.kind = .named then -1 else s.index

def target (s : Step) : Text :=
  match s.kind with
  | .invocant => s.param.var ++ " <- invocant"
  | .positional => s.param.display ++ " <- args[" ++ Text.ofNat s.index ++ "]"
  | .slurpy => s.param.display ++ " <- args[" ++ Text.ofNat s.index ++ ":]"
  | .collectNamed => "collect named pairs from args[" ++ Text.ofNat s.index ++ ":]"
  | .named => s.param.display ++ " <- named[" ++ s.param.name.quoted ++ "]"
  | .rejectUnknown => "reject unknown named keys"

def notes (s : Step) : List Text :=
  (if s.required then [Text.ofString "required"] else []) ++ [s.mode.label] ++
    match s.default? with
    | some e => [Text.ofString "default " ++ e.source]
    | none => []

def render (s : Step) : Text :=
  match s.kind with
  | .collectNamed | .rejectUnknown => s.target
  | _ => s.target ++ " (" ++ Text.join ", " s.notes ++ ")"

end Step
end CallPlan
