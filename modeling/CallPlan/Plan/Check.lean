import CallPlan.Plan.Arguments
import CallPlan.Plan.Basic
import CallPlan.Plan.CallError
import CallPlan.Plan.Suggestion

/-!
The first half of a call: every argument is checked against every step before anything is bound. The
first rule that is broken decides the error.
-/

namespace CallPlan

/-- How a call ends without bindings: it is refused, or takes a step without meaning. -/
inductive BindFailure where
  | refused (error : CallError)
  | fault (fault : Fault)
deriving DecidableEq, Repr

namespace Plan

/-- What the checks find out: the arguments after the invocant, and where each key is among them. -/
structure Checked where
  rest : List Value
  named : Entries Nat := []

abbrev Check := Except BindFailure

def refuse {α : Type} (site : Site) (kind : Condition) (param : Text) (detail : Option Text) :
    Check α :=
  .error (.refused { kind, site, param, cause := detail.map .message })

/-- Checks an argument that is there. -/
def checkPresent (site : Site) (p : Param) (value : Value) : Check Unit :=
  if p.refAlias then
    match Arguments.checkRef p.sigil value with
    | .ok () => .ok ()
    | .error fault => refuse site .notAReference p.display (some fault.message)
  else .ok ()

/-- Checks an argument that may be missing. -/
def checkScalar (site : Site) (step : Step) (value : Option Value) : Check Unit :=
  match value with
  | some value => checkPresent site step.param value
  | none =>
      if step.required then refuse site .missingArgument step.param.display none else .ok ()

/-- The keys of a list of pairs. A key that is no text has no meaning here. -/
def keysOf : List Value → Check (List Text)
  | key :: _ :: rest =>
      match key.text? with
      | some k => do return k :: (← keysOf rest)
      | none => .error (.fault .notAText)
  | _ => .ok []

/-- The keys that no parameter takes, each once, in the order they were passed. -/
def unknownKeys (known seen : List Text) : List Text → List Text
  | [] => []
  | key :: rest =>
      if known.contains key || seen.contains key then unknownKeys known seen rest
      else key :: unknownKeys known (key :: seen) rest

def checkUnknown (plan : Plan) (site : Site) (rest : List Value) : Check Unit := do
  let keys ← keysOf (rest.drop plan.positionalCount)
  match unknownKeys plan.namedNames [] keys with
  | [] => .ok ()
  | unknown =>
      let suggestion := match unknown with
        | [key] => match Suggestion.closest key plan.namedNames with
            | some name => .char ':' :: name
            | none => []
        | _ => []
      .error (.refused
        { kind := .unexpectedNamedArgument, site, keys := unknown, suggestion })

def checkStep (plan : Plan) (site : Site) (args : List Value) (c : Checked) (step : Step) :
    Check Checked :=
  match step.kind with
  | .invocant =>
      match args with
      | [] => refuse site .missingArgument step.param.var none
      | _ :: rest => .ok { c with rest }
  | .positional => do
      checkScalar site step c.rest[step.index]?
      return c
  | .slurpy =>
      if step.param.sigil = .hash then
        match Arguments.pairs (c.rest.drop step.index) with
        | .ok _ => .ok c
        | .error fault =>
            refuse site .malformedNamedArguments step.param.display (some fault.message)
      else .ok c
  | .collectNamed =>
      match Arguments.pairs (c.rest.drop step.index) with
      | .ok offsets =>
          .ok { c with named := offsets.map fun (key, offset) => (key, step.index + offset) }
      | .error fault => refuse site .malformedNamedArguments [] (some fault.message)
  | .named =>
      match c.named.get? step.param.name with
      | none => do
          checkScalar site step none
          return c
      | some offset =>
          match c.rest[offset + 1]? with
          | none => .error (.fault .indexOutOfRange)
          | some value => do
              checkPresent site step.param value
              return c
  | .rejectUnknown => do
      plan.checkUnknown site c.rest
      return c

def checkSteps (plan : Plan) (site : Site) (args : List Value) (c : Checked) :
    List Step → Check Checked
  | [] => .ok c
  | step :: rest => do plan.checkSteps site args (← plan.checkStep site args c step) rest

/-- Extra arguments are refused only by a strict plan that could not take them by name or slurpy. -/
def checkArity (plan : Plan) (site : Site) (rest : List Value) : Check Unit :=
  if plan.strictArity && !plan.signature.hasNamed && plan.signature.slurpyCount = 0 &&
      rest.length > plan.positionalCount then
    refuse site .tooManyArguments [] (some ("expected at most " ++ Text.ofNat plan.positionalCount ++
      ", got " ++ Text.ofNat rest.length))
  else .ok ()

/-- Checks an argument list against the whole plan. -/
def check (plan : Plan) (site : Site) (args : List Value) : Check Checked := do
  let c ← plan.checkSteps site args { rest := args } plan.steps
  plan.checkArity site c.rest
  return c

end Plan
end CallPlan
