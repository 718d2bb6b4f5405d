import CallPlan.Plan.Bindings
import CallPlan.Plan.Check

/-!
The second half of a call: once every check has passed, the steps bind in order. A default is
evaluated only where its argument is missing, with the scope and the bindings made so far as its
variables; the scope is read when the first default needs it. What is read and evaluated is recorded.
-/

namespace CallPlan

/-- What a call does besides binding. -/
inductive Event where
  | scopeRead
  | evaluated (param : Text) (source : Text) (vars : Entries Value)
deriving Repr

/-- The state of a call: storage, what has happened, and the scope's data once read. -/
structure Session where
  store : Store
  events : List Event := []
  scopeData : Option (Entries Value) := none

abbrev BindM := ExceptT BindFailure (StateM Session)

namespace Plan

/-- One call of a plan. -/
structure Call where
  plan : Plan
  context : Context
  site : Site
  args : View
  rest : View
  named : Entries Nat

namespace Call

def fail {α : Type} (c : Call) (step : Step) (cause : Cause) : BindM α :=
  throw (.refused
    { kind := .defaultFailed, site := c.site, param := step.param.display, cause := some cause })

def fault {α : Type} (fault : Fault) : BindM α := throw (.fault fault)

def record (event : Event) : BindM Unit :=
  modify fun s => { s with events := s.events ++ [event] }

def setStore (store : Store) : BindM Unit := modify fun s => { s with store }

/-- The data of the scope, read at most once in a call. -/
def scopeData (c : Call) (step : Step) : BindM (Entries Value) := do
  match (← get).scopeData with
  | some data => return data
  | none =>
      record .scopeRead
      match c.plan.scope.data (← get).store c.context with
      | .error e => c.fail step (.within "scope" e.cause)
      | .ok data =>
          modify fun s => { s with scopeData := some data }
          return data

/-- The variables a default may read: the scope's, then those bound before it. -/
def vars (c : Call) (step : Step) (bound : Entries Binding) : BindM (Entries Value) := do
  let data ← c.scopeData step
  match Bindings.valuesOf (← get).store bound with
  | .error f => fault f
  | .ok (values, store) =>
      setStore store
      return data.merge values

def evalDefault (c : Call) (step : Step) (e : Expression) (bound : Entries Binding) :
    BindM Value := do
  let vars ← c.vars step bound
  record (.evaluated step.param.name e.source vars)
  match e.eval (← get).store vars with
  | .ok (value, store) =>
      setStore store
      return value
  | .error (.cause cause) => c.fail step cause
  | .error (.fault f) => fault f

/-- The value of a parameter that no argument was passed for. -/
def absentValue (c : Call) (step : Step) (bound : Entries Binding) : BindM Value :=
  match step.default? with
  | some e => if step.param.required then return .null else c.evalDefault step e bound
  | none => return .null

def cloned (value : Value) : BindM Value := do
  let (value, store) := (← get).store.clone value
  setStore store
  return value

/-- A reference to a fresh variable. -/
def freshRef (value : Value) : BindM Content := do
  let (cell, store) := (← get).store.alloc (.variable value)
  setStore store
  return .ref .any (.variable cell)

/-- What a pointer points to. -/
def target (value : Value) : BindM Value := do
  match value with
  | .pointer _ place =>
      match (← get).store.load? place with
      | some value => return value
      | none => fault .noTarget
  | _ => fault .noTarget

/-- Binds the argument at an index. -/
def bindPresent (c : Call) (step : Step) (index : Nat) : BindM Content := do
  match ((← get).store.items c.rest)[index]? with
  | none => fault .indexOutOfRange
  | some value =>
      match step.mode with
      | .alias =>
          if step.param.refAlias then
            match value with
            | .pointer type place => return .ref type place
            | _ => fault .noTarget
          else return .ref .any (c.rest.place index)
      | _ =>
          if step.param.refAlias then return .own (← cloned (← target value))
          else return .own (← cloned value)

/-- Binds a parameter that no argument was passed for. -/
def bindAbsent (c : Call) (step : Step) (bound : Entries Binding) : BindM Content := do
  let value ← c.absentValue step bound
  match step.mode with
  | .alias => freshRef value
  | _ => return .own (← cloned value)

def bindScalar (c : Call) (step : Step) (index : Option Nat) (bound : Entries Binding) :
    BindM Binding := do
  let content ← match index with
    | some index => c.bindPresent step index
    | none => c.bindAbsent step bound
  return { param := step.param, mode := step.mode, supplied := index.isSome, content }

/-- The entries of a list of pairs, later keys winning. A key that is no text has no meaning here. -/
def pairEntries (entries : Entries Value) : List Value → Except Fault (Entries Value)
  | key :: value :: rest =>
      match key.text? with
      | some k => pairEntries (entries.put k value) rest
      | none => .error .notAText
  | _ => .ok entries

/-- Binds every argument from the step's index on. Pairs are gathered into a new map, so a hash
shares nothing with the caller. -/
def bindSlurpy (c : Call) (step : Step) : BindM Binding := do
  let tail := c.rest.drop step.index
  let items := (← get).store.items tail
  let supplied := !items.isEmpty
  if step.param.sigil = .hash then
    match pairEntries [] items with
    | .error f => fault f
    | .ok entries =>
        let (value, store) := (← get).store.newDict entries
        setStore store
        let mode := if step.mode = .alias then .copy else step.mode
        return { param := step.param, mode, supplied, content := .own value }
  else if step.mode = .alias then
    return { param := step.param, mode := .alias, supplied, content := .shared tail }
  else
    let (value, store) := (← get).store.newList items
    setStore store
    return { param := step.param, mode := step.mode, supplied, content := .own value }

/-- The binding that a step makes, if it makes one. -/
def bindStep (c : Call) (bound : Entries Binding) (step : Step) : BindM (Option Binding) :=
  match step.kind with
  | .invocant => do
      match ((← get).store.items c.args)[0]? with
      | none => fault .indexOutOfRange
      | some value => return some { param := step.param, supplied := true, content := .own value }
  | .positional => do
      let index := if step.index < c.rest.length then some step.index else none
      return some (← c.bindScalar step index bound)
  | .slurpy => do return some (← c.bindSlurpy step)
  | .named => do
      let index := (c.named.get? step.param.name).map (· + 1)
      return some (← c.bindScalar step index bound)
  | .collectNamed | .rejectUnknown => return none

def bindSteps (c : Call) (bound : Entries Binding) : List Step → BindM (Entries Binding)
  | [] => return bound
  | step :: rest => do
      match ← c.bindStep bound step with
      | some binding => c.bindSteps (bound ++ [(step.param.name, binding)]) rest
      | none => c.bindSteps bound rest

def bind (c : Call) : BindM Bindings := do
  let entries ← c.bindSteps [] c.plan.steps
  let first := ((← get).store.items c.args)[0]?
  return { entries, args := c.rest, invocant := c.plan.signature.invocant.bind fun _ => first }

end Call

/-- Binds an argument list. Binding is all or nothing: no default is evaluated unless every check
passes. The name of the plan goes before that of the site. -/
def bind (plan : Plan) (context : Context) (site : Site) (args : View) : BindM Bindings := do
  let site := if plan.name.isEmpty then site else { site with routine := plan.name }
  let checked ← ExceptT.mk (return plan.check site ((← get).store.items args))
  let rest := args.drop (args.length - checked.rest.length)
  Call.bind { plan, context, site, args, rest, named := checked.named }

/-- Runs a call on a store: the outcome, and the state it leaves. -/
def call (plan : Plan) (context : Context) (site : Site) (store : Store) (args : View) :
    Except BindFailure Bindings × Session :=
  (plan.bind context site args).run.run { store }

end Plan
end CallPlan
