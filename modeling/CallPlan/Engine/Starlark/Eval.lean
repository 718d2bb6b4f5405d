import CallPlan.Default.Engine
import CallPlan.Engine.Starlark.Function

/-!
Evaluating Starlark expressions. Every node and every turn of a loop is a step. The variables of a
comprehension belong to the call it stands in and keep their values from one turn to the next; a
function sees those of the places around it as they are when it is called.
-/

namespace CallPlan.Starlark

/-- Where an expression is evaluated: what its names mean, and how values are called. -/
structure Env where
  global? : Text → Option Value
  apply : Apply
  scopes : List Scope := []
  frame : Nat := 0

def Env.get (env : Env) (name : Text) : Eval Value := do
  let run ← MonadState.get
  let value? := match env.scopes.find? (·.names.contains name) with
    | some scope => run.slots.lookup (scope.frame, scope.id, name)
    | none => env.global? name
  match value? with
  | some v => return v
  | none => fail (name ++ " referenced before assignment")

/-- The slots after a value is put into one. -/
def putSlot (key : Nat × Nat × Text) (value : Value) :
    List ((Nat × Nat × Text) × Value) → List ((Nat × Nat × Text) × Value)
  | [] => [(key, value)]
  | slot :: rest => if slot.1 = key then (key, value) :: rest else slot :: putSlot key value rest

def Scope.assign (scope : Scope) (name : Text) (value : Value) : Eval Unit :=
  modify fun run => { run with slots := putSlot (scope.frame, scope.id, name) value run.slots }

mutual

/-- Assigns a value to a target. Parts of values cannot be changed. -/
def Target.assign (scope : Scope) (value : Value) : Target → Eval Unit
  | .name n => scope.assign n value
  | .parts targets => do
      assignAll scope ((← items value).take (targets.length + 1)) targets
  | .element .. | .field _ => fail "cannot assign to a part of a value"

def assignAll (scope : Scope) (values : List Value) : List Target → Eval Unit
  | [] => if values.isEmpty then return () else fail "too many values to unpack"
  | target :: rest =>
      match values with
      | [] => fail "too few values to unpack"
      | value :: values => do
          target.assign scope value
          assignAll scope values rest

end

/-- The named arguments that a map gives. -/
def namedOf (v : Value) : Eval (List (Text × Value)) :=
  match v with
  | .dict entries => entries.mapM fun
      | (.text name, value) => pure (name, value)
      | _ => fail "keywords must be strings"
  | _ => fail "argument after ** must be a mapping"

mutual

def Expr.eval (env : Env) : Expr → Eval Value
  | .absent => return .none
  | .name n => do
      step
      env.get n
  | .int n => do
      step
      return .int n
  | .float bits => do
      step
      return .float bits
  | .text t => do
      step
      return .text t
  | .bytes b => do
      step
      return .bytes b
  | .list items => do
      step
      return .list (← evalAll env items)
  | .tuple items => do
      step
      return .tuple (← evalAll env items)
  | .dict entries => do
      step
      return .dict (← evalEntries env [] entries)
  | .unary op e => do
      step
      unary op (← e.eval env)
  | .binary op a b => do
      step
      let x ← a.eval env
      let y ← b.eval env
      binary op x y
  | .both a b => do
      step
      let x ← a.eval env
      if x.isTrue then b.eval env else return x
  | .either a b => do
      step
      let x ← a.eval env
      if x.isTrue then return x else b.eval env
  | .negation e => do
      step
      return .bool !(← e.eval env).isTrue
  | .conditional c a b => do
      step
      if (← c.eval env).isTrue then a.eval env else b.eval env
  | .index e key => do
      step
      let v ← e.eval env
      let k ← key.eval env
      indexed v k
  | .slice e low high by_ => do
      step
      let v ← e.eval env
      let l ← low.eval env
      let h ← high.eval env
      let s ← by_.eval env
      sliced v l h s
  | .attribute e name => do
      step
      member (← e.eval env) name
  | .call f args names named spread spreadNamed => do
      step
      let g ← f.eval env
      let xs ← evalAll env args
      let ys ← evalAll env named
      let more ← (← evalAll env spread).mapM itemList
      let moreNamed ← (← evalAll env spreadNamed).mapM namedOf
      env.apply g (xs ++ more.flatten) (names.zip ys ++ moreNamed.flatten)
  | .comprehension id item clauses => do
      step
      let scope : Scope := { frame := env.frame, id, names := clausesNames clauses }
      let inner := { env with scopes := scope :: env.scopes }
      let found ← evalClauses env inner scope (fun () => item.eval inner) clauses []
      return .list found.reverse
  | .dictComprehension id key value clauses => do
      step
      let scope : Scope := { frame := env.frame, id, names := clausesNames clauses }
      let inner := { env with scopes := scope :: env.scopes }
      let entry (_ : Unit) : Eval Value := do
        return .tuple [← key.eval inner, ← value.eval inner]
      let found ← evalClauses env inner scope entry clauses []
      let entries ← found.reverse.foldlM (fun (entries : List (Value × Value)) pair =>
        match pair with
        | .tuple [k, v] => insertEntry entries k v
        | _ => return entries) []
      return .dict entries
  | .function id params defaults body => do
      step
      let defaults ← evalAll env defaults
      return .function (← freshSerial) id params defaults body env.scopes

def evalAll (env : Env) : List Expr → Eval (List Value)
  | [] => return []
  | e :: rest => do
      let v ← e.eval env
      return v :: (← evalAll env rest)

def evalEntries (env : Env) (entries : List (Value × Value)) :
    List Expr → Eval (List (Value × Value))
  | key :: value :: rest => do
      let k ← key.eval env
      let v ← value.eval env
      evalEntries env (← insertUnique entries k v) rest
  | _ => return entries

/-- Puts before `found` the items that the clauses of a comprehension let through, the last one first.
The source of the first loop is evaluated outside the comprehension. -/
def evalClauses (outer inner : Env) (scope : Scope) (item : Unit → Eval Value) :
    List Clause → List Value → Eval (List Value)
  | [], found => do return (← item ()) :: found
  | .loop target source :: rest, found => do
      (← items (← source.eval outer)).fold (fun found value => do
        step
        target.assign scope value
        evalClauses inner inner scope item rest found) found
  | .filter condition :: rest, found => do
      if (← condition.eval inner).isTrue then evalClauses inner inner scope item rest found
      else return found

end

/-- The values of the parameters in a call, or `none` when the arguments do not fit. -/
def Params.bind? (p : Params) (defaults : List Value) (args : List Value)
    (named : List (Text × Value)) : Option (List (Text × Value)) := do
  let filled := p.positional.zip args
  let surplus := args.drop p.positional.length
  let (known, unknown) := named.partition fun (name, _) => p.ordinary.contains name
  let names := (filled ++ named).map (·.1)
  if !decide names.Nodup then none
  else if p.rest.isNone && !surplus.isEmpty then none
  else if p.restNamed.isNone && !unknown.isEmpty then none
  else
    let given := filled ++ known
    let ordinary ← p.ordinary.mapM fun name => do
      let v ← (given.lookup name).or ((p.optional.zip defaults).lookup name)
      return (name, v)
    let restNamed := unknown.map fun (name, v) => (Value.text name, v)
    return ordinary ++ p.rest.toList.map (·, Value.tuple surplus) ++
      p.restNamed.toList.map (·, Value.dict restNamed)

/-- Calls a value. No function is called while it is being called already, so calls are nested no
deeper than the first argument if that is the size of the source. -/
def applyAt (global? : Text → Option Value) : Nat → Apply
  | 0 => fun _ _ _ => fail "calls are nested too deep"
  | depth + 1 => fun f args named =>
      match f with
      | .builtin name => callBuiltin (applyAt global? depth) name.toString args named
      | .method _ name receiver => callMethod name.toString receiver args named
      | .function _ id params defaults body scopes => do
          let run ← get
          if run.active.contains id then fail "function called recursively"
          else
            match params.bind? defaults args named with
            | none => fail "unexpected arguments"
            | some bound =>
                let frame ← freshSerial
                let scope : Scope := { frame, id, names := params.all }
                bound.forM fun (name, value) => scope.assign name value
                modify fun run => { run with active := id :: run.active }
                let value ← body.eval
                  { global?, apply := applyAt global? depth, scopes := scope :: scopes, frame }
                modify fun run => { run with active := run.active.tail }
                return value
      | v => fail ("invalid call of non-function (" ++ v.typeName ++ ")")

/-- The functions that every source may name. -/
def builtinNames : List String :=
  ["abs", "all", "any", "bool", "bytes", "chr", "dict", "dir", "enumerate", "fail", "float", "getattr",
    "hasattr", "hash", "int", "len", "list", "max", "min", "ord", "print", "range", "repr", "reversed",
    "set", "sorted", "str", "tuple", "type", "zip"]

def moduleNames : List String := ["json", "math", "time"]

/-- The names with a meaning of their own. -/
def predeclared : List (Text × Value) :=
  [(Text.ofString "None", Value.none), (Text.ofString "True", Value.bool true),
    (Text.ofString "False", Value.bool false)] ++
    builtinNames.map (fun n => (Text.ofString n, Value.builtin (Text.ofString n))) ++
    moduleNames.map fun n => (Text.ofString n, Value.module (Text.ofString n))

/-- The name that the value of a default is assigned to. Until then it has no value. -/
def resultName : Text := "__default__"

/-- What the globals mean in a call: the variables that have a Starlark value go before the names
with a meaning of their own, and a visible name without a value is `None`. -/
def globals (visible : List Text) (vars : Entries Datum) (name : Text) : Option Value :=
  if name = resultName then none
  else
    match (vars.get? name).bind Value.ofDatum? with
    | some v => some v
    | none =>
        match predeclared.lookup name with
        | some v => some v
        | none => if visible.contains name then some .none else none

def executionFailed (cause : Cause) : EvalFailure :=
  .cause (.because (.engine .starlark .executionFailed) cause)

/-- Evaluates a default within a number of steps; zero stands for any number. -/
def evalDefault (maxSteps : Nat) (visible : List Text) (p : Program) (vars : Entries Datum) :
    Except EvalFailure Datum :=
  let global? := globals visible vars
  -- A function that is a key is called through the function that takes the key.
  let env : Env := { global?, apply := applyAt global? (2 * p.size + 2) }
  match (p.body.eval env).run { stepsLeft := if maxSteps = 0 then none else some maxSteps } with
  | .error message => .error (executionFailed (.message message))
  | .ok (v, _) => v.toDatum.mapError executionFailed

/-- The names that a default may use. -/
def knownNames (visible : List Text) : List Text :=
  resultName :: predeclared.map (·.1) ++ visible

/-- The engine for Starlark expressions. -/
def engine (maxSteps : Nat) : Engine where
  compile source visible :=
    let failed (detail : Text) : Except Cause Expression :=
      .error (.because (.engine .starlark .compileFailed) (.message detail))
    if source.isBlank then .error (.plain (.engine .starlark .empty))
    else match parseDefault? source with
      | none => failed "syntax error"
      | some p =>
          if p.body.isClosed (knownNames visible) then
            .ok (Expression.ofData source (evalDefault maxSteps visible p))
          else failed "undefined name"

end CallPlan.Starlark
