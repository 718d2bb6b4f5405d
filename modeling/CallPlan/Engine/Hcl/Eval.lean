import CallPlan.Engine.Hcl.Function
import CallPlan.Engine.Hcl.Syntax

/-!
Evaluating HCL expressions. An expression that fails still has a value, as far as its type is known,
because the branch of a conditional that is not taken may fail and its type counts all the same.
-/

namespace CallPlan.Hcl

/-- The value of an expression, and whether the evaluation failed somewhere. -/
structure Outcome where
  value : Value
  failed : Bool := false

namespace Outcome

def failure (kind : Kind := .dynamic) : Outcome := { value := .unknown kind, failed := true }

/-- The value of a partial operation, or a failure with a value of the type it would have. -/
def ofOption (kind : Kind) : Option Value → Outcome
  | some value => { value }
  | none => failure kind

end Outcome

structure Env where
  vars : Text → Option Value
  functions : Entries Function

def Env.bind (env : Env) (name : Text) (value : Value) : Env :=
  { env with vars := fun n => if n = name then some value else env.vars n }

/-- Binds the names of a loop; a key without a name is not bound. -/
def Env.enter (env : Env) (keyName valueName : Text) (key value : Value) : Env :=
  (if keyName.isEmpty then env else env.bind keyName key).bind valueName value

def memberOf (v : Value) (name : Text) : Outcome :=
  match v with
  | .unknown _ => { value := .unknown .dynamic }
  | .object entries | .map _ entries => .ofOption .dynamic (Entries.get? entries name.normal)
  | _ => .failure

def itemAt (items : List Value) (key : Value) : Option Value := do
  match key.convert? .number with
  | some (.number n) =>
      let i ← n.toIntOf? 64
      if 0 ≤ i then items[i.toNat]? else none
  | _ => none

def entryAt (entries : List (Text × Value)) (key : Value) : Option Value :=
  match key.convert? .text with
  | some (.text name) => Entries.get? entries name
  | _ => none

def indexOf (v key : Value) : Outcome :=
  match v, key with
  | .null _, _ | _, .null _ => .failure
  | .unknown _, _ | _, .unknown _ => { value := .unknown .dynamic }
  | .list _ items, key | .tuple items, key => .ofOption .dynamic (itemAt items key)
  | .map _ entries, key | .object entries, key => .ofOption .dynamic (entryAt entries key)
  | _, _ => .failure

/-- Applies an operation to two operands that must be of a type. -/
def operate (kind result : Kind) (a b : Outcome) (apply : Value → Value → Option Value) : Outcome :=
  match a.value.convert? kind, b.value.convert? kind with
  | some x, some y =>
      if a.failed || b.failed || x.isNull || y.isNull then .failure result
      else if !x.isKnown || !y.isKnown then { value := .unknown result }
      else .ofOption result (apply x y)
  | _, _ => .failure result

def arithmetic (a b : Outcome) (apply : Wide → Wide → Option Wide) : Outcome :=
  operate .number .number a b fun
    | .number x, .number y => (apply x y).map .number
    | _, _ => none

def comparison (a b : Outcome) (holds : Wide → Wide → Bool) : Outcome :=
  operate .number .bool a b fun
    | .number x, .number y => some (.bool (holds x y))
    | _, _ => none

def isTrue : Value → Bool
  | .bool b => b
  | _ => false

/-- A conjunction or disjunction. One operand that decides the result hides the failure of the other;
`decisive` is the operand that does. -/
def logical (decisive : Bool) (a b : Outcome) (apply : Bool → Bool → Bool) : Outcome :=
  match a.value.convert? .bool, b.value.convert? .bool with
  | some x, some y =>
      if !x.isKnown && !y.isKnown then
        { value := .unknown .bool, failed := a.failed || b.failed }
      else if x.isKnown && isTrue x = decisive then { value := .bool decisive, failed := a.failed }
      else if y.isKnown && isTrue y = decisive then { value := .bool decisive, failed := b.failed }
      else if !x.isKnown then { value := .unknown .bool, failed := a.failed }
      else if !y.isKnown then { value := .unknown .bool, failed := b.failed }
      else operate .bool .bool a b fun
        | .bool x, .bool y => some (.bool (apply x y))
        | _, _ => none
  | _, _ => .failure .bool

def binary (op : BinaryOp) (a b : Outcome) : Outcome :=
  let equality (negated : Bool) : Outcome :=
    if a.failed || b.failed then .failure .bool
    else match Value.equals a.value b.value with
      | .bool same => { value := .bool (same != negated) }
      | v => { value := v }
  match op with
  | .or => logical true a b (· || ·)
  | .and => logical false a b (· && ·)
  | .equal => equality false
  | .notEqual => equality true
  | .greater => comparison a b fun x y => x.order y = .gt
  | .greaterEqual => comparison a b fun x y => x.order y = .gt || x.equal y
  | .less => comparison a b fun x y => x.order y = .lt
  | .lessEqual => comparison a b fun x y => x.order y = .lt || x.equal y
  | .add => arithmetic a b Wide.add?
  | .sub => arithmetic a b Wide.sub?
  | .mul => arithmetic a b Wide.mul?
  | .div => arithmetic a b Wide.div?
  | .mod => arithmetic a b Wide.mod?

/-- Applies an operation to an operand that must be of a type, which the result has too. -/
def signed (kind : Kind) (a : Outcome) (apply : Value → Option Value) : Outcome :=
  match a.value.convert? kind with
  | some x =>
      if a.failed || x.isNull then .failure kind
      else if !x.isKnown then { value := .unknown kind }
      else .ofOption kind (apply x)
  | none => .failure kind

/-- The type of a conditional. An untyped nothing takes the type of the other branch. -/
def branchKind? (a b : Value) : Option Kind :=
  match a, b with
  | .null .dynamic, b => some b.kind
  | a, .null .dynamic => some a.kind
  | a, b => Kind.unify? [a.kind, b.kind]

def isUntypedNull : Value → Bool
  | .null .dynamic => true
  | _ => false

/-- A branch of a conditional, brought to the type of both. -/
def branch (kind : Kind) (taken other : Outcome) : Outcome :=
  if !isUntypedNull taken.value && !isUntypedNull other.value &&
      Kind.isObscure [taken.value.kind, other.value.kind] then
    { value := .unknown .dynamic, failed := taken.failed }
  else match taken.value.convert? kind with
    | some v => { value := v, failed := taken.failed }
    | none => .failure kind

def conditional (condition a b : Outcome) : Outcome :=
  match branchKind? a.value b.value with
  | none => .failure
  | some kind =>
      match condition.value with
      | .null _ => .failure kind
      | .unknown _ => { value := .unknown kind, failed := condition.failed }
      | c =>
          match c.convert? .bool with
          | some (.bool b') =>
              let taken := if b' then branch kind a b else branch kind b a
              { taken with failed := taken.failed || condition.failed }
          | _ => .failure kind

/-- Joins the parts of a template as texts. -/
def joinParts (parts : List Outcome) : Outcome :=
  let texts := parts.map fun part =>
    match part.value with
    | .unknown _ => some none
    | v => match v.isNull, v.convert? .text with
        | false, some (.text t) => some (some t)
        | _, _ => none
  let failed := parts.any (·.failed) || texts.any (·.isNone)
  let known := texts.filterMap id
  if known.any (·.isNone) then { value := .unknown .text, failed }
  else { value := .ofText (known.filterMap id).flatten, failed }

/-- An object from keys and values in turn. -/
def makeObject (items : List Outcome) : Outcome :=
  let rec pairs : List Outcome → List (Outcome × Outcome)
    | key :: value :: rest => (key, value) :: pairs rest
    | _ => []
  let entries := (pairs items).map fun (key, value) =>
    match key.value.isNull, key.value.convert? .text with
    | false, some (.text name) => some (name, value.value)
    | _, _ => none
  let broken := (pairs items).any fun (key, _) =>
    key.failed || key.value.isNull || (key.value.convert? .text).isNone
  let failed := broken || items.any (·.failed)
  if broken || entries.any (·.isNone) then { value := .unknown .dynamic, failed }
  else { value := .ofAttributes (entries.filterMap id), failed }

/-- The elements that a loop goes through: `error` says whether it fails when it has none. -/
def loopElements (source : Outcome) : Except Outcome (List (Value × Value)) :=
  match source.value with
  | .unknown _ => .error { value := .unknown .dynamic, failed := source.failed }
  | v => match v.elements? with
      | some elements => .ok elements
      | none => .error .failure

/-- Whether an element stays in a loop: `none` when that cannot be told. -/
def included? (condition : Outcome) : Option Bool :=
  match condition.value.isNull, condition.value.convert? .bool with
  | false, some (.bool b) => some b
  | _, _ => none

/-- Whether a condition can be one at all. -/
def isCondition (condition : Outcome) : Bool :=
  !condition.failed && !condition.value.isNull && (condition.value.convert? .bool).isSome

/-- What a condition that cannot be told means for a loop: an unknown one does not fail. -/
def undecided (condition : Outcome) : Bool :=
  match condition.value with
  | .unknown _ => condition.failed
  | _ => true

/-- Puts values of equal keys together, in the order of the loop. -/
def groupEntries (entries : List (Text × Value)) : List (Text × Value) :=
  let names := entries.foldl (fun names (name, _) =>
    if names.contains name then names else names ++ [name]) ([] : List Text)
  names.map fun name =>
    (name, .tuple (entries.filterMap fun (other, value) => if other = name then some value else none))

def hasDuplicates : List (Text × Value) → Bool
  | [] => false
  | (name, _) :: rest => Entries.has rest name || hasDuplicates rest

/-- One turn of a loop that makes a tuple: the item, or nothing when it is left out. -/
structure Turn where
  kept : Option Value := none
  known : Bool := true
  failed : Bool := false

def itemTurn (filtered : Bool) (condition value : Unit → Outcome) : Turn :=
  let take (failed : Bool) : Turn :=
    let v := value ()
    { kept := some v.value, failed := failed || v.failed }
  if filtered then
    let c := condition ()
    match included? c with
    | none => { known := false, failed := undecided c }
    | some false => { failed := c.failed }
    | some true => take c.failed
  else take false

/-- One turn of a loop that makes an object. -/
structure EntryTurn where
  kept : Option (Text × Value) := none
  known : Bool := true
  failed : Bool := false

def entryTurn (filtered : Bool) (condition key value : Unit → Outcome) : EntryTurn :=
  let take (failed : Bool) : EntryTurn :=
    let k := key ()
    match k.value with
    | .unknown _ => { known := false, failed := failed || k.failed }
    | kv =>
        match kv.isNull, kv.convert? .text with
        | false, some (.text name) =>
            let v := value ()
            { kept := some (name, v.value), failed := failed || k.failed || v.failed }
        | _, _ => { known := false, failed := true }
  if filtered then
    let c := condition ()
    match included? c with
    | none => { known := false, failed := undecided c }
    | some false => { failed := c.failed }
    | some true => take c.failed
  else take false

def makeTuple (turns : List Turn) : Outcome :=
  let failed := turns.any (·.failed)
  if turns.all (·.known) then { value := .tuple (turns.filterMap (·.kept)), failed }
  else { value := .unknown .dynamic, failed }

def makeEntries (grouped : Bool) (turns : List EntryTurn) : Outcome :=
  let entries := turns.filterMap (·.kept)
  let failed := turns.any (·.failed) || (!grouped && hasDuplicates entries)
  if turns.all (·.known) then
    { value := .ofAttributes (if grouped then groupEntries entries else entries), failed }
  else { value := .unknown .dynamic, failed }

/-- The arguments of a call, with the items of the last one in its place if they are spread. -/
def arguments (spread : Bool) (args : List Outcome) : Option (List Outcome) :=
  if !spread then some args
  else match args.getLast? with
    | none => none
    | some last =>
        if last.failed then none
        else match last.value with
          | .list _ items | .tuple items => some (args.dropLast ++ items.map fun v => { value := v })
          | _ => none

def callFunction (functions : Entries Function) (name : Text) (spread : Bool)
    (args : List Outcome) : Outcome :=
  match functions.get? name, arguments spread args with
  | some f, some args =>
      if args.any (·.failed) then .failure
      else match f.call? (args.map (·.value)) with
        | some v => { value := v }
        | none => .failure
  | _, _ => .failure

mutual

def Expr.eval (env : Env) : Expr → Outcome
  | .literal v => { value := v }
  | .name n => .ofOption .dynamic (env.vars n)
  | .ambiguousKey _ => .failure
  | .group e => e.eval env
  | .member e name =>
      let v := e.eval env
      if v.failed then .failure else memberOf v.value name
  | .index e key =>
      let v := e.eval env
      let k := key.eval env
      if v.failed || k.failed then .failure else indexOf v.value k.value
  | .template parts => joinParts (evalAll env parts)
  | .negate e => signed .number (e.eval env) fun
      | .number n => some (.number n.neg)
      | _ => none
  | .complement e => signed .bool (e.eval env) fun
      | .bool b => some (.bool !b)
      | _ => none
  | .binary op a b => binary op (a.eval env) (b.eval env)
  | .conditional c a b => conditional (c.eval env) (a.eval env) (b.eval env)
  | .call f args spread => callFunction env.functions f spread (evalAll env args)
  | .tuple items =>
      let outcomes := evalAll env items
      { value := .tuple (outcomes.map (·.value)), failed := outcomes.any (·.failed) }
  | .object items => makeObject (evalAll env items)
  | .eachItem keyName valueName source value condition filtered =>
      let from_ := source.eval env
      match loopElements from_ with
      | .error outcome => outcome
      | .ok elements =>
          let unknowns := env.enter keyName valueName (.unknown .dynamic) (.unknown .dynamic)
          if filtered && !isCondition (condition.eval unknowns) then .failure
          else
            let made := makeTuple (elements.map fun (k, v) =>
              let env := env.enter keyName valueName k v
              itemTurn filtered (fun _ => condition.eval env) (fun _ => value.eval env))
            { made with failed := made.failed || from_.failed }
  | .eachEntry keyName valueName source key value condition filtered grouped =>
      let from_ := source.eval env
      match loopElements from_ with
      | .error outcome => outcome
      | .ok elements =>
          let unknowns := env.enter keyName valueName (.unknown .dynamic) (.unknown .dynamic)
          if filtered && !isCondition (condition.eval unknowns) then .failure
          else
            let made := makeEntries grouped (elements.map fun (k, v) =>
              let env := env.enter keyName valueName k v
              entryTurn filtered (fun _ => condition.eval env) (fun _ => key.eval env)
                (fun _ => value.eval env))
            { made with failed := made.failed || from_.failed }

def evalAll (env : Env) : List Expr → List Outcome
  | [] => []
  | e :: rest => e.eval env :: evalAll env rest

end

/-- The variables of a call: visible names without a value, or with one that has no HCL value, are
nothing. -/
def bindVisible (vars : Entries Datum) : List Text → Except Fault (Entries Value)
  | [] => .ok []
  | name :: rest => do
      let v ← Value.ofDatum? ((vars.get? name).getD .null)
      return (name, v.getD (.null .dynamic)) :: (← bindVisible vars rest)

def evalDefault (functions : Entries Function) (visible : List Text) (e : Expr)
    (vars : Entries Datum) : Except EvalFailure Datum :=
  match bindVisible vars visible with
  | .error fault => .error (.fault fault)
  | .ok bound =>
      let outcome := e.eval { vars := bound.get?, functions }
      if outcome.failed then
        .error (.cause (.because (.engine .hcl .executionFailed) (.message "evaluation failed")))
      else .ok outcome.value.toDatum

/-- The engine for HCL expressions, with functions beyond the standard ones. -/
def engine (extra : Entries Function) : Engine where
  compile source visible :=
    let functions := Entries.merge Function.standard extra
    let failed (cause : Cause) : Except Cause Expression :=
      .error (.because (.engine .hcl .compileFailed) cause)
    if source.isBlank then .error (.plain (.engine .hcl .empty))
    else match parse? source with
      | none => failed (.message "syntax error")
      | some e =>
          match (e.freeNames []).find? (fun n => !visible.contains n) with
          | some n => failed (.about .undefinedName n.quoted)
          | none =>
              match e.functions.filter fun n => !Entries.has functions n with
              | [] => .ok (Expression.ofData source (evalDefault functions visible e))
              | unknown =>
                  failed (.because (.engine .hcl .unknownFunction)
                    (.message (Text.join ", " unknown)))

end CallPlan.Hcl
