import CallPlan.Plan.Basic
import CallPlan.Default.Source

/-!
Compiling a signature into a plan. Each default is compiled once, in declaration order, and may refer
to the scope, the invocant and the parameters before its own. What the engine is asked to compile is
returned with the plan.
-/

namespace CallPlan

/-- What an engine is asked to compile, and the names it may refer to. -/
structure CompileRequest where
  source : Text
  visible : List Text
deriving DecidableEq, Repr

/-- The settings of a plan besides its signature. -/
structure PlanOptions where
  engine : Option Engine := none
  scope : Scope := .static []
  name : Text := []
  strictArity : Bool := false

/-- A compilation: the requests made, and the outcome. -/
structure Compilation (α : Type) where
  requests : List CompileRequest := []
  outcome : Except SignatureError α

namespace Compilation

/-- Continues after a success; the first failure ends the compilation. -/
def andThen {α β : Type} (c : Compilation α) (next : α → Compilation β) : Compilation β :=
  match c.outcome with
  | .error e => { requests := c.requests, outcome := .error e }
  | .ok a => { requests := c.requests ++ (next a).requests, outcome := (next a).outcome }

instance : Monad Compilation where
  pure a := { outcome := .ok a }
  bind := andThen

end Compilation

namespace Plan

/-- The length of a plan's identifier, which is the start of the signature's digest. -/
def idLength : Nat := 16

def defaultError (s : Signature) (p : Param) (cause : Cause) : SignatureError where
  text := s.text
  param := p.display
  reason := .invalidDefault
  cause := some cause

/-- Compiles the default of a parameter, if it has one. -/
def compileDefault (options : PlanOptions) (s : Signature) (p : Param) (visible : List Text) :
    Compilation (Option Expression) :=
  match p.defaultSource, options.engine with
  | none, _ => { outcome := .ok none }
  | some _, none => { outcome := .error (defaultError s p (.plain .noDefaultCompiler)) }
  | some source, some engine =>
      let request : CompileRequest := { source := Source.stripSigils source, visible }
      { requests := [request]
        outcome := match engine.compile request.source request.visible with
          | .ok e => .ok (some e)
          | .error cause => .error (defaultError s p cause) }

def positionalStep (p : Param) (default? : Option Expression) : Step where
  kind := if p.slurpy then .slurpy else .positional
  param := p
  index := p.index.getD 0
  required := !p.optional && !p.slurpy
  mode := .ofParam p
  default? := default?

def namedStep (p : Param) (default? : Option Expression) : Step where
  kind := .named
  param := p
  required := !p.optional
  mode := .ofParam p
  default? := default?

/-- The steps of parameters in order. Each default sees the names before its parameter. -/
def compileParams (options : PlanOptions) (s : Signature)
    (step : Param → Option Expression → Step) (visible : List Text) :
    List Param → Compilation (List Step)
  | [] => pure []
  | p :: rest => do
      let default? ← compileDefault options s p visible
      let steps ← compileParams options s step (visible ++ [p.name]) rest
      return step p default? :: steps

def invocantStep (name : Text) : Step where
  kind := .invocant
  param := { name }
  required := true

/-- Named parameters are bound after their pairs are read, and then no key may be left. -/
def namedSteps (positional : Nat) : List Step → List Step
  | [] => []
  | steps => { kind := .collectNamed, index := positional } :: steps ++ [{ kind := .rejectUnknown }]

/-- Compiles a signature. -/
def compile (s : Signature) (options : PlanOptions) : Compilation Plan := do
  let visible := options.scope.names ++ s.invocant.toList
  let positional ← compileParams options s positionalStep visible s.positional
  let named ← compileParams options s namedStep (visible ++ s.positional.map (·.name)) s.named
  return {
    id := s.digest.take idLength
    name := options.name
    signature := s
    steps := (s.invocant.map invocantStep).toList ++ positional ++
      namedSteps s.positional.length named
    strictArity := options.strictArity
    scope := options.scope }

end Plan
end CallPlan
