import CallPlan.Default.Engine
import CallPlan.Loader
import CallPlan.Scope

/-!
The settings under which signatures are compiled, and the changes that callers make to them.
-/

namespace CallPlan

/-- All settings. The engine is kept by name, which need not be one that exists. -/
structure Config where
  logging : Bool := false
  invocant : Text := []
  engine : Text := []
  compiler : Option Engine := none
  scope : Option Scope := none
  name : Text := []
  strictRequired : Bool := false
  strictArity : Bool := false
  loader : Option Loader := none
  wasmLoader : Option Loader := none

/-- One change of the settings. The first group refuses or ignores values that make no sense; the
last four assign as they are told. -/
inductive Setting where
  | logging (given : Bool)
  | invocant (name : Text)
  | engine (name : Text)
  | compiler (engine : Option Engine)
  | scope (scope : Option Scope)
  | name (name : Text)
  | strictRequired (strict : Bool)
  | strictArity (strict : Bool)
  | loader (loader : Option Loader)
  | wasmLoader (loader : Option Loader)
  | defaults
  | assignEngine (name : Text)
  | assignInvocant (name : Text)
  | assignLogging (given : Bool)
  | assignScope (scope : Option Scope)

namespace Config

/-- The settings that hold unless others are chosen. -/
def initial : Config where
  logging := true
  engine := Dialect.starlark.name
  scope := some (.static [])

/-- Fills in what is not set. -/
def withDefaults (c : Config) : Config :=
  { c with
    logging := true
    scope := c.scope <|> some (.static [])
    engine := if c.engine.isEmpty then Dialect.starlark.name else c.engine }

def apply (c : Config) : Setting → Except Cause Config
  | .logging given => .ok { c with logging := c.logging || given }
  | .invocant name =>
      if name.isEmpty then .error (.message "invocant name cannot be empty")
      else .ok { c with invocant := name }
  | .engine name =>
      if (Dialect.ofName? name).isNone then .error (.message ("unknown engine " ++ name.quoted))
      else .ok { c with engine := name }
  | .compiler engine => .ok { c with compiler := engine <|> c.compiler }
  | .scope scope => .ok { c with scope := scope <|> c.scope }
  | .name name => .ok { c with name }
  | .strictRequired strict => .ok { c with strictRequired := strict }
  | .strictArity strict => .ok { c with strictArity := strict }
  | .loader loader => .ok { c with loader := loader <|> c.loader }
  | .wasmLoader loader => .ok { c with wasmLoader := loader <|> c.wasmLoader }
  | .defaults => .ok c.withDefaults
  | .assignEngine name => .ok { c with engine := name }
  | .assignInvocant name => .ok { c with invocant := name }
  | .assignLogging given => .ok { c with logging := given }
  | .assignScope scope => .ok { c with scope }

def applyAll (c : Config) : List Setting → Except Cause Config
  | [] => .ok c
  | setting :: rest => do (← c.apply setting).applyAll rest

/-- What the settings lack, all at once. -/
def complaints (c : Config) : List Text :=
  (if c.logging then [] else [Text.ofString "no logger specified"]) ++
    (if c.compiler.isNone && (Dialect.ofName? c.engine).isNone then
      [Text.ofString "no engine or default compiler specified"] else []) ++
    (if c.scope.isNone then [Text.ofString "no scope provider specified"] else []) ++
    (if c.engine = Dialect.extism.name && c.compiler.isNone && c.wasmLoader.isNone then
      [Text.ofString "extism engine requires a wasm loader"] else [])

def validate (c : Config) : Except Cause Unit :=
  match c.complaints with
  | [] => .ok ()
  | complaints => .error (.message (Text.join "\n" complaints))

/-- The settings that a list of changes makes of the initial ones. -/
def build (settings : List Setting) : Except Cause Config := do
  let c := (← initial.applyAll settings).withDefaults
  c.validate
  return c

end Config
end CallPlan
