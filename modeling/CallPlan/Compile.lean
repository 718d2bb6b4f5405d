import CallPlan.Engine.Select
import CallPlan.Plan.Compile
import CallPlan.Signature.Parse

/-!
Compiling signatures: from a text, as a method, from a source of texts, or from a file. What can fail
before a plan is begun is reported apart from the compilation of the plan itself.
-/

namespace CallPlan

/-- The outcome of a compilation that may have failed before it began. -/
def Compilation.settle {α : Type} : Except Failure (Compilation α) → Except Failure α
  | .error failure => .error failure
  | .ok compilation => compilation.outcome.mapError .signature

namespace Config

def assemblyOptions (c : Config) : AssemblyOptions where
  invocant := if c.invocant.isEmpty then none else some c.invocant
  strictRequired := c.strictRequired

/-- Reads a signature as the settings ask. -/
def parse (c : Config) (text : Text) : Except Failure Signature :=
  (Signature.parse text c.assemblyOptions).mapError .signature

/-- Compiles a signature as the settings ask. An engine is made only for a signature with defaults. -/
def compile (c : Config) (files : Files) (text : Text) : Except Failure (Compilation Plan) := do
  let s ← c.parse text
  let engine ← if s.hasDefaults then some <$> c.selectEngine files else pure none
  return Plan.compile s
    { engine, scope := c.scope.getD (.static []), name := c.name, strictArity := c.strictArity }

end Config

/-- The settings that a list of changes makes, as far as the caller is concerned. -/
def configure (settings : List Setting) : Except Failure Config :=
  (Config.build settings).mapError .other

/-- Reads a signature under settings. -/
def parse (settings : List Setting) (text : Text) : Except Failure Signature := do
  (← configure settings).parse text

/-- Compiles a signature under settings. -/
def compile (files : Files) (settings : List Setting) (text : Text) :
    Except Failure (Compilation Plan) := do
  (← configure settings).compile files text

/-- The invocant of methods that name none. -/
def methodInvocant : Text := "self"

/-- Compiles the signature of a method. -/
def compileMethod (files : Files) (settings : List Setting) (text : Text) :
    Except Failure (Compilation Plan) :=
  compile files (.invocant methodInvocant :: settings) text

/-- Compiles the signature that the settings' source holds. -/
def compileLoaded (files : Files) (settings : List Setting) : Except Failure (Compilation Plan) := do
  let c ← configure settings
  match c.loader with
  | none => .error (.ofText "no loader specified")
  | some loader =>
      let content ← (loader.read files).mapError .other
      c.compile files (Text.ofBytes content)

/-- Compiles the signature in a file. -/
def compileFile (files : Files) (settings : List Setting) (path : Text) :
    Except Failure (Compilation Plan) := do
  let loader ← (Loader.ofDisk files.directory path).mapError .other
  compileLoaded files (settings ++ [.loader (some loader)])

/-- What a caller may give a plan beyond its signature. `none` where nothing was given. -/
inductive PlanSetting where
  | engine (engine : Option Engine)
  | scope (scope : Option Scope)
  | logHandler (given : Bool)
  | logger (given : Bool)
  | name (name : Text)
  | strictArity (strict : Bool)

namespace PlanSetting

/-- Applies one setting. A plan takes nothing for an answer nowhere. -/
def apply (options : PlanOptions) : PlanSetting → Except Text PlanOptions
  | .engine none => .error "default compiler cannot be nil"
  | .engine (some chosen) => .ok { options with engine := some chosen }
  | .scope none => .error "scope provider cannot be nil"
  | .scope (some chosen) => .ok { options with scope := chosen }
  | .logHandler given => if given then .ok options else .error "log handler cannot be nil"
  | .logger given => if given then .ok options else .error "logger cannot be nil"
  | .name chosen => .ok { options with name := chosen }
  | .strictArity strict => .ok { options with strictArity := strict }

def applyAll (options : PlanOptions) : List PlanSetting → Except Failure PlanOptions
  | [] => .ok options
  | setting :: rest => do
      let options ← (setting.apply options).mapError fun text =>
        .within "error applying plan option" (.ofText text)
      applyAll options rest

end PlanSetting

/-- Compiles a signature, or nothing, under settings of the plan alone. -/
def compilePlan (settings : List PlanSetting) (s : Option Signature) :
    Except Failure (Compilation Plan) :=
  match s with
  | none => .error (.other (.plain .noSignature))
  | some s => do return Plan.compile s (← PlanSetting.applyAll {} settings)

end CallPlan
