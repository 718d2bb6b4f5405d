import CallPlan.Config
import CallPlan.Engine.Extism
import CallPlan.Engine.Hcl.Eval
import CallPlan.Engine.Risor.Eval
import CallPlan.Engine.Starlark.Eval
import CallPlan.Failure

/-!
The engine that the settings ask for.
-/

namespace CallPlan.Config

/-- The engine of a dialect. Only that of modules needs something of the settings. -/
def dialectEngine (files : Files) (c : Config) : Dialect → Except Cause Engine
  | .starlark => .ok (Starlark.engine 0)
  | .risor => .ok (Risor.engine [] [])
  | .hcl => .ok (Hcl.engine [])
  | .extism =>
      match c.wasmLoader with
      | none => .error (.message "extism engine requires a wasm loader")
      | some loader => do return Extism.engine (← Extism.create (← loader.read files) [])

/-- The engine of the settings: one that is given goes before one that is named. -/
def selectEngine (files : Files) (c : Config) : Except Failure Engine :=
  match c.compiler with
  | some engine => .ok engine
  | none =>
      match Dialect.ofName? c.engine with
      | none => .error (.ofText ("unknown engine " ++ c.engine.quoted))
      | some d => (c.dialectEngine files d).mapError fun cause =>
          .other (.within ("failed to create " ++ d.name ++ " engine") cause)

end CallPlan.Config
