import CallPlan.Argument
import CallPlan.Default.Engine
import CallPlan.Engine.Logging
import CallPlan.Engine.Wasm
import CallPlan.Text.Identifier

/-!
Defaults that are functions of a plugin. A default names the function; the visible variables go to it
as a JSON object, and its output is the value. Each call runs in an instance of its own, which is
closed when the call is over.
-/

namespace CallPlan.Extism

/-- What a function gives back: a code that is zero for success, and its output. -/
structure Reply where
  exit : Nat := 0
  output : List UInt8 := []
deriving DecidableEq, Repr

/-- A plugin: its functions, the instances it is yet to give, of which some fail, and how many of them
were closed. When the instances are used up, all further ones succeed. -/
structure Plugin where
  functions : Entries (Except Text Reply) := []
  instances : List (Option Text) := []
  closed : Nat := 0
  /-- Why the plugin itself cannot be closed. -/
  closeFailure : Option Text := none

namespace Plugin

def ofModule (m : Wasm.Module) : Plugin where
  functions := m.functions.map fun (name, exit) => (name, .ok { exit })

/-- The next instance: why it fails, if it does. -/
def instantiate (p : Plugin) : Option Text × Plugin :=
  (p.instances.head?.getD none, { p with instances := p.instances.tail })

def close (p : Plugin) : Plugin := { p with closed := p.closed + 1 }

end Plugin

/-- What callers may tell the engine when they make it. -/
inductive Setting where
  | plugin (plugin : Option Plugin)
  | runtime (given : Bool)
  | log (setting : LogSetting)
  /-- A setting that changes nothing that could be seen. -/
  | other

def Setting.complaint? : Setting → Option Text
  | .plugin none => some "plugin cannot be nil"
  | .runtime false => some "runtime config cannot be nil"
  | .log setting => setting.complaint?
  | _ => none

def applyAll (given : Option Plugin) : List Setting → Except Cause (Option Plugin)
  | [] => .ok given
  | setting :: rest =>
      match setting.complaint?, setting with
      | some complaint, _ => .error (LogSetting.refused complaint)
      | none, .plugin (some p) => applyAll (some p) rest
      | none, _ => applyAll given rest

/-- The plugin of an engine: one that is given, or the module. -/
def create (module : List UInt8) (settings : List Setting) : Except Cause Plugin := do
  match ← applyAll none settings with
  | some p => return p
  | none =>
      if module.isEmpty then
        .error (.within "invalid compiler configuration" (.plain (.engine .extism .empty)))
      else match Wasm.Module.read? module with
        | some m => return .ofModule m
        | none =>
            .error (.because (.engine .extism .compileFailed) (.message "not a module"))

/-- Checks that a default names a function of the plugin, in an instance of its own. -/
def resolve (p : Plugin) (source : Text) : Except Cause Text × Plugin :=
  let name := source.trim
  if !name.isIdentifier then
    (.error (.because (.engine .extism .invalidFunction) (.message source.quoted)), p)
  else match p.instantiate with
    | (some failure, p) =>
        (.error (.because (.engine .extism .compileFailed) (.message failure)), p)
    | (none, p) =>
        if p.functions.has name then (.ok name, p.close)
        else (.error (.because (.engine .extism .functionMissing) (.message name)), p.close)

/-- The visible variables as a JSON object. What JSON cannot hold is left out. -/
def encodeInput (visible : List Text) (vars : Entries Datum) : Text :=
  let members := visible.filterMap fun name => do
    let datum ← vars.get? name
    return (name, ← datum.toJson?)
  (Json.object (Entries.sorted (Entries.ofList members))).render { escapeHtml := true }

/-- The value of an output: nothing when it is blank. -/
def decodeOutput (output : List UInt8) : Datum :=
  let t := Text.ofBytes output
  if t.isBlank then .null else Argument.read t

/-- One call of a function: what came of it, what the function was given, and the plugin after it. -/
structure Call where
  outcome : Except Cause Datum
  input : Option Text
  plugin : Plugin

def failed (cause : Cause) : Except Cause Datum :=
  .error (.because (.engine .extism .executionFailed) cause)

def call (p : Plugin) (name : Text) (visible : List Text) (vars : Entries Datum) : Call :=
  match p.instantiate with
  | (some failure, p) =>
      { outcome := failed (.within "failed to create instance" (.message failure))
        input := none, plugin := p }
  | (none, p) =>
      let outcome := match p.functions.get? name with
        | none => failed (.within name (.message "unknown function"))
        | some (.error trap) => failed (.within name (.message trap))
        | some (.ok reply) =>
            if reply.exit ≠ 0 then
              failed (.message (name ++ " returned exit code " ++ Text.ofNat reply.exit))
            else .ok (decodeOutput reply.output)
      { outcome, input := some (encodeInput visible vars), plugin := p.close }

/-- Calls a function once for each set of variables. -/
def callAll (p : Plugin) (name : Text) (visible : List Text) :
    List (Entries Datum) → List Call × Plugin
  | [] => ([], p)
  | vars :: rest =>
      let c := call p name visible vars
      let (calls, p) := callAll c.plugin name visible rest
      (c :: calls, p)

/-- The engine for the functions of a plugin. -/
def engine (p : Plugin) : Engine where
  compile source visible := do
    let name ← (resolve p source).1
    return Expression.ofData name fun vars =>
      (call p name visible vars).outcome.mapError .cause

end CallPlan.Extism
