import CallPlan.Argument
import CallPlan.Command.Flags
import CallPlan.Compile
import CallPlan.Plan.Bind

/-!
A signature compiled as the flags ask, ready to be called with arguments that a user types.
-/

namespace CallPlan

/-- A plan, with the storage that its outer variables are in and whatever calls have left there. -/
structure Prepared where
  plan : Plan
  store : Store := {}

namespace Flags

/-- The outer variables that the flags define. Of two definitions of a name the later holds. -/
def definitions : List Text → Except Failure (Entries Datum)
  | [] => .ok []
  | definition :: rest =>
      match definition.cut '=' with
      | (g :: name, some value) => do
          return Entries.merge [(g :: name, Argument.read value)] (← definitions rest)
      | _ => .error (.ofText ("invalid --var " ++ definition.quoted ++ ", expected name=value"))

def dialect (flags : Flags) : Except Failure Dialect :=
  match Dialect.parse? flags.engine with
  | some dialect => .ok dialect
  | none => .error (.ofText (Dialect.unknownMessage flags.engine))

/-- What the flags choose besides the engine and its variables. -/
def choices (flags : Flags) : List Setting :=
  [.strictRequired flags.strictRequired, .strictArity flags.strictArity] ++
    (if flags.invocant.isEmpty then [] else [.invocant flags.invocant]) ++
    (if flags.name.isEmpty then [] else [.name flags.name])

/-- The source of the engine's module, if one is named. -/
def modules (flags : Flags) (files : Files) : Except Failure (List Setting) :=
  if flags.wasm.isEmpty then .ok []
  else do
    let loader ← (Loader.ofDisk files.directory flags.wasm).mapError .other
    return [.wasmLoader (some loader)]

/-- The settings that the flags make, and the storage that they refer to. -/
def settings (flags : Flags) (files : Files) : Except Failure (List Setting × Store) := do
  let dialect ← flags.dialect
  let (scope, store) := Store.writeEntries {} (← definitions flags.vars)
  let modules ← flags.modules files
  return ([.logging true, .engine dialect.name, .scope (some (.static scope))] ++ flags.choices ++ modules,
    store)

/-- Compiles a signature as the flags ask. -/
def prepare (flags : Flags) (files : Files) (text : Text) : Except Failure Prepared := do
  let (settings, store) ← flags.settings files
  let plan ← Compilation.settle (compile files settings text)
  return { plan, store }

end Flags

/-- The failure that a user sees when a call does not bind. -/
def BindFailure.failure : BindFailure → Failure
  | .refused e => .call e
  | .fault _ => .ofText "call has no meaning"

namespace Prepared

/-- The value of a parameter and whether it was left to its default, as one line. -/
def line (step : Step) (value : Datum) (supplied : Bool) : Text :=
  step.param.display ++ " = " ++ Argument.write value ++
    (if step.kind = .invocant || supplied then [] else Text.ofString "  # not supplied") ++ "\n"

/-- The lines of the parameters that steps bind, and the storage after their values have been taken. -/
def lines (bindings : Bindings) (store : Store) : List Step → Except Fault (List Text × Store)
  | [] => .ok ([], store)
  | step :: rest =>
      if step.kind = .collectNamed || step.kind = .rejectUnknown then lines bindings store rest
      else do
        let (value, store) := (← bindings.get? store step.param.name).getD (.null, store)
        let first := line step (store.read value) (bindings.supplied step.param.name)
        let (later, store) ← lines bindings store rest
        return (first :: later, store)

/-- Puts arguments into storage, and shows them there. -/
def pass (store : Store) (args : List Datum) : View × Store :=
  let (items, store) := store.writeItems args
  let (cell, store) := store.alloc (.list items)
  ({ cell, start := 0, length := items.length }, store)

/-- The lines of a call that is over, or its failure, and the plan over the storage it leaves. -/
def report (p : Prepared) : Except BindFailure Bindings × Session → Except Failure (List Text) × Prepared
  | (.error failure, session) => (.error failure.failure, { p with store := session.store })
  | (.ok bindings, session) =>
      match lines bindings session.store p.plan.steps with
      | .error fault => (.error (BindFailure.fault fault).failure, { p with store := session.store })
      | .ok (lines, store) => (.ok lines, { p with store })

/-- Binds arguments, and gives one line for each parameter. The next call starts in the storage that
this one leaves. -/
def bind (p : Prepared) (args : List Datum) : Except Failure (List Text) × Prepared :=
  let (view, store) := pass p.store args
  p.report (p.plan.call [] { routine := p.plan.name } store view)

end Prepared
end CallPlan
