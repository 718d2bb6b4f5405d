import CallPlan.Condition
import CallPlan.Data.Store

/-!
How default expressions are compiled and evaluated. An engine turns a source into an expression once,
when a signature is compiled; the expression is evaluated on each call that needs it.
-/

namespace CallPlan

/-- A step that has no meaning, and that a checked call never takes. -/
inductive Fault where
  | indexOutOfRange
  | notAText
  | noTarget
  | notANumber
deriving DecidableEq, Repr

/-- Why an evaluation gives no value: a failure it reports, or a step without meaning. -/
inductive EvalFailure where
  | cause (cause : Cause)
  | fault (fault : Fault)
deriving DecidableEq, Repr

/-- A compiled default. Its value may share storage with the variables. -/
structure Expression where
  source : Text
  eval : Store → Entries Value → Except EvalFailure (Value × Store)

/-- A compiler of default expressions, given the names that a source may refer to. -/
structure Engine where
  compile : Text → List Text → Except Cause Expression

/-- An expression that sees its variables as plain data and gives plain data back. -/
def Expression.ofData (source : Text)
    (eval : Entries Datum → Except EvalFailure Datum) : Expression where
  source
  eval store vars := do
    let datum ← eval (vars.map fun (name, value) => (name, store.read value))
    return store.write datum

end CallPlan
