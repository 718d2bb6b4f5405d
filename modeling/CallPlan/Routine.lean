import CallPlan.Compile
import CallPlan.Plan.Bind

/-!
Routines: a plan with a name and a body that runs on the bindings of each call.
-/

namespace CallPlan

/-- What a routine does with its bindings: a value and the storage it is in, or a failure. -/
abbrev Body := Store → Bindings → Except Failure Value × Store

structure Routine where
  name : Text
  plan : Plan
  body : Body

namespace Routine

/-- Defines a routine, or a method. Its name goes before any other in the settings. -/
def define (files : Files) (name text : Text) (isMethod : Bool) (body : Option Body)
    (settings : List Setting) : Except Failure Routine :=
  match body with
  | none => .error (.ofText "routine body cannot be nil")
  | some body =>
      let compile := if isMethod then compileMethod else CallPlan.compile
      match Compilation.settle (compile files (settings ++ [.name name]) text) with
      | .ok plan => .ok { name, plan, body }
      | .error failure => .error (.within ("routine " ++ name) failure)

/-- The routine with its signature. -/
def render (r : Routine) : Text := r.name ++ "(" ++ r.plan.signature.render ++ ")"

/-- How a call of a routine ends without a value. -/
inductive CallFailure where
  | bind (failure : BindFailure)
  | body (failure : Failure)
deriving DecidableEq, Repr

/-- Binds an argument list and runs the body. -/
def call (r : Routine) (context : Context) (site : Site) (store : Store) (args : View) :
    Except CallFailure Value × Store :=
  match r.plan.call context site store args with
  | (.error failure, session) => (.error (.bind failure), session.store)
  | (.ok bindings, session) =>
      match r.body session.store bindings with
      | (.ok value, store) => (.ok value, store)
      | (.error failure, store) => (.error (.body failure), store)

end Routine
end CallPlan
