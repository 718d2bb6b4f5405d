import CallPlan.Plan.Step
import CallPlan.Document
import CallPlan.Scope

/-!
A binding plan: the steps that bind an argument list for one signature.
-/

namespace CallPlan

structure Plan where
  id : Text
  name : Text := []
  signature : Signature
  steps : List Step
  strictArity : Bool := false
  scope : Scope := .static []

namespace Plan

/-- The names of the named parameters in declaration order. -/
def namedNames (p : Plan) : List Text := p.signature.named.map (·.name)

def positionalCount (p : Plan) : Nat := p.signature.positional.length

/-- Pads a number to three columns. -/
def column (n : Nat) : Text :=
  let digits := Text.ofNat n
  List.replicate (3 - digits.length) (.char ' ') ++ digits

def renderSteps (number : Nat) : List Step → Text
  | [] => []
  | step :: rest => column number ++ "  " ++ step.render ++ "\n" ++ renderSteps (number + 1) rest

/-- The plan, one step to a line. -/
def render (p : Plan) : Text :=
  "plan " ++ p.id ++ " for (" ++ p.signature.render ++ ")\n" ++ renderSteps 0 p.steps

end Plan
end CallPlan
