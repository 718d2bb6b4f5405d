import CallPlan.Plan.CallError
import CallPlan.Signature.Error

/-!
Every way in which the library reports that something failed: a signature that cannot be defined, a
call that cannot be made, or anything else.
-/

namespace CallPlan

inductive Failure where
  | signature (error : SignatureError)
  | call (error : CallError)
  | other (cause : Cause)
  /-- A failure seen from where it happened. -/
  | within (place : Text) (failure : Failure)
deriving DecidableEq, Repr

namespace Failure

def message : Failure → Text
  | .signature e => e.message
  | .call e => e.message
  | .other cause => cause.text
  | .within place failure => place ++ ": " ++ failure.message

/-- The conditions that hold of the failure. -/
def conditions : Failure → List Condition
  | .signature e => e.conditions
  | .call e => e.conditions
  | .other cause => cause.conditions
  | .within _ failure => failure.conditions

/-- The failed definition behind a failure. -/
def signature? : Failure → Option SignatureError
  | .signature e => some e
  | .within _ failure => failure.signature?
  | _ => none

/-- The failed call behind a failure. -/
def call? : Failure → Option CallError
  | .call e => some e
  | .within _ failure => failure.call?
  | _ => none

/-- A failure that is known only by its message. -/
def ofText (text : Text) : Failure := .other (.message text)

end Failure
end CallPlan
