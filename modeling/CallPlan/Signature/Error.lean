import CallPlan.Condition
import CallPlan.Signature.Split
import CallPlan.Signature.Clause
import CallPlan.Signature.Assembler

/-!
The failure of a definition: the signature never becomes callable. It names the reason, the
parameters concerned and, if known, the whole text.
-/

namespace CallPlan

structure SignatureError where
  text : Text := []
  param : Text := []
  other : Text := []
  reason : Condition
  cause : Option Cause := none
deriving DecidableEq, Repr

namespace SignatureError

/-- The whole text in parentheses, where it is known. -/
def source (e : SignatureError) : Text :=
  if e.text.isEmpty then [] else " (" ++ e.text ++ ")"

/-- The parameters concerned, the earlier one first. -/
def subject (e : SignatureError) : Text :=
  if e.param.isEmpty then []
  else if e.other.isEmpty then ": " ++ e.param
  else ": " ++ e.other ++ " and " ++ e.param

def detail (e : SignatureError) : Text :=
  match e.cause with
  | some cause => ": " ++ cause.text
  | none => []

def message (e : SignatureError) : Text :=
  Condition.invalidSignature.message ++ e.source ++ ": " ++ e.reason.message ++ e.subject ++ e.detail

def conditions (e : SignatureError) : List Condition :=
  .invalidSignature :: e.reason :: (e.cause.map Cause.conditions).getD []

def ofSplit (text : Text) (fault : Split.Fault) : SignatureError where
  text := text
  reason := .malformed
  cause := some (if fault.isUnbalanced then .because .unbalanced (.message fault.detail)
    else .message fault.detail)

def ofClause (fault : Clause.Fault) : SignatureError where
  param := fault.clause
  reason := .malformed
  cause := some (.message fault.defect.message)

def ofConflict (p : Param) : Conflict → SignatureError
  | .duplicateName other => { param := p.display, other, reason := .duplicateName }
  | .requiredWithDefault => { param := p.display, reason := .requiredWithDefault }
  | .multipleSlurpy other => { param := p.display, other, reason := .multipleSlurpy }
  | .namedAfterOptional other => { param := p.display, other, reason := .namedAfterOptional }
  | .namedAfterSlurpy other => { param := p.display, other, reason := .namedAfterSlurpy }
  | .positionalAfterNamed other => { param := p.display, other, reason := .positionalAfterNamed }

end SignatureError
end CallPlan
