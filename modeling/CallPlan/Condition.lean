import CallPlan.Dialect

/-!
Failures. A `Condition` is a kind of failure that callers can test for. A `Cause` says how a failure
came about: it has a message and the conditions that hold of it.
-/

namespace CallPlan

/-- What can fail in an engine of any dialect. -/
inductive EngineCondition where
  | empty
  | compileFailed
  | executionFailed
  | unsupportedValue
  | unknownFunction
  | noInstructions
  | invalidFunction
  | functionMissing
deriving DecidableEq, Repr

inductive Condition where
  | invalidSignature
  | malformed
  | unbalanced
  | multipleSlurpy
  | namedAfterOptional
  | positionalAfterNamed
  | namedAfterSlurpy
  | duplicateName
  | requiredWithDefault
  | invalidDefault
  | missingArgument
  | unexpectedNamedArgument
  | malformedNamedArguments
  | notAReference
  | tooManyArguments
  | defaultFailed
  | readOnlyBinding
  | unknownBinding
  | notAssignable
  | noSignature
  | noDefaultCompiler
  | noDocumentSignature
  | unsupportedVersion
  | decodeFailed
  | emptyContextKey
  | invalidScopeData
  | undeclaredName
  | undefinedName
  | emptySource
  | evaluationFailed
  | schemeUnsupported
  | sourceUnavailable
  | engine (dialect : Dialect) (condition : EngineCondition)
deriving DecidableEq, Repr

def EngineCondition.message (dialect : Dialect) : EngineCondition → Text
  | .empty => match dialect with
      | .extism => "wasm module is empty"
      | _ => dialect.name ++ " default expression is empty"
  | .compileFailed => match dialect with
      | .extism => "failed to compile wasm module"
      | _ => "failed to compile " ++ dialect.name ++ " default expression"
  | .executionFailed => match dialect with
      | .extism => "wasm default function failed"
      | _ => dialect.name ++ " default expression failed"
  | .unsupportedValue => "unsupported value type"
  | .unknownFunction => "call to unknown function"
  | .noInstructions => dialect.name ++ " bytecode has zero instructions"
  | .invalidFunction => "default is not an exported function name"
  | .functionMissing => "function not exported by wasm module"

def Condition.message : Condition → Text
  | .invalidSignature => "invalid signature"
  | .malformed => "malformed signature"
  | .unbalanced => "unbalanced delimiters"
  | .multipleSlurpy => "multiple slurpy parameters"
  | .namedAfterOptional => "named parameter mixed with optional positional"
  | .positionalAfterNamed => "positional parameter after named parameter"
  | .namedAfterSlurpy => "named parameter after slurpy positional"
  | .duplicateName => "duplicate parameter name"
  | .requiredWithDefault => "required parameter with default"
  | .invalidDefault => "invalid default expression"
  | .missingArgument => "missing required argument"
  | .unexpectedNamedArgument => "unexpected named argument"
  | .malformedNamedArguments => "malformed named arguments"
  | .notAReference => "argument is not a reference"
  | .tooManyArguments => "too many arguments"
  | .defaultFailed => "default expression failed"
  | .readOnlyBinding => "binding is read-only"
  | .unknownBinding => "no such binding"
  | .notAssignable => "value is not assignable to binding"
  | .noSignature => "signature model is nil"
  | .noDefaultCompiler => "no default expression compiler configured"
  | .noDocumentSignature => "signature model is nil"
  | .unsupportedVersion => "unsupported signature document version"
  | .decodeFailed => "failed to decode signature document"
  | .emptyContextKey => "context key is empty"
  | .invalidScopeData => "invalid scope data"
  | .undeclaredName => "name is not declared by the provider"
  | .undefinedName => "reference to undefined name"
  | .emptySource => "default expression is empty"
  | .evaluationFailed => "default expression failed"
  | .schemeUnsupported => "unsupported scheme"
  | .sourceUnavailable => "source not available"
  | .engine dialect condition => condition.message dialect

inductive Cause where
  /-- A condition and nothing more. -/
  | plain (condition : Condition)
  /-- A message of which no condition holds. -/
  | message (text : Text)
  /-- A condition and the thing it holds of. -/
  | about (condition : Condition) (thing : Text)
  /-- A condition, and what brought it about. -/
  | because (condition : Condition) (cause : Cause)
  /-- A cause seen from where it happened. -/
  | within (place : Text) (cause : Cause)
  /-- Several causes at once, one to a line. -/
  | both (first second : Cause)
deriving DecidableEq, Repr

namespace Cause

def text : Cause → Text
  | .plain c => c.message
  | .message t => t
  | .about c thing => c.message ++ " " ++ thing
  | .because c cause => c.message ++ ": " ++ cause.text
  | .within place cause => place ++ ": " ++ cause.text
  | .both first second => first.text ++ "\n" ++ second.text

/-- The conditions that hold of the failure. -/
def conditions : Cause → List Condition
  | .plain c | .about c _ => [c]
  | .message _ => []
  | .because c cause => c :: cause.conditions
  | .within _ cause => cause.conditions
  | .both first second => first.conditions ++ second.conditions

end Cause
end CallPlan
