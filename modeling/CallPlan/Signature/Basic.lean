import CallPlan.Signature.Param

/-!
A validated signature: an optional invocant, positional parameters in index order and named
parameters in declaration order. `Signature.render` is its canonical text.
-/

namespace CallPlan

structure Signature where
  text : Text := []
  invocant : Option Text := none
  positional : List Param := []
  named : List Param := []
  passthrough : Bool := false
deriving DecidableEq, Repr, Inhabited

namespace Signature

/-- The positional parameters followed by the named ones. -/
def params (s : Signature) : List Param := s.positional ++ s.named

def hasNamed (s : Signature) : Bool := !s.named.isEmpty

def hasPositional (s : Signature) : Bool := !s.positional.isEmpty

def hasOptionalPositional (s : Signature) : Bool := s.positional.any (·.optional)

def slurpyCount (s : Signature) : Nat := s.params.countP (·.slurpy)

def hasDefaults (s : Signature) : Bool := s.params.any (·.hasDefault)

/-- The signature in canonical form. -/
def render (s : Signature) : Text :=
  let clauses := (if s.passthrough then [Param.passthroughName] else []) ++
    s.params.map Param.render
  let list := Text.join ", " clauses
  Text.trim (match s.invocant with
    | some name => .char '$' :: name ++ ": " ++ list
    | none => list)

end Signature
end CallPlan
