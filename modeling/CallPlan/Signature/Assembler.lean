import CallPlan.Signature.Basic

/-!
Parameters are added to a signature one at a time, each checked against those already there. A
refused parameter leaves the assembler as it was: `add` returns a new one only on success.
-/

namespace CallPlan

/-- The rule a parameter breaks, with the display form of the earlier parameter it clashes with. -/
inductive Conflict where
  | duplicateName (other : Text)
  | requiredWithDefault
  | multipleSlurpy (other : Text)
  | namedAfterOptional (other : Text)
  | namedAfterSlurpy (other : Text)
  | positionalAfterNamed (other : Text)
deriving DecidableEq, Repr

/-- How a signature is assembled: the implied invocant, and whether a parameter may be marked
required and have a default. -/
structure AssemblyOptions where
  invocant : Option Text := none
  strictRequired : Bool := false
deriving DecidableEq, Repr

/-- The signature so far and the display forms that later parameters are checked against. -/
structure Assembler where
  strictRequired : Bool := false
  signature : Signature := {}
  seen : List (Text × Text) := []
  slurpy : Option Text := none
  slurpyPositional : Option Text := none
  optional : Option Text := none
  named : Option Text := none
deriving DecidableEq, Repr

namespace Assembler

def new (options : AssemblyOptions) : Assembler where
  strictRequired := options.strictRequired
  signature := { invocant := options.invocant }
  seen := match options.invocant with
    | some name => [(name, .char '$' :: name)]
    | none => []

/-- The rules that hold for every parameter. -/
def checkCommon (a : Assembler) (p : Param) : Except Conflict Unit :=
  match a.seen.lookup p.name with
  | some other => .error (.duplicateName other)
  | none =>
      if a.strictRequired && p.required && p.hasDefault then .error .requiredWithDefault
      else match p.slurpy, a.slurpy with
        | true, some other => .error (.multipleSlurpy other)
        | _, _ => .ok ()

/-- The rules on the order of parameters. -/
def checkOrder (a : Assembler) (p : Param) : Except Conflict Unit :=
  match p.role with
  | .named =>
      match a.optional, a.slurpyPositional with
      | some other, _ => .error (.namedAfterOptional other)
      | none, some other => .error (.namedAfterSlurpy other)
      | none, none => .ok ()
  | .positional =>
      match a.named with
      | some other => .error (.positionalAfterNamed other)
      | none => .ok ()

/-- Records an accepted parameter. -/
def record (a : Assembler) (p : Param) : Assembler :=
  let display := p.display
  let s := a.signature
  let a := match p.role with
    | .named =>
        { a with
          signature := { s with named := s.named ++ [{ p with index := none }] }
          named := a.named <|> some display }
    | .positional =>
        { a with
          signature := { s with
            positional := s.positional ++ [{ p with index := some s.positional.length }] }
          optional := if p.optional then a.optional <|> some display else a.optional
          slurpyPositional := if p.slurpy then some display else a.slurpyPositional }
  { a with
    slurpy := if p.slurpy then some display else a.slurpy
    seen := (p.name, display) :: a.seen }

/-- Adds a parameter if no rule speaks against it. The raw argument list only sets a flag. -/
def add (a : Assembler) (p : Param) : Except Conflict Assembler :=
  if p.passthrough then .ok { a with signature := { a.signature with passthrough := true } }
  else do
    a.checkCommon p
    a.checkOrder p
    return a.record p

/-- Records the text that the signature was written as. -/
def setText (a : Assembler) (text : Text) : Assembler :=
  { a with signature := { a.signature with text := text.trim } }

end Assembler
end CallPlan
