import CallPlan.Signature.Assembler

/-!
An assembler that is changed in place. Entering a parameter checks one rule and sets one field at a time,
and what has been set stays set if a later check fails.
-/

namespace CallPlan

/-- Changes to an assembler, which are kept when a later one fails. -/
abbrev Assembly := ExceptT Conflict (StateM Assembler)

namespace Assembler

/-- Fails if an earlier parameter stands against the one that is entered. -/
def refuseAfter (conflict : Text → Conflict) : Option Text → Assembly Unit
  | some other => throw (conflict other)
  | none => return

def refuseIf (broken : Bool) (conflict : Conflict) : Assembly Unit :=
  if broken then throw conflict else return

/-- The rules that hold for every parameter. -/
def enterCommon (p : Param) : Assembly Unit := do
  refuseAfter .duplicateName ((← get).seen.lookup p.name)
  refuseIf ((← get).strictRequired && p.required && p.hasDefault) .requiredWithDefault
  let a ← get
  refuseAfter .multipleSlurpy (if p.slurpy then a.slurpy else none)

def enterNamed (p : Param) : Assembly Unit := do
  refuseAfter .namedAfterOptional (← get).optional
  refuseAfter .namedAfterSlurpy (← get).slurpyPositional
  modify fun a => { a with signature.named := a.signature.named ++ [{ p with index := none }] }
  modify fun a => { a with named := a.named <|> some p.display }

def enterPositional (p : Param) : Assembly Unit := do
  refuseAfter .positionalAfterNamed (← get).named
  modify fun a => { a with
    signature.positional := a.signature.positional ++
      [{ p with index := some a.signature.positional.length }] }
  modify fun a => if p.optional then { a with optional := a.optional <|> some p.display } else a
  modify fun a => if p.slurpy then { a with slurpyPositional := some p.display } else a

/-- Enters a parameter. The raw argument list only sets a flag. -/
def enter (p : Param) : Assembly Unit :=
  if p.passthrough then
    modify fun a => { a with signature.passthrough := true }
  else do
    enterCommon p
    match p.role with
    | .named => enterNamed p
    | .positional => enterPositional p
    modify fun a => if p.slurpy then { a with slurpy := some p.display } else a
    modify fun a => { a with seen := (p.name, p.display) :: a.seen }

/-- Enters parameters one after the other, whether or not they are refused: the outcome of each, and the
assembler at the end. -/
def enterAll (a : Assembler) : List Param → List (Except Conflict Unit) × Assembler
  | [] => ([], a)
  | p :: rest =>
      let (outcome, next) := (enter p).run.run a
      let (outcomes, last) := next.enterAll rest
      (outcome :: outcomes, last)

end Assembler
end CallPlan
