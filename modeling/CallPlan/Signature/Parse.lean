import CallPlan.Signature.Error
import CallPlan.Signature.Invocant

/-!
Reading a whole signature: the invocant, the clauses, and each clause's parameter in turn.
-/

namespace CallPlan.Signature

/-- Reads a clause and adds its parameter. -/
def addClause (a : Assembler) (clause : Text) : Except SignatureError Assembler := do
  let p ← (Clause.parse clause).mapError SignatureError.ofClause
  (a.add p).mapError (SignatureError.ofConflict p)

def addClauses (a : Assembler) : List Text → Except SignatureError Assembler
  | [] => .ok a
  | clause :: rest => do addClauses (← addClause a clause) rest

/-- Reads a parameter list under the given options. -/
def readList (options : AssemblyOptions) (list : Text) : Except SignatureError Assembler := do
  let clauses ← (Split.split list).mapError (SignatureError.ofSplit list)
  addClauses (.new options) clauses

/-- Reads a signature. An invocant that the text declares goes before the implied one, and every
error carries the whole text. -/
def parse (text : Text) (options : AssemblyOptions) : Except SignatureError Signature :=
  let (declared, list) := Invocant.split text
  let options := { options with invocant := declared <|> options.invocant }
  match readList options list with
  | .ok a => .ok (a.setText text).signature
  | .error e => .error { e with text }

end CallPlan.Signature
