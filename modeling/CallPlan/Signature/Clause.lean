import CallPlan.Signature.Param
import CallPlan.Text.Quoted

/-!
Reading one clause into a parameter:

    [:][\]<sigil><name>[?|!] [is <trait>]... [= <default>]

The markers come first, then the head up to the first equals sign, then the default expression.
The flags of the parameter follow from what is written.
-/

namespace CallPlan.Clause

/-- What a clause lacks. -/
inductive Defect where
  | empty
  | emptyDefault
  | missingName
  | unexpected (word : Text)
  | invalidTrait (word : Text)
  | passthroughMarked
  | unknownSigil (byte : UInt8)
  | optionalAndRequired
  | invalidName (word : Text)
deriving DecidableEq, Repr

def Defect.message : Defect → Text
  | .empty => "empty parameter"
  | .emptyDefault => "empty default expression"
  | .missingName => "missing parameter name"
  | .unexpected word => "unexpected " ++ word.quoted
  | .invalidTrait word => "invalid trait " ++ word.quoted
  | .passthroughMarked => Param.passthroughName ++ " takes no markers, traits or default"
  | .unknownSigil byte => "unknown sigil " ++ Text.quotedChar (Char.ofNat byte.toNat)
  | .optionalAndRequired => "parameter cannot be both optional and required"
  | .invalidName word => "invalid parameter name " ++ word.quoted

/-- A clause that is no parameter, and why. -/
structure Fault where
  clause : Text
  defect : Defect
deriving DecidableEq, Repr

/-- Removes a leading mark and tells whether it was there. -/
def takeMark (mark : Char) : Text → Bool × Text
  | [] => (false, [])
  | g :: rest => if g = .char mark then (true, rest) else (false, g :: rest)

/-- Removes a trailing mark and tells whether it was there. -/
def takeLastMark (mark : Char) (t : Text) : Bool × Text :=
  if t.getLast? = some (.char mark) then (true, t.dropLast) else (false, t)

/-- The head of a clause and the text after its first equals sign, if it has one. -/
def cutDefault : Text → Text × Option Text
  | [] => ([], none)
  | g :: rest =>
      if g = .char '=' then ([], some rest)
      else
        let (head, tail) := cutDefault rest
        (g :: head, tail)

/-- The traits written after the name, in pairs `is` trait. -/
def traits : List Text → Except Defect (List Text)
  | [] => .ok []
  | [word] => .error (.unexpected word)
  | word :: trait :: rest =>
      if word ≠ Text.ofString "is" then .error (.unexpected word)
      else if !trait.isIdentifier then .error (.invalidTrait trait)
      else do return trait :: (← traits rest)

def firstByte (g : Glyph) : UInt8 := g.toBytes.headD 0

/-- Reads the token in front of the traits: sigil, name and at most one of the two suffixes. -/
def token (p : Param) : Text → Except Defect Param
  | [] => .error .missingName
  | first :: rest =>
      match Sigil.ofGlyph? first with
      | none => .error (.unknownSigil (firstByte first))
      | some sigil =>
          let (required, name) := takeLastMark '!' rest
          let (optional, name) := takeLastMark '?' name
          if optional && required then .error .optionalAndRequired
          else if !name.isIdentifier then .error (.invalidName name)
          else .ok { p with
            name, sigil, required
            optional := !required && (optional || p.hasDefault || p.role = .named)
            slurpy := sigil ≠ .scalar && !p.refAlias }

/-- Reads the words of a clause's head. -/
def words (p : Param) : List Text → Except Defect Param
  | [] => .error .missingName
  | word :: rest => do
      let p := { p with traits := Text.sorted (← traits rest) }
      if word = Param.passthroughName then
        if p.role = .named || p.refAlias || !p.traits.isEmpty || p.hasDefault then
          .error .passthroughMarked
        else return { p with name := "_", sigil := .array, passthrough := true }
      else token p word

/-- Reads a trimmed clause. -/
def read (source : Text) : Except Defect Param :=
  let (named, rest) := takeMark ':' source
  let (refAlias, rest) := takeMark '\\' rest
  let (head, tail) := cutDefault rest
  let p : Param := { name := [], role := if named then .named else .positional, refAlias }
  match tail.map Text.trim with
  | some [] => .error .emptyDefault
  | defaultSource => words { p with defaultSource } head.fields

/-- Reads one clause. An empty clause is reported as given, any other trimmed. -/
def parse (clause : Text) : Except Fault Param :=
  match clause.trim with
  | [] => .error ⟨clause, .empty⟩
  | source => (read source).mapError (⟨source, ·⟩)

end CallPlan.Clause
