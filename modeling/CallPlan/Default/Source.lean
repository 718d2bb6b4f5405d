import CallPlan.Text.Blank
import CallPlan.Text.Identifier

/-!
The source of a default expression names variables with their sigils. Engines know bare names, so
the sigils are taken out first. A dollar sign in front of an identifier is always a sigil. An at or
percent sign is one only where an operand may start, which keeps `a % b` and `n%m` as they are.
Quoted literals are left alone.
-/

namespace CallPlan.Source

/-- Whether an operand can end with this glyph, so that an operator may follow it. -/
def endsOperand (g : Glyph) : Bool :=
  g.startsIdentifier || g.isDigit || g = .char ')' || g = .char ']' || g = .char '\x7d' ||
    g = .char '\'' || g = .char '"'

/-- An open literal: its quote, and whether the next glyph is escaped. -/
structure Literal where
  quote : Glyph
  escaped : Bool := false
deriving DecidableEq, Repr

/-- The literal after reading one of its glyphs. -/
def Literal.next (l : Literal) (g : Glyph) : Option Literal :=
  if l.escaped then some { l with escaped := false }
  else if g = .char '\\' then some { l with escaped := true }
  else if g = l.quote then none
  else some l

/-- What has been read: the open literal, if any, and the last glyph kept that is not blank. -/
structure State where
  literal : Option Literal := none
  previous : Option Glyph := none
deriving DecidableEq, Repr

def isQuote (g : Glyph) : Bool := g = .char '\'' || g = .char '"'

def nameFollows : Text → Bool
  | [] => false
  | g :: _ => g.startsIdentifier

/-- Whether a glyph outside literals is a sigil, given what stands before and after it. -/
def isSigil (previous : Option Glyph) (g : Glyph) (rest : Text) : Bool :=
  nameFollows rest &&
    (g = .char '$' || ((g = .char '@' || g = .char '%') && !previous.any endsOperand))

/-- A glyph outside literals as engines read it. -/
def shown (g : Glyph) : Glyph := .char g.scalar

def stripFrom (s : State) : Text → Text
  | [] => []
  | g :: rest =>
      match s.literal with
      | some l => g :: stripFrom { s with literal := l.next g } rest
      | none =>
          if isQuote g then g :: stripFrom { literal := some { quote := g }, previous := some g } rest
          else if isSigil s.previous g rest then stripFrom s rest
          else shown g ::
            stripFrom { s with previous := if g.isBlank then s.previous else some g } rest

/-- The source with bare names in place of variables. -/
def stripSigils (source : Text) : Text := stripFrom {} source

end CallPlan.Source
