import CallPlan.Text.Glyph
import CallPlan.Text.Letters
import CallPlan.Text.Numerals

/-!
Identifiers: a letter or underscore, then letters, decimal digits and underscores.
-/

namespace CallPlan

namespace Glyph

def isLetter : Glyph → Bool
  | .char c => Text.isLetter c
  | .stray _ => false

def isDigit : Glyph → Bool
  | .char c => Text.isDigit c
  | .stray _ => false

def isNumber : Glyph → Bool
  | .char c => Text.isNumber c
  | .stray _ => false

def startsIdentifier (g : Glyph) : Bool := g = .char '_' || g.isLetter

def continuesIdentifier (g : Glyph) : Bool := g.startsIdentifier || g.isDigit

end Glyph

namespace Text

def isIdentifier : Text → Bool
  | [] => false
  | first :: rest => first.startsIdentifier && rest.all Glyph.continuesIdentifier

end Text
end CallPlan
