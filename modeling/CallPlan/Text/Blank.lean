import CallPlan.Text.Glyph

/-!
White space and the operations that cut text at it. `trim` drops it at both ends, `fields` keeps
only what stands between it.
-/

namespace CallPlan

namespace Text

/-- The characters with the White_Space property. -/
def isBlankChar (c : Char) : Bool :=
  let n := c.toNat
  (0x09 ≤ n && n ≤ 0x0D) || n = 0x20 || n = 0x85 || n = 0xA0 || n = 0x1680 ||
    (0x2000 ≤ n && n ≤ 0x200A) || n = 0x2028 || n = 0x2029 || n = 0x202F || n = 0x205F || n = 0x3000

end Text

namespace Glyph

def isBlank : Glyph → Bool
  | .char c => Text.isBlankChar c
  | .stray _ => false

/-- Tab, newline, form feed, carriage return and space. -/
def isAsciiBlank (g : Glyph) : Bool :=
  g = .char '\t' || g = .char '\n' || g = .char '\x0c' || g = .char '\r' || g = .char ' '

end Glyph

namespace Text

def trimStart (t : Text) : Text := t.dropWhile Glyph.isBlank

def trimEnd (t : Text) : Text := (t.reverse.dropWhile Glyph.isBlank).reverse

def trim (t : Text) : Text := trimEnd (trimStart t)

def isBlank (t : Text) : Bool := t.all Glyph.isBlank

/-- The maximal runs of characters that are not blank; `word` holds the run being read. -/
def fieldsFrom (word : Text) : Text → List Text
  | [] => if word.isEmpty then [] else [word.reverse]
  | g :: rest =>
      if g.isBlank then
        if word.isEmpty then fieldsFrom [] rest else word.reverse :: fieldsFrom [] rest
      else fieldsFrom (g :: word) rest

def fields (t : Text) : List Text := fieldsFrom [] t

end Text
end CallPlan
