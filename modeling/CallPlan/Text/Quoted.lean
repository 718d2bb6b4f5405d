import CallPlan.Text.Glyph
import CallPlan.Text.Printable

/-!
Quoted text for messages: printable characters stand for themselves, all others are written as
escapes, and a stray byte as its hexadecimal value.
-/

namespace CallPlan

namespace Text

def hexDigit (n : Nat) : Char :=
  if n < 10 then Char.ofNat (0x30 + n) else Char.ofNat (0x57 + n)

/-- The last `places` hexadecimal digits of a number. -/
def hexPadded : Nat → Nat → Text
  | 0, _ => []
  | places + 1, n => hexPadded places (n / 16) ++ [.char (hexDigit (n % 16))]

/-- The escape of one character inside quotes of the given mark. -/
def quotedGlyph (mark : Char) : Glyph → Text
  | .stray byte => ofString "\\x" ++ hexPadded 2 byte.toNat
  | .char c =>
      if c = mark || c = '\\' then [.char '\\', .char c]
      else if isPrintable c then [.char c]
      else if c = '\x07' then ofString "\\a"
      else if c = '\x08' then ofString "\\b"
      else if c = '\x0c' then ofString "\\f"
      else if c = '\n' then ofString "\\n"
      else if c = '\r' then ofString "\\r"
      else if c = '\t' then ofString "\\t"
      else if c = '\x0b' then ofString "\\v"
      else if c.toNat < 0x80 then ofString "\\x" ++ hexPadded 2 c.toNat
      else if c.toNat < 0x10000 then ofString "\\u" ++ hexPadded 4 c.toNat
      else ofString "\\U" ++ hexPadded 8 c.toNat

/-- A text between double quotes. -/
def quoted (t : Text) : Text := .char '"' :: t.flatMap (quotedGlyph '"') ++ [.char '"']

/-- A character between single quotes. -/
def quotedChar (c : Char) : Text := .char '\'' :: quotedGlyph '\'' (.char c) ++ [.char '\'']

end Text
end CallPlan
