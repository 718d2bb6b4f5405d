import CallPlan.Data.Entries
import CallPlan.Text.Quoted

/-!
JSON documents and their compact text. A number keeps the literal it was written with, so that no
precision is lost before its use is known.
-/

namespace CallPlan

inductive Json where
  | null
  | bool (value : Bool)
  | number (literal : Text)
  | text (value : Text)
  | list (items : List Json)
  | object (members : List (Text × Json))
deriving Repr, Inhabited

namespace Json

/-- How strings are written: characters with a meaning in HTML may be written as escapes. -/
structure Style where
  escapeHtml : Bool := false
deriving DecidableEq, Repr

def unicodeEscape (n : Nat) : Text := Text.ofString "\\u" ++ Text.hexPadded 4 n

/-- One character of a string. Line separators are always escaped, and a stray byte is written as the
replacement character. -/
def escaped (style : Style) : Glyph → Text
  | .stray _ => unicodeEscape 0xFFFD
  | .char c =>
      if c = '"' || c = '\\' then [.char '\\', .char c]
      else if c = '\x08' then Text.ofString "\\b"
      else if c = '\x0c' then Text.ofString "\\f"
      else if c = '\n' then Text.ofString "\\n"
      else if c = '\r' then Text.ofString "\\r"
      else if c = '\t' then Text.ofString "\\t"
      else if c.toNat < 0x20 then unicodeEscape c.toNat
      else if c = '\u2028' || c = '\u2029' then unicodeEscape c.toNat
      else if style.escapeHtml && (c = '<' || c = '>' || c = '&') then unicodeEscape c.toNat
      else [.char c]

def renderText (style : Style) (t : Text) : Text :=
  .char '"' :: t.flatMap (escaped style) ++ [.char '"']

mutual

/-- A document without any blanks. -/
def render (style : Style) : Json → Text
  | .null => "null"
  | .bool true => "true"
  | .bool false => "false"
  | .number literal => literal
  | .text t => renderText style t
  | .list items => .char '[' :: renderItems style items ++ [.char ']']
  | .object members => .char '\x7b' :: renderMembers style members ++ [.char '\x7d']

def renderItems (style : Style) : List Json → Text
  | [] => []
  | [item] => item.render style
  | item :: rest => item.render style ++ .char ',' :: renderItems style rest

def renderMembers (style : Style) : List (Text × Json) → Text
  | [] => []
  | [(key, value)] => renderText style key ++ .char ':' :: value.render style
  | (key, value) :: rest =>
      renderText style key ++ .char ':' :: value.render style ++
        .char ',' :: renderMembers style rest

end

end Json
end CallPlan
