import CallPlan.Engine.Numeral
import CallPlan.Text.NameCharacters

/-!
The tokens of HCL expressions. A string is a template: it opens and closes with quotes, and between
them stand literal pieces and interpolations, whose tokens are those of expressions again. A tilde
inside the end of an interpolation drops the white space of the literal piece on that side.
-/

namespace CallPlan.Hcl

inductive Token where
  | name (name : Text)
  | number (literal : Text)
  | mark (mark : String)
  | newline
  | openQuote
  | closeQuote
  | literal (piece : Text)
  | openInterpolation (trims : Bool)
  | closeInterpolation (trims : Bool)
deriving DecidableEq, Repr

/-- Where the scanner is: between quotes, or in code with a number of braces open. -/
inductive Mode where
  | quoted
  | code (braces : Nat)
deriving DecidableEq, Repr

/-- The marks besides braces, longer ones first. -/
def marks : List String :=
  ["...", "=>", "==", "!=", ">=", "<=", "&&", "||", "::", "[", "]", "(", ")", ".", ",", "*", "/", "%",
    "+", "-", "=", "<", ">", "!", "?", ":"]

def startsName : Glyph → Bool
  | .char c => c = '_' || Text.startsName c
  | .stray _ => false

/-- Names may hold dashes after their first character. -/
def continuesName : Glyph → Bool
  | .char c => c = '-' || Text.continuesName c
  | .stray _ => false

def codeEscape? (digits : Nat) (t : Text) : Option (Glyph × Text) := do
  let code ← if t.length < digits then none else Numeral.value? 16 (t.take digits)
  if code < 0xD800 || (0xE000 ≤ code && code < 0x110000) then
    return (.char (Char.ofNat code), t.drop digits)
  else none

/-- The character of an escape after its backslash, and what follows. -/
def escape? : Text → Option (Glyph × Text)
  | .char 'n' :: rest => some (.char '\n', rest)
  | .char 'r' :: rest => some (.char '\r', rest)
  | .char 't' :: rest => some (.char '\t', rest)
  | .char '"' :: rest => some (.char '"', rest)
  | .char '\\' :: rest => some (.char '\\', rest)
  | .char 'u' :: rest => codeEscape? 4 rest
  | .char 'U' :: rest => codeEscape? 8 rest
  | _ => none

/-- What follows a comment that ends where `stop` begins. -/
def skipPast (stop : Text) : Text → Option Text
  | [] => none
  | g :: rest =>
      if stop.isPrefixOf (g :: rest) then some ((g :: rest).drop stop.length) else skipPast stop rest

/-- The mark that a text starts with. -/
def mark? (t : Text) : Option (String × Text) := do
  let m ← marks.find? fun m => (Text.ofString m).isPrefixOf t
  return (m, t.drop m.length)

/-- The characters of a literal piece up to a dollar or percent sign, a quote or the end of the line,
with escapes taken. -/
def literal? : Nat → Text → Option (Text × Text)
  | 0, _ => none
  | fuel + 1, t =>
      match t with
      | .char '\\' :: rest => do
          let (c, rest) ← escape? rest
          let (piece, rest) ← literal? fuel rest
          return (c :: piece, rest)
      | .char c :: rest =>
          if "$%\"\n\r".toList.contains c then some ([], t)
          else do
            let (piece, rest) ← literal? fuel rest
            return (.char c :: piece, rest)
      | _ => some ([], t)

/-- Whether a text begins with a tilde, and what follows it. -/
def tilde : Text → Bool × Text
  | .char '~' :: rest => (true, rest)
  | t => (false, t)

/-- Reads the tokens of a text. Each step takes at least one character. -/
def scan : Nat → List Mode → Text → Option (List Token)
  | 0, _, _ => none
  | _, [.code _], [] => some []
  | _, _, [] => none
  | _, [], _ => none
  | fuel + 1, .quoted :: outer, g :: rest =>
      let piece (p : Text) (rest : Text) : Option (List Token) := do
        return .literal p :: (← scan fuel (.quoted :: outer) rest)
      match g, rest with
      | .char '"', rest => do return .closeQuote :: (← scan fuel outer rest)
      | .char '$', .char '$' :: .char '\x7b' :: rest => piece "$\x7b" rest
      | .char '%', .char '%' :: .char '\x7b' :: rest => piece "%\x7b" rest
      | .char '$', .char '\x7b' :: rest => do
          let (trims, rest) := tilde rest
          return .openInterpolation trims :: (← scan fuel (.code 0 :: .quoted :: outer) rest)
      | .char '%', .char '\x7b' :: _ => none
      | .char '$', rest | .char '%', rest => piece [g] rest
      | g, rest => do
          match ← literal? (rest.length + 2) (g :: rest) with
          | ([], _) => none
          | (p, rest) => piece p rest
  | fuel + 1, .code braces :: outer, g :: rest =>
      let here := Mode.code braces :: outer
      let inner := braces = 0 && !outer.isEmpty
      match g, rest with
      | .char ' ', rest | .char '\t', rest => scan fuel here rest
      | .char '\n', rest | .char '\r', .char '\n' :: rest => do
          return .newline :: (← scan fuel here rest)
      | .char '#', rest | .char '/', .char '/' :: rest =>
          match skipPast "\n" rest with
          | some rest => do return .newline :: (← scan fuel here rest)
          | none => scan fuel here []
      | .char '/', .char '*' :: rest => do scan fuel here (← skipPast "*/" rest)
      | .char '"', rest => do return .openQuote :: (← scan fuel (.quoted :: here) rest)
      | .char '\x7b', rest => do
          return .mark "\x7b" :: (← scan fuel (.code (braces + 1) :: outer) rest)
      | .char '\x7d', rest =>
          if inner then do return .closeInterpolation false :: (← scan fuel outer rest)
          else do return .mark "\x7d" :: (← scan fuel (.code (braces - 1) :: outer) rest)
      | .char '~', .char '\x7d' :: rest =>
          if inner then do return .closeInterpolation true :: (← scan fuel outer rest) else none
      | g, rest =>
          let t : Text := g :: rest
          if g.isAsciiDigit then do
            let number ← Numeral.scan? false t
            let literal := t.take (t.length - number.rest.length)
            return .number literal :: (← scan fuel here number.rest)
          else if startsName g then do
            let name := t.takeWhile continuesName
            return .name name :: (← scan fuel here (t.dropWhile continuesName))
          else do
            let (m, rest) ← mark? t
            return .mark m :: (← scan fuel here rest)

/-- The tokens of a source. A byte order mark in front of it means nothing. -/
def tokens? (source : Text) : Option (List Token) :=
  let source := match source with
    | .char '\uFEFF' :: rest => rest
    | source => source
  scan (source.length + 1) [.code 0] source

end CallPlan.Hcl
