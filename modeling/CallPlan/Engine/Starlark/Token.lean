import CallPlan.Engine.Numeral
import CallPlan.Text.Letters

/-!
The tokens of Starlark expressions. Line ends count only outside brackets.
-/

namespace CallPlan.Starlark

inductive Token where
  | name (name : Text)
  | int (value : Nat)
  | float (bits : UInt64)
  | text (value : Text)
  | bytes (value : List UInt8)
  | keyword (word : String)
  | mark (mark : String)
  | newline
deriving DecidableEq, Repr

def keywords : List String :=
  ["and", "break", "continue", "def", "elif", "else", "for", "if", "in", "lambda", "load", "not", "or",
    "pass", "return", "while"]

/-- Words that no expression may use at all. -/
def reservedWords : List String :=
  ["as", "class", "del", "except", "finally", "from", "global", "import", "is", "nonlocal", "raise",
    "try", "with", "yield"]

/-- A carriage return, alone or before a line feed, ends a line as a line feed does. -/
def unixLines : Text → Text
  | .char '\r' :: .char '\n' :: rest => .char '\n' :: unixLines rest
  | .char '\r' :: rest => .char '\n' :: unixLines rest
  | g :: rest => g :: unixLines rest
  | [] => []

def startsName : Glyph → Bool
  | .stray _ => false
  | .char c => c = '_' || c.isAlpha || (0x80 ≤ c.toNat && Text.isLetter c)

def continuesName (g : Glyph) : Bool := startsName g || g.isAsciiDigit

/-- The marks, longer ones first. -/
def marks : List String :=
  ["//=", "<<=", ">>=", "**=", "//", "<<", ">>", "**", "==", "!=", "<=", ">=", "+=", "-=", "*=", "/=",
    "%=", "&=", "|=", "^=", "+", "-", "*", "/", "%", "&", "|", "^", "~", "<", ">", "=", "(", ")",
    "[", "]", "\x7b", "\x7d", ",", ".", ":", ";"]

/-- The code point of an escape with the given number of digits of a base. -/
def escapeCode? (base count : Nat) (t : Text) : Option (Nat × Text) := do
  let digits := t.take count
  if digits.length ≠ count then none
  else return (← Numeral.value? base digits, t.drop count)

/-- Up to three octal digits. -/
def octal (t : Text) : Nat × Text :=
  let digits := (t.take 3).takeWhile (Numeral.isDigitOf 8)
  ((Numeral.value? 8 digits).getD 0, t.drop digits.length)

def scalarBytes (code : Nat) : List UInt8 := (Glyph.char (Char.ofNat code)).toBytes

def isScalar (code : Nat) : Bool := code < 0xD800 || (0xE000 ≤ code && code < 0x110000)

/-- The bytes of an escape after its backslash, and what follows. Escapes of single bytes beyond
ASCII are for byte strings only. -/
def escape? (isBytes : Bool) : Text → Option (List UInt8 × Text)
  | .char 'a' :: rest => some ([7], rest)
  | .char 'b' :: rest => some ([8], rest)
  | .char 'f' :: rest => some ([12], rest)
  | .char 'n' :: rest => some ([10], rest)
  | .char 'r' :: rest => some ([13], rest)
  | .char 't' :: rest => some ([9], rest)
  | .char 'v' :: rest => some ([11], rest)
  | .char '\\' :: rest => some ([92], rest)
  | .char '\'' :: rest => some ([39], rest)
  | .char '"' :: rest => some ([34], rest)
  | .char '\n' :: rest => some ([], rest)
  | .char 'x' :: rest => do
      let (code, rest) ← escapeCode? 16 2 rest
      if !isBytes && code > 0x7F then none else return ([code.toUInt8], rest)
  | .char 'u' :: rest => do
      let (code, rest) ← escapeCode? 16 4 rest
      if isScalar code then return (scalarBytes code, rest) else none
  | .char 'U' :: rest => do
      let (code, rest) ← escapeCode? 16 8 rest
      if isScalar code then return (scalarBytes code, rest) else none
  | g :: rest =>
      if Numeral.isDigitOf 8 g then
        let (code, rest) := octal (g :: rest)
        if code > 0xFF || (!isBytes && code > 0x7F) then none else some ([code.toUInt8], rest)
      else none
  | [] => none

/-- How a literal is written. -/
structure Quoting where
  quote : Char
  triple : Bool
  raw : Bool
  isBytes : Bool

/-- What closes a literal. -/
def Quoting.closing (q : Quoting) : Text :=
  List.replicate (if q.triple then 3 else 1) (.char q.quote)

/-- The bytes that a glyph of a literal stands for; a stray byte is replaced. -/
def plainBytes (g : Glyph) : List UInt8 := (Glyph.char g.scalar).toBytes

/-- The bytes of a literal after its opening quotes. -/
def literal? (q : Quoting) : Nat → Text → Option (List UInt8 × Text)
  | 0, _ => none
  | _, [] => none
  | fuel + 1, g :: rest =>
      if q.closing.isPrefixOf (g :: rest) then some ([], (g :: rest).drop q.closing.length)
      else if g = .char '\n' && !q.triple then none
      else if g = .char '\\' then
        if q.raw then
          match rest with
          | next :: rest => do
              let (tail, rest) ← literal? q fuel rest
              return (plainBytes g ++ plainBytes next ++ tail, rest)
          | [] => none
        else do
          let (head, rest) ← escape? q.isBytes rest
          let (tail, rest) ← literal? q fuel rest
          return (head ++ tail, rest)
      else do
        let (tail, rest) ← literal? q fuel rest
        return (plainBytes g ++ tail, rest)

/-- Reads a literal whose quote comes first. -/
def quoted? (raw isBytes : Bool) : Text → Option (Token × Text)
  | .char quote :: rest =>
      if quote = '"' || quote = '\'' then
        let pair := [Glyph.char quote, .char quote]
        let (triple, body) :=
          if pair.isPrefixOf rest then (true, rest.drop 2) else (false, rest)
        do
          let (bytes, rest) ← literal? { quote, triple, raw, isBytes } (body.length + 1) body
          return (if isBytes then .bytes bytes else .text (Text.ofBytes bytes), rest)
      else none
  | _ => none

/-- The letters in front of a quote, if they may stand there. -/
def literalPrefix? (t : Text) : Option (Bool × Bool × Text) :=
  let opens (rest : Text) : Bool := rest.head? = some (.char '"') || rest.head? = some (.char '\'')
  match t with
  | .char 'r' :: .char 'b' :: rest => if opens rest then some (true, true, rest) else none
  | .char 'r' :: rest => if opens rest then some (true, false, rest) else none
  | .char 'b' :: rest => if opens rest then some (false, true, rest) else none
  | rest => if opens rest then some (false, false, rest) else none

/-- An integer after its zero and the mark of its base. Only hexadecimal ones have any size. -/
def based? (base : Nat) (t : Text) : Option (Token × Text) := do
  let digits := t.takeWhile (Numeral.isDigitOf base)
  let n ← Numeral.value? base digits
  if base ≠ 16 && n ≥ pow2 63 then none else return (.int n, t.drop digits.length)

/-- Reads a decimal number. An `e` after its digits begins an exponent whatever follows, and an
integer that starts with a zero is nothing but zeros. -/
def decimal? (t : Text) : Option (Token × Text) :=
  let (whole, rest) := Text.takeDigits t
  let (fraction, isPointed, rest) : Text × Bool × Text := match rest with
    | .char '.' :: rest =>
        let (fraction, rest) := Text.takeDigits rest
        (fraction, true, rest)
    | rest => ([], false, rest)
  let significand := Text.digitsValue (whole ++ fraction)
  let float? (exponent : Int) : Option Token :=
    ({ significand, exponent := exponent - fraction.length : Decimal }).toDouble?.map .float
  match rest with
  | .char 'e' :: _ | .char 'E' :: _ => do
      let (exponent, rest) ← Numeral.scanExponent rest
      return (← float? exponent, rest)
  | _ =>
      if isPointed then (float? 0).map (·, rest)
      else if whole.length > 1 && whole.head? = some (.char '0') && significand ≠ 0 then none
      else some (.int significand, rest)

def number? : Text → Option (Token × Text)
  | .char '0' :: mark :: rest =>
      match Numeral.baseOfMark? mark with
      | some base => based? base rest
      | none => decimal? (.char '0' :: mark :: rest)
  | t => decimal? t

def startsNumber : Text → Bool
  | .char '.' :: g :: _ => g.isAsciiDigit
  | g :: _ => g.isAsciiDigit
  | [] => false

def word? (name : Text) : Option Token :=
  let s := name.toString
  if keywords.contains s then some (.keyword s)
  else if reservedWords.contains s then none
  else some (.name name)

def mark? (t : Text) : Option (Token × Text) :=
  (marks.find? fun m => (Text.ofString m).isPrefixOf t).map fun m =>
    (.mark m, t.drop m.length)

/-- How deep in brackets the next token is. -/
def nextDepth (depth : Nat) : Token → Option Nat
  | .mark "(" | .mark "[" | .mark "\x7b" => some (depth + 1)
  | .mark ")" | .mark "]" | .mark "\x7d" => if depth = 0 then none else some (depth - 1)
  | _ => some depth

/-- The tokens from a place on, up to the end or a NUL. -/
def tokensFrom (depth : Nat) : Nat → Text → Option (List Token)
  | 0, _ => none
  | _, [] | _, .char '\x00' :: _ => some []
  | fuel + 1, g :: rest =>
      if g = .char ' ' || g = .char '\t' then tokensFrom depth fuel rest
      else if g = .char '\n' then
        if depth = 0 then (tokensFrom depth fuel rest).map (.newline :: ·)
        else tokensFrom depth fuel rest
      else if g = .char '#' then
        tokensFrom depth fuel (rest.dropWhile fun g => g ≠ .char '\n' && g ≠ .char '\x00')
      else if g = .char '\\' then
        match rest with
        | .char '\n' :: rest => tokensFrom depth fuel rest
        | _ => none
      else
        let t := g :: rest
        let next := match literalPrefix? t with
          | some (raw, isBytes, rest) => quoted? raw isBytes rest
          | none =>
              if startsName g then
                let name := t.takeWhile continuesName
                (word? name).map (·, t.drop name.length)
              else if startsNumber t then number? t
              else mark? t
        match next with
        | none => none
        | some (token, rest) =>
            match nextDepth depth token with
            | none => none
            | some depth => (tokensFrom depth fuel rest).map (token :: ·)

/-- The tokens of a source, or `none` where it has something that is no token. -/
def tokens? (source : Text) : Option (List Token) :=
  let source := unixLines source
  tokensFrom 0 (source.length + 1) source

end CallPlan.Starlark
