import CallPlan.Engine.Numeral
import CallPlan.Text.Identifier

/-!
Risor expressions: their tokens and their grammar. Each operator binds at a level of its own; the
conditional binds more tightly than the logical operators, and the remainder more tightly than products.
-/

namespace CallPlan.Risor

inductive Token where
  | name (name : Text)
  | int (value : Int)
  | float (bits : UInt64)
  | text (value : Text)
  | mark (mark : String)
  | newline
deriving DecidableEq, Repr

/-- Words that cannot be names. -/
def reservedWords : List String :=
  ["as", "break", "case", "const", "continue", "default", "defer", "else", "for", "from", "func", "go",
    "if", "import", "in", "not", "range", "return", "struct", "switch", "var"]

/-- The marks, longer ones first. Those that assign, count or shift belong to no expression. -/
def marks : List String :=
  ["&&", "||", "==", "!=", "<=", ">=", "**", "<-", "--", "++", "<<", ">>", ":=", "+=", "-=", "*=", "/=",
    "+", "-", "*", "/", "%", "<", ">", "!", "?", ":", "(", ")", "[", "]", "\x7b", "\x7d", ",", ";"]

/-- Names are made of letters, digits and underscores. An ASCII digit does not begin one, because a
number is read there. -/
def continuesName (g : Glyph) : Bool := g = .char '_' || g.isLetter || g.isDigit

def codePoint (n : Nat) : Glyph :=
  if n < 0xD800 || (0xE000 ≤ n && n < 0x110000) then .char (Char.ofNat n) else .char '\uFFFD'

/-- The number that an escape of a number of digits of a base writes, below a limit. -/
def codeEscape? (base digits limit : Nat) (t : Text) : Option (Nat × Text) := do
  let code ← if t.length < digits then none else Numeral.value? base (t.take digits)
  if code < limit then return (code, t.drop digits) else none

/-- The bytes of an escape after its backslash, and what follows. Of the quotes only the one that
closes the text can be escaped. -/
def escape? (stop : Char) : Text → Option (List UInt8 × Text)
  | .char 'n' :: rest => some ([10], rest)
  | .char 'r' :: rest => some ([13], rest)
  | .char 't' :: rest => some ([9], rest)
  | .char 'a' :: rest => some ([7], rest)
  | .char 'b' :: rest => some ([8], rest)
  | .char 'f' :: rest => some ([12], rest)
  | .char 'v' :: rest => some ([11], rest)
  | .char 'e' :: rest => some ([27], rest)
  | .char '\\' :: rest => some ([92], rest)
  | .char 'x' :: rest => (codeEscape? 16 2 256 rest).map fun (n, rest) => ([n.toUInt8], rest)
  | .char 'u' :: rest =>
      (codeEscape? 16 4 0x10000 rest).map fun (n, rest) => ((codePoint n).toBytes, rest)
  | .char 'U' :: rest =>
      (codeEscape? 16 8 0x80000000 rest).map fun (n, rest) => ((codePoint n).toBytes, rest)
  | g :: rest =>
      if g = .char stop then some (g.toBytes, rest)
      else (codeEscape? 8 3 256 (g :: rest)).map fun (n, rest) => ([n.toUInt8], rest)
  | [] => none

/-- The bytes of a literal up to its closing mark, and what follows. -/
def quoted? (stop : Char) : Nat → Text → Option (List UInt8 × Text)
  | 0, _ => none
  | _, [] => none
  | fuel + 1, g :: rest =>
      if g = .char stop then some ([], rest)
      else if g = .char '\n' || g = .char '\x00' then none
      else if g = .char '\\' then do
        let (head, rest) ← escape? stop rest
        let (tail, rest) ← quoted? stop fuel rest
        return (head ++ tail, rest)
      else do
        let (tail, rest) ← quoted? stop fuel rest
        return ((Glyph.char g.scalar).toBytes ++ tail, rest)

/-- The content of a literal between backquotes, as it stands there. -/
def raw? : Text → Option (Text × Text)
  | [] | .char '\x00' :: _ => none
  | .char '\x60' :: rest => some ([], rest)
  | g :: rest => do
      let (content, rest) ← raw? rest
      return (.char g.scalar :: content, rest)

def int64? (n : Nat) : Option Token := if n < 0x8000000000000000 then some (.int n) else none

/-- Reads a number: hexadecimal after `0x`, octal after another zero, or decimal with an optional
fraction. No name may follow it at once. -/
def number? (t : Text) : Option (Token × Text) := do
  let based (base : Nat) (isDigit : Glyph → Bool) (rest : Text) : Option (Token × Text) := do
    let digits := rest.takeWhile isDigit
    return (← int64? (← Numeral.value? base digits), rest.drop digits.length)
  let (token, rest) ← match t with
    | .char '0' :: .char 'x' :: rest => based 16 (Numeral.isDigitOf 16) rest
    | .char '0' :: g :: rest =>
        if g.isAsciiDigit then based 8 Glyph.isAsciiDigit (g :: rest) else decimal t
    | t => decimal t
  if rest.head?.any continuesName then none else return (token, rest)
where
  decimal (t : Text) : Option (Token × Text) := do
    let (whole, rest) := Text.takeDigits t
    match rest with
    | .char '.' :: g :: more =>
        if g.isAsciiDigit then do
          let (fraction, rest) := Text.takeDigits (g :: more)
          let decimal : Decimal :=
            { significand := Text.digitsValue (whole ++ fraction)
              exponent := -(fraction.length : Int) }
          return (.float (← decimal.toDouble?), rest)
        else return (← int64? (Text.digitsValue whole), rest)
    | rest => return (← int64? (Text.digitsValue whole), rest)

/-- What follows a comment that began with a slash and a star: it goes on to a star and a slash, the
same star even, or to a NUL or the end. -/
def skipComment : Text → Text
  | [] => []
  | .char '\x00' :: rest | .char '*' :: .char '/' :: rest => rest
  | _ :: rest => skipComment rest

/-- Texts in single quotes are templates, of which only those without places to fill are read. -/
def isTemplate (t : Text) : Bool := t.contains (.char '\x7b')

/-- The tokens from a place on, up to the end or a NUL. -/
def tokensFrom : Nat → Text → Option (List Token)
  | 0, _ => none
  | _, [] | _, .char '\x00' :: _ => some []
  | fuel + 1, g :: rest =>
      match g, rest with
      | .char ' ', rest | .char '\t', rest | .char '\r', rest => tokensFrom fuel rest
      | .char '\n', rest => do return .newline :: (← tokensFrom fuel rest)
      | .char '#', rest | .char '/', .char '/' :: rest =>
          tokensFrom fuel (rest.dropWhile fun g => g ≠ .char '\n' && g ≠ .char '\x00')
      | .char '/', .char '*' :: rest => tokensFrom fuel (skipComment (.char '*' :: rest))
      | .char '"', rest => do
          let (content, rest) ← quoted? '"' (rest.length + 1) rest
          return .text (Text.ofBytes content) :: (← tokensFrom fuel rest)
      | .char '\'', rest => do
          let (content, rest) ← quoted? '\'' (rest.length + 1) rest
          let content := Text.ofBytes content
          if isTemplate content then none
          else return .text content :: (← tokensFrom fuel rest)
      | .char '\x60', rest => do
          let (content, rest) ← raw? rest
          return .text content :: (← tokensFrom fuel rest)
      | g, rest =>
          let t : Text := g :: rest
          if g.isAsciiDigit then do
            let (token, rest) ← number? t
            return token :: (← tokensFrom fuel rest)
          else if continuesName g then do
            let name : Text := t.takeWhile continuesName
            let rest ← tokensFrom fuel (t.drop name.length)
            let word := Text.toString name
            if reservedWords.contains word then return .mark word :: rest
            else return .name name :: rest
          else do
            let m ← marks.find? fun m => (Text.ofString m).isPrefixOf t
            return .mark m :: (← tokensFrom fuel (t.drop m.length))

/-- The tokens of a source, or `none` where it has something that is no token. -/
def tokens? (source : Text) : Option (List Token) := tokensFrom (source.length + 1) source

inductive BinaryOp where
  | or
  | and
  | equal
  | notEqual
  | less
  | lessEqual
  | greater
  | greaterEqual
  | within
  | add
  | sub
  | mul
  | div
  | power
  | mod
deriving DecidableEq, Repr

inductive Expr where
  | nothing
  | bool (value : Bool)
  | int (value : Int)
  | float (bits : UInt64)
  | text (value : Text)
  | name (name : Text)
  | list (items : List Expr)
  | map (keys : List Text) (values : List Expr)
  | negate (operand : Expr)
  | complement (operand : Expr)
  | binary (op : BinaryOp) (left right : Expr)
  | conditional (condition whenTrue whenFalse : Expr)
  | index (operand key : Expr)
  | call (function : Expr) (args : List Expr)
  /-- Sends a value to a channel. -/
  | send (channel value : Expr)
  /-- Takes a value from a channel. -/
  | receive (channel : Expr)
deriving Inhabited

abbrev Parser := StateT (List Token) Option

/-- How tightly a mark binds what stands before it. -/
def binding : Token → Nat
  | .mark "&&" | .mark "||" => 3
  | .mark "?" => 6
  | .mark "==" | .mark "!=" => 7
  | .mark "<" | .mark "<=" | .mark ">" | .mark ">=" => 8
  | .mark "+" | .mark "-" => 9
  | .mark "*" | .mark "/" => 10
  | .mark "**" => 11
  | .mark "%" => 12
  | .mark "in" => 13
  | .mark "(" | .mark "<-" => 14
  | .mark "[" => 15
  | _ => loosest
where
  /-- Nothing binds less. -/
  loosest : Nat := 1

/-- How tightly a sign binds what stands after it. -/
def signBinding : Nat := 13

def operator? : Token → Option BinaryOp
  | .mark "||" => some .or
  | .mark "&&" => some .and
  | .mark "==" => some .equal
  | .mark "!=" => some .notEqual
  | .mark "<" => some .less
  | .mark "<=" => some .lessEqual
  | .mark ">" => some .greater
  | .mark ">=" => some .greaterEqual
  | .mark "in" => some .within
  | .mark "+" => some .add
  | .mark "-" => some .sub
  | .mark "*" => some .mul
  | .mark "/" => some .div
  | .mark "**" => some .power
  | .mark "%" => some .mod
  | _ => none

/-- Where an expression stands. Only a statement can send to a channel, and a branch of a conditional,
with all that is in it, has no conditional. -/
inductive Position where
  | statement
  | operand
  | branch
deriving DecidableEq, Repr

/-- Where the parts of an expression stand. -/
def Position.inside : Position → Position
  | .branch => .branch
  | _ => .operand

namespace Parser

def next? : Parser (Option Token) := return (← get).head?

def skip : Parser Unit := modify List.tail

def skipLines : Parser Unit := modify fun tokens => tokens.dropWhile (· = .newline)

def accept (token : Token) : Parser Bool := do
  if (← next?) = some token then
    skip
    return true
  else return false

def expect (token : Token) : Parser Unit := do
  if !(← accept token) then failure

mutual

/-- An expression whose operators bind more tightly than `level`. -/
def expression : Nat → Position → Nat → Parser Expr
  | 0, _, _ => failure
  | fuel + 1, position, level => do
      continued fuel position level (← primary fuel position.inside)

def continued : Nat → Position → Nat → Expr → Parser Expr
  | 0, _, _, _ => failure
  | fuel + 1, position, level, left => do
      match ← next? with
      | none => return left
      | some token =>
          let tokenLevel := binding token
          if tokenLevel ≤ level then return left
          else
            skip
            match token with
            | .mark "?" =>
                if position = .branch then failure
                else
                  let branchLevel := ((← next?).map binding).getD 1
                  let whenTrue ← expression fuel .branch branchLevel
                  expect (.mark ":")
                  let whenFalse ← expression fuel .branch branchLevel
                  continued fuel position level (.conditional left whenTrue whenFalse)
            | .mark "(" =>
                let args ← items fuel position.inside ")"
                continued fuel position level (.call left args)
            | .mark "[" =>
                let key ← expression fuel position.inside 1
                expect (.mark "]")
                continued fuel position level (.index left key)
            | .mark "<-" =>
                if position = .statement then
                  let value ← expression fuel position.inside 1
                  continued fuel position level (.send left value)
                else failure
            | token =>
                match operator? token with
                | none => failure
                | some op =>
                    skipLines
                    let right ← expression fuel position.inside tokenLevel
                    continued fuel position level (.binary op left right)

def primary : Nat → Position → Parser Expr
  | 0, _ => failure
  | fuel + 1, position => do
      let token ← next?
      skip
      match token with
      | some (.int n) => return .int n
      | some (.float bits) => return .float bits
      | some (.text t) => return .text t
      | some (.name n) =>
          match n.toString with
          | "true" => return .bool true
          | "false" => return .bool false
          | "nil" => return .nothing
          | _ => return .name n
      | some (.mark "-") => return .negate (← expression fuel position signBinding)
      | some (.mark "!") => return .complement (← expression fuel position signBinding)
      | some (.mark "<-") => return .receive (← expression fuel position signBinding)
      | some (.mark "(") =>
          skipLines
          let e ← expression fuel position 1
          skipLines
          expect (.mark ")")
          return e
      | some (.mark "[") => return .list (← items fuel position "]")
      | some (.mark "\x7b") =>
          let (keys, values) ← entries fuel position
          return .map keys values
      | _ => failure

/-- Expressions with commas between them, up to a closing mark. -/
def items : Nat → Position → String → Parser (List Expr)
  | 0, _, _ => failure
  | fuel + 1, position, stop => do
      skipLines
      if ← accept (.mark stop) then return []
      else
        let item ← expression fuel position 1
        if ← accept (.mark ",") then return item :: (← items fuel position stop)
        else
          skipLines
          expect (.mark stop)
          return [item]

/-- The keys and values of a map, up to its closing brace. A name as a key stands for itself. -/
def entries : Nat → Position → Parser (List Text × List Expr)
  | 0, _ => failure
  | fuel + 1, position => do
      skipLines
      if ← accept (.mark "\x7d") then return ([], [])
      else
        let key ← match ← next? with
          | some (.text t) => pure t
          | some (.name n) => pure n
          | _ => failure
        skip
        expect (.mark ":")
        skipLines
        let value ← expression fuel position 1
        let (keys, values) ← if ← accept (.mark ",") then entries fuel position
          else do
            skipLines
            expect (.mark "\x7d")
            pure ([], [])
        return (key :: keys, value :: values)

end

/-- Expressions one after another, each ended by a line or one semicolon. -/
def program : Nat → Parser (List Expr)
  | 0 => failure
  | fuel + 1 => do
      skipLines
      if (← get).isEmpty then return []
      else
        let e ← expression fuel .statement 1
        match ← next? with
        | none => return [e]
        | some .newline | some (.mark ";") =>
            skip
            return e :: (← program fuel)
        | some _ => failure

end Parser

/-- Reads a source. Sixteen steps are enough for each token. -/
def parse? (source : Text) : Option (List Expr) := do
  let tokens ← tokens? source
  let (program, _) ← (Parser.program (16 * tokens.length + 32)).run tokens
  return program

mutual

/-- Whether every name an expression uses is known. -/
def Expr.isClosed (known : List Text) : Expr → Bool
  | .nothing | .bool _ | .int _ | .float _ | .text _ => true
  | .name n => known.contains n
  | .list items | .map _ items => allClosed known items
  | .negate e | .complement e | .receive e => e.isClosed known
  | .binary _ a b | .index a b | .send a b => a.isClosed known && b.isClosed known
  | .conditional a b c => a.isClosed known && b.isClosed known && c.isClosed known
  | .call f args => f.isClosed known && allClosed known args

def allClosed (known : List Text) : List Expr → Bool
  | [] => true
  | e :: rest => e.isClosed known && allClosed known rest

end

end CallPlan.Risor
