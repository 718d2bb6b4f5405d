import CallPlan.Json.Basic
import CallPlan.Number.Decimal

/-!
Reading JSON. `Json.read?` reads one value from the front of a text and gives back what follows it;
`Json.parse?` reads a text that is one value and nothing else.
-/

namespace CallPlan.Json

def isSpace (g : Glyph) : Bool :=
  g = .char ' ' || g = .char '\t' || g = .char '\n' || g = .char '\r'

def skipSpace (t : Text) : Text := t.dropWhile isSpace

def hexDigit? : Glyph → Option Nat
  | .stray _ => none
  | .char c =>
      if c.isDigit then some (c.toNat - 48)
      else if 'a' ≤ c && c ≤ 'f' then some (c.toNat - 87)
      else if 'A' ≤ c && c ≤ 'F' then some (c.toNat - 55)
      else none

/-- A piece of a string: a character, or the code unit of an escape. -/
inductive Piece where
  | glyph (g : Glyph)
  | unit (n : Nat)
deriving DecidableEq, Repr

def shortEscape? : Glyph → Option Char
  | .char '"' => some '"'
  | .char '\\' => some '\\'
  | .char '/' => some '/'
  | .char 'b' => some '\x08'
  | .char 'f' => some '\x0c'
  | .char 'n' => some '\n'
  | .char 'r' => some '\r'
  | .char 't' => some '\t'
  | _ => none

/-- The code unit of four hexadecimal digits. -/
def unit? (a b c d : Glyph) : Option Nat := do
  return (((← hexDigit? a) * 16 + (← hexDigit? b)) * 16 + (← hexDigit? c)) * 16 + (← hexDigit? d)

/-- Reads a string after its opening quote. -/
def pieces? : Text → Option (List Piece × Text)
  | [] => none
  | .char '"' :: rest => some ([], rest)
  | .char '\\' :: .char 'u' :: a :: b :: c :: d :: rest => do
      let n ← unit? a b c d
      let (tail, rest) ← pieces? rest
      return (.unit n :: tail, rest)
  | .char '\\' :: g :: rest => do
      let c ← shortEscape? g
      let (tail, rest) ← pieces? rest
      return (.glyph (.char c) :: tail, rest)
  | g :: rest => do
      if g.scalar.toNat < 0x20 || g = .char '\\' then none
      else
        let (tail, rest) ← pieces? rest
        return (.glyph (.char g.scalar) :: tail, rest)

def isHighSurrogate (n : Nat) : Bool := 0xD800 ≤ n && n < 0xDC00

def isLowSurrogate (n : Nat) : Bool := 0xDC00 ≤ n && n < 0xE000

/-- The character of a code unit on its own; half of a pair is none. -/
def unitChar (n : Nat) : Char :=
  if isHighSurrogate n || isLowSurrogate n then '\uFFFD' else Char.ofNat n

/-- The text of a string's pieces: a high code unit and the low one after it are one character. -/
def joinPieces : List Piece → Text
  | [] => []
  | .glyph g :: rest => g :: joinPieces rest
  | .unit high :: .unit low :: rest =>
      if isHighSurrogate high && isLowSurrogate low then
        .char (Char.ofNat (0x10000 + (high - 0xD800) * 0x400 + (low - 0xDC00))) :: joinPieces rest
      else .char (unitChar high) :: joinPieces (.unit low :: rest)
  | .unit n :: rest => .char (unitChar n) :: joinPieces rest

/-- Reads a string after its opening quote. -/
def string? (t : Text) : Option (Text × Text) := do
  let (pieces, rest) ← pieces? t
  return (joinPieces pieces, rest)

/-- The digits after a point, with the point; nothing when there is no point. -/
def fraction? : Text → Option (Text × Text)
  | .char '.' :: rest =>
      match Text.takeDigits rest with
      | ([], _) => none
      | (digits, rest) => some (.char '.' :: digits, rest)
  | t => some ([], t)

def signed : Text → Text × Text
  | .char '+' :: rest => ([.char '+'], rest)
  | .char '-' :: rest => ([.char '-'], rest)
  | t => ([], t)

/-- An exponent with its mark; nothing when there is no mark. -/
def exponent? : Text → Option (Text × Text)
  | g :: rest =>
      if g = .char 'e' || g = .char 'E' then
        let (sign, rest) := signed rest
        match Text.takeDigits rest with
        | ([], _) => none
        | (digits, rest) => some (g :: sign ++ digits, rest)
      else some ([], g :: rest)
  | [] => some ([], [])

/-- The digits before the point: a lone zero, or digits that do not start with one. -/
def whole? : Text → Option (Text × Text)
  | .char '0' :: rest => some ([.char '0'], rest)
  | t =>
      match t.takeDigits with
      | ([], _) => none
      | (digits, rest) => some (digits, rest)

def minus : Text → Text × Text
  | .char '-' :: rest => ([.char '-'], rest)
  | t => ([], t)

/-- Reads the literal of a number. -/
def number? (t : Text) : Option (Text × Text) := do
  let (sign, rest) := minus t
  let (whole, rest) ← whole? rest
  let (fraction, rest) ← fraction? rest
  let (exponent, rest) ← exponent? rest
  return (sign ++ whole ++ fraction ++ exponent, rest)

/-- How deep lists and objects may be nested. -/
def maxDepth : Nat := 10000

def word? (word : Text) (value : Json) (t : Text) : Option (Json × Text) :=
  if word.isPrefixOf t then some (value, t.drop word.length) else none

mutual

/-- Reads a value; `depth` counts the lists and objects around it. -/
def value? (depth : Nat) : Nat → Text → Option (Json × Text)
  | 0, _ => none
  | fuel + 1, t =>
      match skipSpace t with
      | .char '"' :: rest => (string? rest).map fun (s, rest) => (.text s, rest)
      | .char '[' :: rest =>
          if maxDepth ≤ depth then none
          else match skipSpace rest with
            | .char ']' :: rest => some (.list [], rest)
            | rest => (items? (depth + 1) fuel rest).map fun (items, rest) => (.list items, rest)
      | .char '\x7b' :: rest =>
          if maxDepth ≤ depth then none
          else match skipSpace rest with
            | .char '\x7d' :: rest => some (.object [], rest)
            | rest =>
                (members? (depth + 1) fuel rest).map fun (members, rest) => (.object members, rest)
      | .char 'n' :: rest => word? "ull" .null rest
      | .char 't' :: rest => word? "rue" (.bool true) rest
      | .char 'f' :: rest => word? "alse" (.bool false) rest
      | t => (number? t).map fun (literal, rest) => (.number literal, rest)

/-- Reads the items of a list that has at least one, and its end. -/
def items? (depth : Nat) : Nat → Text → Option (List Json × Text)
  | 0, _ => none
  | fuel + 1, t => do
      let (item, rest) ← value? depth fuel t
      match skipSpace rest with
      | .char ',' :: rest =>
          let (items, rest) ← items? depth fuel rest
          return (item :: items, rest)
      | .char ']' :: rest => return ([item], rest)
      | _ => none

/-- Reads the members of an object that has at least one, and its end. -/
def members? (depth : Nat) : Nat → Text → Option (List (Text × Json) × Text)
  | 0, _ => none
  | fuel + 1, t => do
      match skipSpace t with
      | .char '"' :: rest =>
          let (key, rest) ← string? rest
          match skipSpace rest with
          | .char ':' :: rest =>
              let (value, rest) ← value? depth fuel rest
              match skipSpace rest with
              | .char ',' :: rest =>
                  let (members, rest) ← members? depth fuel rest
                  return ((key, value) :: members, rest)
              | .char '\x7d' :: rest => return ([(key, value)], rest)
              | _ => none
          | _ => none
      | _ => none

end

/-- Reads one value from the front of a text. Every two steps read a character, which bounds them. -/
def read? (t : Text) : Option (Json × Text) := value? 0 (2 * t.length + 2) t

/-- Reads a text that is one value with blanks around it. -/
def parse? (t : Text) : Option Json := do
  let (value, rest) ← read? t
  if (skipSpace rest).isEmpty then some value else none

/-- The texts of the items of a list as they are written, cut out of a text that starts at an item. -/
def rawItems? : Nat → Text → Option (List Text)
  | 0, _ => none
  | fuel + 1, t => do
      let start := skipSpace t
      let (_, rest) ← value? 1 (2 * t.length + 2) start
      let item := start.take (start.length - rest.length)
      match skipSpace rest with
      | .char ',' :: rest => return item :: (← rawItems? fuel rest)
      | .char ']' :: rest => if (skipSpace rest).isEmpty then some [item] else none
      | _ => none

/-- The items of a text that is a list, each as written. -/
def elements? (t : Text) : Option (List Text) :=
  match skipSpace t with
  | .char '[' :: rest =>
      match skipSpace rest with
      | .char ']' :: rest => if (skipSpace rest).isEmpty then some [] else none
      | rest => rawItems? (rest.length + 1) rest
  | _ => none

end CallPlan.Json
