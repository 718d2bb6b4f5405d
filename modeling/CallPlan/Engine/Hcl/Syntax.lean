import CallPlan.Engine.Hcl.Token
import CallPlan.Engine.Hcl.Value
import CallPlan.Text.Blank

/-!
HCL expressions and their grammar. A conditional binds least, then `||`, `&&`, equality, order, sums
and products. Line ends mean nothing except between the items of an object.
-/

namespace CallPlan.Hcl

inductive BinaryOp where
  | or
  | and
  | equal
  | notEqual
  | greater
  | greaterEqual
  | less
  | lessEqual
  | add
  | sub
  | mul
  | div
  | mod
deriving DecidableEq, Repr

inductive Expr where
  | literal (value : Value)
  | name (name : Text)
  /-- A name with parts of it taken, where only a key may stand. -/
  | ambiguousKey (operand : Expr)
  /-- An expression in brackets of its own. -/
  | group (operand : Expr)
  | member (operand : Expr) (name : Text)
  | index (operand key : Expr)
  | template (parts : List Expr)
  | negate (operand : Expr)
  | complement (operand : Expr)
  | binary (op : BinaryOp) (left right : Expr)
  | conditional (condition whenTrue whenFalse : Expr)
  | call (function : Text) (args : List Expr) (spread : Bool)
  | tuple (items : List Expr)
  /-- Keys and values in turn. -/
  | object (items : List Expr)
  /-- The condition is `literal true` when there is none. -/
  | eachItem (keyName valueName : Text) (source value condition : Expr) (filtered : Bool)
  | eachEntry (keyName valueName : Text) (source key value condition : Expr)
      (filtered grouped : Bool)
deriving Inhabited

abbrev Parser := StateT (List Token) Option

namespace Parser

/-- The next token. Line ends are passed over unless they count. -/
def next? (lines : Bool) : Parser (Option Token) := do
  let tokens ← get
  return (if lines then tokens else tokens.dropWhile (· = .newline)).head?

def skip (lines : Bool) : Parser Unit :=
  modify fun tokens => (if lines then tokens else tokens.dropWhile (· = .newline)).tail

def accept (lines : Bool) (token : Token) : Parser Bool := do
  if (← next? lines) = some token then
    skip lines
    return true
  else return false

def expect (lines : Bool) (token : Token) : Parser Unit := do
  if !(← accept lines token) then failure

def expectName (lines : Bool) : Parser Text := do
  match ← next? lines with
  | some (.name n) =>
      skip lines
      return n
  | _ => failure

/-- The operators of each level of binding, from the loosest on. -/
def levelOf : Token → Option (Nat × BinaryOp)
  | .mark "||" => some (0, .or)
  | .mark "&&" => some (1, .and)
  | .mark "==" => some (2, .equal)
  | .mark "!=" => some (2, .notEqual)
  | .mark ">" => some (3, .greater)
  | .mark ">=" => some (3, .greaterEqual)
  | .mark "<" => some (3, .less)
  | .mark "<=" => some (3, .lessEqual)
  | .mark "+" => some (4, .add)
  | .mark "-" => some (4, .sub)
  | .mark "*" => some (5, .mul)
  | .mark "/" => some (5, .div)
  | .mark "%" => some (5, .mod)
  | _ => none

def number? (literal : Text) : Option Expr := (Value.parseNumber? literal).map (.literal <| .number ·)

/-- The item that a number after a point stands for; a number with a point of its own stands for
none. -/
def indexed? (operand : Expr) (literal : Text) : Option Expr :=
  if literal.contains (.char '.') then none else do return .index operand (← number? literal)

/-- Whether an expression is a name with parts taken by what is written out. -/
def isPath : Expr → Bool
  | .name _ => true
  | .member operand _ => isPath operand
  | .index operand (.literal _) => isPath operand
  | .index operand (.template []) => isPath operand
  | .index operand (.template [.literal _]) => isPath operand
  | _ => false

/-- What an expression means as a key: a name stands for itself, and so does the word for nothing. -/
def keyOf : Expr → Expr
  | .name n => .literal (.ofText n)
  | .literal (.null _) => .literal (.text "null")
  | e => if isPath e then .ambiguousKey e else e

def constant? (n : Text) : Option Expr :=
  if n = Text.ofString "true" then some (.literal (.bool true))
  else if n = Text.ofString "false" then some (.literal (.bool false))
  else if n = Text.ofString "null" then some (.literal (.null .dynamic))
  else none

def forWord : Token := .name "for"

def ifWord : Token := .name "if"

def inWord : Token := .name "in"

mutual

def expression : Nat → Bool → Parser Expr
  | 0, _ => failure
  | fuel + 1, lines => do
      let condition ← binary fuel lines 0
      if ← accept lines (.mark "?") then
        let whenTrue ← expression fuel lines
        expect lines (.mark ":")
        let whenFalse ← expression fuel lines
        return .conditional condition whenTrue whenFalse
      else return condition

/-- Operators of a level and above. -/
def binary : Nat → Bool → Nat → Parser Expr
  | 0, _, _ => failure
  | fuel + 1, lines, level => do
      if level > 5 then suffixed fuel lines
      else binaryTail fuel lines level (← binary fuel lines (level + 1))

def binaryTail : Nat → Bool → Nat → Expr → Parser Expr
  | 0, _, _, _ => failure
  | fuel + 1, lines, level, left => do
      match (← next? lines).bind levelOf with
      | some (opLevel, op) =>
          if opLevel ≠ level then return left
          else
            skip lines
            let right ← binary fuel lines (level + 1)
            binaryTail fuel lines level (.binary op left right)
      | none => return left

def suffixed : Nat → Bool → Parser Expr
  | 0, _ => failure
  | fuel + 1, lines => do suffixes fuel lines (← primary fuel lines)

def suffixes : Nat → Bool → Expr → Parser Expr
  | 0, _, _ => failure
  | fuel + 1, lines, e => do
      if ← accept lines (.mark ".") then
        match ← next? lines with
        | some (.name n) =>
            skip lines
            suffixes fuel lines (.member e n)
        | some (.number literal) =>
            skip lines
            suffixes fuel lines (← (indexed? e literal : Option Expr))
        | _ => failure
      else if ← accept lines (.mark "[") then
        let key ← expression fuel false
        expect false (.mark "]")
        suffixes fuel lines (.index e key)
      else return e

def primary : Nat → Bool → Parser Expr
  | 0, _ => failure
  | fuel + 1, lines => do
      match ← next? lines with
      | some (.mark "(") =>
          skip lines
          let e ← expression fuel false
          expect false (.mark ")")
          return .group e
      | some (.number literal) =>
          skip lines
          (number? literal : Option Expr)
      | some (.name n) =>
          skip lines
          match ← next? lines with
          | some (.mark "(") | some (.mark "::") =>
              let f ← functionName fuel lines n
              arguments fuel f []
          | _ => return (constant? n).getD (.name n)
      | some .openQuote =>
          skip lines
          let (parts, _) ← templateParts fuel false
          match parts with
          | [.group e] => return .group e
          | parts => return .template parts
      | some (.mark "-") =>
          skip lines
          return .negate (← suffixed fuel lines)
      | some (.mark "!") =>
          skip lines
          return .complement (← suffixed fuel lines)
      | some (.mark "[") =>
          skip lines
          if ← accept false forWord then loop fuel false
          else return .tuple (← items fuel)
      | some (.mark "\x7b") =>
          skip lines
          if ← accept false forWord then loop fuel true
          else return .object (← objectItems fuel)
      | _ => failure

/-- The name of a function, up to its opening parenthesis. -/
def functionName : Nat → Bool → Text → Parser Text
  | 0, _, _ => failure
  | fuel + 1, lines, n => do
      if ← accept lines (.mark "::") then
        let part ← expectName lines
        functionName fuel lines (n ++ "::" ++ part)
      else
        expect lines (.mark "(")
        return n

/-- The arguments of a call after its opening parenthesis. -/
def arguments : Nat → Text → List Expr → Parser Expr
  | 0, _, _ => failure
  | fuel + 1, f, args => do
      if ← accept false (.mark ")") then return .call f args false
      else
        let args := args ++ [← expression fuel false]
        if ← accept false (.mark ")") then return .call f args false
        else if ← accept false (.mark "...") then
          expect false (.mark ")")
          return .call f args true
        else
          expect false (.mark ",")
          arguments fuel f args

/-- The pieces of a template up to its closing quote, and whether the first of them drops the white
space of a literal piece before it. `trims` says whether it drops its own at the start. -/
def templateParts : Nat → Bool → Parser (List Expr × Bool)
  | 0, _ => failure
  | fuel + 1, trims => do
      match ← next? true with
      | some .closeQuote =>
          skip true
          return ([], false)
      | some (.literal piece) =>
          skip true
          let (rest, trimmed) ← templateParts fuel false
          let piece := if trims then piece.trimStart else piece
          let piece := if trimmed then piece.trimEnd else piece
          match rest with
          | .literal (.text more) :: rest => return (.literal (.text (piece ++ more)) :: rest, false)
          | rest => return (.literal (.text piece) :: rest, false)
      | some (.openInterpolation trimsBefore) =>
          skip true
          let e ← expression fuel false
          match ← next? false with
          | some (.closeInterpolation trimsAfter) =>
              skip false
              let (rest, _) ← templateParts fuel trimsAfter
              return (.group e :: rest, trimsBefore)
          | _ => failure
      | _ => failure

/-- The items of a tuple after its opening bracket. -/
def items : Nat → Parser (List Expr)
  | 0 => failure
  | fuel + 1 => do
      if ← accept false (.mark "]") then return []
      else
        let item ← expression fuel false
        if ← accept false (.mark "]") then return [item]
        else
          expect false (.mark ",")
          return item :: (← items fuel)

/-- The items of an object after its opening brace. -/
def objectItems : Nat → Parser (List Expr)
  | 0 => failure
  | fuel + 1 => do
      if ← accept true .newline then objectItems fuel
      else if ← accept true (.mark "\x7d") then return []
      else
        let key ← expression fuel true
        if !(← accept true (.mark "=")) then expect true (.mark ":")
        let value ← expression fuel true
        if ← accept true (.mark "\x7d") then return [keyOf key, value]
        else
          if !(← accept true (.mark ",")) then expect true .newline
          return keyOf key :: value :: (← objectItems fuel)

/-- A `for` expression after its first word. -/
def loop : Nat → Bool → Parser Expr
  | 0, _ => failure
  | fuel + 1, isObject => do
      let first ← expectName false
      let (keyName, valueName) ← if ← accept false (.mark ",") then do
          let second ← expectName false
          pure (first, second)
        else pure ([], first)
      expect false inWord
      let source ← expression fuel false
      expect false (.mark ":")
      let value ← expression fuel false
      let entry ← if ← accept false (.mark "=>") then do
          let entryValue ← expression fuel false
          pure (some entryValue)
        else pure none
      let grouped ← accept false (.mark "...")
      let filtered ← accept false ifWord
      let condition ← if filtered then expression fuel false else pure (.literal (.bool true))
      expect false (.mark (if isObject then "\x7d" else "]"))
      match isObject, entry with
      | true, some entryValue =>
          return .eachEntry keyName valueName source value entryValue condition filtered grouped
      | false, none =>
          if grouped then failure
          else return .eachItem keyName valueName source value condition filtered
      | _, _ => failure

end

end Parser

/-- Reads a source that is one expression. Sixteen steps are enough for each token. -/
def parse? (source : Text) : Option Expr := do
  let tokens ← tokens? source
  let (e, rest) ← (Parser.expression (16 * tokens.length + 32) false).run tokens
  if rest.all (· = .newline) then some e else none

mutual

/-- The names that an expression takes from outside, in the order it refers to them. -/
def Expr.freeNames (bound : List Text) : Expr → List Text
  | .literal _ => []
  | .name n => if bound.contains n then [] else [n]
  | .ambiguousKey e | .group e | .member e _ | .negate e | .complement e => e.freeNames bound
  | .index a b | .binary _ a b => a.freeNames bound ++ b.freeNames bound
  | .conditional a b c => a.freeNames bound ++ b.freeNames bound ++ c.freeNames bound
  | .template items | .tuple items | .object items | .call _ items _ => freeNamesAll bound items
  | .eachItem keyName valueName source value condition _ =>
      source.freeNames bound ++ value.freeNames (keyName :: valueName :: bound) ++
        condition.freeNames (keyName :: valueName :: bound)
  | .eachEntry keyName valueName source key value condition _ _ =>
      source.freeNames bound ++ key.freeNames (keyName :: valueName :: bound) ++
        value.freeNames (keyName :: valueName :: bound) ++
        condition.freeNames (keyName :: valueName :: bound)

def freeNamesAll (bound : List Text) : List Expr → List Text
  | [] => []
  | e :: rest => e.freeNames bound ++ freeNamesAll bound rest

end

mutual

/-- The functions that an expression calls, in the order it names them. -/
def Expr.functions : Expr → List Text
  | .literal _ | .name _ => []
  | .ambiguousKey e | .group e | .member e _ | .negate e | .complement e => e.functions
  | .index a b | .binary _ a b => a.functions ++ b.functions
  | .conditional a b c => a.functions ++ b.functions ++ c.functions
  | .template items | .tuple items | .object items => functionsAll items
  | .call f args _ => f :: functionsAll args
  | .eachItem _ _ source value condition _ =>
      source.functions ++ value.functions ++ condition.functions
  | .eachEntry _ _ source key value condition _ _ =>
      source.functions ++ key.functions ++ value.functions ++ condition.functions

def functionsAll : List Expr → List Text
  | [] => []
  | e :: rest => e.functions ++ functionsAll rest

end

end CallPlan.Hcl
