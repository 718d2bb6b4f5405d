import CallPlan.Engine.Starlark.Token

/-!
Starlark expressions and their grammar. A conditional binds least, then `or`, `and`, `not`,
comparisons (which do not chain), the bitwise and arithmetic operators, and the signs.
-/

namespace CallPlan.Starlark

inductive UnaryOp where
  | plus
  | minus
  | invert
deriving DecidableEq, Repr

inductive BinaryOp where
  | equal
  | notEqual
  | less
  | lessEqual
  | greater
  | greaterEqual
  | within
  | notWithin
  | bitOr
  | bitXor
  | bitAnd
  | shiftLeft
  | shiftRight
  | add
  | sub
  | mul
  | div
  | floorDiv
  | mod
deriving DecidableEq, Repr

/-- The parameters of a function. -/
structure Params where
  /-- The parameters that positional arguments fill. -/
  positional : List Text := []
  /-- The parameters that only named arguments fill. -/
  named : List Text := []
  /-- Those of both that have a default, in their order. -/
  optional : List Text := []
  /-- What takes the positional arguments that are left. -/
  rest : Option Text := none
  /-- What takes the named arguments that are left. -/
  restNamed : Option Text := none
deriving DecidableEq, Repr

def Params.ordinary (p : Params) : List Text := p.positional ++ p.named

def Params.all (p : Params) : List Text := p.ordinary ++ p.rest.toList ++ p.restNamed.toList

mutual

/-- Expressions. A function and a comprehension are numbered, each with a number of its own. -/
inductive Expr where
  /-- An expression that is left out, as the bound of a slice may be. -/
  | absent
  | name (name : Text)
  | int (value : Int)
  | float (bits : UInt64)
  | text (value : Text)
  | bytes (value : List UInt8)
  | list (items : List Expr)
  | tuple (items : List Expr)
  /-- Keys and values in turn. -/
  | dict (entries : List Expr)
  | unary (op : UnaryOp) (operand : Expr)
  | binary (op : BinaryOp) (left right : Expr)
  | both (left right : Expr)
  | either (left right : Expr)
  | negation (operand : Expr)
  | conditional (condition whenTrue whenFalse : Expr)
  | index (operand key : Expr)
  | slice (operand low high step : Expr)
  | attribute (operand : Expr) (name : Text)
  /-- `spread` and `spreadNamed` have at most one item each, whose items are arguments. -/
  | call (function : Expr) (args : List Expr) (names : List Text) (named : List Expr)
      (spread spreadNamed : List Expr)
  | comprehension (id : Nat) (item : Expr) (clauses : List Clause)
  | dictComprehension (id : Nat) (key value : Expr) (clauses : List Clause)
  | function (id : Nat) (params : Params) (defaults : List Expr) (body : Expr)

inductive Clause where
  | loop (target : Target) (source : Expr)
  | filter (condition : Expr)

/-- What a loop assigns to: a name, as many targets as an item has elements, or a part of a value. -/
inductive Target where
  | name (name : Text)
  | parts (targets : List Target)
  | element (operand key : Expr)
  | field (operand : Expr)

end

instance : Inhabited Expr := ⟨.absent⟩

abbrev Parser := StateT (List Token) Option

namespace Parser

def next? : Parser (Option Token) := return (← get).head?

def skip : Parser Unit := modify List.tail

/-- Takes a token if it comes next. -/
def accept (token : Token) : Parser Bool := do
  if (← next?) = some token then
    skip
    return true
  else return false

def expect (token : Token) : Parser Unit := do
  if !(← accept token) then failure

def expectName : Parser Text := do
  match ← next? with
  | some (.name name) =>
      skip
      return name
  | _ => failure

/-- The operators of each level of binding, from the loosest on. -/
def levelOf : Token → Option (Nat × BinaryOp)
  | .mark "==" => some (3, .equal)
  | .mark "!=" => some (3, .notEqual)
  | .mark "<" => some (3, .less)
  | .mark "<=" => some (3, .lessEqual)
  | .mark ">" => some (3, .greater)
  | .mark ">=" => some (3, .greaterEqual)
  | .keyword "in" => some (3, .within)
  | .mark "|" => some (4, .bitOr)
  | .mark "^" => some (5, .bitXor)
  | .mark "&" => some (6, .bitAnd)
  | .mark "<<" => some (7, .shiftLeft)
  | .mark ">>" => some (7, .shiftRight)
  | .mark "+" => some (8, .add)
  | .mark "-" => some (8, .sub)
  | .mark "*" => some (9, .mul)
  | .mark "/" => some (9, .div)
  | .mark "//" => some (9, .floorDiv)
  | .mark "%" => some (9, .mod)
  | _ => none

/-- The operator that comes next, with its level; `not in` is one of two words. -/
def operator? : Parser (Option (Nat × BinaryOp)) := do
  match ← get with
  | .keyword "not" :: .keyword "in" :: _ => return some (3, .notWithin)
  | token :: _ => return levelOf token
  | [] => return none

def takeOperator : BinaryOp → Parser Unit
  | .notWithin => do
      skip
      skip
  | _ => skip

/-- Whether a list of expressions can end here. -/
def endsList : Parser Bool := do
  match ← next? with
  | some (.mark m) => return [")", "]", "\x7d", "=", ";"].contains m
  | some .newline => return true
  | some _ => return false
  | none => return true

/-- A number that no other place of the source has: how many tokens are left. -/
def place : Parser Nat := return (← get).length

/-- Parameters before they are sorted out. -/
inductive RawParam where
  | required (name : Text)
  | optional (name : Text)
  | rest (name : Option Text)
  | restNamed (name : Text)

/-- Sorts parameters out: required ones go before optional ones unless only names fill them, the
collectors come last, and a bare star has parameters after it. -/
def sortParams (bareStar : Bool) : Params → List RawParam → Option Params
  | p, [] => if bareStar && p.named.isEmpty then none else if p.all.Nodup then some p else none
  | p, .required name :: more =>
      if p.restNamed.isSome then none
      else if bareStar || p.rest.isSome then
        sortParams bareStar { p with named := p.named ++ [name] } more
      else if !p.optional.isEmpty then none
      else sortParams bareStar { p with positional := p.positional ++ [name] } more
  | p, .optional name :: more =>
      if p.restNamed.isSome then none
      else
        let p := { p with optional := p.optional ++ [name] }
        if bareStar || p.rest.isSome then
          sortParams bareStar { p with named := p.named ++ [name] } more
        else sortParams bareStar { p with positional := p.positional ++ [name] } more
  | p, .rest name :: more =>
      if p.restNamed.isSome || p.rest.isSome || bareStar then none
      else sortParams name.isNone { p with rest := name } more
  | p, .restNamed name :: more =>
      if p.restNamed.isSome then none else sortParams bareStar { p with restNamed := some name } more

/-- The arguments of a call as they are read. -/
structure Arguments where
  args : List Expr := []
  names : List Text := []
  named : List Expr := []
  spread : List Expr := []
  spreadNamed : List Expr := []

/-- How many arguments of a kind a call may have. -/
def maxArguments : Nat := 255

def Arguments.toCall? (a : Arguments) (f : Expr) : Option Expr :=
  if a.args.length > maxArguments || a.named.length > maxArguments then none
  else some (.call f a.args a.names a.named a.spread a.spreadNamed)

mutual

/-- The target that an expression stands for. -/
def targetOf? : Expr → Option Target
  | .name n => some (.name n)
  | .list items | .tuple items => (targetsOf? items).map .parts
  | .index operand key => some (.element operand key)
  | .attribute operand _ => some (.field operand)
  | _ => none

def targetsOf? : List Expr → Option (List Target)
  | [] => some []
  | e :: rest => do return (← targetOf? e) :: (← targetsOf? rest)

end

mutual

/-- An expression without commas outside brackets. Unless `conditional`, it is not a choice of two. -/
def test (conditional : Bool) : Nat → Parser Expr
  | 0 => failure
  | fuel + 1 => do
      let id ← place
      if ← accept (.keyword "lambda") then
        let (raw, defaults) ← params fuel
        expect (.mark ":")
        let body ← test conditional fuel
        match sortParams false {} raw with
        | some params => return .function id params defaults body
        | none => failure
      else
        let value ← either fuel
        if conditional && (← accept (.keyword "if")) then
          let condition ← either fuel
          expect (.keyword "else")
          let other ← test true fuel
          return .conditional condition value other
        else return value

/-- Parameters up to a colon, and the defaults of those that have one. -/
def params : Nat → Parser (List RawParam × List Expr)
  | 0 => failure
  | fuel + 1 => do
      if (← next?) = some (.mark ":") then return ([], [])
      else
        let (param, defaults) ← param fuel
        if ← accept (.mark ",") then
          if (← next?) = some (.mark ":") then failure
          else
            let (more, moreDefaults) ← params fuel
            return (param :: more, defaults ++ moreDefaults)
        else return ([param], defaults)

def param : Nat → Parser (RawParam × List Expr)
  | 0 => failure
  | fuel + 1 => do
      if ← accept (.mark "**") then return (.restNamed (← expectName), [])
      else if ← accept (.mark "*") then
        match ← next? with
        | some (.name name) =>
            skip
            return (.rest (some name), [])
        | _ => return (.rest none, [])
      else
        let name ← expectName
        if ← accept (.mark "=") then return (.optional name, [← test true fuel])
        else return (.required name, [])

def either : Nat → Parser Expr
  | 0 => failure
  | fuel + 1 => do eitherTail fuel (← both fuel)

def eitherTail : Nat → Expr → Parser Expr
  | 0, _ => failure
  | fuel + 1, left => do
      if ← accept (.keyword "or") then eitherTail fuel (.either left (← both fuel)) else return left

def both : Nat → Parser Expr
  | 0 => failure
  | fuel + 1 => do bothTail fuel (← negation fuel)

def bothTail : Nat → Expr → Parser Expr
  | 0, _ => failure
  | fuel + 1, left => do
      if ← accept (.keyword "and") then bothTail fuel (.both left (← negation fuel)) else return left

def negation : Nat → Parser Expr
  | 0 => failure
  | fuel + 1 => do
      if ← accept (.keyword "not") then return .negation (← negation fuel) else binary fuel 3

/-- Operators of a level and above. -/
def binary : Nat → Nat → Parser Expr
  | 0, _ => failure
  | fuel + 1, level =>
      if level > 9 then suffixed fuel
      else do binaryTail fuel level true (← binary fuel (level + 1))

def binaryTail : Nat → Nat → Bool → Expr → Parser Expr
  | 0, _, _, _ => failure
  | fuel + 1, level, first, left => do
      match ← operator? with
      | some (opLevel, op) =>
          if opLevel ≠ level then return left
          else if level = 3 && !first then failure
          else
            takeOperator op
            let right ← binary fuel (level + 1)
            binaryTail fuel level false (.binary op left right)
      | none => return left

def suffixed : Nat → Parser Expr
  | 0 => failure
  | fuel + 1 => do suffixes fuel (← primary fuel)

def suffixes : Nat → Expr → Parser Expr
  | 0, _ => failure
  | fuel + 1, e => do
      if ← accept (.mark ".") then suffixes fuel (.attribute e (← expectName))
      else if ← accept (.mark "[") then suffixes fuel (← subscript fuel e)
      else if ← accept (.mark "(") then
        let args ← arguments fuel {}
        match args.toCall? e with
        | some call => suffixes fuel call
        | none => failure
      else return e

/-- An index or a slice after its opening bracket. -/
def subscript : Nat → Expr → Parser Expr
  | 0, _ => failure
  | fuel + 1, e => do
      if (← next?) = some (.mark ":") then slice fuel e .absent
      else
        let first ← listed fuel false
        if ← accept (.mark "]") then return .index e first else slice fuel e first

/-- A slice from its first colon on. -/
def slice : Nat → Expr → Expr → Parser Expr
  | 0, _, _ => failure
  | fuel + 1, e, low => do
      expect (.mark ":")
      let high ← bound fuel
      let step ← if ← accept (.mark ":") then bound fuel else pure .absent
      expect (.mark "]")
      return .slice e low high step

def bound : Nat → Parser Expr
  | 0 => failure
  | fuel + 1 => do
      match ← next? with
      | some (.mark ":") | some (.mark "]") => return .absent
      | _ => test true fuel

/-- The arguments of a call after its opening parenthesis. -/
def arguments : Nat → Arguments → Parser Arguments
  | 0, _ => failure
  | fuel + 1, a => do
      if ← accept (.mark ")") then return a
      else
        let a ← argument fuel a
        if ← accept (.mark ",") then arguments fuel a
        else
          expect (.mark ")")
          return a

/-- One more argument: positional ones come first, then named ones, then what is spread. -/
def argument : Nat → Arguments → Parser Arguments
  | 0, _ => failure
  | fuel + 1, a => do
      if !a.spreadNamed.isEmpty then failure
      match ← get with
      | .mark "**" :: _ =>
          skip
          return { a with spreadNamed := [← test true fuel] }
      | .mark "*" :: _ =>
          skip
          if !a.spread.isEmpty then failure
          return { a with spread := [← test true fuel] }
      | .name name :: .mark "=" :: _ =>
          skip
          skip
          if !a.spread.isEmpty || a.names.contains name then failure
          return { a with names := a.names ++ [name], named := a.named ++ [← test true fuel] }
      | _ =>
          if !a.spread.isEmpty || !a.names.isEmpty then failure
          return { a with args := a.args ++ [← test true fuel] }

/-- An expression, or several with commas between them as a tuple. -/
def listed : Nat → Bool → Parser Expr
  | 0, _ => failure
  | fuel + 1, trailing => do
      let first ← test true fuel
      if (← next?) = some (.mark ",") then return .tuple (first :: (← listedTail fuel trailing))
      else return first

def listedTail : Nat → Bool → Parser (List Expr)
  | 0, _ => failure
  | fuel + 1, trailing => do
      if ← accept (.mark ",") then
        if ← endsList then
          if trailing then return [] else failure
        else
          let item ← test true fuel
          return item :: (← listedTail fuel trailing)
      else return []

def primary : Nat → Parser Expr
  | 0 => failure
  | fuel + 1 => do
      match ← next? with
      | some (.name name) =>
          skip
          return .name name
      | some (.int value) =>
          skip
          return .int value
      | some (.float bits) =>
          skip
          return .float bits
      | some (.text value) =>
          skip
          return .text value
      | some (.bytes value) =>
          skip
          return .bytes value
      | some (.mark "-") =>
          skip
          return .unary .minus (← suffixed fuel)
      | some (.mark "+") =>
          skip
          return .unary .plus (← suffixed fuel)
      | some (.mark "~") =>
          skip
          return .unary .invert (← suffixed fuel)
      | some (.mark "(") =>
          skip
          if ← accept (.mark ")") then return .tuple []
          else
            let e ← listed fuel true
            expect (.mark ")")
            return e
      | some (.mark "[") =>
          skip
          if ← accept (.mark "]") then return .list []
          else
            let first ← test true fuel
            let id ← place
            if (← next?) = some (.keyword "for") then
              let clauses ← clauses fuel
              expect (.mark "]")
              return .comprehension id first clauses
            else
              let items ← listedTail fuel true
              expect (.mark "]")
              return .list (first :: items)
      | some (.mark "\x7b") =>
          skip
          if ← accept (.mark "\x7d") then return .dict []
          else
            let key ← test true fuel
            expect (.mark ":")
            let value ← test true fuel
            let id ← place
            if (← next?) = some (.keyword "for") then
              let clauses ← clauses fuel
              expect (.mark "\x7d")
              return .dictComprehension id key value clauses
            else
              let entries ← entries fuel
              expect (.mark "\x7d")
              return .dict (key :: value :: entries)
      | _ => failure

/-- The entries of a map after its first. -/
def entries : Nat → Parser (List Expr)
  | 0 => failure
  | fuel + 1 => do
      if ← accept (.mark ",") then
        if (← next?) = some (.mark "\x7d") then return []
        else
          let key ← test true fuel
          expect (.mark ":")
          let value ← test true fuel
          return key :: value :: (← entries fuel)
      else return []

/-- The loops and filters of a comprehension. -/
def clauses : Nat → Parser (List Clause)
  | 0 => failure
  | fuel + 1 => do
      if ← accept (.keyword "for") then
        match targetOf? (← targets fuel) with
        | none => failure
        | some target =>
            expect (.keyword "in")
            let source ← either fuel
            return .loop target source :: (← clauses fuel)
      else if ← accept (.keyword "if") then
        let condition ← test false fuel
        return .filter condition :: (← clauses fuel)
      else return []

/-- The targets of a loop: one, or several with commas between them. -/
def targets : Nat → Parser Expr
  | 0 => failure
  | fuel + 1 => do
      let first ← suffixed fuel
      if (← next?) = some (.mark ",") then return .tuple (first :: (← targetsTail fuel))
      else return first

def targetsTail : Nat → Parser (List Expr)
  | 0 => failure
  | fuel + 1 => do
      if ← accept (.mark ",") then
        let first ← suffixed fuel
        return first :: (← targetsTail fuel)
      else return []

end

end Parser

/-- A source that has been read. `size` is the number of its tokens. -/
structure Program where
  body : Expr
  size : Nat

/-- Reads a source that is one expression, perhaps with line ends after it. Sixteen steps are enough
for each token. -/
def parse? (source : Text) : Option Program := do
  let tokens ← tokens? source
  let (body, rest) ← (Parser.listed (16 * tokens.length + 32) false).run tokens
  if rest.all (· = .newline) then some { body, size := tokens.length } else none

/-- A default is read as if it stood in parentheses, so that it may span lines. -/
def parseDefault? (source : Text) : Option Program := parse? ("(\n" ++ source ++ "\n)")

mutual

def Target.names : Target → List Text
  | .name n => [n]
  | .parts targets => targetsNames targets
  | .element .. | .field _ => []

def targetsNames : List Target → List Text
  | [] => []
  | target :: rest => target.names ++ targetsNames rest

end

/-- The names that the loops of a comprehension bind. -/
def clausesNames : List Clause → List Text
  | [] => []
  | .loop target _ :: rest => target.names ++ clausesNames rest
  | .filter _ :: rest => clausesNames rest

mutual

/-- Whether every name an expression uses is known, besides those it binds itself. -/
def Expr.isClosed (known : List Text) : Expr → Bool
  | .absent | .int _ | .float _ | .text _ | .bytes _ => true
  | .name n => known.contains n
  | .list items | .tuple items | .dict items => allClosed known items
  | .unary _ e | .negation e | .attribute e _ => e.isClosed known
  | .binary _ a b | .both a b | .either a b | .index a b => a.isClosed known && b.isClosed known
  | .conditional a b c => a.isClosed known && b.isClosed known && c.isClosed known
  | .slice a b c d =>
      a.isClosed known && b.isClosed known && c.isClosed known && d.isClosed known
  | .call f args _ named spread spreadNamed =>
      f.isClosed known && allClosed known args && allClosed known named &&
        allClosed known spread && allClosed known spreadNamed
  | .comprehension _ item clauses =>
      let inner := clausesNames clauses ++ known
      clausesClosed known inner clauses && item.isClosed inner
  | .dictComprehension _ key value clauses =>
      let inner := clausesNames clauses ++ known
      clausesClosed known inner clauses && key.isClosed inner && value.isClosed inner
  | .function _ params defaults body =>
      allClosed known defaults && body.isClosed (params.all ++ known)

def allClosed (known : List Text) : List Expr → Bool
  | [] => true
  | e :: rest => e.isClosed known && allClosed known rest

/-- The source of the first loop stands outside the comprehension and all else inside. -/
def clausesClosed (outer inner : List Text) : List Clause → Bool
  | [] => true
  | .loop target source :: rest =>
      source.isClosed outer && target.isClosed inner && clausesClosed inner inner rest
  | .filter condition :: rest => condition.isClosed inner && clausesClosed inner inner rest

def Target.isClosed (known : List Text) : Target → Bool
  | .name _ => true
  | .parts targets => targetsClosed known targets
  | .element operand key => operand.isClosed known && key.isClosed known
  | .field operand => operand.isClosed known

def targetsClosed (known : List Text) : List Target → Bool
  | [] => true
  | target :: rest => target.isClosed known && targetsClosed known rest

end

end CallPlan.Starlark
