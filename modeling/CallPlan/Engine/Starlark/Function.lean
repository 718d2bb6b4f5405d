import CallPlan.Engine.Starlark.Operator
import CallPlan.Text.Blank
import CallPlan.Text.Case

/-!
The functions that every source may call, and the methods of texts. A function that takes a key calls
it through `Apply`, so that functions of the source can be keys too.
-/

namespace CallPlan.Starlark

/-- How a value is called: with positional arguments, and named ones in their order. -/
abbrev Apply := Value → List Value → List (Text × Value) → Eval Value

/-- Positional arguments that are all there are, of a number between two bounds. -/
def positional (least most : Nat) (args : List Value) (named : List (Text × Value)) : Eval Unit :=
  if named.isEmpty && least ≤ args.length && args.length ≤ most then return ()
  else fail "unexpected arguments"

/-- The arguments of a call by the names of its parameters, which positional arguments fill in
order. Each is given once. -/
def byName (params : List String) (args : List Value) (named : List (Text × Value)) :
    Eval (String → Option Value) :=
  let given := (params.map Text.ofString).zip args ++ named
  let names := given.map (·.1)
  if args.length ≤ params.length && names.all (fun n => params.contains n.toString) && names.Nodup then
    return fun name => given.lookup (Text.ofString name)
  else fail "unexpected arguments"

def isCallable : Value → Bool
  | .builtin _ | .method .. | .function .. => true
  | _ => false

/-- Items with what they are ordered by. -/
def keyed (apply : Apply) (key : Option Value) (values : List Value) : Eval (List (Value × Value)) := do
  match key with
  | none => return values.map fun v => (v, v)
  | some f =>
      if isCallable f then values.mapM fun v => do return (← apply f [v] [], v)
      else fail "key is not callable"

/-- Inserts an item into a list with the greatest first, before all that it is not less than. -/
def insertOrdered (less : Value → Value → Eval Bool) (item : Value × Value) :
    List (Value × Value) → Eval (List (Value × Value))
  | [] => return [item]
  | head :: rest => do
      if ← less item.1 head.1 then return head :: (← insertOrdered less item rest)
      else return item :: head :: rest

/-- Merges sorted lists onto the reverse of `merged`; of equal items those of the first come first. -/
def merge (less : Value → Value → Eval Bool) (merged : List (Value × Value)) :
    List (Value × Value) → List (Value × Value) → Eval (List (Value × Value))
  | [], bs => return merged.reverse ++ bs
  | as, [] => return merged.reverse ++ as
  | a :: as, b :: bs => do
      if ← less b.1 a.1 then merge less (b :: merged) (a :: as) bs
      else merge less (a :: merged) as (b :: bs)
termination_by as bs => as.length + bs.length

def mergePairs (less : Value → Value → Eval Bool) :
    List (List (Value × Value)) → Eval (List (List (Value × Value)))
  | a :: b :: rest => do
      let first ← merge less [] a b
      return first :: (← mergePairs less rest)
  | rest => return rest

def mergeAll (less : Value → Value → Eval Bool) :
    Nat → List (List (Value × Value)) → Eval (List (Value × Value))
  | 0, blocks => return blocks.flatten
  | fuel + 1, blocks =>
      match blocks with
      | [] => return []
      | [block] => return block
      | blocks => do mergeAll less fuel (← mergePairs less blocks)

/-- How many items are sorted by insertion before they are merged. -/
def blockSize : Nat := 20

def blocksOf {α : Type} : Nat → List α → List (List α)
  | 0, _ => []
  | fuel + 1, items =>
      if items.isEmpty then [] else items.take blockSize :: blocksOf fuel (items.drop blockSize)

/-- Sorts items by their keys; equal keys keep their order. -/
def sortByKey (reverse : Bool) (items : List (Value × Value)) : Eval (List Value) := do
  let less (a b : Value) : Eval Bool := if reverse then ordered .less b a else ordered .less a b
  let blocks ← (blocksOf items.length items).mapM fun block => do
    return (← block.foldlM (fun sorted item => insertOrdered less item sorted) []).reverse
  return (← mergeAll less blocks.length blocks).map (·.2)

/-- The first item whose key is least, or greatest. -/
def extreme (greatest : Bool) : List (Value × Value) → Eval Value
  | [] => fail "argument is an empty sequence"
  | first :: rest => do
      let best ← rest.foldlM (fun (best : Value × Value) item => do
        if ← ordered (if greatest then .greater else .less) item.1 best.1 then return item
        else return best) first
      return best.2

/-- The integer that a text writes in a base; base zero reads the mark in the text. -/
def parseInt? (base : Nat) (t : Text) : Option Int := do
  let (negative, digits) := Numeral.signed t
  let n ← match digits with
    | .char '0' :: mark :: rest =>
        match if rest.isEmpty then none else Numeral.baseOfMark? mark with
        | some marked =>
            if base = 0 || base = marked then Numeral.value? marked rest
            else Numeral.value? base digits
        | none =>
            if base = 0 then if digits.all (· = .char '0') then some 0 else none
            else Numeral.value? base digits
    | digits => Numeral.value? (if base = 0 then 10 else base) digits
  return if negative then -n else n

def parseFloat (t : Text) : Eval Value := do
  let unsigned := (Numeral.signed t).2
  match Numeral.special? t, Numeral.special? unsigned with
  | some bits, _ => return .float bits
  | none, some bits => if Double.isNaN bits then return .float bits else fail "invalid float literal"
  | none, none =>
      match Numeral.double? t with
      | some bits => return .float bits
      | none => fail "invalid float literal"

/-- Splits a text at a separator, at most `limit` times. -/
def splitAt (separator : List UInt8) (limit : Option Nat) : Nat → List UInt8 → List (List UInt8)
  | 0, t => [t]
  | fuel + 1, t =>
      match limit, cutAt separator [] t with
      | some 0, _ => [t]
      | _, none => [t]
      | limit, some (before, after) => before :: splitAt separator (limit.map (· - 1)) fuel after

/-- Splits a text at white space, at most `limit` times; what is left keeps its white space at the
end. -/
def splitBlank (limit : Nat) (t : Text) : List Text :=
  match limit, t.trimStart with
  | _, [] => []
  | 0, rest => [rest]
  | limit + 1, rest =>
      let word := rest.takeWhile (!·.isBlank)
      word :: splitBlank limit (rest.drop word.length)

def split (t : Text) (args : List Value) : Eval Value := do
  let limit : Option Nat ← match (args[1]? : Option Value) with
    | none => pure none
    | some n => do
        let n ← int64 n
        pure (if n < 0 then none else some n.toNat)
  match (args[0]? : Option Value) with
  | none | some .none =>
      return .list ((match limit with
        | some limit => splitBlank (min limit t.length) t
        | none => t.fields).map .text)
  | some (.text separator) =>
      if separator.isEmpty then fail "split: empty separator"
      else return .list ((splitAt separator.toBytes limit (t.size + 1) t.toBytes).map textOfBytes)
  | some v => fail ("split: got " ++ v.typeName ++ " for separator")

def upper (t : Text) : Text := t.map fun
  | .char c => .char (Text.upperChar c)
  | .stray _ => .char '\uFFFD'

def join (separator : Text) (parts : Value) : Eval Value := do
  let parts ← (← itemList parts).mapM fun
    | .text t => pure t
    | _ => fail "join: item is not a string"
  return textOfBytes (Text.join separator parts).toBytes

/-- The methods of texts. -/
def textMethods : List String := ["upper", "split", "join"]

/-- A method of a value, told apart from every other. -/
def member (v : Value) (name : Text) : Eval Value := do
  match v with
  | .text _ =>
      if textMethods.contains name.toString then return .method (← freshSerial) name v
      else fail ("string has no attribute " ++ name)
  | _ => fail (v.typeName ++ " has no attribute " ++ name)

def callMethod (name : String) (receiver : Value) (args : List Value) (named : List (Text × Value)) :
    Eval Value := do
  match name, receiver with
  | "upper", .text t =>
      positional 0 0 args named
      return .text (upper t)
  | "split", .text t =>
      positional 0 2 args named
      split t args
  | "join", .text t =>
      positional 1 1 args named
      match args with
      | [parts] => join t parts
      | _ => fail "join: unexpected arguments"
  | _, _ => fail "unknown method"

def length (v : Value) : Eval Value :=
  match v with
  | .text t => return .int t.size
  | .bytes b => return .int b.length
  | .list items | .tuple items | .set items => return .int items.length
  | .dict entries => return .int entries.length
  | .range r => if r.length < 0 then fail "len: no length" else return .int r.length
  | _ => fail ("len: value of type " ++ v.typeName ++ " has no len")

/-- The functions that take positional arguments only, and at most one of them. -/
def callPlain (name : String) (args : List Value) : Eval Value := do
  match name, args with
  | "len", [v] => length v
  | "str", [v] => return .text v.asText
  | "repr", [v] => return .text v.render
  | "type", [v] => return .text v.typeName
  | "bool", [] => return .bool false
  | "bool", [v] => return .bool v.isTrue
  | "list", [] => return .list []
  | "list", [v] => return .list (← itemList v)
  | "tuple", [] => return .tuple []
  | "tuple", [v] => return .tuple (← itemList v)
  | "abs", [.int n] => return .int n.natAbs
  | "abs", [.float bits] => return ofFloat (Float.ofBits bits).abs
  | "float", [] => return .float 0
  | "float", [.bool b] => return ofFloat (if b then 1.0 else 0.0)
  | "float", [.int n] => return ofFloat (← toFloat n)
  | "float", [.float bits] => return .float bits
  | "float", [.text t] => parseFloat t
  | _, _ => fail (Text.ofString name ++ ": unexpected arguments")

def makeRange (args : List Value) : Eval Value := do
  let range ← match ← args.mapM int64 with
    | [stop] => pure { start := 0, stop, step := 1 }
    | [start, stop] => pure { start, stop, step := 1 }
    | [start, stop, step] => pure { start, stop, step : Progression }
    | _ => fail "range: unexpected arguments"
  if range.step = 0 then fail "range: step argument must not be zero" else return .range range

/-- The integer that a value stands for. Only a text may have a base. -/
def makeInt (v : Value) (base : Option Value) : Eval Value := do
  match v, base with
  | .text t, base =>
      let base ← match base with
        | none => pure 10
        | some base => int32 base
      if base ≠ 0 && (base < 2 || base > 36) then fail "int: base out of range"
      else match parseInt? base.toNat t with
        | some n => return .int n
        | none => fail "int: invalid literal"
  | _, some _ => fail "int: only a string has a base"
  | .bool b, none => return .int b.toNat
  | v, none =>
      match toInt? v with
      | some n => return .int n
      | none => fail "int: cannot convert"

/-- Calls a function by its name. -/
def callBuiltin (apply : Apply) (name : String) (args : List Value) (named : List (Text × Value)) :
    Eval Value := do
  match name with
  | "fail" => fail "fail"
  | "int" =>
      let arg ← byName ["x", "base"] args named
      match arg "x" with
      | some v => makeInt v (arg "base")
      | none => fail "int: missing argument"
  | "sorted" =>
      let arg ← byName ["iterable", "key", "reverse"] args named
      let reverse ← match arg "reverse" with
        | none => pure false
        | some (.bool b) => pure b
        | some _ => fail "sorted: reverse is not a bool"
      match arg "iterable" with
      | some v => return .list (← sortByKey reverse (← keyed apply (arg "key") (← itemList v)))
      | none => fail "sorted: missing argument"
  | "min" | "max" =>
      let arg ← byName ["key"] [] named
      let candidates ← match args with
        | [] => fail "at least one argument is needed"
        | [v] => itemList v
        | args => pure args
      extreme (name = "max") (← keyed apply (arg "key") candidates)
  | "range" =>
      positional 1 3 args named
      makeRange args
  | "print" =>
      let arg ← byName ["sep"] [] named
      match arg "sep" with
      | none | some (.text _) => return .none
      | some _ => fail "print: sep is not a string"
  | plain =>
      positional 0 1 args named
      callPlain plain args

end CallPlan.Starlark
