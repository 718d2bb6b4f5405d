import CallPlan.Engine.Hcl.Format
import CallPlan.Json.Reader
import CallPlan.Text.Blank
import CallPlan.Text.Case

/-!
The functions of HCL expressions. Arguments are converted to the types of the parameters before a
function sees them; a function that does not allow nothing is never given it.
-/

namespace CallPlan.Hcl

structure Parameter where
  kind : Kind := .dynamic
  allowsNull : Bool := false
  /-- Whether the function is called with an argument that is not known. -/
  allowsUnknown : Bool := false
  /-- Whether the function is called with an argument whose type is not known, such as a plain null. -/
  allowsUntyped : Bool := true

structure Function where
  params : List Parameter := []
  /-- For all further arguments. -/
  rest : Option Parameter := none
  result : Kind := .dynamic
  /-- `none` when the arguments have no result. -/
  apply : List Value → Option Value

namespace Function

/-- A function of one argument. -/
def unary (kind result : Kind) (apply : Value → Option Value) : Function where
  params := [{ kind }]
  result
  apply
    | [v] => apply v
    | _ => none

def ofNumber (apply : Wide → Wide) : Function :=
  unary .number .number fun
    | .number n => some (.number (apply n))
    | _ => none

def ofText (apply : Text → Text) : Function :=
  unary .text .text fun
    | .text t => some (.ofText (apply t))
    | _ => none

/-- Keeps the precision of a number but not its fraction. -/
def wholeOf (adjust : Int → Bool → Int) (n : Wide) : Wide :=
  match n with
  | .infinite _ => n
  | .finite _ _ _ precision => .ofSigned precision (adjust n.truncate n.isInteger) 1

def ceil (n : Wide) : Wide :=
  wholeOf (fun i exact => if exact || n.isNegative then i else i + 1) n

def floor (n : Wide) : Wide :=
  wholeOf (fun i exact => if exact || !n.isNegative then i else i - 1) n

/-- The number that comes first in an order, from a start that comes after all. -/
def extreme (better : Ordering) (start : Wide) : Function where
  rest := some { kind := .number }
  result := .number
  apply
    | [] => none
    | args => some (.number (args.foldl (fun best arg =>
        match arg with
        | .number n => if n.order best = better then n else best
        | _ => best) start))

/-- The first argument that is not nothing, in the type that all of them have in common. -/
def coalesce : Function where
  rest := some { allowsNull := true, allowsUnknown := true }
  apply args := do
    let kind ← Kind.unify? (Value.kinds args)
    match ← args.find? fun arg => !arg.isNull with
    | .unknown _ => return .unknown kind
    | arg => arg.convert? kind

def listKind? : Value → Option Kind
  | .list element _ => some (.list element)
  | _ => none

def sequence? : Value → Option (List Value)
  | .list _ items | .tuple items => some items
  | _ => none

/-- Lists together make a list when their elements have a type in common; else a tuple. -/
def concat : Function where
  rest := some {}
  apply args := do
    if args.isEmpty then none
    else
      let sequences ← args.mapM sequence?
      match (args.mapM listKind?).bind Kind.unify? with
      | some (.list element) =>
          let items ← sequences.flatten.mapM (·.convert? element)
          return .list element items
      | _ => return .tuple sequences.flatten

def joinItems? : List Value → Option (List Text)
  | [] => some []
  | .text t :: rest => do return t :: (← joinItems? rest)
  | _ => none

def join : Function where
  params := [{ kind := .text }]
  rest := some { kind := .list .text }
  result := .text
  apply
    | .text separator :: lists@(_ :: _) =>
        if Value.allKnown lists then do
          let items ← lists.mapM sequence?
          return .ofText (Text.join separator (← joinItems? items.flatten))
        else some (.unknown .text)
    | _ => none

/-- The parts of a text between occurrences of a separator; `part` holds the one being read. -/
def splitAt (separator : Text) (part : Text) : Nat → Text → List Text
  | 0, _ => [part.reverse]
  | _, [] => [part.reverse]
  | fuel + 1, g :: rest =>
      if separator.isPrefixOf (g :: rest) then
        part.reverse :: splitAt separator [] fuel ((g :: rest).drop separator.length)
      else splitAt separator (g :: part) fuel rest

/-- An empty separator stands between each two characters. -/
def splitText (separator t : Text) : List Text :=
  if separator.isEmpty then t.map ([·]) else splitAt separator [] (t.length + 1) t

def split : Function where
  params := [{ kind := .text }, { kind := .text }]
  result := .list .text
  apply
    | [.text separator, .text t] => some (.list .text ((splitText separator t).map .ofText))
    | _ => none

def keys : Function :=
  unary .dynamic .dynamic fun
    | .map _ entries => some (.list .text (entries.map fun (name, _) => .text name))
    | .object attributes => some (.tuple (attributes.map fun (name, _) => .text name))
    | _ => none

def values : Function :=
  unary .dynamic .dynamic fun
    | .map element entries => some (.list element (entries.map (·.2)))
    | .object attributes => some (.tuple (attributes.map (·.2)))
    | _ => none

def length : Function :=
  unary .dynamic .number fun
    | .list _ items | .tuple items => some (.number (.ofInt items.length))
    | .map _ entries => some (.number (.ofInt entries.length))
    | _ => none

/-- The entries that an argument of `merge` brings; a sequence without items brings none. -/
def entries? : Value → Option (List (Text × Value))
  | .map _ entries | .object entries => some entries
  | .null _ | .tuple [] | .list _ [] => some []
  | _ => none

/-- The kind of maps that all arguments are, if they are. -/
def mapKind? : List Value → Option Kind
  | [] => none
  | [v] => match v.kind with
      | .map element => some element
      | _ => none
  | v :: rest => do
      let element ← mapKind? rest
      if v.kind == .map element then some element else none

def isMapping : Kind → Bool
  | .map _ | .object _ => true
  | _ => false

/-- The attributes of all arguments, later ones before earlier ones. The types of arguments are looked
at up to the first that is not known. -/
def merge : Function where
  rest := some { allowsNull := true }
  apply args := do
    if !((Value.kinds args).takeWhile fun kind => !kind.isDynamic).all isMapping then none
    else
      let merged := Entries.sorted (Entries.ofList (← args.mapM entries?).flatten)
      match mapKind? args with
      | some element => return .map element merged
      | none => return .object merged

/-- The most numbers that a range may have. -/
def rangeLimit : Nat := 1024

def rangeFrom (stop step : Wide) (down : Bool) : Nat → Wide → Option (List Wide)
  | fuel, n =>
      let reached := n.equal stop || n.order stop = (if down then .lt else .gt)
      if reached then some []
      else match fuel with
        | 0 => none
        | fuel + 1 => do
            let next ← n.add? step
            return n :: (← rangeFrom stop step down fuel next)

def rangeOf (start stop step : Wide) : Option Value := do
  let down := step.order (.ofInt 0) = .lt
  if stop.order start = (if down then .gt else .lt) then none
  else return .list .number ((← rangeFrom stop step down rangeLimit start).map .number)

def stepToward (start stop : Wide) : Wide := .ofInt (if stop.order start = .lt then -1 else 1)

def range : Function where
  rest := some { kind := .number }
  result := .list .number
  apply
    | [.number stop] => rangeOf (.ofInt 0) stop (stepToward (.ofInt 0) stop)
    | [.number start, .number stop] => rangeOf start stop (stepToward start stop)
    | [.number start, .number stop, .number step] => rangeOf start stop step
    | _ => none

def format : Function where
  params := [{ kind := .text }]
  rest := some { allowsNull := true, allowsUntyped := false }
  result := .text
  apply
    | .text template :: args =>
        if Value.allKnown args then (format? template args).map .ofText else some (.unknown .text)
    | _ => none

def jsonEncode : Function where
  params := [{ allowsNull := true }]
  result := .text
  apply
    | [v] => if v.isKnown then (Verb.json? v).map .ofText else some (.unknown .text)
    | _ => none

/-- Whether what follows a value may be there: nothing, or what begins with a closing bracket. -/
def isIgnored (t : Text) : Bool :=
  match Json.skipSpace t with
  | [] | .char ']' :: _ | .char '\x7d' :: _ => true
  | _ => false

def jsonDecode : Function :=
  unary .text .dynamic fun
    | .text t => do
        let (value, rest) ← Json.read? t
        if isIgnored rest then Value.ofJson? value else none
    | _ => none

def mapChars (f : Char → Char) (t : Text) : Text := t.map fun
  | .char c => .char (f c)
  | .stray _ => .char '\uFFFD'

/-- The functions that every expression may call. -/
def standard : Entries Function :=
  [("abs", ofNumber Wide.abs), ("ceil", ofNumber ceil), ("coalesce", coalesce), ("concat", concat),
    ("floor", ofNumber floor), ("format", format), ("join", join), ("jsondecode", jsonDecode),
    ("jsonencode", jsonEncode), ("keys", keys), ("length", length),
    ("lower", ofText (mapChars Text.lowerChar)), ("max", extreme .gt (.infinite true)),
    ("merge", merge), ("min", extreme .lt (.infinite false)), ("range", range), ("split", split),
    ("trimspace", ofText Text.trim), ("upper", ofText (mapChars Text.upperChar)),
    ("values", values)]

/-- Calls a function with arguments that have been evaluated. Too few or too many arguments, and
arguments of the wrong types, have no result; an argument that the function is not called with leaves
the result unknown. -/
def call? (f : Function) (args : List Value) : Option Value := do
  if args.length < f.params.length then none
  else
    let params ← match f.rest with
      | some rest => some (f.params ++ List.replicate (args.length - f.params.length) rest)
      | none => if args.length = f.params.length then some f.params else none
    let args ← (args.zip params).mapM fun (arg, param) => do
      let arg ← arg.convert? param.kind
      if arg.isNull && !param.allowsNull then none else some arg
    let given := args.zip params
    if given.any fun (arg, param) => arg.kind.isDynamic && !param.allowsUntyped then
      return .unknown .dynamic
    else if given.any fun (arg, param) => arg.isUnknown && !param.allowsUnknown then
      return .unknown f.result
    else f.apply args

end Function
end CallPlan.Hcl
