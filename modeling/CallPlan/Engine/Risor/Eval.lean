import CallPlan.Default.Engine
import CallPlan.Engine.Risor.Syntax
import CallPlan.Engine.Risor.Value
import CallPlan.Number.Wide
import CallPlan.Text.Blank

/-!
Evaluating Risor expressions. Every name that a source may use has a value in each call; one without
a value of its own, or with one that Risor cannot hold, is nothing. No value is a channel.
-/

namespace CallPlan.Risor

/-- An evaluation gives `none` when it fails. -/
abbrev Eval := Option

def ofFloat (x : Float) : Value := .float x.toBits

/-- Arithmetic on numbers. Two bytes make a byte, other integers an integer. -/
def arithmetic (a b : Value) (exact : Int → Int → Eval Int) (rounded : Float → Float → Float) :
    Eval Value := do
  match a, b with
  | .byte x, .byte y => return .byte (UInt8.ofInt (← exact x.toNat y.toNat))
  | a, b =>
      match ← Value.number? a, ← Value.number? b with
      | .exact x, .exact y => return .wrap (← exact x y)
      | x, y => return ofFloat (rounded x.toFloat y.toFloat)

/-- The integer part of a float; one that no integer of sixty-four bits holds gives the least. -/
def truncate (bits : UInt64) : Int :=
  if Double.isFinite bits && Datum.int64Range (Double.truncate bits) then Double.truncate bits
  else -0x8000000000000000

/-- A power of two floats. One with a whole exponent is multiplied out. -/
def power (x y : Float) : Float :=
  let exponent := y.toBits
  if Double.isFinite x.toBits && Double.isInteger exponent && x != 0 &&
      Datum.int64Range (Double.truncate exponent) then
    Float.ofBits ((Wide.ofDouble x.toBits).power (Double.truncate exponent)).toDouble
  else if y == 0.5 then x.sqrt
  else x.pow y

/-- Whether bytes occur in others, one after another. -/
def occurs (part : List UInt8) : List UInt8 → Bool
  | [] => part.isEmpty
  | b :: rest => part.isPrefixOf (b :: rest) || occurs part rest

def isWithin (a b : Value) : Eval Bool :=
  match b, a with
  | .list items, _ => some (items.any (Value.equal · a))
  | .map entries, .text key => some (Entries.has entries key)
  | .text whole, .text part => some (occurs part.toBytes whole.toBytes)
  | .bytes whole, .bytes part => some (occurs part whole)
  | .bytes whole, .text part => some (occurs part.toBytes whole)
  | .map _, _ | .text _, _ | .bytes _, _ => some false
  | _, _ => none

def ordered (a b : Value) (holds : Ordering → Bool) : Eval Value :=
  (Value.order? a b).map fun o => .bool (holds o)

def binary (op : BinaryOp) (a b : Value) : Eval Value :=
  match op with
  | .or => some (if a.isTrue then a else b)
  | .and => some (if a.isTrue then b else a)
  | .equal => some (.bool (Value.equal a b))
  | .notEqual => some (.bool !Value.equal a b)
  | .less => ordered a b (· = .lt)
  | .lessEqual => ordered a b (· ≠ .gt)
  | .greater => ordered a b (· = .gt)
  | .greaterEqual => ordered a b (· ≠ .lt)
  | .within => (isWithin a b).map .bool
  | .add =>
      match a, b with
      | .text x, .text y => some (.text (Text.ofBytes (x.toBytes ++ y.toBytes)))
      | .bytes x, .bytes y => some (.bytes (x ++ y))
      | .bytes x, .text y => some (.bytes (x ++ y.toBytes))
      | .list x, .list y => some (.list (x ++ y))
      | a, b => arithmetic a b (fun x y => some (x + y)) (· + ·)
  | .sub => arithmetic a b (fun x y => some (x - y)) (· - ·)
  | .mul => arithmetic a b (fun x y => some (x * y)) (· * ·)
  | .div => arithmetic a b (fun x y => if y = 0 then none else some (Int.tdiv x y)) (· / ·)
  | .power =>
      arithmetic a b
        (fun x y => some (truncate (power (Value.toFloat x) (Value.toFloat y)).toBits)) power
  | .mod =>
      match a, b with
      | .float _, _ | _, .float _ => none
      | a, b => arithmetic a b (fun x y => if y = 0 then none else some (Int.tmod x y)) (· + ·)

/-- The position that an index means among items, if there is one. -/
def position? (length : Nat) (index : Int) : Option Nat :=
  let index := if index < 0 then index + length else index
  if 0 ≤ index && index < length then some index.toNat else none

def indexed (v key : Value) : Eval Value :=
  match v, key with
  | .list items, .int n => (position? items.length n).bind (items[·]?)
  | .text t, .int n =>
      ((position? t.length n).bind (t[·]?)).map fun g => .text [.char g.scalar]
  | .bytes b, .int n => ((position? b.length n).bind (b[·]?)).map .byte
  | .map entries, .text key => Entries.get? entries key
  | _, _ => none

/-- The integer that a text writes: hexadecimal, octal or binary after the mark of its base, octal
after another zero, else decimal. -/
def parseInt? (t : Text) : Option Int := do
  let (negative, digits) := Numeral.signed (← Numeral.withoutUnderscores? t)
  let n ← match digits with
    | .char '0' :: mark :: rest =>
        match if rest.isEmpty then none else Numeral.baseOfMark? mark with
        | some base => Numeral.value? base rest
        | none => Numeral.value? 8 (mark :: rest)
    | digits => Numeral.value? 10 digits
  let n : Int := if negative then -n else n
  if Datum.int64Range n then some n else none

def parseFloat? (t : Text) : Option UInt64 := Numeral.special? t <|> Numeral.double? t

/-- Calls a function by its name. -/
def callBuiltin (name : String) (args : List Value) : Eval Value :=
  match name, args with
  | "len", [.text t] => some (.int t.length)
  | "len", [.list items] => some (.int items.length)
  | "len", [.map entries] => some (.int entries.length)
  | "len", [.bytes items] => some (.int items.length)
  | "string", [] => some (.text [])
  | "string", [v] => some (.text v.shown)
  | "int", [] => some (.int 0)
  | "int", [.int n] => some (.int n)
  | "int", [.byte b] => some (.int b.toNat)
  | "int", [.float bits] => some (.int (truncate bits))
  | "int", [.text t] => (parseInt? t).map .int
  | "float", [] => some (.float 0)
  | "float", [.int n] => some (ofFloat (Value.toFloat n))
  | "float", [.byte b] => some (ofFloat (Value.toFloat b.toNat))
  | "float", [.float bits] => some (.float bits)
  | "float", [.text t] => (parseFloat? t).map .float
  | _, _ => none

mutual

def Expr.eval (env : Text → Value) : Expr → Eval Value
  | .nothing => some .nothing
  | .bool b => some (.bool b)
  | .int n => some (.int n)
  | .float bits => some (.float bits)
  | .text t => some (.text t)
  | .name n => some (env n)
  | .list items => do return .list (← evalAll env items)
  | .map keys values => do
      return .map (Entries.sorted (Entries.ofList (keys.zip (← evalAll env values))))
  | .negate e => do
      match ← e.eval env with
      | .int n => return .wrap (-n)
      | .float bits => return ofFloat (-(Float.ofBits bits))
      | _ => none
  | .complement e => do return .bool !(← e.eval env).isTrue
  | .binary .and a b => do
      let x ← a.eval env
      if x.isTrue then b.eval env else return x
  | .binary .or a b => do
      let x ← a.eval env
      if x.isTrue then return x else b.eval env
  | .binary op a b => do
      let x ← a.eval env
      let y ← b.eval env
      binary op x y
  | .conditional c a b => do if (← c.eval env).isTrue then a.eval env else b.eval env
  | .index e key => do
      let v ← e.eval env
      let k ← key.eval env
      indexed v k
  | .call f args => do
      let g ← f.eval env
      let xs ← evalAll env args
      match g with
      | .builtin name => callBuiltin name.toString xs
      | _ => none
  | .send .. | .receive _ => none

def evalAll (env : Text → Value) : List Expr → Eval (List Value)
  | [] => some []
  | e :: rest => do
      let v ← e.eval env
      return v :: (← evalAll env rest)

end

/-- The value of the last of several expressions; of none it is nothing. -/
def evalLast (env : Text → Value) : List Expr → Eval Value
  | [] => some .nothing
  | [e] => e.eval env
  | e :: rest => do
      let _ ← e.eval env
      evalLast env rest

/-- The functions that every source may name. -/
def builtinNames : List Text := ["len", "string", "int", "float"]

/-- What names mean in a call. A variable goes before a global value. -/
def meaning (names : List Text) (globals vars : Entries Datum) (name : Text) : Value :=
  if names.contains name then
    match vars.get? name <|> globals.get? name with
    | some datum => (Value.ofDatum? datum).getD .nothing
    | none => .nothing
  else if builtinNames.contains name then .builtin name
  else .nothing

def evalDefault (names : List Text) (globals : Entries Datum) (program : List Expr)
    (vars : Entries Datum) : Except EvalFailure Datum :=
  match evalLast (meaning names globals vars) program with
  | some v => .ok v.toDatum
  | none =>
      .error (.cause (.because (.engine .risor .executionFailed) (.message "evaluation failed")))

/-- The engine for Risor expressions, with globals of its own: names, and values for some of them. -/
def engine (globalNames : List Text) (globals : Entries Datum) : Engine where
  compile source visible :=
    let names := globalNames ++ globals.keys ++ visible
    let failed (detail : Text) : Except Cause Expression :=
      .error (.because (.engine .risor .compileFailed) (.message detail))
    if source.isBlank then .error (.plain (.engine .risor .empty))
    else match parse? source with
      | none => failed "syntax error"
      | some program =>
          if program.all (·.isClosed (builtinNames ++ names)) then
            .ok (Expression.ofData source (evalDefault names globals program))
          else failed "undefined name"

end CallPlan.Risor
