import CallPlan.Plan.Bind
import CallPlan.Proofs.Data.Store

/-!
A signature read directly, without a plan. Its rules on an argument list stand in a fixed order, and the
first that is broken is the error of a call. Each parameter has an origin among the arguments, and an
origin and a mode together say what a binding holds.
-/

namespace CallPlan

namespace Reading

/-- The key of a pair in a list of alternating keys and values, if it is a text. -/
def keyAt? (list : List Value) (pair : Nat) : Option Text := list[2 * pair]?.bind Value.text?

/-- The keys of a list of pairs, in order. -/
def keys (list : List Value) : List Text := (List.range (list.length / 2)).filterMap (keyAt? list)

/-- The first key of a list of pairs that is no text. Positions are counted from `position`. -/
def keyFault? (position : Nat) (list : List Value) : Option Arguments.PairFault :=
  (List.range (list.length / 2)).findSome? fun pair =>
    list[2 * pair]?.bind fun key =>
      if key.text?.isSome then none else some (.keyNotText (position + 2 * pair) key.type?)

/-- Why a list is not one of pairs: its length is odd, or a key is no text. -/
def pairFault? (list : List Value) : Option Arguments.PairFault :=
  if list.length % 2 = 1 then some (.oddLength list.length) else keyFault? 0 list

/-- The last pair with a key. -/
def lastPair? (list : List Value) (key : Text) : Option Nat :=
  (List.range (list.length / 2)).reverse.find? fun pair => keyAt? list pair = some key

/-- The value that a key has in a list of pairs: of several the last. -/
def valueOf? (list : List Value) (key : Text) : Option Value :=
  (lastPair? list key).bind fun pair => list[2 * pair + 1]?

/-- A parameter that has to be passed and is not. -/
def missing (site : Site) (p : Param) (required : Bool) (argument : Option Value) :
    Option CallError :=
  if required && argument.isNone then some { kind := .missingArgument, site, param := p.display }
  else none

/-- An argument that a reference parameter cannot take. -/
def notReference (site : Site) (p : Param) (argument : Option Value) : Option CallError :=
  if p.refAlias then
    argument.bind fun value =>
      match Arguments.checkRef p.sigil value with
      | .ok () => none
      | .error fault => some {
          kind := .notAReference, site, param := p.display, cause := some (.message fault.message) }
  else none

/-- A list of arguments that is not one of pairs. -/
def malformed (site : Site) (param : Text) (list : List Value) : Option CallError :=
  (pairFault? list).map fun fault =>
    { kind := .malformedNamedArguments, site, param, cause := some (.message fault.message) }

/-- The rules on the positional parameter at an index. What a slurpy one takes is no reference. -/
def positionalRules (site : Site) (rest : List Value) (index : Nat) (p : Param) :
    List (Option CallError) :=
  [missing site p (!p.optional && !p.slurpy) rest[index]?,
    if p.slurpy then none else notReference site p rest[index]?,
    if p.slurpy && p.sigil = .hash then malformed site p.display (rest.drop index) else none]

/-- The rules on a named parameter, given the pairs it is taken from. -/
def namedRules (site : Site) (pairs : List Value) (p : Param) : List (Option CallError) :=
  [missing site p (!p.optional) (valueOf? pairs p.name), notReference site p (valueOf? pairs p.name)]

/-- Keys that no parameter has, each once and in the order they are passed. A single one comes with the
name that is most likely meant. -/
def unknown (site : Site) (known : List Text) (pairs : List Value) : Option CallError :=
  match ((keys pairs).filter (!known.contains ·)).eraseDups with
  | [] => none
  | [key] => some {
      kind := .unexpectedNamedArgument, site, keys := [key]
      suggestion := match Suggestion.closest key known with
        | some name => .char ':' :: name
        | none => [] }
  | keys => some { kind := .unexpectedNamedArgument, site, keys }

/-- More arguments than a strict signature without named and slurpy parameters takes. -/
def surplus (site : Site) (strict : Bool) (s : Signature) (rest : List Value) : Option CallError :=
  if strict && !s.hasNamed && s.slurpyCount = 0 && s.positional.length < rest.length then some {
    kind := .tooManyArguments, site
    cause := some (.message ("expected at most " ++ Text.ofNat s.positional.length ++ ", got " ++
      Text.ofNat rest.length)) }
  else none

/-- The first rule that is broken. -/
def firstOf (rules : List (Option CallError)) : Option CallError := rules.findSome? id

@[simp] theorem firstOf_nil : firstOf [] = none := rfl

@[simp] theorem firstOf_cons (rule : Option CallError) (rules : List (Option CallError)) :
    firstOf (rule :: rules) = rule.or (firstOf rules) := by
  cases rule <;> rfl

@[simp] theorem firstOf_append (rules others : List (Option CallError)) :
    firstOf (rules ++ others) = (firstOf rules).or (firstOf others) :=
  List.findSome?_append

theorem firstOf_eq_none {rules : List (Option CallError)} :
    firstOf rules = none ↔ ∀ rule ∈ rules, rule = none := by
  simp [firstOf, List.findSome?_eq_none_iff]

end Reading

namespace Signature

open Reading

/-- The arguments after the invocant's. -/
def rest (s : Signature) (args : List Value) : List Value :=
  if s.invocant.isSome then args.tail else args

/-- The arguments after those of the positional parameters. -/
def pairs (s : Signature) (args : List Value) : List Value := (s.rest args).drop s.positional.length

theorem hasNamed_of_mem {s : Signature} {p : Param} (listed : p ∈ s.named) : s.hasNamed = true := by
  cases named : s.named with
  | nil => simp [named] at listed
  | cons first others => simp [hasNamed, named]

/-- The invocant has to be passed. -/
def invocantRules (s : Signature) (site : Site) (args : List Value) : List (Option CallError) :=
  s.invocant.toList.map fun name =>
    if args.isEmpty then some { kind := .missingArgument, site, param := .char '$' :: name } else none

/-- The rules on what is passed by name. Without named parameters there are none. -/
def namedRules (s : Signature) (site : Site) (pairs : List Value) : List (Option CallError) :=
  if s.hasNamed then
    malformed site [] pairs :: s.named.flatMap (Reading.namedRules site pairs) ++
      [unknown site (s.named.map (·.name)) pairs]
  else []

/-- All rules of a signature on an argument list, in the order they count. Each is given by the error
of a call that breaks it. -/
def rules (s : Signature) (strict : Bool) (site : Site) (args : List Value) :
    List (Option CallError) :=
  s.invocantRules site args ++
    (s.positional.mapIdx fun index p => positionalRules site (s.rest args) index p).flatten ++
    s.namedRules site (s.pairs args) ++ [surplus site strict s (s.rest args)]

/-- The error of the first rule that an argument list breaks. -/
def firstBroken (s : Signature) (strict : Bool) (site : Site) (args : List Value) :
    Option CallError :=
  firstOf (s.rules strict site args)

end Signature

/-- Where the value of a parameter comes from, counted in the arguments after the invocant. -/
inductive Origin where
  | argument (index : Nat)
  | tail (index : Nat)
  | missing
deriving DecidableEq

namespace Origin

/-- Whether the caller passed something, given how many arguments there are. -/
def supplied (count : Nat) : Origin → Bool
  | .argument _ => true
  | .tail index => index < count
  | .missing => false

/-- The mode that a parameter is bound in. Pairs are gathered into a new map, so that a slurpy hash is
never an alias. -/
def modeOf (p : Param) (mode : Mode) : Origin → Mode
  | .tail _ => if p.sigil = .hash && mode = .alias then .copy else mode
  | _ => mode

end Origin

namespace Signature

open Reading

def positionalOrigin (rest : List Value) (index : Nat) (p : Param) : Origin :=
  if p.slurpy then .tail index
  else if index < rest.length then .argument index
  else .missing

/-- A named parameter has the value after the last key that is its name. -/
def namedOrigin (positional : Nat) (pairs : List Value) (p : Param) : Origin :=
  match lastPair? pairs p.name with
  | some pair => .argument (positional + 2 * pair + 1)
  | none => .missing

/-- Each parameter in declaration order, and where its value comes from. -/
def origins (s : Signature) (args : List Value) : List (Param × Origin) :=
  (s.positional.mapIdx fun index p => (p, positionalOrigin (s.rest args) index p)) ++
    s.named.map fun p => (p, namedOrigin s.positional.length (s.pairs args) p)

end Signature

/-- The value that is copied for an argument. Of a reference parameter it is what the pointer points
to. -/
def Passed (before : Store) (rest : View) (p : Param) (index : Nat) (value : Value) : Prop :=
  if p.refAlias then
    ∃ type place, (before.items rest)[index]? = some (.pointer type place) ∧
      before.load? place = some value
  else (before.items rest)[index]? = some value

/-- The value of a parameter that nothing was passed for, and the store it is given in. A parameter
marked as required never takes its default. -/
inductive Settled (required : Bool) : Option Expression → Value → Store → Prop
  | nothing {default? : Option Expression} {current : Store}
      (unused : default? = none ∨ required = true) : Settled required default? .null current
  | evaluated {e : Expression} {earlier current : Store} {vars : Entries Value} {value : Value}
      (optional : required = false) (run : e.eval earlier vars = .ok (value, current)) :
      Settled required (some e) value current

/-- What a binding holds, given the origin of its parameter's value. `before` is the storage at the time
of the call, `after` a later one. -/
inductive Holds (before after : Store) (rest : View) (mode : Mode) (p : Param)
    (default? : Option Expression) : Origin → Content → Prop
  /-- An alias is the argument's own slot. -/
  | slot {index : Nat} (aliased : mode = .alias) (plain : p.refAlias = false)
      (within : index < rest.length) :
      Holds before after rest mode p default? (.argument index) (.ref .any (rest.place index))
  /-- An alias of a reference is what the pointer points to. -/
  | pointee {index : Nat} {type : HostType} {place : Place} (aliased : mode = .alias)
      (reference : p.refAlias = true)
      (passed : (before.items rest)[index]? = some (.pointer type place)) :
      Holds before after rest mode p default? (.argument index) (.ref type place)
  | copied {index : Nat} {value shown : Value} (unaliased : mode ≠ .alias)
      (passed : Passed before rest p index value)
      (same : after.surface shown = before.surface value) (fresh : shown.NewIn before after) :
      Holds before after rest mode p default? (.argument index) (.own shown)
  /-- A slurpy hash has every key of the tail, with its last value. -/
  | gathered {index cell : Nat} (hash : p.sigil = .hash)
      (same : ∀ key, (after.entries cell).get? key =
        Reading.valueOf? ((before.items rest).drop index) key)
      (fresh : (Value.dict cell).NewIn before after) :
      Holds before after rest mode p default? (.tail index) (.own (.dict cell))
  /-- An aliased slurpy array is the tail itself. -/
  | shared {index : Nat} (array : p.sigil ≠ .hash) (aliased : mode = .alias) :
      Holds before after rest mode p default? (.tail index) (.shared (rest.drop index))
  | listed {index : Nat} {view : View} (array : p.sigil ≠ .hash) (unaliased : mode ≠ .alias)
      (same : after.items view = (before.items rest).drop index)
      (fresh : (Value.list view).NewIn before after) :
      Holds before after rest mode p default? (.tail index) (.own (.list view))
  /-- An alias that nothing was passed for has a variable of its own. -/
  | stored {cell : Nat} {value : Value} {current : Store} (aliased : mode = .alias)
      (given : Settled p.required default? value current)
      (held : after.load? (.variable cell) = some value)
      (fresh : before.cells.size ≤ cell ∧ cell < after.cells.size) :
      Holds before after rest mode p default? .missing (.ref .any (.variable cell))
  | settled {value shown : Value} {current : Store} (unaliased : mode ≠ .alias)
      (given : Settled p.required default? value current)
      (same : after.surface shown = current.surface value) (fresh : shown.NewIn before after) :
      Holds before after rest mode p default? .missing (.own shown)

/-- A binding made for a parameter, with its origin. -/
structure Bound (before after : Store) (rest : View) (mode : Mode) (p : Param)
    (default? : Option Expression) (origin : Origin) (b : Binding) : Prop where
  param_eq : b.param = p
  mode_eq : b.mode = origin.modeOf p mode
  supplied_eq : b.supplied = origin.supplied rest.length
  holds : Holds before after rest mode p default? origin b.content

end CallPlan
