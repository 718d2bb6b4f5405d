import CallPlan.Data.Entries

/-!
WebAssembly modules, as far as they are functions without arguments that give a constant. A module is
a magic number, a version and sections; of these the functions, their exports and their code count.
-/

namespace CallPlan.Wasm

abbrev Bytes := List UInt8

/-- A number of seven bits a byte, lowest first; every byte but the last has its high bit set. -/
def unsigned? : Bytes → Option (Nat × Bytes)
  | [] => none
  | b :: rest =>
      if b < 0x80 then some (b.toNat, rest)
      else do
        let (high, rest) ← unsigned? rest
        return (b.toNat - 0x80 + 0x80 * high, rest)

/-- The same with a sign, which is the second highest bit of the last byte. -/
def signed? : Bytes → Option (Int × Bytes)
  | [] => none
  | b :: rest =>
      if b < 0x40 then some (b.toNat, rest)
      else if b < 0x80 then some ((b.toNat : Int) - 0x80, rest)
      else do
        let (high, rest) ← signed? rest
        return ((b.toNat : Int) - 0x80 + 0x80 * high, rest)

/-- Bytes with their number in front. -/
def counted? (bytes : Bytes) : Option (Bytes × Bytes) := do
  let (n, rest) ← unsigned? bytes
  if rest.length < n then none else return (rest.take n, rest.drop n)

/-- A number of items, read one after another until nothing is left. -/
def vector? {α : Type} (item? : Bytes → Option (α × Bytes)) (bytes : Bytes) : Option (List α) := do
  let (n, rest) ← unsigned? bytes
  let rec items : Nat → Bytes → Option (List α)
    | 0, [] => some []
    | 0, _ => none
    | n + 1, bytes => do
        let (a, rest) ← item? bytes
        return a :: (← items n rest)
  items n rest

structure Section where
  id : UInt8
  content : Bytes

/-- The sections of a module; each is at least two bytes long. -/
def sections? : Nat → Bytes → Option (List Section)
  | _, [] => some []
  | 0, _ => none
  | fuel + 1, id :: rest => do
      let (content, rest) ← counted? rest
      return { id, content } :: (← sections? fuel rest)

/-- An export: its name, what kind of thing it is, and which one. -/
structure Export where
  name : Text
  kind : UInt8
  index : Nat

def export? (bytes : Bytes) : Option (Export × Bytes) := do
  let (name, rest) ← counted? bytes
  match rest with
  | kind :: rest => do
      let (index, rest) ← unsigned? rest
      return ({ name := Text.ofBytes name, kind, index }, rest)
  | [] => none

/-- The constant that a body gives: no locals, one constant, the end. -/
def body? (bytes : Bytes) : Option (Int × Bytes) := do
  let (code, rest) ← counted? bytes
  match code with
  | 0x00 :: 0x41 :: code =>
      let (n, tail) ← signed? code
      if tail = [0x0B] then some (n, rest) else none
  | _ => none

/-- A module: its functions by name, each with the constant it gives. -/
structure Module where
  functions : Entries Nat
deriving Repr

def header : Bytes := [0x00, 0x61, 0x73, 0x6D, 0x01, 0x00, 0x00, 0x00]

def sectionOf (sections : List Section) (id : UInt8) : Bytes :=
  ((sections.find? (·.id = id)).map (·.content)).getD [0]

/-- Reads a module. -/
def Module.read? (bytes : Bytes) : Option Module := do
  if !header.isPrefixOf bytes then none
  else
    let sections ← sections? bytes.length (bytes.drop header.length)
    let exports ← vector? export? (sectionOf sections 7)
    let bodies ← vector? body? (sectionOf sections 10)
    let functions ← (exports.filter (·.kind = 0)).mapM fun e => do
      return (e.name, ((← bodies[e.index]?) % 0x100000000).toNat)
    return { functions }

end CallPlan.Wasm
