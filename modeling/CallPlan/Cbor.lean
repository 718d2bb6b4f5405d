import CallPlan.Text.Glyph

/-!
Concise binary object representation. `Item.encode` writes the shortest heads; `Item.decode?` reads
any well-formed encoding of one item, with nothing after it.
-/

namespace CallPlan.Cbor

/-- A data item. Lengths left open by the writer, and the width of numbers, are not kept. Text that
came in chunks is read chunk by chunk, so a character cut in two leaves stray bytes. -/
inductive Item where
  | unsigned (n : Nat)
  | negative (n : Nat)
  | bytes (content : List UInt8)
  | text (content : Text)
  | array (items : List Item)
  | map (entries : List (Item × Item))
  | tag (number : Nat) (content : Item)
  | simple (n : Nat)
  | float (width : Nat) (bits : Nat)
deriving Repr, Inhabited

/-- The deepest nesting, and the most elements of one collection, that a reader takes. -/
def maxDepth : Nat := 32
def maxElements : Nat := 131072

/-- The bytes of a number, the most significant first. -/
def bigEndian : Nat → Nat → List UInt8
  | 0, _ => []
  | width + 1, n => bigEndian width (n / 256) ++ [(n % 256).toUInt8]

/-- The shortest head of a major type with its argument. -/
def head (major : Nat) (n : Nat) : List UInt8 :=
  if n < 24 then [(major * 32 + n).toUInt8]
  else if n < 0x100 then (major * 32 + 24).toUInt8 :: bigEndian 1 n
  else if n < 0x10000 then (major * 32 + 25).toUInt8 :: bigEndian 2 n
  else if n < 0x100000000 then (major * 32 + 26).toUInt8 :: bigEndian 4 n
  else (major * 32 + 27).toUInt8 :: bigEndian 8 n

mutual

def Item.encode : Item → List UInt8
  | .unsigned n => head 0 n
  | .negative n => head 1 n
  | .bytes content => head 2 content.length ++ content
  | .text content => head 3 content.size ++ content.toBytes
  | .array items => head 4 items.length ++ encodeItems items
  | .map entries => head 5 entries.length ++ encodeEntries entries
  | .tag number content => head 6 number ++ content.encode
  | .simple n => head 7 n
  | .float width bits =>
      (if width = 2 then 0xF9 else if width = 4 then 0xFA else 0xFB) :: bigEndian width bits

def encodeItems : List Item → List UInt8
  | [] => []
  | item :: rest => item.encode ++ encodeItems rest

def encodeEntries : List (Item × Item) → List UInt8
  | [] => []
  | (key, value) :: rest => key.encode ++ value.encode ++ encodeEntries rest

end

def ofBigEndian (bytes : List UInt8) : Nat := bytes.foldl (fun n byte => n * 256 + byte.toNat) 0

/-- The bytes of a fixed length and what follows them. -/
def take? (count : Nat) (bytes : List UInt8) : Option (List UInt8 × List UInt8) :=
  if count ≤ bytes.length then some (bytes.take count, bytes.drop count) else none

/-- The argument of a head: a number, or open when the item ends with a break. -/
inductive Argument where
  | fixed (n : Nat)
  | openEnded
deriving DecidableEq, Repr

/-- The major type, the low bits and the argument of a head, and what follows it. -/
def head? : List UInt8 → Option (Nat × Nat × Argument × List UInt8)
  | [] => none
  | first :: rest =>
      let major := first.toNat / 32
      let low := first.toNat % 32
      if low < 24 then some (major, low, .fixed low, rest)
      else if low < 28 then do
        let (bytes, rest) ← take? (1 <<< (low - 24)) rest
        return (major, low, .fixed (ofBigEndian bytes), rest)
      else if low = 31 then some (major, low, .openEnded, rest)
      else none

def isBreak : List UInt8 → Option (List UInt8)
  | 0xFF :: rest => some rest
  | _ => none

/-- Whether a tag comes next. Only a tag on a tag counts as a level of nesting. -/
def startsTag : List UInt8 → Bool
  | first :: _ => first.toNat / 32 = 6
  | [] => false

/-- Reads the chunks of a string of open length: strings of the same type and fixed length. -/
def chunks? (major : Nat) : Nat → List UInt8 → Option (List (List UInt8) × List UInt8)
  | 0, _ => none
  | fuel + 1, bytes =>
      match isBreak bytes with
      | some rest => some ([], rest)
      | none => do
          match ← head? bytes with
          | (m, _, .fixed n, rest) =>
              if m = major then
                let (chunk, rest) ← take? n rest
                let (chunks, rest) ← chunks? major fuel rest
                return (chunk :: chunks, rest)
              else none
          | _ => none

mutual

/-- Reads one item. The fuel bounds the number of heads, of which each takes a byte. -/
def item? (depth : Nat) : Nat → List UInt8 → Option (Item × List UInt8)
  | 0, _ => none
  | fuel + 1, bytes => do
      let (major, low, argument, rest) ← head? bytes
      match major, argument with
      | 0, .fixed n => return (.unsigned n, rest)
      | 1, .fixed n => return (.negative n, rest)
      | 2, .fixed n => let (content, rest) ← take? n rest; return (.bytes content, rest)
      | 3, .fixed n =>
          let (content, rest) ← take? n rest
          return (.text (Text.ofBytes content), rest)
      | 2, .openEnded =>
          let (parts, rest) ← chunks? 2 fuel rest
          return (.bytes parts.flatten, rest)
      | 3, .openEnded =>
          let (parts, rest) ← chunks? 3 fuel rest
          return (.text (parts.map Text.ofBytes).flatten, rest)
      | 4, argument =>
          if depth ≥ maxDepth then none else do
          let (items, rest) ← items? (depth + 1) argument fuel rest
          if items.length > maxElements then none else return (.array items, rest)
      | 5, argument =>
          if depth ≥ maxDepth then none else do
          let (entries, rest) ← entries? (depth + 1) argument fuel rest
          if entries.length > maxElements then none else return (.map entries, rest)
      | 6, .fixed n =>
          let depth := if startsTag rest then depth + 1 else depth
          if depth > maxDepth then none else do
          let (content, rest) ← item? depth fuel rest
          return (.tag n content, rest)
      | 7, .fixed n =>
          if low < 24 then return (.simple n, rest)
          else if low = 24 then if n < 32 then none else return (.simple n, rest)
          else return (.float (1 <<< (low - 24)) n, rest)
      | _, _ => none

/-- Reads the items of an array. -/
def items? (depth : Nat) (argument : Argument) :
    Nat → List UInt8 → Option (List Item × List UInt8)
  | 0, bytes => if argument = .fixed 0 then some ([], bytes) else none
  | fuel + 1, bytes =>
      match argument with
      | .fixed 0 => some ([], bytes)
      | .fixed (n + 1) => do
          let (item, rest) ← item? depth fuel bytes
          let (items, rest) ← items? depth (.fixed n) fuel rest
          return (item :: items, rest)
      | .openEnded =>
          match isBreak bytes with
          | some rest => some ([], rest)
          | none => do
              let (item, rest) ← item? depth fuel bytes
              let (items, rest) ← items? depth .openEnded fuel rest
              return (item :: items, rest)

/-- Reads the entries of a map. -/
def entries? (depth : Nat) (argument : Argument) :
    Nat → List UInt8 → Option (List (Item × Item) × List UInt8)
  | 0, bytes => if argument = .fixed 0 then some ([], bytes) else none
  | fuel + 1, bytes =>
      match argument with
      | .fixed 0 => some ([], bytes)
      | .fixed (n + 1) => do
          let (key, rest) ← item? depth fuel bytes
          let (value, rest) ← item? depth fuel rest
          let (entries, rest) ← entries? depth (.fixed n) fuel rest
          return ((key, value) :: entries, rest)
      | .openEnded =>
          match isBreak bytes with
          | some rest => some ([], rest)
          | none => do
              let (key, rest) ← item? depth fuel bytes
              let (value, rest) ← item? depth fuel rest
              let (entries, rest) ← entries? depth .openEnded fuel rest
              return ((key, value) :: entries, rest)

end

/-- Reads an encoding of exactly one item. -/
def Item.decode? (bytes : List UInt8) : Option Item :=
  match item? 0 (2 * bytes.length + 1) bytes with
  | some (item, []) => some item
  | _ => none

end CallPlan.Cbor
