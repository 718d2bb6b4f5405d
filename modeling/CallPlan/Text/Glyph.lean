/-!
Text as the program sees it: a sequence of characters read from bytes. A byte that belongs to no
UTF-8 sequence stays in the text as a stray, so that every byte string is a text and `toBytes`
gives back the bytes that `ofBytes` read.
-/

namespace CallPlan

/-- One character of a text: a Unicode scalar value, or a byte that is part of none. -/
inductive Glyph where
  | char (c : Char)
  | stray (byte : UInt8)
deriving DecidableEq, Repr, Inhabited

abbrev Text := List Glyph

namespace Glyph

/-- The character a reader of Unicode sees: a stray byte shows as the replacement character. -/
def scalar : Glyph → Char
  | .char c => c
  | .stray _ => '\uFFFD'

def toBytes : Glyph → List UInt8
  | .stray byte => [byte]
  | .char c =>
      let n := c.toNat
      if n < 0x80 then [n.toUInt8]
      else if n < 0x800 then [(0xC0 + n / 0x40).toUInt8, (0x80 + n % 0x40).toUInt8]
      else if n < 0x10000 then
        [(0xE0 + n / 0x1000).toUInt8, (0x80 + n / 0x40 % 0x40).toUInt8, (0x80 + n % 0x40).toUInt8]
      else
        [(0xF0 + n / 0x40000).toUInt8, (0x80 + n / 0x1000 % 0x40).toUInt8,
          (0x80 + n / 0x40 % 0x40).toUInt8, (0x80 + n % 0x40).toUInt8]

/-- The number of bytes the glyph takes. -/
def width (g : Glyph) : Nat := g.toBytes.length

end Glyph

namespace Text

def ofString (s : String) : Text := s.toList.map .char

instance : Coe String Text := ⟨ofString⟩

def ofChar (c : Char) : Text := [.char c]

def toBytes (t : Text) : List UInt8 := t.flatMap Glyph.toBytes

/-- The number of bytes the text takes. -/
def size (t : Text) : Nat := t.toBytes.length

def isTail (b : UInt8) : Bool := 0x80 ≤ b && b ≤ 0xBF

/-- The scalar value that starts with byte `first`, and how many of the bytes after it belong to
it. Overlong forms, surrogates and values past the last plane are not scalars. -/
def scalar? (first : UInt8) (rest : List UInt8) : Option (Char × Nat) :=
  let a := first.toNat
  if a < 0x80 then some (Char.ofNat a, 0)
  else match rest with
    | b :: rest =>
      if !isTail b then none
      else if 0xC2 ≤ a && a ≤ 0xDF then some (Char.ofNat ((a - 0xC0) * 0x40 + (b.toNat - 0x80)), 1)
      else match rest with
        | c :: rest =>
          if !isTail c then none
          else if 0xE0 ≤ a && a ≤ 0xEF then
            let n := (a - 0xE0) * 0x1000 + (b.toNat - 0x80) * 0x40 + (c.toNat - 0x80)
            if n < 0x800 || (0xD800 ≤ n && n ≤ 0xDFFF) then none else some (Char.ofNat n, 2)
          else match rest with
            | d :: _ =>
              if !isTail d || a < 0xF0 || 0xF4 < a then none
              else
                let n := (a - 0xF0) * 0x40000 + (b.toNat - 0x80) * 0x1000 +
                  (c.toNat - 0x80) * 0x40 + (d.toNat - 0x80)
                if n < 0x10000 || 0x10FFFF < n then none else some (Char.ofNat n, 3)
            | [] => none
        | [] => none
    | [] => none

def ofBytes : List UInt8 → Text
  | [] => []
  | first :: rest =>
      match scalar? first rest with
      | some (c, tail) => .char c :: ofBytes (rest.drop tail)
      | none => .stray first :: ofBytes rest
termination_by bytes => bytes.length
decreasing_by all_goals simp +arith

/-- Whether the text is well-formed Unicode: it has no stray byte. -/
def isUnicode (t : Text) : Bool := t.all fun
  | .char _ => true
  | .stray _ => false

/-- The text as a string; a stray byte shows as the replacement character. -/
def toString (t : Text) : String := String.ofList (t.map Glyph.scalar)

/-- Texts are ordered by their bytes. -/
def precedes (s t : Text) : Bool := decide (s.toBytes < t.toBytes)

/-- What stands before the first occurrence of a character, and what stands after it. -/
def cut (mark : Char) : Text → Text × Option Text
  | [] => ([], none)
  | g :: rest =>
      if g = .char mark then ([], some rest)
      else
        let (before, after) := cut mark rest
        (g :: before, after)

/-- Joins texts with a separator between each two. -/
def join (separator : Text) (parts : List Text) : Text := List.intercalate separator parts

def ofNat (n : Nat) : Text := ofString (Nat.repr n)

def ofInt (n : Int) : Text := ofString (Int.repr n)

/-- Inserts into a list sorted by bytes; an equal text already there is kept once. -/
def insertSorted (t : Text) : List Text → List Text
  | [] => [t]
  | head :: rest =>
      if t = head then head :: rest
      else if t.precedes head then t :: head :: rest
      else head :: insertSorted t rest

/-- The distinct texts of a list in byte order. -/
def sorted (texts : List Text) : List Text := texts.foldr insertSorted []

end Text
end CallPlan
