import CallPlan.Text.Glyph
import CallPlan.Text.Hexadecimal
import CallPlan.Text.NormalData

/-!
Canonical composition: texts that Unicode holds equivalent get one spelling. A character is taken
apart completely, marks are put in the order of their classes, and then each character takes up the
marks that it has a composite with. Runs of marks are bounded: a joiner that shows nothing is put in
where one would grow too long.
-/

namespace CallPlan.Text

def compositeTable : List (Nat × Nat × Nat) := inThrees (hexNumbers compositeData)

def splitTable : List (Nat × Nat × Nat) := inThrees (hexNumbers splitData)

def singletonTable : List (Nat × Nat) := inTwos (hexNumbers singletonData)

def classTable : List (Nat × Nat × Nat) := inThrees (hexNumbers classData)

def edgeTable : List (Nat × Nat × Nat × Nat) := inFours (hexNumbers edgeData)

/-- The combining class: zero for a character that marks are combined with. -/
def combiningClass (c : Char) : Nat :=
  if c.toNat < 0x300 then 0
  else
    match classTable.find? fun (first, last, _) => first ≤ c.toNat && c.toNat ≤ last with
    | some (_, _, k) => k
    | none => 0

namespace Hangul

def leadBase : Nat := 0x1100
def vowelBase : Nat := 0x1161
def tailBase : Nat := 0x11A7
def syllableBase : Nat := 0xAC00
def leadCount : Nat := 19
def vowelCount : Nat := 21
def tailCount : Nat := 28

def syllableCount : Nat := leadCount * vowelCount * tailCount

def isSyllable (n : Nat) : Bool := syllableBase ≤ n && n < syllableBase + syllableCount

/-- The letters of a syllable. -/
def letters (n : Nat) : List Nat :=
  let index := n - syllableBase
  let lead := leadBase + index / (vowelCount * tailCount)
  let vowel := vowelBase + index / tailCount % vowelCount
  let tail := index % tailCount
  if tail = 0 then [lead, vowel] else [lead, vowel, tailBase + tail]

/-- The syllable of a letter, or of a syllable without a tail, and the letter after it. -/
def join? (a b : Nat) : Option Nat :=
  if leadBase ≤ a && a < leadBase + leadCount && vowelBase ≤ b && b < vowelBase + vowelCount then
    some (syllableBase + ((a - leadBase) * vowelCount + (b - vowelBase)) * tailCount)
  else if isSyllable a && (a - syllableBase) % tailCount = 0 && tailBase < b &&
      b < tailBase + tailCount then
    some (a + (b - tailBase))
  else none

end Hangul

/-- The characters that a character stands for, taken apart at most `depth` times. -/
def decomposeTo : Nat → Nat → List Nat
  | 0, n => [n]
  | depth + 1, n =>
      if n < 0xC0 then [n]
      else if Hangul.isSyllable n then Hangul.letters n
      else
        match singletonTable.lookup n, compositeTable.lookup n <|> splitTable.lookup n with
        | some other, _ => decomposeTo depth other
        | none, some (first, second) => decomposeTo depth first ++ decomposeTo depth second
        | none, none => [n]

/-- No character has to be taken apart more often than this. -/
def maxDepth : Nat := 5

def decompose : Glyph → Text
  | .char c => (decomposeTo maxDepth c.toNat).map fun n => .char (Char.ofNat n)
  | .stray byte => [.stray byte]

def glyphClass : Glyph → Nat
  | .char c => combiningClass c
  | .stray _ => 0

/-- Puts a glyph behind others, which are given last first, and before the marks of higher classes at
their end. -/
def insertMark (g : Glyph) : List Glyph → List Glyph
  | [] => [g]
  | last :: before =>
      if glyphClass g ≠ 0 && glyphClass g < glyphClass last then last :: insertMark g before
      else g :: last :: before

/-- Every run of marks in the order of classes; marks of one class keep theirs. -/
def inClassOrder (t : Text) : Text := (t.foldl (fun before g => insertMark g before) []).reverse

/-- The one character that stands for two. -/
def composite? (a b : Glyph) : Option Glyph :=
  match a, b with
  | .char a, .char b =>
      match Hangul.join? a.toNat b.toNat with
      | some n => some (.char (Char.ofNat n))
      | none =>
          (compositeTable.find? fun (_, first, second) =>
            first = a.toNat && second = b.toNat).map fun (n, _, _) => .char (Char.ofNat n)
  | _, _ => none

/-- Composes a text behind a starter. `marks` are the marks after the starter that it does not take
up, and a mark is in reach of the starter if they are all of lower classes. -/
def composeFrom (starter : Glyph) (marks : Text) : Text → Text
  | [] => starter :: marks
  | g :: rest =>
      let inReach := match marks.getLast? with
        | none => true
        | some last => glyphClass last < glyphClass g
      match if inReach then composite? starter g else none with
      | some whole => composeFrom whole marks rest
      | none =>
          if glyphClass g = 0 then starter :: marks ++ composeFrom g [] rest
          else composeFrom starter (marks ++ [g]) rest

/-- Composes a text whose marks are in order. Marks before the first starter stay as they are. -/
def compose : Text → Text
  | [] => []
  | g :: rest => if glyphClass g = 0 then composeFrom g [] rest else g :: compose rest

/-- Whether a character belongs to what stands before it: a mark of nonzero class, or the second part
of some composite. -/
def joinsBackward (n : Nat) : Bool :=
  combiningClass (Char.ofNat n) ≠ 0 || (compositeTable.any fun (_, _, second) => second = n) ||
    (Hangul.vowelBase ≤ n && n < Hangul.vowelBase + Hangul.vowelCount) ||
    (Hangul.tailBase < n && n < Hangul.tailBase + Hangul.tailCount)

/-- How many marks a character begins with and ends with when it is taken apart. -/
def edges (n : Nat) : Nat × Nat :=
  if n < 0x80 then (0, 0)
  else
    match edgeTable.find? fun (first, last, _) => first ≤ n && n ≤ last with
    | some (_, _, leading, trailing) => (leading, trailing)
    | none =>
        let parts := decomposeTo maxDepth n
        ((parts.takeWhile joinsBackward).length, (parts.reverse.takeWhile joinsBackward).length)

/-- The most marks that may follow each other. -/
def maxMarks : Nat := 30

/-- The combining grapheme joiner, which has no look of its own and ends a run of marks. -/
def joiner : Glyph := .char (Char.ofNat 0x34F)

/-- Puts a joiner into every run of marks that would grow too long; `count` marks stand before. -/
def boundMarks (count : Nat) : Text → Text
  | [] => []
  | g :: rest =>
      let (leading, trailing) := edges g.scalar.toNat
      if leading = 0 then g :: boundMarks trailing rest
      else if count + leading > maxMarks then joiner :: g :: boundMarks leading rest
      else g :: boundMarks (count + leading) rest

/-- A text in canonical composition. Without marks and composites beyond the first blocks there is
nothing to do. -/
def normal (t : Text) : Text :=
  if t.all fun g => g.scalar.toNat < 0x300 then t
  else compose (inClassOrder ((boundMarks 0 t).flatMap decompose))

end CallPlan.Text
