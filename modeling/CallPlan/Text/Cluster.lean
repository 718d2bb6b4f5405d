import CallPlan.Text.Glyph
import CallPlan.Text.ClusterData
import CallPlan.Text.Hexadecimal

/-!
What a reader takes for one character: a letter with its marks, a syllable, a flag, or pictures that
joiners link. `clusters` cuts a text into such characters.
-/

namespace CallPlan.Text

/-- The part that a glyph plays in a cluster. -/
inductive ClusterClass where
  | control
  | carriageReturn
  | lineFeed
  | extend
  | joiner
  | indicator
  | prepended
  | spacing
  | lead
  | vowel
  | tail
  | openSyllable
  | closedSyllable
  | picture
  | other
deriving DecidableEq, Repr

def controlTable : List (Nat × Nat) := inTwos (hexNumbers controlData)

def extendTable : List (Nat × Nat) := inTwos (hexNumbers extendData)

def prependTable : List (Nat × Nat) := inTwos (hexNumbers prependData)

def spacingTable : List (Nat × Nat) := inTwos (hexNumbers spacingData)

def leadTable : List (Nat × Nat) := inTwos (hexNumbers leadData)

def vowelTable : List (Nat × Nat) := inTwos (hexNumbers vowelData)

def tailTable : List (Nat × Nat) := inTwos (hexNumbers tailData)

def pictureTable : List (Nat × Nat) := inTwos (hexNumbers pictureData)

def isListed (n : Nat) (table : List (Nat × Nat)) : Bool :=
  table.any fun (low, high) => low ≤ n && n ≤ high

/-- The class of a glyph. A stray byte and the replacement character stand alone. -/
def clusterClass : Glyph → ClusterClass
  | .stray _ => .control
  | .char c =>
      let n := c.toNat
      if n = 0x0D then .carriageReturn
      else if n = 0x0A then .lineFeed
      else if 0x20 ≤ n && n < 0x7F then .other
      else if n = 0x200D then .joiner
      else if n = 0xFFFD then .control
      else if 0x1F1E6 ≤ n && n ≤ 0x1F1FF then .indicator
      else if 0xAC00 ≤ n && n < 0xD7A4 then
        if (n - 0xAC00) % 28 = 0 then .openSyllable else .closedSyllable
      else if isListed n controlTable then .control
      else if isListed n extendTable then .extend
      else if isListed n spacingTable then .spacing
      else if isListed n pictureTable then .picture
      else if isListed n prependTable then .prepended
      else if isListed n leadTable then .lead
      else if isListed n vowelTable then .vowel
      else if isListed n tailTable then .tail
      else .other

/-- How many classes at the start of a list satisfy a test. -/
def countWhile (test : ClusterClass → Bool) (classes : List ClusterClass) : Nat :=
  (classes.takeWhile test).length

/-- The length of the marks at the start. A picture after a joiner is part of them if `links`; it may
have marks in turn. -/
def marksLength (links : Bool) : List ClusterClass → Nat
  | .joiner :: .picture :: rest =>
      if links then 2 + marksLength links rest else 1
  | .extend :: rest | .spacing :: rest | .joiner :: rest => 1 + marksLength links rest
  | _ => 0

/-- The length of a run of letters of one syllable after its first letters. -/
def syllableLength : List ClusterClass → Nat
  | .openSyllable :: rest =>
      let vowels := countWhile (· = .vowel) rest
      1 + vowels + countWhile (· = .tail) (rest.drop vowels)
  | .closedSyllable :: rest => 1 + countWhile (· = .tail) rest
  | .vowel :: rest =>
      let vowels := countWhile (· = .vowel) rest
      1 + vowels + countWhile (· = .tail) (rest.drop vowels)
  | .tail :: rest => 1 + countWhile (· = .tail) rest
  | _ => 0

/-- The length of a syllable: leading letters may stand before the rest, but trailing letters do not
stand alone behind them, nor behind them and a syllable without an end. -/
def hangulLength (classes : List ClusterClass) : Nat :=
  let leads := countWhile (· = .lead) classes
  let rest := classes.drop leads
  if leads = 0 then syllableLength rest
  else
    match rest with
    | .openSyllable :: .vowel :: _ | .closedSyllable :: _ | .vowel :: _ => leads + syllableLength rest
    | .openSyllable :: _ => leads + 1
    | _ => leads

/-- The length of a cluster that does not begin with a prepended sign. -/
def bodyLength (classes : List ClusterClass) : Nat :=
  match classes with
  | [] | .control :: _ | .carriageReturn :: _ | .lineFeed :: _ | .prepended :: _ => 0
  | .joiner :: rest => 1 + marksLength false rest
  | .picture :: rest => 1 + marksLength true rest
  | .indicator :: .indicator :: rest => 2 + marksLength true rest
  | .indicator :: rest => 1 + marksLength true rest
  | .other :: rest | .extend :: rest | .spacing :: rest => 1 + marksLength false rest
  | _ =>
      let length := hangulLength classes
      length + marksLength true (classes.drop length)

/-- The length of the first cluster of a text that is not empty. -/
def clusterLength (classes : List ClusterClass) : Nat :=
  match classes with
  | .carriageReturn :: .lineFeed :: _ => 2
  | .prepended :: _ =>
      let signs := countWhile (· = .prepended) classes
      signs + bodyLength (classes.drop signs)
  | _ => max 1 (bodyLength classes)

/-- Cuts a text into clusters, of at most `fuel`. -/
def clustersFrom : Nat → Text → List ClusterClass → List Text
  | 0, _, _ => []
  | _, [], _ => []
  | fuel + 1, t, classes =>
      let length := clusterLength classes
      t.take length :: clustersFrom fuel (t.drop length) (classes.drop length)

/-- The clusters of a text, in order. -/
def clusters (t : Text) : List Text := clustersFrom t.length t (t.map clusterClass)

end CallPlan.Text
