import CallPlan.Text.Glyph
import CallPlan.Text.Case

/-!
Likeness of texts: whether one is a subsequence of another when case is ignored, and how many
insertions, deletions and substitutions lead from one to the other.
-/

namespace CallPlan.Text

/-- The characters of a text in lower case. -/
def folded (t : Text) : List Char := t.map fun g => lowerChar g.scalar

def isSubsequence : List Char → List Char → Bool
  | [], _ => true
  | _ :: _, [] => false
  | a :: s, b :: t => if a = b then isSubsequence s t else isSubsequence (a :: s) t

/-- Whether the characters of `s` occur in `t` in order, apart from case. -/
def isFoldedSubsequence (s t : Text) : Bool := isSubsequence s.folded t.folded

/-- One more row of the table of distances. `previous` holds the distances from the source read so far
to each start of the target, and `left` and `diagonal` the neighbours of the next entry. -/
def distanceRow (c : Char) (left diagonal : Nat) : List Char → List Nat → List Nat
  | d :: target, up :: previous =>
      let entry := min (min (left + 1) (up + 1)) (diagonal + if c = d then 0 else 1)
      entry :: distanceRow c entry up target previous
  | _, _ => []

/-- The distances from `source` to each nonempty start of `target`. -/
def distanceRows (target : List Char) (read : Nat) (row : List Nat) : List Char → List Nat
  | [] => row
  | c :: source => distanceRows target (read + 1) (distanceRow c (read + 1) read target row) source

/-- The least number of insertions, deletions and substitutions from one text to the other. -/
def distance (s t : Text) : Nat :=
  let target := t.map Glyph.scalar
  let row := (List.range target.length).map (· + 1)
  ((distanceRows target 0 row (s.map Glyph.scalar)).getLast?).getD s.length

end CallPlan.Text
