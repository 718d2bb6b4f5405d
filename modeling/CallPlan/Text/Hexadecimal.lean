/-!
Tables of numbers, held as lines of hexadecimal code points with spaces between them.
-/

namespace CallPlan.Text

/-- A number from hexadecimal digits. -/
def hexNumber (digits : String) : Nat :=
  digits.toList.foldl (fun n c => 16 * n + if c.isDigit then c.toNat - 48 else c.toNat - 55) 0

/-- The numbers of lines of hexadecimal numbers. -/
def hexNumbers (lines : List String) : List Nat :=
  lines.flatMap fun line => (line.splitOn " ").map hexNumber

def inTwos : List Nat → List (Nat × Nat)
  | a :: b :: rest => (a, b) :: inTwos rest
  | _ => []

def inThrees : List Nat → List (Nat × Nat × Nat)
  | a :: b :: c :: rest => (a, b, c) :: inThrees rest
  | _ => []

def inFours : List Nat → List (Nat × Nat × Nat × Nat)
  | a :: b :: c :: d :: rest => (a, b, c, d) :: inFours rest
  | _ => []

end CallPlan.Text
