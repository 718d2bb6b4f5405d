import CallPlan.Number.Decimal

/-!
The shortest decimal that stands for a binary number: the fewest digits among the decimals that round
to it, and of those the nearest. A number `m · 2 ^ q` is rounded to by everything within half a unit
of its last place, the ends included when `m` is even. Below a power of two the numbers lie twice as
dense, so there the half unit is a quarter.
-/

namespace CallPlan.Shortest

/-- The decimals that round to a number, in units that make all of them whole: the value, the ends of
its interval, and whether the ends belong to it. `unit` is the size of one step of the decimal grid
in the same units. -/
structure Grid where
  value : Nat
  low : Nat
  high : Nat
  closed : Bool
  unit : Nat

/-- The grid of multiples of `10 ^ place` around `m · 2 ^ q`. -/
def Grid.around (m : Nat) (q : Int) (denseBelow : Bool) (place : Int) : Grid :=
  let scale := pow2 (q - 2).toNat * pow10 (-place).toNat
  { value := 4 * m * scale
    low := (4 * m - (if denseBelow then 1 else 2)) * scale
    high := (4 * m + 2) * scale
    closed := m % 2 = 0
    unit := pow2 (2 - q).toNat * pow10 place.toNat }

/-- Whether a multiple of the unit rounds to the number. -/
def Grid.admits (g : Grid) (n : Nat) : Bool :=
  let point := n * g.unit
  if g.closed then g.low ≤ point && point ≤ g.high else g.low < point && point < g.high

/-- The multiple of the unit nearest to the number among its two neighbours that round to it; of two
equally near ones the even. -/
def Grid.nearest? (g : Grid) : Option Nat :=
  let below := g.value / g.unit
  let twice := 2 * (g.value % g.unit)
  match g.admits below, g.admits (below + 1) with
  | true, true =>
      if twice < g.unit then some below
      else if g.unit < twice then some (below + 1)
      else if below % 2 = 0 then some below else some (below + 1)
  | true, false => some below
  | false, true => some (below + 1)
  | false, false => none

/-- Whether `m · 2 ^ q` is at least `10 ^ k`. -/
def reaches (m : Nat) (q k : Int) : Bool :=
  pow10 k.toNat * pow2 (-q).toNat ≤ m * pow2 q.toNat * pow10 (-k).toNat

/-- The exponent of the leading decimal digit of `m · 2 ^ q`, for a positive `m`. The power of two
below the number, times the logarithm of two, is off by one at most. -/
def order (m : Nat) (q : Int) : Int :=
  let guess := (q + bitLength m - 1) * 30102999566 / 100000000000
  if reaches m q (guess + 1) then guess + 1
  else if reaches m q guess then guess
  else guess - 1

/-- Tries the grids from the coarsest on. -/
def search (m : Nat) (q : Int) (denseBelow : Bool) (place : Int) : Nat → Nat × Int
  | 0 => ((Grid.around m q denseBelow place).value / (Grid.around m q denseBelow place).unit, place)
  | fuel + 1 =>
      match (Grid.around m q denseBelow place).nearest? with
      | some n => (n, place)
      | none => search m q denseBelow (place - 1) fuel

/-- Drops the zeros at the end of a positive number, into the exponent. -/
def dropZeros (n : Nat) (place : Int) : Nat → Nat × Int
  | 0 => (n, place)
  | fuel + 1 => if n % 10 = 0 then dropZeros (n / 10) (place + 1) fuel else (n, place)

/-- The shortest digits for a positive `m · 2 ^ q` of at most `precision` bits, as a number and the
power of ten it is multiplied by. -/
def digits (precision : Nat) (m : Nat) (q : Int) (denseBelow : Bool) : Nat × Int :=
  let (n, place) := search m q denseBelow (order m q) (precision + 1)
  dropZeros n place (digitCount n)

/-- The shortest decimal for a finite double read in a format that holds it. -/
def ofDouble (format : BinaryFormat) (bits : UInt64) : Decimal :=
  let (m, q) := Double.decode bits
  if m = 0 then { negative := Double.isNegative bits, significand := 0 }
  else
    -- The double written with the format's own last place.
    let last := max (q + bitLength m - format.precision) format.least
    let m := if last ≤ q then m * pow2 (q - last).toNat else m / pow2 (last - q).toNat
    let denseBelow := m = pow2 (format.precision - 1) && last > format.least
    let (n, place) := digits format.precision m last denseBelow
    { negative := Double.isNegative bits, significand := n, exponent := place }

end CallPlan.Shortest
