import CallPlan.Text.Glyph

/-!
Ranges: arithmetic progressions of 64-bit integers. All their arithmetic wraps, so the length of a
range that spans more than half of the integers is not what its bounds suggest.
-/

namespace CallPlan.Starlark

/-- The 64-bit integer that agrees with an integer in its last 64 bits. -/
def wrap (n : Int) : Int := Int.bmod n 0x10000000000000000

structure Progression where
  start : Int
  stop : Int
  step : Int
deriving DecidableEq, Repr

namespace Progression

/-- The number of items; not above zero when there are none. -/
def length (r : Progression) : Int :=
  if r.step > 0 then
    if r.stop > r.start then wrap (Int.tdiv (wrap (r.stop - 1 - r.start)) r.step + 1) else 0
  else
    if r.start > r.stop then
      wrap (Int.tdiv (wrap (r.start - 1 - r.stop)) (wrap (-r.step)) + 1)
    else 0

def item (r : Progression) (index : Int) : Int := wrap (r.start + wrap (index * r.step))

/-- The part from one index to another. -/
def slice (r : Progression) (low high step : Int) : Progression where
  start := r.item low
  stop := r.item high
  step := wrap (r.step * step)

/-- Whether an integer is an item. None beyond 32 bits is found. -/
def contains (r : Progression) (n : Int) : Bool :=
  if n < -0x80000000 || 0x80000000 ≤ n then false
  else
    let offset := wrap (n - r.start)
    let index := Int.tdiv offset r.step
    Int.tmod offset r.step = 0 && 0 ≤ index && index < r.length

/-- Two ranges are the same when they have the same items. -/
def same (r s : Progression) : Bool :=
  r.length = s.length &&
    (r.length = 0 || (r.start = s.start && (r.length = 1 || r.step = s.step)))

def render (r : Progression) : Text :=
  let start := Text.ofInt r.start
  let stop := Text.ofInt r.stop
  if r.step ≠ 1 then "range(" ++ start ++ ", " ++ stop ++ ", " ++ Text.ofInt r.step ++ ")"
  else if r.start ≠ 0 then "range(" ++ start ++ ", " ++ stop ++ ")"
  else "range(" ++ stop ++ ")"

end Progression
end CallPlan.Starlark
