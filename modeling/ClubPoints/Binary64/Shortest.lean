import ClubPoints.Binary64.Basic

/-!
# The shortest decimal that reads back

A positive count of units is written with the fewest decimal digits that round to it; of two such
decimals the nearer is taken, and of two equally near ones the even.
-/

namespace ClubPoints.Binary64

/-- The reals that round to a number, in quarters of a unit, and whether the two ends do. -/
structure Catchment where
  low : Nat
  high : Nat
  closed : Bool

/-- Below a power of two the neighbours lie twice as close. -/
def catchment (units : Nat) : Catchment :=
  let spare := units.log2 - 52
  let step := twoTo spare
  let below := if units = twoTo (spare + 52) ∧ 0 < spare then step else 2 * step
  { low := 4 * units - below, high := 4 * units + 2 * step, closed := units / step % 2 == 0 }

def Catchment.contains (c : Catchment) (num den : Nat) : Bool :=
  if c.closed then c.low * den ≤ num && num ≤ c.high * den
  else c.low * den < num && num < c.high * den

def gridStep (place : Int) : Nat × Nat :=
  if 0 ≤ place then (tenTo place.toNat * (4 * unitsPerOne), 1)
  else (4 * unitsPerOne, tenTo (-place).toNat)

/-- A multiple of `10 ^ place` that rounds to the number: the nearer of its two neighbours on that
grid, else the other. -/
def onGrid? (units : Nat) (place : Int) : Option Nat :=
  let (num, den) := gridStep place
  let whole := 4 * units * den
  let near := roundHalfEven whole num
  let far := if near = whole / num then near + 1 else near - 1
  [near, far].find? fun count => (catchment units).contains (count * num) den

def leadingPlace (units : Nat) : Int :=
  let guess := ((units.log2 : Int) - 1074) * 30103 / 100000
  let reaches (place : Int) : Bool :=
    let (num, den) := gridStep place
    num ≤ 4 * units * den
  if reaches (guess + 1) then guess + 1 else if reaches guess then guess else guess - 1

/-- A count and a place: the shortest decimal is `count * 10 ^ place`. -/
def shortest (units : Nat) : Nat × Int :=
  let lead := leadingPlace units
  let hit := (List.range 17).findSome? fun (n : Nat) =>
    (onGrid? units (lead - n)).map fun count => (count, lead - n)
  hit.getD (units, lead - 16)

end ClubPoints.Binary64
