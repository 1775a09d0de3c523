import ClubPoints.Binary80.Basic
import ClubPoints.Numeral

/-!
# Decimals by way of the extended format

Each operation of the extended format rounds, so a tie may go either way and the last bit of what is
read need not be that of the nearest number.
-/

namespace ClubPoints.Binary80

def one : Binary80 := ofNat 1

def ten : Binary80 := ofNat 10

/-! ## Writing -/

structure Scaled where
  number : Binary80
  lead : Int

def raise (limit step : Binary80) (places : Int) : Nat → Scaled → Scaled
  | 0, s => s
  | fuel + 1, s =>
    let next := step.times s.number
    if next.le limit then raise limit step places fuel { number := next, lead := s.lead + places }
    else s

def lift (bound step : Binary80) (places : Int) : Nat → Scaled → Scaled
  | 0, s => s
  | fuel + 1, s =>
    if bound.le s.number then s
    else lift bound step places fuel {
      number := s.number.times step, lead := s.lead - places }

/-- The largest power of ten up to a number; one for a number below one. -/
def powerUpTo (x : Binary80) : Scaled :=
  raise x ten 1 10 (raise x (ofNat (tenTo 10)) 10 10
    (raise x (constant (tenTo 100) 1) 100 4 { number := one, lead := 0 }))

def normalized (x : Binary80) : Scaled :=
  let power := powerUpTo x
  lift one ten 1 10 (lift (constant 1 (tenTo 8)) (ofNat (tenTo 8)) 8 41 {
    number := x.dividedBy power.number, lead := power.lead })

/-- Half of the last of fifteen digits, as the product of two numbers of the usual format. -/
def halfOfLast : Binary80 :=
  ofUnits (roundUnits
    (roundUnits (5 * unitsPerOne) (tenTo 5) * roundUnits unitsPerOne (tenTo 10)) unitsPerOne)

def Scaled.roundedUp (s : Scaled) : Scaled :=
  let sum := s.number.plus halfOfLast
  if ten.le sum then { number := sum.times (constant 1 10), lead := s.lead + 1 }
  else { s with number := sum }

def draw : Nat → Binary80 → List Nat
  | 0, _ => []
  | n + 1, x => x.floor :: draw n x.tenfoldRest

/-- A count and a place: fifteen digits of a positive count of units. -/
def fifteenDigits (units : Nat) : Nat × Int :=
  let s := (normalized (ofUnits units)).roundedUp
  (Text.ofDigits (draw 15 s.number), s.lead - 14)

/-! ## Reading -/

/-- No digit is added to a significand from here on. -/
def significandLimit : Nat := 922337203685477579

def significand (d : Numeral.Decimal) : Nat × Int :=
  let leading := d.whole.foldl (fun (n, exponent) digit =>
    if n < significandLimit then (10 * n + digit, exponent) else (n, exponent + 1)) (0, d.exponent)
  d.fraction.foldl (fun (n, exponent) digit =>
    if n < significandLimit then (10 * n + digit, exponent - 1) else (n, exponent)) leading

/-- Brings a power of ten closer to one by moving tens from it to the significand or back. -/
def settle : Nat → Nat → Int → Nat × Int
  | 0, n, exponent => (n, exponent)
  | fuel + 1, n, exponent =>
    if 0 < exponent ∧ n ≤ significandLimit then settle fuel (10 * n) (exponent - 1)
    else if exponent < 0 ∧ n % 10 = 0 then settle fuel (n / 10) (exponent + 1)
    else (n, exponent)

def timesPower (factor base : Binary80) (n : Nat) : Binary80 :=
  let next := if n % 2 = 1 then factor.times base else factor
  if n / 2 = 0 then next else timesPower next (base.times base) (n / 2)
termination_by n
decreasing_by omega

def powerOfTen (n : Nat) : Binary80 := timesPower one ten n

def greatestPower : Nat := roundUnits (tenTo 308 * unitsPerOne) 1

def near (negative : Bool) (n : Nat) (exponent : Int) : Binary64 :=
  let power := powerOfTen exponent.natAbs
  (if exponent < 0 then (ofNat n).dividedBy power else (ofNat n).times power).toBinary64 negative

/-- A significand times a power of ten. One far from one is multiplied by in two steps. -/
def product (negative : Bool) (n : Nat) (exponent : Int) : Binary64 :=
  if n = 0 ∨ exponent ≤ -342 then Binary64.ofUnits negative 0 1
  else if 342 ≤ exponent then .infinity negative
  else if exponent < -307 then
    match near negative n (exponent + 308) with
    | .finite _ units _ => Binary64.ofUnits negative (units * unitsPerOne) greatestPower
    | x => x
  else if 307 < exponent then
    match near negative n (exponent - 308) with
    | .finite _ units _ => Binary64.ofUnits negative (units * greatestPower) unitsPerOne
    | x => x
  else near negative n exponent

def readDecimal (negative : Bool) (d : Numeral.Decimal) : Binary64 :=
  let (n, exponent) := significand d
  let (n, exponent) := settle 20 n exponent
  product negative n exponent

end ClubPoints.Binary80
