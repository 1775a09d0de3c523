import ClubPoints.Binary64.Basic

/-!
# Sums and products

The number nearest to the exact sum or product of two numbers. Opposite infinities have no sum, and
infinity times zero no product.
-/

namespace ClubPoints.Binary64

def isNegative : Binary64 → Bool
  | .nan => false
  | .infinity negative => negative
  | .finite negative _ _ => negative

/-- A sum of zero has a sign only if both numbers have it. -/
def plus : Binary64 → Binary64 → Binary64
  | .finite a m _, .finite b n _ =>
    let sum := signed a m + signed b n
    ofUnits (if sum = 0 then a && b else decide (sum < 0)) sum.natAbs 1
  | .infinity a, .infinity b => if a = b then .infinity a else .nan
  | .nan, _ | _, .nan => .nan
  | .infinity a, _ => .infinity a
  | _, .infinity b => .infinity b

def times : Binary64 → Binary64 → Binary64
  | .finite a m _, .finite b n _ => ofUnits (a ^^ b) (m * n) unitsPerOne
  | x, y =>
    if x = .nan || y = .nan || !x.isNonzero || !y.isNonzero then .nan
    else .infinity (x.isNegative ^^ y.isNegative)

end ClubPoints.Binary64
