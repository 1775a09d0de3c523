import ClubPoints.Binary64.Power

/-!
# Binary floating-point numbers of 64 bits

A finite number is a sign and a count of units, one unit being `2 ^ -1074`, the least positive
number of the format. So order and equality are those of integers, and rounding is a division of
naturals.
-/

namespace ClubPoints

def unitsPerOne : Nat := twoTo 1074

def unitsLimit : Nat := twoTo 2098

/-- A count of units that the format can hold: at most 53 significant bits, below the limit. -/
def Representable (units : Nat) : Prop :=
  units < unitsLimit ∧ ∃ m k, m ≤ twoTo 53 ∧ units = m * twoTo k

theorem representable_zero : Representable 0 :=
  ⟨twoTo_pos _, 0, 0, Nat.zero_le _, (Nat.zero_mul _).symm⟩

inductive Binary64 where
  | nan
  | infinity (negative : Bool)
  | finite (negative : Bool) (units : Nat) (representable : Representable units)
deriving DecidableEq

instance : Inhabited Binary64 := ⟨.nan⟩

/-! ## Rounding -/

/-- The whole number nearest to `num / den`; a half goes to the even neighbour. -/
def roundHalfEven (num den : Nat) : Nat :=
  let q := num / den
  let twice := 2 * (num % den)
  if twice < den then q
  else if den < twice then q + 1
  else if q % 2 = 0 then q else q + 1

def roundUnits (num den : Nat) : Nat :=
  let spare := (num / den).log2 - 52
  roundHalfEven num (den * twoTo spare) * twoTo spare

theorem roundHalfEven_le (num den : Nat) : roundHalfEven num den ≤ num / den + 1 := by
  unfold roundHalfEven
  dsimp only
  split
  · omega
  · split
    · omega
    · split <;> omega

theorem div_spare_lt (num den : Nat) :
    num / (den * twoTo ((num / den).log2 - 52)) < twoTo 53 := by
  rw [← Nat.div_div_eq_div_mul]
  apply (Nat.div_lt_iff_lt_mul (twoTo_pos _)).mpr
  rw [← twoTo_add]
  exact Nat.lt_of_lt_of_le (lt_twoTo_log2 _) (twoTo_le_twoTo (by omega))

theorem representable_roundUnits {num den : Nat} (h : roundUnits num den < unitsLimit) :
    Representable (roundUnits num den) := by
  refine ⟨h, _, _, ?_, rfl⟩
  have hr := roundHalfEven_le num (den * twoTo ((num / den).log2 - 52))
  have hq := div_spare_lt num den
  omega

namespace Binary64

/-- The number nearest to `num / den` units; beyond the finite numbers it is infinite. -/
def ofUnits (negative : Bool) (num den : Nat) : Binary64 :=
  if h : roundUnits num den < unitsLimit then
    .finite negative (roundUnits num den) (representable_roundUnits h)
  else
    .infinity negative

def ofQuotient (negative : Bool) (num den : Nat) : Binary64 :=
  ofUnits negative (num * unitsPerOne) den

def zero : Binary64 := .finite false 0 representable_zero

def finite? : Binary64 → Option Binary64
  | .finite negative units h => some (.finite negative units h)
  | _ => none

/-- The number nearest to a whole number, unless that is beyond the finite numbers. -/
def ofInt? (n : Int) : Option Binary64 := (ofQuotient (decide (n < 0)) n.natAbs 1).finite?

/-! ## Order -/

def signed (negative : Bool) (n : Nat) : Int :=
  if negative then -(n : Int) else n

/-- The place of a number on the line of units; the infinities stand at its ends. -/
def key? : Binary64 → Option Int
  | .nan => none
  | .infinity negative => some (signed negative unitsLimit)
  | .finite negative units _ => some (signed negative units)

def related (r : Int → Int → Bool) (x y : Binary64) : Bool :=
  match x.key?, y.key? with
  | some a, some b => r a b
  | _, _ => false

def lt : Binary64 → Binary64 → Bool := related fun a b => decide (a < b)

def le : Binary64 → Binary64 → Bool := related fun a b => decide (a ≤ b)

/-- Numeric equality: the two zeros are equal, and `nan` equals nothing. -/
def same : Binary64 → Binary64 → Bool := related fun a b => decide (a = b)

def isWhole (x : Binary64) (n : Int) : Bool :=
  match x with
  | .finite negative units _ => decide (signed negative units = n * unitsPerOne)
  | _ => false

/-! ## Whole numbers -/

def isIntegral : Binary64 → Bool
  | .finite _ units _ => units % unitsPerOne == 0
  | _ => false

/-- The whole part of a finite number, toward zero. -/
def truncate? : Binary64 → Option Int
  | .finite negative units _ => some (signed negative (units / unitsPerOne))
  | _ => none

def isNonzero : Binary64 → Bool
  | .finite _ units _ => units != 0
  | _ => true

def withoutZeroSign : Binary64 → Binary64
  | .finite negative units h => .finite (negative && units != 0) units h
  | x => x

def ofRatio (num : Int) (den : Nat) : Binary64 :=
  ofQuotient (decide (num < 0)) num.natAbs den

end Binary64

end ClubPoints
