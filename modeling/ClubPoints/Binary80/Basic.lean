import ClubPoints.Binary64.Basic

/-!
# Positive numbers with 64 significant bits

Every operation rounds its exact result to 64 significant bits, a half to the even neighbour.
Exponents have no bounds here: what is computed lies far within those that the format has.
-/

namespace ClubPoints

/-- The number `count * 2 ^ place`. -/
structure Binary80 where
  count : Nat
  place : Int

namespace Binary80

def nearest (num den : Nat) (place : Int) : Binary80 :=
  let shift : Int := 64 + den.log2 - num.log2
  let num := num * twoTo shift.toNat
  let den := den * twoTo (-shift).toNat
  let spare := (num / den).log2 - 63
  { count := roundHalfEven num (den * twoTo spare), place := place - shift + spare }

def ofNat (n : Nat) : Binary80 := nearest n 1 0

def ofUnits (units : Nat) : Binary80 := nearest units 1 (-1074)

def constant (num den : Nat) : Binary80 := ofUnits (roundUnits (num * unitsPerOne) den)

def times (x y : Binary80) : Binary80 := nearest (x.count * y.count) 1 (x.place + y.place)

def dividedBy (x y : Binary80) : Binary80 := nearest x.count y.count (x.place - y.place)

def countAt (x : Binary80) (place : Int) : Nat := x.count * twoTo (x.place - place).toNat

def plus (x y : Binary80) : Binary80 :=
  let place := min x.place y.place
  nearest (x.countAt place + y.countAt place) 1 place

def le (x y : Binary80) : Bool :=
  let place := min x.place y.place
  decide (x.countAt place ≤ y.countAt place)

def floor (x : Binary80) : Nat := x.countAt (min x.place 0) / twoTo (-x.place).toNat

def tenfoldRest (x : Binary80) : Binary80 :=
  nearest (10 * (x.countAt (min x.place 0) % twoTo (-x.place).toNat)) 1 (min x.place 0)

def toBinary64 (x : Binary80) (negative : Bool) : Binary64 :=
  Binary64.ofUnits negative (x.count * twoTo (x.place + 1074).toNat)
    (twoTo (-(x.place + 1074)).toNat)

end Binary80

end ClubPoints
