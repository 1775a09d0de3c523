import ClubPoints.Binary64.Shortest

/-!
# Decimal text of a number

`RealFormat` holds the choices of a written form, and `Binary64.write` follows them. The digits are
the shortest that read back, unless a format has a decimal of its own.
-/

namespace ClubPoints

structure RealFormat where
  /-- The decimal that stands for a positive count of units: a count and the place of its last
  digit. -/
  decimal : Nat → Nat × Int := Binary64.shortest
  /-- The least place of a leading digit that is still written positionally. -/
  leastPositional : Int
  /-- The first place of a leading digit that is written with an exponent again. -/
  positionalLimit : Int
  exponentWidth : Nat
  alwaysPoint : Bool := false
  nanText : String
  infinityText : String

namespace Binary64

def zeros (n : Nat) : List Char := List.replicate n '0'

def trimZeros (digits : List Char) : List Char :=
  match (digits.reverse.dropWhile (· == '0')).reverse with
  | [] => ['0']
  | kept => kept

/-- Digits whose first stands at the place `lead`, with at least one digit on each side of the
point. -/
def positional (digits : List Char) (lead : Int) : List Char :=
  if lead < 0 then
    '0' :: '.' :: zeros (-lead - 1).toNat ++ digits
  else
    let whole := lead.toNat + 1
    let fraction := digits.drop whole
    digits.take whole ++ zeros (whole - digits.length) ++ '.' ::
      (if fraction.isEmpty then ['0'] else fraction)

def withExponent (format : RealFormat) (digits : List Char) (lead : Int) : List Char :=
  let mantissa := match digits with
    | [first] => if format.alwaysPoint then [first, '.', '0'] else [first]
    | first :: rest => first :: '.' :: rest
    | [] => []
  let places := Nat.toDigits 10 lead.natAbs
  mantissa ++ 'e' :: (if lead < 0 then '-' else '+') ::
    zeros (format.exponentWidth - places.length) ++ places

def writeUnits (format : RealFormat) (units : Nat) : List Char :=
  let (count, place) := format.decimal units
  let all := Nat.toDigits 10 count
  let lead := place + all.length - 1
  let digits := trimZeros all
  if format.leastPositional ≤ lead ∧ lead < format.positionalLimit then positional digits lead
  else withExponent format digits lead

/-- A negative zero keeps its sign; `nan` has none. -/
def write (format : RealFormat) : Binary64 → String
  | .nan => format.nanText
  | .infinity negative => (if negative then "-" else "") ++ format.infinityText
  | .finite negative units _ =>
    (if negative then "-" else "") ++
      String.ofList (if units = 0 then "0.0".toList else writeUnits format units)

end Binary64

end ClubPoints
