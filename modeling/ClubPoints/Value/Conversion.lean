import ClubPoints.Fault
import ClubPoints.Numeral
import ClubPoints.Value.Display

/-!
# Values as numbers

A value read as a real number, as a whole number, and as the literal that a stored condition is
compared with. A whole number that is too large for a real one and infinity as a whole number are
faults of their own; every other fault says that the value is no number.
-/

namespace ClubPoints.Value

def toReal : Value → Except Fault Binary64
  | .truth b => .ok (Binary64.ofQuotient false (if b then 1 else 0) 1)
  | .whole n => (Binary64.ofInt? n).elim (.error .wholeTooLarge) .ok
  | .real x => .ok x
  | .text s =>
    match Numeral.real? s with
    | some x => .ok x
    | none => .error (.notReal (Text.quoted s))
  | .position p => .error (.notReal (Value.position p).literal)
  | v => .error (.notNumeric v.kind)

def wholeOfText (s : String) : Except Fault Int :=
  match Numeral.whole s with
  | .ok n => .ok n
  | .error .unreadable => .error (.notWhole (Text.quoted s))
  | .error (.tooLong digits) => .error (.tooManyDigits digits)

def toWhole : Value → Except Fault Int
  | .truth b => .ok (if b then 1 else 0)
  | .whole n => .ok n
  | .real (.infinity _) => .error .infinityAsWhole
  | .real x =>
    match x.truncate? with
    | some n => .ok n
    | none => .error (.notWhole "nan")
  | .text s => wholeOfText s
  | .position p => .error (.notWhole (Value.position p).literal)
  | v => .error (.notNumeric v.kind)

def literalOfReal (x : Binary64) : Value :=
  if x.isIntegral then .whole (x.truncate?.getD 0) else .real x

/-- The literal of a stored condition. A number without a fraction becomes whole, an absent one
zero, and a text stays unless it writes a number without a fraction. -/
def conditionLiteral : Value → Except Fault Value
  | .null => .ok (.whole 0)
  | .real x => .ok (literalOfReal x)
  | v => do
    let x ← v.toReal
    if x.isIntegral then
      let n ← v.toWhole
      return .whole n
    else
      return v

end ClubPoints.Value
