import ClubPoints.Text.LetterCase
import ClubPoints.Value.Conversion

/-!
# Positions read from values

A value names a position by its code or by its name. Whatever names none is read as a midfielder;
only a whole number beyond the real numbers is a fault.
-/

namespace ClubPoints.Position

/-- The position with the code that a value holds. A truth value is no code. -/
def decode (v : Value) : Except Fault Position :=
  if v.isTruth then .ok fallback
  else
    match v.toReal with
    | .error .wholeTooLarge => .error .wholeTooLarge
    | .error _ => .ok fallback
    | .ok x =>
      if x.isIntegral then .ok ((x.truncate?.bind ofCode?).getD fallback) else .ok fallback

/-- The position that a value names, a text by its name in any letter case, all else by its code. -/
def read : Value → Except Fault Position
  | .position p => .ok p
  | .text s => .ok ((ofName? (Text.upper (Text.strip s))).getD fallback)
  | v => decode v

def encode (v : Value) : Except Fault Int :=
  match v.text?.bind ofName? with
  | some p => .ok p.code
  | none => .error (.notMember .position v.literal)

end ClubPoints.Position
