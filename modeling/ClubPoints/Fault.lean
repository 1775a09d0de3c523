import ClubPoints.Position.Basic

/-!
# Faults of values

What can be wrong with a value that is read as a number, as a member of a fixed family of names, or
as a list. `Fault.message` is the one place where the wording stands.
-/

namespace ClubPoints

inductive Family where
  | position
  | scope
  | dataType
  | operator
  | category
  | targetScope
  | pointType
deriving DecidableEq

def Family.name : Family → String
  | .position => "Position"
  | .scope => "Scope"
  | .dataType => "DataType"
  | .operator => "Operator"
  | .category => "RuleCategory"
  | .targetScope => "TargetScope"
  | .pointType => "PointType"

inductive Fault where
  | wholeTooLarge
  | infinityAsWhole
  | notMember (family : Family) (shown : String)
  | notReal (shown : String)
  | notWhole (shown : String)
  | notNumeric (kind : String)
  | tooManyDigits (digits : Nat)
  | noKey (kind : String)
  | noItems (kind : String)
  /-- A rule of no category has no way to score. -/
  | unscorable
  | unknownLevel (shown : String)
  | noLevel (shown : String)
deriving DecidableEq

def shownLimit : Nat := 200

def Fault.message : Fault → String
  | .wholeTooLarge => "int too large to convert to float"
  | .infinityAsWhole => "cannot convert float infinity to integer"
  | .notMember family shown => s!"{shown} is not a valid {family.name}"
  | .notReal shown => s!"could not convert string to float: {shown}"
  | .notWhole shown =>
    "invalid literal for int() with base 10: " ++ String.ofList (shown.toList.take shownLimit)
  | .notNumeric kind => s!"float() argument must be a string or a real number, not '{kind}'"
  | .tooManyDigits digits =>
    s!"Exceeds the limit (4300 digits) for integer string conversion: value has {digits} digits; " ++
      "use sys.set_int_max_str_digits() to increase the limit"
  | .noKey kind => s!"unhashable type: '{kind}'"
  | .noItems kind => s!"'{kind}' object is not iterable"
  | .unscorable => "Unsupported rule type: RuleBase"
  | .unknownLevel shown => s!"Unknown level: {shown}"
  | .noLevel shown => s!"Level not an integer or a valid string: {shown}"

end ClubPoints
