import ClubPoints.Form.Fields
import ClubPoints.Variable

/-!
# Forms for clubs, teams, players, matches and variables

What is submitted to set up a club. `read` checks a document and `document` gives the form with all
its defaults filled in.
-/

namespace ClubPoints.Form

structure ClubForm where
  name : String
deriving DecidableEq

namespace ClubForm

def read (shape : Shape) : Value → Checked ClubForm := object shape fun fields =>
  mk <$> Fields.required fields "name" (textBetween 2 100)

def document (f : ClubForm) : Value := .object [("name", .text f.name)]

end ClubForm

structure TeamForm where
  name : String
  clubId : Int
deriving DecidableEq

namespace TeamForm

def read (shape : Shape) : Value → Checked TeamForm := object shape fun fields =>
  mk <$> Fields.required fields "name" (textBetween 2 100)
    <*> Fields.required fields "club_id" rowId

def document (f : TeamForm) : Value :=
  .object [("name", .text f.name), ("club_id", .whole f.clubId)]

end TeamForm

def measuresDocument (measures : List (String × Measure)) : Value :=
  .object (Measure.values measures)

structure TeamProfileForm where
  profileId : Option Int
deriving DecidableEq

namespace TeamProfileForm

def read (shape : Shape) : Value → Checked TeamProfileForm := object shape fun fields =>
  mk <$> Fields.defaulted fields "profile_id" none (optional rowId)

def document (f : TeamProfileForm) : Value :=
  .object [("profile_id", Value.nullable .whole f.profileId)]

end TeamProfileForm

structure PlayerForm where
  name : String
  position : Position
  teamId : Int
deriving DecidableEq

namespace PlayerForm

def read (shape : Shape) : Value → Checked PlayerForm := object shape fun fields =>
  mk <$> Fields.required fields "name" (textBetween 1 100)
    <*> Fields.defaulted fields "position" .midfielder (choice Position.ofName?)
    <*> Fields.required fields "team_id" rowId

def document (f : PlayerForm) : Value := .object [
  ("name", .text f.name), ("position", .text f.position.name), ("team_id", .whole f.teamId)]

end PlayerForm

structure FixtureForm where
  teamId : Int
  opponent : String
deriving DecidableEq

namespace FixtureForm

def read (shape : Shape) : Value → Checked FixtureForm := object shape fun fields =>
  mk <$> Fields.required fields "team_id" rowId
    <*> Fields.required fields "opponent" (textBetween 1 100)

def document (f : FixtureForm) : Value :=
  .object [("team_id", .whole f.teamId), ("opponent", .text f.opponent)]

end FixtureForm

/-- The types that a team's own variable may have. -/
def customType? (s : String) : Option DataType :=
  (DataType.ofName? s).filter (· ≠ .text)

/-- A default that was left out is the whole number zero. -/
structure VariableForm where
  teamId : Int
  key : String
  label : String
  description : String
  scope : Scope
  dataType : DataType
  defaultValue : Option Binary64
deriving DecidableEq

namespace VariableForm

def read (shape : Shape) : Value → Checked VariableForm := object shape fun fields =>
  mk <$> Fields.required fields "team_id" rowId
    <*> Fields.required fields "key" (identifier 64)
    <*> Fields.required fields "label" (textBetween 1 100)
    <*> Fields.required fields "description" (textOfLeast 1)
    <*> Fields.required fields "scope" (choice Scope.ofName?)
    <*> Fields.defaulted fields "data_type" .number (choice customType?)
    <*> Fields.defaulted fields "default_value" none fun v => (real v).map some

def document (f : VariableForm) : Value := .object [
  ("team_id", .whole f.teamId), ("key", .text f.key), ("label", .text f.label),
  ("description", .text f.description), ("scope", .text f.scope.name),
  ("data_type", .text f.dataType.name),
  ("default_value", (f.defaultValue.map Value.real).getD (.whole 0))]

end VariableForm

structure ActivityForm where
  isActive : Bool
deriving DecidableEq

namespace ActivityForm

def read (shape : Shape) : Value → Checked ActivityForm := object shape fun fields =>
  mk <$> Fields.required fields "is_active" truth

def document (f : ActivityForm) : Value := .object [("is_active", .truth f.isActive)]

end ActivityForm

end ClubPoints.Form
