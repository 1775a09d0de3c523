import ClubPoints.Form.Setup
import ClubPoints.MatchStatus

/-!
# Views of clubs, teams, players and matches

What is shown of the rows of a club. `document` is the shown document, and `read` accepts whatever
stands for one.
-/

namespace ClubPoints.View

open Form

structure ClubView where
  id : Int
  name : String
deriving DecidableEq

namespace ClubView

def read : Value → Checked ClubView := object .record fun fields =>
  mk <$> Fields.required fields "id" anyWhole
    <*> Fields.required fields "name" text

def document (v : ClubView) : Value := .object [("id", .whole v.id), ("name", .text v.name)]

end ClubView

structure TeamView where
  id : Int
  name : String
  clubId : Int
  defaultProfileId : Option Int
deriving DecidableEq

namespace TeamView

def read : Value → Checked TeamView := object .record fun fields =>
  mk <$> Fields.required fields "id" anyWhole
    <*> Fields.required fields "name" text
    <*> Fields.required fields "club_id" anyWhole
    <*> Fields.defaulted fields "default_profile_id" none (optional anyWhole)

def document (v : TeamView) : Value := .object [
  ("id", .whole v.id), ("name", .text v.name), ("club_id", .whole v.clubId),
  ("default_profile_id", Value.nullable .whole v.defaultProfileId)]

end TeamView

/-- The position is shown by its name; any text is accepted for one. -/
structure PlayerView where
  id : Int
  name : String
  position : String
  teamId : Int
deriving DecidableEq

namespace PlayerView

def read : Value → Checked PlayerView := object .record fun fields =>
  mk <$> Fields.required fields "id" anyWhole
    <*> Fields.required fields "name" text
    <*> Fields.required fields "position" text
    <*> Fields.required fields "team_id" anyWhole

def document (v : PlayerView) : Value := .object [
  ("id", .whole v.id), ("name", .text v.name), ("position", .text v.position),
  ("team_id", .whole v.teamId)]

end PlayerView

structure MatchView where
  id : Int
  teamId : Int
  opponent : String
  status : MatchStatus
  goalsFor : Int
  goalsAgainst : Int
  customValues : List (String × Measure) := []
deriving DecidableEq

namespace MatchView

def ofFields (fields : Fields) : Checked MatchView :=
  mk <$> Fields.required fields "id" anyWhole
    <*> Fields.required fields "team_id" anyWhole
    <*> Fields.required fields "opponent" text
    <*> Fields.required fields "status" (choice MatchStatus.ofName?)
    <*> Fields.required fields "goals_for" anyWhole
    <*> Fields.required fields "goals_against" anyWhole
    <*> Fields.defaulted fields "custom_values" [] measures

def read : Value → Checked MatchView := object .record ofFields

def fields (v : MatchView) : Fields := [
  ("id", .whole v.id), ("team_id", .whole v.teamId), ("opponent", .text v.opponent),
  ("status", .text v.status.name), ("goals_for", .whole v.goalsFor),
  ("goals_against", .whole v.goalsAgainst),
  ("custom_values", measuresDocument v.customValues)]

def document (v : MatchView) : Value := .object v.fields

end MatchView

end ClubPoints.View
