import ClubPoints.Award
import ClubPoints.Editing
import ClubPoints.Form.Facts
import ClubPoints.View.Setup

/-!
# Views of scores

What is shown of a completed match, its statistics and its ledger, of awards that were tried out, of
assignments to edit and of the leaderboard.
-/

namespace ClubPoints.View

open Form

structure StatView where
  playerId : Int
  tally : Tally Int
  played : Bool
  customValues : List (String × Measure)
deriving DecidableEq

def readWholeTally (fields : Fields) : Checked (Tally Int) :=
  let part (name : String) := Fields.required fields name anyWhole
  Tally.mk <$> part "goals_scored" <*> part "goal_assists" <*> part "green_cards"
    <*> part "yellow_cards" <*> part "red_cards" <*> part "saves" <*> part "tackles"
    <*> part "passes"

namespace StatView

def read : Value → Checked StatView := object .record fun fields =>
  mk <$> Fields.required fields "player_id" anyWhole
    <*> readWholeTally fields
    <*> Fields.required fields "played" truth
    <*> Fields.defaulted fields "custom_values" [] measures

def document (v : StatView) : Value := .object ([("player_id", .whole v.playerId)] ++
  tallyDocument v.tally ++
  [("played", .truth v.played), ("custom_values", measuresDocument v.customValues)])

end StatView

structure EntryView where
  id : Int
  playerId : Int
  ruleId : Int
  profileId : Int
  points : Int
  pointType : PointType
  isManual : Bool
  count : Option Int
  notes : Option String
deriving DecidableEq

namespace EntryView

def read : Value → Checked EntryView := object .record fun fields =>
  mk <$> Fields.required fields "id" anyWhole
    <*> Fields.required fields "player_id" anyWhole
    <*> Fields.required fields "rule_id" anyWhole
    <*> Fields.required fields "profile_id" anyWhole
    <*> Fields.required fields "points" anyWhole
    <*> Fields.required fields "point_type" (choice PointType.ofName?)
    <*> Fields.required fields "is_manual" truth
    <*> Fields.defaulted fields "count" none (optional anyWhole)
    <*> Fields.defaulted fields "notes" none (optional text)

def document (v : EntryView) : Value := .object [
  ("id", .whole v.id), ("player_id", .whole v.playerId), ("rule_id", .whole v.ruleId),
  ("profile_id", .whole v.profileId), ("points", .whole v.points),
  ("point_type", .text v.pointType.name), ("is_manual", .truth v.isManual),
  ("count", Value.nullable .whole v.count), ("notes", Value.nullable .text v.notes)]

end EntryView

structure ScoredMatchView where
  game : MatchView
  stats : List StatView := []
  ledger : List EntryView := []
  teamPoints : Int := 0
  clubPoints : Int := 0
deriving DecidableEq

namespace ScoredMatchView

def read : Value → Checked ScoredMatchView := object .record fun fields =>
  mk <$> MatchView.ofFields fields
    <*> Fields.defaulted fields "stats" [] (listOf StatView.read)
    <*> Fields.defaulted fields "ledger" [] (listOf EntryView.read)
    <*> Fields.defaulted fields "team_points" 0 anyWhole
    <*> Fields.defaulted fields "club_points" 0 anyWhole

def document (v : ScoredMatchView) : Value := .object (v.game.fields ++ [
  ("stats", .list (v.stats.map StatView.document)),
  ("ledger", .list (v.ledger.map EntryView.document)),
  ("team_points", .whole v.teamPoints), ("club_points", .whole v.clubPoints)])

end ScoredMatchView

structure StandingView where
  rank : Int
  playerId : Int
  playerName : String
  teamId : Int
  teamName : String
  position : String
  total : Int
  matchesPlayed : Int
  pointsPerMatch : Binary64
deriving DecidableEq

namespace StandingView

def read (shape : Shape) : Value → Checked StandingView := object shape fun fields =>
  mk <$> Fields.required fields "rank" anyWhole
    <*> Fields.required fields "player_id" anyWhole
    <*> Fields.required fields "player_name" text
    <*> Fields.required fields "team_id" anyWhole
    <*> Fields.required fields "team" text
    <*> Fields.required fields "position" text
    <*> Fields.required fields "total_points" anyWhole
    <*> Fields.required fields "matches_played" anyWhole
    <*> Fields.required fields "points_per_match" real

def document (v : StandingView) : Value := .object [
  ("rank", .whole v.rank), ("player_id", .whole v.playerId), ("player_name", .text v.playerName),
  ("team_id", .whole v.teamId), ("team", .text v.teamName), ("position", .text v.position),
  ("total_points", .whole v.total), ("matches_played", .whole v.matchesPlayed),
  ("points_per_match", .real v.pointsPerMatch)]

end StandingView

/-! ## Awards and assignments -/

def readAward (shape : Shape) : Value → Checked Award := object shape fun fields =>
  Award.mk <$> Fields.required fields "player_id" anyWhole
    <*> Fields.required fields "rule_id" anyWhole
    <*> Fields.required fields "rule_name" text
    <*> Fields.required fields "points" anyWhole
    <*> Fields.required fields "reason" text

def awardDocument (a : Award) : Value := .object [
  ("player_id", .whole a.playerId), ("rule_id", .whole a.ruleId), ("rule_name", .text a.ruleName),
  ("points", .whole a.points), ("reason", .text a.reason)]

def readEditable (shape : Shape) : Value → Checked EditableAssignment := object shape fun fields =>
  EditableAssignment.mk <$> Fields.required fields "rule_id" anyWhole
    <*> Fields.required fields "player_id" anyWhole
    <*> Fields.required fields "count" anyWhole
    <*> Fields.required fields "points" anyWhole

def editableDocument (a : EditableAssignment) : Value := .object [
  ("rule_id", .whole a.ruleId), ("player_id", .whole a.playerId), ("count", .whole a.count),
  ("points", .whole a.points)]

end ClubPoints.View
