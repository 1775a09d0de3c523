import ClubPoints.Store.Column
import ClubPoints.Store.Tables
import ClubPoints.Value.Items

/-!
# Rows as named columns

For each kind of record: the columns of its table with what they hold, a row as values by column,
and a row made from such values. A column without a value is null; only columns that hold a document
may be null without being optional.
-/

namespace ClubPoints

abbrev NamedColumns := List (String × Value)

namespace NamedColumns

def value (c : NamedColumns) (name : String) : Value := (c.lookup name).getD .null

/-- The number of another row. In place of what is no whole number stands zero, until the row is
refused. -/
def key (c : NamedColumns) (name : String) : Int :=
  match c.value name with
  | .whole n => n
  | _ => 0

def key? (c : NamedColumns) (name : String) : Option Int :=
  if (c.value name).isNull then none else some (c.key name)

def amount (c : NamedColumns) (name : String) : Amount := .ofKept (c.value name)

def amount? (c : NamedColumns) (name : String) : Option Amount :=
  if (c.value name).isNull then none else some (c.amount name)

def text (c : NamedColumns) (name : String) : String := (c.value name).display

def text? (c : NamedColumns) (name : String) : Option String :=
  if (c.value name).isNull then none else some (c.text name)

def truth (c : NamedColumns) (name : String) : Bool := (c.value name).isGiven

def real (c : NamedColumns) (name : String) : Binary64 :=
  match (c.value name).toReal with
  | .ok x => x
  | .error _ => .nan

/-- Whether a column has no value; the absent number is none. -/
def lacks (c : NamedColumns) (name : String) : Bool :=
  match c.value name with
  | .null => true
  | .real x => decide (x = .nan)
  | _ => false

def require (c : NamedColumns) (table : String) (names : List String) : Except StoreFault Unit :=
  match names.find? c.lacks with
  | some name => .error (.missingValue table name)
  | none => .ok ()

def member {α : Type} (c : NamedColumns) (name : String) (ofName? : String → Option α)
    (constraint : String) : Except StoreFault α :=
  match (c.value name).text?.bind ofName? with
  | some x => .ok x
  | none => .error (.brokenRule constraint)

def overlay (c changes : NamedColumns) : NamedColumns :=
  changes.foldl (fun c change => Keyed.place Prod.fst change c) c

end NamedColumns

class Columns (R : Type) extends Table R where
  record : String
  layout : List (String × ColumnKind)
  columns : R → NamedColumns
  ofColumns : NamedColumns → Except StoreFault R
  /-- What a new row has in the columns that are left out. -/
  defaults : NamedColumns := []

instance : Columns ClubRecord where
  record := "Club"
  layout := [("id", .whole), ("name", .text)]
  columns r := [("id", .whole r.id), ("name", .text r.name)]
  ofColumns c := do
    c.require "clubs" ["name"]
    return { name := c.text "name" }

instance : Columns TeamRecord where
  record := "Team"
  layout := [("id", .whole), ("name", .text), ("club_id", .key), ("default_profile_id", .key)]
  columns r := [("id", .whole r.id), ("name", .text r.name), ("club_id", .whole r.clubId),
    ("default_profile_id", Value.nullable .whole r.defaultProfileId)]
  ofColumns c := do
    c.require "teams" ["name", "club_id"]
    return {
      name := c.text "name"
      clubId := c.key "club_id"
      defaultProfileId := c.key? "default_profile_id" }

instance : Columns PlayerRecord where
  record := "Player"
  layout := [("id", .whole), ("name", .text), ("position", .text), ("team_id", .key)]
  columns r := [("id", .whole r.id), ("name", .text r.name), ("position", .text r.position.name),
    ("team_id", .whole r.teamId)]
  ofColumns c := do
    c.require "players" ["name", "position", "team_id"]
    let position ← c.member "position" Position.ofName? "ck_player_position_valid"
    return { name := c.text "name", position, teamId := c.key "team_id" }
  defaults := [("position", .text Position.midfielder.name)]

instance : Columns MatchRecord where
  record := "Match"
  layout := [("id", .whole), ("team_id", .key), ("opponent", .text), ("status", .text),
    ("goals_for", .whole), ("goals_against", .whole), ("custom_values", .document)]
  columns r := [("id", .whole r.id), ("team_id", .whole r.teamId), ("opponent", .text r.opponent),
    ("status", .text r.status.name), ("goals_for", r.goalsFor.value),
    ("goals_against", r.goalsAgainst.value), ("custom_values", r.customValues)]
  ofColumns c := do
    c.require "matches" ["team_id", "opponent", "status", "goals_for", "goals_against"]
    let pending : MatchRecord := {
      teamId := c.key "team_id"
      opponent := c.text "opponent"
      goalsFor := c.amount "goals_for"
      goalsAgainst := c.amount "goals_against"
      customValues := c.value "custom_values" }
    match pending.fault? with
    | some fault => .error fault
    | none =>
      let status ← c.member "status" MatchStatus.ofName? "ck_match_status_valid"
      return { pending with status }
  defaults := [("status", .text MatchStatus.pending.name), ("goals_for", .whole 0),
    ("goals_against", .whole 0), ("custom_values", .object [])]

def Tally.columns {α : Type} (t : Tally α) : List (String × α) := [
  ("goals_scored", t.goalsScored), ("goal_assists", t.goalAssists),
  ("green_cards", t.greenCards), ("yellow_cards", t.yellowCards), ("red_cards", t.redCards),
  ("saves", t.saves), ("tackles", t.tackles), ("passes", t.passes)]

instance : Columns StatRecord where
  record := "PlayerStat"
  layout := [("id", .whole), ("match_id", .key), ("player_id", .key)] ++
    Tally.zero.columns.map (fun (name, _) => (name, .whole)) ++
    [("played", .truth), ("custom_values", .document)]
  columns r := [("id", .whole r.id), ("match_id", .whole r.matchId),
    ("player_id", .whole r.playerId)] ++
    r.tally.columns.map (fun (name, n) => (name, n.value)) ++
    [("played", .truth r.played), ("custom_values", r.customValues)]
  ofColumns c := do
    c.require "player_stats" (["match_id", "player_id"] ++ Tally.zero.columns.map Prod.fst ++
      ["played"])
    return {
      matchId := c.key "match_id"
      playerId := c.key "player_id"
      tally := {
        goalsScored := c.amount "goals_scored"
        goalAssists := c.amount "goal_assists"
        greenCards := c.amount "green_cards"
        yellowCards := c.amount "yellow_cards"
        redCards := c.amount "red_cards"
        saves := c.amount "saves"
        tackles := c.amount "tackles"
        passes := c.amount "passes" }
      played := c.truth "played"
      customValues := c.value "custom_values" }
  defaults := Tally.zero.columns.map (fun (name, n) => (name, .whole n)) ++
    [("played", .truth true), ("custom_values", .object [])]

instance : Columns VariableRecord where
  record := "Variable"
  layout := [("id", .whole), ("team_id", .key), ("key", .text), ("label", .text),
    ("description", .text), ("scope", .text), ("data_type", .text), ("default_value", .real),
    ("is_active", .truth)]
  columns r := [("id", .whole r.id), ("team_id", .whole r.teamId), ("key", .text r.key),
    ("label", .text r.label), ("description", .text r.description), ("scope", .text r.scope.name),
    ("data_type", .text r.dataType.name), ("default_value", .real r.defaultValue),
    ("is_active", .truth r.isActive)]
  ofColumns c := do
    c.require "variables" ["team_id", "key", "label", "description", "scope", "data_type",
      "default_value", "is_active"]
    let scope ← c.member "scope" Scope.ofName? "ck_variable_scope_valid"
    let dataType ← c.member "data_type" DataType.ofName? "ck_variable_data_type_valid"
    return {
      teamId := c.key "team_id"
      key := c.text "key"
      label := c.text "label"
      description := c.text "description"
      scope
      dataType
      defaultValue := c.real "default_value"
      isActive := c.truth "is_active" }
  defaults := [("description", .text ""), ("data_type", .text DataType.number.name),
    ("default_value", .whole 0), ("is_active", .truth true)]

instance : Columns RuleRecord where
  record := "Rule"
  layout := [("id", .whole), ("team_id", .key), ("name", .text), ("description", .text),
    ("category", .text), ("points_awarded", .whole), ("is_multiplier", .truth),
    ("multiplier_variable", .text), ("target_scope", .text), ("target_positions", .document),
    ("target_player_id", .key), ("is_active", .truth)]
  columns r := [("id", .whole r.id), ("team_id", .whole r.teamId), ("name", .text r.name),
    ("description", .text r.description), ("category", .text r.category.name),
    ("points_awarded", r.points.value), ("is_multiplier", .truth r.isMultiplier),
    ("multiplier_variable", Value.nullable .text r.multiplier),
    ("target_scope", .text r.targetScope.name), ("target_positions", r.targetPositions),
    ("target_player_id", Value.nullable .whole r.targetPlayer), ("is_active", .truth r.isActive)]
  ofColumns c := do
    c.require "rules" ["team_id", "name", "description", "category", "points_awarded",
      "is_multiplier", "target_scope", "is_active"]
    let category ← c.member "category" Category.ofName? "ck_rule_category_valid"
    let targetScope ← c.member "target_scope" TargetScope.ofName? "ck_rule_target_scope_valid"
    return {
      teamId := c.key "team_id"
      name := c.text "name"
      description := c.text "description"
      category
      points := c.amount "points_awarded"
      isMultiplier := c.truth "is_multiplier"
      multiplier := c.text? "multiplier_variable"
      targetScope
      targetPositions := c.value "target_positions"
      targetPlayer := c.key? "target_player_id"
      isActive := c.truth "is_active" }
  defaults := [("is_multiplier", .truth false), ("target_scope", .text TargetScope.allPlayers.name),
    ("target_positions", .list []), ("is_active", .truth true)]

instance : Columns ConditionRecord where
  record := "RuleCondition"
  layout := [("id", .whole), ("rule_id", .key), ("position_index", .whole), ("variable", .text),
    ("operator", .text), ("value", .real), ("compare_variable", .text), ("scope", .text)]
  columns r := [("id", .whole r.id), ("rule_id", .whole r.ruleId),
    ("position_index", r.index.value), ("variable", .text r.key),
    ("operator", .text r.operator.symbol), ("value", .real r.value),
    ("compare_variable", Value.nullable .text r.otherKey), ("scope", .text r.scope.name)]
  ofColumns c := do
    c.require "rule_conditions" ["rule_id", "position_index", "variable", "operator", "value",
      "scope"]
    let operator ← c.member "operator" Operator.ofSymbol? "ck_condition_operator_valid"
    let scope ← c.member "scope" Scope.ofName? "ck_condition_scope_valid"
    return {
      ruleId := c.key "rule_id"
      index := c.amount "position_index"
      key := c.text "variable"
      operator
      value := c.real "value"
      otherKey := c.text? "compare_variable"
      scope }
  defaults := [("position_index", .whole 0), ("value", .whole 0)]

instance : Columns ProfileRecord where
  record := "RulesProfile"
  layout := [("id", .whole), ("club_id", .key), ("name", .text), ("description", .text),
    ("is_club_default", .truth), ("is_active", .truth)]
  columns r := [("id", .whole r.id), ("club_id", .whole r.clubId), ("name", .text r.name),
    ("description", .text r.description), ("is_club_default", .truth r.isClubDefault),
    ("is_active", .truth r.isActive)]
  ofColumns c := do
    c.require "rules_profiles" ["club_id", "name", "description", "is_club_default", "is_active"]
    return {
      clubId := c.key "club_id"
      name := c.text "name"
      description := c.text "description"
      isClubDefault := c.truth "is_club_default"
      isActive := c.truth "is_active" }
  defaults := [("description", .text ""), ("is_club_default", .truth false),
    ("is_active", .truth true)]

instance : Columns ProfileRuleRecord where
  record := "ProfileRule"
  layout := [("id", .whole), ("profile_id", .key), ("rule_id", .key),
    ("custom_points", .whole), ("is_enabled", .truth)]
  columns r := [("id", .whole r.id), ("profile_id", .whole r.profileId),
    ("rule_id", .whole r.ruleId), ("custom_points", Value.nullable Amount.value r.customPoints),
    ("is_enabled", .truth r.isEnabled)]
  ofColumns c := do
    c.require "profile_rules" ["profile_id", "rule_id", "is_enabled"]
    return {
      profileId := c.key "profile_id"
      ruleId := c.key "rule_id"
      customPoints := c.amount? "custom_points"
      isEnabled := c.truth "is_enabled" }
  defaults := [("is_enabled", .truth true)]

instance : Columns EntryRecord where
  record := "PointLedgerEntry"
  layout := [("id", .whole), ("match_id", .key), ("player_id", .key), ("rule_id", .key),
    ("profile_id", .key), ("points", .whole), ("point_type", .text), ("is_manual", .truth),
    ("count", .whole), ("assignment_key", .text), ("notes", .text)]
  columns r := [("id", .whole r.id), ("match_id", .whole r.matchId),
    ("player_id", .whole r.playerId), ("rule_id", .whole r.ruleId),
    ("profile_id", .whole r.profileId), ("points", r.points.value),
    ("point_type", .text r.pointType.name), ("is_manual", .truth r.isManual),
    ("count", Value.nullable Amount.value r.count),
    ("assignment_key", Value.nullable .text r.assignmentKey),
    ("notes", Value.nullable .text r.notes)]
  ofColumns c := do
    c.require "point_ledger" ["match_id", "player_id", "rule_id", "profile_id", "points",
      "point_type", "is_manual"]
    let pointType ← c.member "point_type" PointType.ofName? "ck_ledger_point_type_valid"
    return {
      matchId := c.key "match_id"
      playerId := c.key "player_id"
      ruleId := c.key "rule_id"
      profileId := c.key "profile_id"
      points := c.amount "points"
      pointType
      isManual := c.truth "is_manual"
      count := c.amount? "count"
      assignmentKey := c.text? "assignment_key"
      notes := c.text? "notes" }
  defaults := [("is_manual", .truth false)]

end ClubPoints
