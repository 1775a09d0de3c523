import ClubPoints.Store.Column

/-!
# The tables of the store

For each kind of record: its rows, its whole numbers, its constraints and the rows it refers to.
-/

namespace ClubPoints

instance : Table ClubRecord where
  name := "clubs"
  rows := Store.clubs
  setRows s rows := { s with clubs := rows }
  id := ClubRecord.id
  setId r id := { r with id }
  words _ := []
  fault? _ := none
  uniqueColumns := ["name"]
  clashes a b := a.name == b.name
  references _ := []
  kept r := r

instance : Table TeamRecord where
  name := "teams"
  rows := Store.teams
  setRows s rows := { s with teams := rows }
  id := TeamRecord.id
  setId r id := { r with id }
  words r := r.clubId :: r.defaultProfileId.toList
  fault? _ := none
  uniqueColumns := ["club_id", "name"]
  clashes a b := a.clubId == b.clubId && a.name == b.name
  references r := .club r.clubId :: r.defaultProfileId.toList.map .profile
  kept r := r

instance : Table PlayerRecord where
  name := "players"
  rows := Store.players
  setRows s rows := { s with players := rows }
  id := PlayerRecord.id
  setId r id := { r with id }
  words r := [r.teamId]
  fault? _ := none
  uniqueColumns := ["name", "team_id"]
  clashes a b := a.name == b.name && a.teamId == b.teamId
  references r := [.team r.teamId]
  kept r := r

def MatchRecord.fault? (r : MatchRecord) : Option StoreFault :=
  if r.goalsFor.isBelow 0 then some (.brokenRule "ck_match_goals_for_nonnegative")
  else if r.goalsAgainst.isBelow 0 then some (.brokenRule "ck_match_goals_against_nonnegative")
  else none

instance : Table MatchRecord where
  name := "matches"
  rows := Store.games
  setRows s rows := { s with games := rows }
  id := MatchRecord.id
  setId r id := { r with id }
  words r := r.teamId :: (r.goalsFor.words ++ r.goalsAgainst.words)
  fault? := MatchRecord.fault?
  uniqueColumns := []
  clashes _ _ := false
  references r := [.team r.teamId]
  kept r := r

instance : Table StatRecord where
  name := "player_stats"
  rows := Store.stats
  setRows s rows := { s with stats := rows }
  id := StatRecord.id
  setId r id := { r with id }
  words r := r.matchId :: r.playerId :: r.tally.facts.flatMap fun (_, n) => n.words
  fault? _ := none
  uniqueColumns := ["match_id", "player_id"]
  clashes a b := a.matchId == b.matchId && a.playerId == b.playerId
  references r := [.game r.matchId, .player r.playerId]
  kept r := r

def VariableRecord.fault? (r : VariableRecord) : Option StoreFault :=
  if r.defaultValue = .nan then
    some (.missingValue "variables" "default_value")
  else if r.dataType = .text then some (.brokenRule "ck_variable_data_type_valid")
  else none

instance : Table VariableRecord where
  name := "variables"
  rows := Store.ownVariables
  setRows s rows := { s with ownVariables := rows }
  id := VariableRecord.id
  setId r id := { r with id }
  words r := [r.teamId]
  fault? := VariableRecord.fault?
  uniqueColumns := ["team_id", "key"]
  clashes a b := a.teamId == b.teamId && a.key == b.key
  references r := [.team r.teamId]
  kept r := { r with defaultValue := r.defaultValue.withoutZeroSign }

instance : Table RuleRecord where
  name := "rules"
  rows := Store.rules
  setRows s rows := { s with rules := rows }
  id := RuleRecord.id
  setId r id := { r with id }
  words r := r.teamId :: (r.points.words ++ r.targetPlayer.toList)
  fault? _ := none
  uniqueColumns := []
  clashes _ _ := false
  references r := .team r.teamId :: r.targetPlayer.toList.map .player
  kept r := r

instance : Table ConditionRecord where
  name := "rule_conditions"
  rows := Store.conditions
  setRows s rows := { s with conditions := rows }
  id := ConditionRecord.id
  setId r id := { r with id }
  words r := r.ruleId :: r.index.words
  fault? r := if r.value = .nan then some (.missingValue "rule_conditions" "value") else none
  uniqueColumns := []
  clashes _ _ := false
  references r := [.rule r.ruleId]
  kept r := { r with value := r.value.withoutZeroSign }

instance : Table ProfileRecord where
  name := "rules_profiles"
  rows := Store.profiles
  setRows s rows := { s with profiles := rows }
  id := ProfileRecord.id
  setId r id := { r with id }
  words r := [r.clubId]
  fault? _ := none
  uniqueColumns := []
  clashes _ _ := false
  references r := [.club r.clubId]
  kept r := r

instance : Table ProfileRuleRecord where
  name := "profile_rules"
  rows := Store.profileRules
  setRows s rows := { s with profileRules := rows }
  id := ProfileRuleRecord.id
  setId r id := { r with id }
  words r := r.profileId :: r.ruleId :: r.customPoints.toList.flatMap Amount.words
  fault? _ := none
  uniqueColumns := ["profile_id", "rule_id"]
  clashes a b := a.profileId == b.profileId && a.ruleId == b.ruleId
  references r := [.profile r.profileId, .rule r.ruleId]
  kept r := r

def EntryRecord.fault? (r : EntryRecord) : Option StoreFault :=
  if r.points = .real .nan then some (.missingValue "point_ledger" "points")
  else if r.count.any fun n => n.isBelow 1 then some (.brokenRule "ck_ledger_count_positive")
  else none

instance : Table EntryRecord where
  name := "point_ledger"
  rows := Store.entries
  setRows s rows := { s with entries := rows }
  id := EntryRecord.id
  setId r id := { r with id }
  words r := [r.matchId, r.playerId, r.ruleId, r.profileId] ++ r.points.words ++
    r.count.toList.flatMap Amount.words
  fault? := EntryRecord.fault?
  uniqueColumns := []
  clashes _ _ := false
  references r := [.game r.matchId, .player r.playerId, .rule r.ruleId, .profile r.profileId]
  kept r := { r with points := r.points.kept }

namespace Store

def referencesOf (s : Store) (R : Type) [Table R] : List Reference :=
  (Table.rows s : List R).flatMap Table.references

def references (s : Store) : List Reference :=
  s.referencesOf TeamRecord ++ s.referencesOf PlayerRecord ++ s.referencesOf MatchRecord ++
    s.referencesOf StatRecord ++ s.referencesOf VariableRecord ++ s.referencesOf RuleRecord ++
    s.referencesOf ConditionRecord ++ s.referencesOf ProfileRecord ++
    s.referencesOf ProfileRuleRecord ++ s.referencesOf EntryRecord

/-- Stores a new version of a row, perhaps under a new number. No row may refer to a number that is
given up. -/
def renumber {R : Type} [Table R] (s : Store) (id : Int) (r : R) : Except StoreFault Store := do
  let next ← s.replace id r
  if next.references.all next.holds then return next else throw .danglingReference

end Store

end ClubPoints
