import ClubPoints.Ledger
import ClubPoints.Editing
import ClubPoints.Sheet
import ClubPoints.Service.Cause
import ClubPoints.Store.Tables

/-!
# What stored rows stand for

Rules are scored with whole numbers. A rule whose points are none is scored as if it gave one point,
and what it gave is turned into its points afterwards.
-/

namespace ClubPoints

def Amount.unit (a : Amount) : Int := a.whole?.getD 1

def Amount.earned (a : Amount) (scored : Int) : Except Fault Amount :=
  match a with
  | .whole _ => .ok (.whole scored)
  | a => a.times scored

@[simp] theorem Amount.unit_whole (n : Int) : (Amount.whole n).unit = n := rfl

@[simp] theorem Amount.earned_whole (n scored : Int) :
    (Amount.whole n).earned scored = .ok (.whole scored) := rfl

/-- A number without a fraction is a whole literal, and an empty name to compare with is none. -/
def ConditionRecord.condition (r : ConditionRecord) : Condition where
  key := r.key
  operator := r.operator
  value := Value.literalOfReal r.value
  scope := r.scope
  otherKey := r.otherKey.filter (· ≠ "")

/-- The rule with its conditions. Target positions are read as positions are, whatever they are. -/
def RuleRecord.rule (r : RuleRecord) (conditions : List ConditionRecord) : Except Fault Rule := do
  let named ← r.targetPositions.items
  let positions ← named.mapM Position.read
  let conditions := conditions.map ConditionRecord.condition
  return {
    id := r.id
    name := r.name
    points := r.points.unit
    description := r.description
    target := { scope := r.targetScope, positions, playerId := r.targetPlayer }
    conditions
    isActive := r.isActive
    kind := r.category.kind r.isMultiplier r.multiplier conditions }

def VariableRecord.variable (r : VariableRecord) : Variable where
  key := r.key
  label := r.label
  scope := r.scope
  dataType := r.dataType
  defaultValue := r.dataType.default (.real r.defaultValue)
  isActive := r.isActive
  description := r.description

def ProfileRuleRecord.override (r : ProfileRuleRecord) : Override where
  ruleId := r.ruleId
  customPoints := r.customPoints.map Amount.unit
  isEnabled := r.isEnabled

def EntryRecord.storedEntry? (r : EntryRecord) : Option StoredEntry := do
  return {
    playerId := r.playerId
    ruleId := r.ruleId
    pointType := r.pointType
    points := ← r.points.whole?
    isManual := r.isManual
    count := ← r.count.mapM Amount.whole?
    notes := r.notes }

namespace Store

def rosterOf (s : Store) (teamId : Int) : List PlayerRecord :=
  s.players.filter fun p => p.teamId == teamId

def ruleRecordsOf (s : Store) (teamId : Int) : List RuleRecord :=
  s.rules.filter fun r => r.teamId == teamId

def variablesOf (s : Store) (teamId : Int) : List VariableRecord :=
  s.ownVariables.filter fun v => v.teamId == teamId

def conditionsOf (s : Store) (ruleId : Int) : List ConditionRecord :=
  (s.conditions.filter fun c => c.ruleId == ruleId).mergeSort fun a b => a.index.before b.index

def profileRulesOf (s : Store) (profileId : Int) : List ProfileRuleRecord :=
  s.profileRules.filter fun r => r.profileId == profileId

def statsOf (s : Store) (matchId : Int) : List StatRecord :=
  s.stats.filter fun r => r.matchId == matchId

def entriesOf (s : Store) (matchId : Int) : List EntryRecord :=
  s.entries.filter fun r => r.matchId == matchId

def registryOf (s : Store) (teamId : Int) : Registry :=
  Registry.ofVariables ((s.variablesOf teamId).map VariableRecord.variable)

def rule (s : Store) (r : RuleRecord) : Except Fault Rule := r.rule (s.conditionsOf r.id)

def rulesOf (s : Store) (teamId : Int) : Except Fault (List Rule) :=
  (s.ruleRecordsOf teamId).mapM s.rule

def profile (s : Store) (r : ProfileRecord) (pointType : PointType) : Profile :=
  Profile.ofOverrides r.id pointType ((s.profileRulesOf r.id).map ProfileRuleRecord.override)

/-- What a rule gives once: the points that the named profile has for it, or else its own. -/
def rate (s : Store) (profileId : Option Int) (ruleId : Int) : Amount :=
  let override := profileId.bind fun id =>
    (s.profileRulesOf id).find? fun r : ProfileRuleRecord => r.ruleId == ruleId
  let own := (s.find? ruleId : Option RuleRecord).map RuleRecord.points
  ((override.bind ProfileRuleRecord.customPoints).or own).getD 0

/-- The active default profile of a club; of several the one stored first. -/
def clubDefault? (s : Store) (clubId : Int) : Option ProfileRecord :=
  s.profiles.find? fun p => p.clubId == clubId && p.isClubDefault && p.isActive

def teamDefault? (s : Store) (team : TeamRecord) : Option ProfileRecord :=
  (team.defaultProfileId.bind fun id => s.profiles.find? fun p => p.id == id).filter
    ProfileRecord.isActive

/-- The profiles that a team's matches are scored by, that of the team before that of its club. -/
def scoringProfiles (s : Store) (team : TeamRecord) : List Profile :=
  ((s.teamDefault? team).map fun p => s.profile p .team).toList ++
    ((s.clubDefault? team.clubId).map fun p => s.profile p .club).toList

end Store

end ClubPoints
