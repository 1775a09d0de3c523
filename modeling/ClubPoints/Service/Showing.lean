import ClubPoints.Service.Loading
import ClubPoints.View.Rule
import ClubPoints.View.Score

/-!
# What is shown of stored rows

Most rows can always be shown. A row with amounts can be shown only if they are read as whole
numbers, and one with a document only if the document has the form that is shown.
-/

namespace ClubPoints

open View

def Amount.shown? (a : Amount) : Option Int := (Form.anyWhole a.value).toOption

def ClubRecord.view (r : ClubRecord) : ClubView where
  id := r.id
  name := r.name

def TeamRecord.view (r : TeamRecord) : TeamView where
  id := r.id
  name := r.name
  clubId := r.clubId
  defaultProfileId := r.defaultProfileId

def PlayerRecord.view (r : PlayerRecord) : PlayerView where
  id := r.id
  name := r.name
  position := r.position.name
  teamId := r.teamId

def MatchRecord.viewWith? (r : MatchRecord) (customValues : List (String × Measure)) :
    Option MatchView := do
  return {
    id := r.id
    teamId := r.teamId
    opponent := r.opponent
    status := r.status
    goalsFor := ← r.goalsFor.shown?
    goalsAgainst := ← r.goalsAgainst.shown?
    customValues }

def MatchRecord.view? (r : MatchRecord) : Option MatchView :=
  (Form.measures r.customValues).toOption.bind r.viewWith?

def StatRecord.view? (r : StatRecord) : Option StatView := do
  return {
    playerId := r.playerId
    tally := ← r.tally.mapM? Amount.shown?
    played := r.played
    customValues := ← (Form.measures r.customValues).toOption }

def EntryRecord.view? (r : EntryRecord) : Option EntryView := do
  return {
    id := r.id
    playerId := r.playerId
    ruleId := r.ruleId
    profileId := r.profileId
    points := ← r.points.shown?
    pointType := r.pointType
    isManual := r.isManual
    count := ← r.count.mapM Amount.shown?
    notes := r.notes }

def ConditionRecord.view (r : ConditionRecord) : ConditionView where
  id := r.id
  key := r.key
  operator := r.operator
  value := r.value
  otherKey := r.otherKey
  scope := r.scope

def RuleRecord.view? (r : RuleRecord) (conditions : List ConditionRecord) : Option RuleView := do
  return {
    id := r.id
    teamId := r.teamId
    name := r.name
    description := r.description
    category := r.category
    points := ← r.points.shown?
    isMultiplier := r.isMultiplier
    multiplier := r.multiplier
    targetScope := r.targetScope
    targetPositions := ← (RuleView.readPositions r.targetPositions).toOption
    targetPlayer := r.targetPlayer
    conditions := conditions.map ConditionRecord.view
    isActive := r.isActive }

def ProfileRuleRecord.view? (r : ProfileRuleRecord) : Option ProfileRuleView := do
  return {
    ruleId := r.ruleId
    customPoints := ← r.customPoints.mapM Amount.shown?
    isEnabled := r.isEnabled }

def ProfileRecord.view? (r : ProfileRecord) (rules : List ProfileRuleRecord) :
    Option ProfileView := do
  return {
    id := r.id
    clubId := r.clubId
    name := r.name
    description := r.description
    isClubDefault := r.isClubDefault
    isActive := r.isActive
    rules := ← rules.mapM ProfileRuleRecord.view? }

def defaultView : Value → DefaultView
  | .real x => .measure (.real x)
  | .whole n => .measure (.whole n)
  | .truth b => .measure (.truth b)
  | v => match v.text? with
    | some s => .text s
    | none => .absent

def Variable.view (v : Variable) (id teamId : Option Int) : VariableView where
  id := id
  teamId := teamId
  key := v.key
  label := v.label
  description := v.description
  scope := v.scope
  dataType := v.dataType
  default := defaultView v.defaultValue
  isBuiltIn := v.isBuiltIn
  isActive := v.isActive

def VariableRecord.view (r : VariableRecord) : VariableView :=
  r.variable.view (some r.id) (some r.teamId)

def EntryRecord.before (a b : EntryRecord) : Bool :=
  (compareLex (compareOn fun x => x.pointType.name) <|
    compareLex (compareOn EntryRecord.playerId) <| compareLex (compareOn EntryRecord.ruleId)
      (compareOn EntryRecord.id)) a b |>.isLE

def EntryRecord.total? (entries : List EntryRecord) : Option Int :=
  (Amount.sum (entries.map EntryRecord.points)).bind Amount.shown?

namespace Store

def ruleView? (s : Store) (r : RuleRecord) : Option RuleView := r.view? (s.conditionsOf r.id)

def profileView? (s : Store) (r : ProfileRecord) : Option ProfileView :=
  r.view? (s.profileRulesOf r.id)

def ledgerOf (s : Store) (matchId : Int) (pointType : Option PointType) : List EntryRecord :=
  ((s.entriesOf matchId).filter fun e => pointType.all fun t => decide (e.pointType = t)).mergeSort
    EntryRecord.before

def pointsOf? (s : Store) (matchId : Int) (pointType : PointType) : Option Int :=
  EntryRecord.total? (s.ledgerOf matchId (some pointType))

/-- A match with its statistics by player, its ledger and its points. Custom values that are not
given are none. -/
def scoredMatchView? (s : Store) (r : MatchRecord) : Option ScoredMatchView := do
  let customValues ←
    if r.customValues.isGiven then (Form.measures r.customValues).toOption else some []
  let stats ← ((s.statsOf r.id).mergeSort fun a b => decide (a.playerId ≤ b.playerId)).mapM
    StatRecord.view?
  return {
    game := ← r.viewWith? customValues
    stats
    ledger := ← (s.ledgerOf r.id none).mapM EntryRecord.view?
    teamPoints := ← s.pointsOf? r.id .team
    clubPoints := ← s.pointsOf? r.id .club }

end Store

end ClubPoints
