import ClubPoints.Form.Rule
import ClubPoints.Service.Setup
import ClubPoints.Service.Showing

/-!
# Rules and profiles

A rule is stored if its draft has no problems and its target player is on the rule's team. Only the
target that belongs to the target scope is kept.
-/

namespace ClubPoints

open Form View

/-- The condition as it is stored. A sound condition has a variable and an operator; a value that
was left out is zero. -/
def Form.ConditionForm.record (c : ConditionForm) (index : Nat) : ConditionRecord where
  ruleId := 0
  index := (index : Int)
  key := c.key.getD ""
  operator := c.operator.getD .equal
  value := c.value.getD .zero
  otherKey := c.otherKey.filter (· ≠ "")
  scope := c.scope

def Form.ConditionForm.condition (c : ConditionForm) : Condition where
  key := c.key.getD ""
  operator := c.operator.getD .equal
  value := (c.value.map Value.real).getD (.whole 0)
  scope := c.scope
  otherKey := c.otherKey

namespace Form.RuleForm

def multiplies (f : RuleForm) : Bool := f.isMultiplier && f.category == .performance

def chosenMultiplier (f : RuleForm) : Option String :=
  if f.multiplies then
    (f.multiplier.filter (· ≠ "")).or
      (Pricing.inferredKey? (f.conditions.map ConditionForm.condition))
  else none

def record (f : RuleForm) : RuleRecord where
  teamId := f.teamId
  name := Text.squeeze f.name
  description := Text.strip f.description
  category := f.category
  points := f.points
  isMultiplier := f.multiplies
  multiplier := f.chosenMultiplier
  targetScope := f.targetScope
  targetPositions := .list
    (if f.targetScope = .byPosition then f.targetPositions.map fun p => .text p.name else [])
  targetPlayer := if f.targetScope = .individual then f.targetPlayer else none
  isActive := f.isActive

def conditionRecords (f : RuleForm) : List ConditionRecord :=
  f.conditions.zipIdx.map fun (c, index) => c.record index

end Form.RuleForm

namespace Store

/-! ## Rules -/

def ruleProblems (s : Store) (form : RuleForm) : Except Cause (List DraftProblem) := do
  let team ← s.get TeamRecord form.teamId .team
  Cause.judge (form.draft.problems (s.registryOf team.id))

def checkTarget (s : Store) (form : RuleForm) : Except Cause Unit :=
  match form.targetPlayer with
  | none => .ok ()
  | some id => do
    match ← s.lookup PlayerRecord id with
    | some player =>
      if player.teamId = form.teamId then return () else throw (.refused .targetOfOtherTeam)
    | none => throw (.refused .targetOfOtherTeam)

def writeRule (s : Store) (form : RuleForm) :
    Except StoreFault (Store × RuleRecord × List ConditionRecord) := do
  let (s, rule) ← s.insert form.record
  let (s, conditions) ← s.insertAll
    (form.conditionRecords.map fun c => { c with ruleId := rule.id })
  return (s, rule, conditions)

/-- The new rule is shown as it was given, before it is stored. -/
def createRule (s : Store) (form : RuleForm) :
    Except Cause (Change (RuleRecord × List ConditionRecord)) := do
  let problems ← s.ruleProblems form
  if !problems.isEmpty then throw (.unsoundRule problems)
  s.checkTarget form
  return { write := s.writeRule form }

def rulesByName (s : Store) (teamId : Int) : Except Cause (List RuleRecord) := do
  checkWord teamId
  return (s.ruleRecordsOf teamId).mergeSort fun a b =>
    (compareLex (compareOn RuleRecord.name) (compareOn RuleRecord.id) a b).isLE

def setRuleActive (s : Store) (id : Int) (form : ActivityForm) :
    Except Cause (Change RuleRecord) := do
  let row ← s.get RuleRecord id .rule
  return s.revision { row with isActive := form.isActive }

/-! ## Profiles -/

/-- Defaults first, then by name. -/
def profilesByName (s : Store) (clubId : Option Int) : Except Cause (List ProfileRecord) := do
  checkFilter clubId
  let chosen := s.profiles.filter fun p => clubId.all fun id => p.clubId == id
  return chosen.mergeSort fun a b =>
    (compareLex (compareOn fun p : ProfileRecord => !p.isClubDefault) (compareOn ProfileRecord.name)
      a b).isLE

def checkProfileRules (s : Store) (clubId : Int) (seen : List Int) :
    List ProfileRuleForm → Except Cause Unit
  | [] => .ok ()
  | item :: rest => do
    if seen.contains item.ruleId then throw (.refused .ruleRepeated)
    let rule ← s.get RuleRecord item.ruleId (.ruleNumber item.ruleId)
    if !s.teams.any fun t => t.id == rule.teamId && t.clubId == clubId then
      throw (.refused (.ruleOfOtherClub item.ruleId))
    s.checkProfileRules clubId (item.ruleId :: seen) rest

def clearDefault (s : Store) (clubId : Int) : Store :=
  { s with profiles := s.profiles.map fun p =>
      if p.clubId = clubId then { p with isClubDefault := false } else p }

def writeProfile (s : Store) (form : ProfileForm) :
    Except StoreFault (Store × ProfileRecord) := do
  let (s, profile) ← s.insert {
    clubId := form.clubId
    name := Text.squeeze form.name
    description := Text.strip form.description
    isClubDefault := form.isClubDefault : ProfileRecord }
  let (s, _) ← s.insertAll (form.rules.map fun item : ProfileRuleForm =>
    { profileId := profile.id
      ruleId := item.ruleId
      customPoints := item.customPoints.map Amount.whole
      isEnabled := item.isEnabled : ProfileRuleRecord })
  return (s, profile)

def createProfile (s : Store) (form : ProfileForm) : Except Cause (Change ProfileRecord) := do
  let club ← s.get ClubRecord form.clubId .club
  s.checkProfileRules club.id [] form.rules
  let s := if form.isClubDefault then s.clearDefault club.id else s
  return { write := s.writeProfile form }

end Store

end ClubPoints
