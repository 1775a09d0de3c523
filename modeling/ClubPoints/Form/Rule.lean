import ClubPoints.Draft
import ClubPoints.Form.Setup

/-!
# Forms for rules and profiles

A rule form is a draft whose fields have the right kinds; whether it can be saved is judged by
`Draft.problems`.
-/

namespace ClubPoints.Form

structure ConditionForm where
  key : Option String := none
  operator : Option Operator := none
  value : Option Binary64 := none
  otherKey : Option String := none
  scope : Scope := .ofPlayer
deriving DecidableEq

namespace ConditionForm

def read (shape : Shape) : Value → Checked ConditionForm := object shape fun fields =>
  mk <$> Fields.defaulted fields "variable" none (optional text)
    <*> Fields.defaulted fields "operator" none (optional (choice Operator.ofSymbol?))
    <*> Fields.defaulted fields "value" none (optional real)
    <*> Fields.defaulted fields "compare_variable" none (optional text)
    <*> Fields.defaulted fields "scope" .ofPlayer (choice Scope.ofName?)

def document (f : ConditionForm) : Value := .object [
  ("variable", Value.nullable .text f.key),
  ("operator", Value.nullable (fun op : Operator => .text op.symbol) f.operator),
  ("value", Value.nullable .real f.value), ("compare_variable", Value.nullable .text f.otherKey),
  ("scope", .text f.scope.name)]

def draft (f : ConditionForm) : DraftCondition where
  key := Value.nullable .text f.key
  operator := Value.nullable (fun op : Operator => .text op.symbol) f.operator
  value := Value.nullable .real f.value
  scope := .text f.scope.name
  otherKey := Value.nullable .text f.otherKey

end ConditionForm

structure RuleForm where
  teamId : Int
  name : String := ""
  description : String := ""
  category : Category
  points : Int
  isMultiplier : Bool := false
  multiplier : Option String := none
  targetScope : TargetScope := .allPlayers
  targetPositions : List Position := []
  targetPlayer : Option Int := none
  conditions : List ConditionForm := []
  isActive : Bool := true
deriving DecidableEq

namespace RuleForm

def read (shape : Shape) : Value → Checked RuleForm := object shape fun fields =>
  mk <$> Fields.required fields "team_id" rowId
    <*> Fields.defaulted fields "name" "" text
    <*> Fields.defaulted fields "description" "" text
    <*> Fields.required fields "category" (choice Category.ofName?)
    <*> Fields.required fields "points_awarded" anyWhole
    <*> Fields.defaulted fields "is_multiplier" false truth
    <*> Fields.defaulted fields "multiplier_variable" none (optional text)
    <*> Fields.defaulted fields "target_scope" .allPlayers (choice TargetScope.ofName?)
    <*> Fields.defaulted fields "target_positions" [] (listOf (choice Position.ofName?))
    <*> Fields.defaulted fields "target_player_id" none (optional anyWhole)
    <*> Fields.defaulted fields "conditions" [] (listOf (ConditionForm.read shape))
    <*> Fields.defaulted fields "is_active" true truth

def document (f : RuleForm) : Value := .object [
  ("team_id", .whole f.teamId), ("name", .text f.name), ("description", .text f.description),
  ("category", .text f.category.name), ("points_awarded", .whole f.points),
  ("is_multiplier", .truth f.isMultiplier),
  ("multiplier_variable", Value.nullable .text f.multiplier),
  ("target_scope", .text f.targetScope.name),
  ("target_positions", .list (f.targetPositions.map fun p => .text p.name)),
  ("target_player_id", Value.nullable .whole f.targetPlayer),
  ("conditions", .list (f.conditions.map ConditionForm.document)),
  ("is_active", .truth f.isActive)]

def draft (f : RuleForm) : Draft where
  name := .text f.name
  description := .text f.description
  category := .text f.category.name
  targetScope := .text f.targetScope.name
  targetPositions := .list (f.targetPositions.map fun p => .text p.name)
  targetPlayer := Value.nullable .whole f.targetPlayer
  isMultiplier := .truth f.isMultiplier
  multiplier := Value.nullable .text f.multiplier
  conditions := f.conditions.map ConditionForm.draft

end RuleForm

structure ProfileRuleForm where
  ruleId : Int
  customPoints : Option Int := none
  isEnabled : Bool := true
deriving DecidableEq

namespace ProfileRuleForm

def read (shape : Shape) : Value → Checked ProfileRuleForm := object shape fun fields =>
  mk <$> Fields.required fields "rule_id" rowId
    <*> Fields.defaulted fields "custom_points" none (optional anyWhole)
    <*> Fields.defaulted fields "is_enabled" true truth

def document (f : ProfileRuleForm) : Value := .object [
  ("rule_id", .whole f.ruleId), ("custom_points", Value.nullable .whole f.customPoints),
  ("is_enabled", .truth f.isEnabled)]

end ProfileRuleForm

structure ProfileForm where
  clubId : Int
  name : String
  description : String := ""
  isClubDefault : Bool := false
  rules : List ProfileRuleForm := []
deriving DecidableEq

namespace ProfileForm

def read (shape : Shape) : Value → Checked ProfileForm := object shape fun fields =>
  mk <$> Fields.required fields "club_id" rowId
    <*> Fields.required fields "name" (textBetween 1 100)
    <*> Fields.defaulted fields "description" "" text
    <*> Fields.defaulted fields "is_club_default" false truth
    <*> Fields.defaulted fields "rules" [] (listOf (ProfileRuleForm.read shape))

def document (f : ProfileForm) : Value := .object [
  ("club_id", .whole f.clubId), ("name", .text f.name), ("description", .text f.description),
  ("is_club_default", .truth f.isClubDefault),
  ("rules", .list (f.rules.map ProfileRuleForm.document))]

end ProfileForm

end ClubPoints.Form
