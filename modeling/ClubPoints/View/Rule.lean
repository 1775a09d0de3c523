import ClubPoints.Form.Rule
import ClubPoints.View.Setup

/-!
# Views of variables, rules and profiles

A variable that is built in has no row and no team. The default of a variable is a measure, a text
or nothing.
-/

namespace ClubPoints.View

open Form

inductive DefaultView where
  | absent
  | measure (m : Measure)
  | text (s : String)
deriving DecidableEq

namespace DefaultView

def read (v : Value) : Checked DefaultView :=
  match v with
  | .null => .valid .absent
  | .real x => .valid (.measure (.real x))
  | .whole n => .valid (.measure (.whole n))
  | .truth b => .valid (.measure (.truth b))
  | v =>
    match v.text? with
    | some s => .valid (.text s)
    | none => noneOf [("float", .realType), ("int", .wholeType), ("bool", .truthType),
        ("str", .textType)] v

def value : DefaultView → Value
  | .absent => .null
  | .measure m => m.value
  | .text s => .text s

end DefaultView

structure VariableView where
  id : Option Int
  teamId : Option Int
  key : String
  label : String
  description : String
  scope : Scope
  dataType : DataType
  default : DefaultView
  isBuiltIn : Bool
  isActive : Bool
deriving DecidableEq

namespace VariableView

def read (shape : Shape) : Value → Checked VariableView := object shape fun fields =>
  mk <$> Fields.defaulted fields "id" none (optional anyWhole)
    <*> Fields.defaulted fields "team_id" none (optional anyWhole)
    <*> Fields.required fields "key" text
    <*> Fields.required fields "label" text
    <*> Fields.required fields "description" text
    <*> Fields.required fields "scope" (choice Scope.ofName?)
    <*> Fields.required fields "data_type" (choice DataType.ofName?)
    <*> Fields.defaulted fields "default_value" .absent DefaultView.read
    <*> Fields.required fields "is_built_in" truth
    <*> Fields.required fields "is_active" truth

def document (v : VariableView) : Value := .object [
  ("id", Value.nullable .whole v.id), ("team_id", Value.nullable .whole v.teamId),
  ("key", .text v.key),
  ("label", .text v.label), ("description", .text v.description), ("scope", .text v.scope.name),
  ("data_type", .text v.dataType.name), ("default_value", v.default.value),
  ("is_built_in", .truth v.isBuiltIn), ("is_active", .truth v.isActive)]

end VariableView

structure ConditionView where
  id : Int
  key : String
  operator : Operator
  value : Binary64
  otherKey : Option String
  scope : Scope
deriving DecidableEq

namespace ConditionView

def read : Value → Checked ConditionView := object .record fun fields =>
  mk <$> Fields.required fields "id" anyWhole
    <*> Fields.required fields "variable" text
    <*> Fields.required fields "operator" (choice Operator.ofSymbol?)
    <*> Fields.required fields "value" real
    <*> Fields.defaulted fields "compare_variable" none (optional text)
    <*> Fields.required fields "scope" (choice Scope.ofName?)

def document (v : ConditionView) : Value := .object [
  ("id", .whole v.id), ("variable", .text v.key), ("operator", .text v.operator.symbol),
  ("value", .real v.value), ("compare_variable", Value.nullable .text v.otherKey),
  ("scope", .text v.scope.name)]

end ConditionView

structure RuleView where
  id : Int
  teamId : Int
  name : String
  description : String
  category : Category
  points : Int
  isMultiplier : Bool
  multiplier : Option String
  targetScope : TargetScope
  targetPositions : List Position
  targetPlayer : Option Int
  conditions : List ConditionView
  isActive : Bool
deriving DecidableEq

namespace RuleView

def readPositions : Value → Checked (List Position) := listOf (choice Position.ofName?)

def read : Value → Checked RuleView := object .record fun fields =>
  mk <$> Fields.required fields "id" anyWhole
    <*> Fields.required fields "team_id" anyWhole
    <*> Fields.required fields "name" text
    <*> Fields.required fields "description" text
    <*> Fields.required fields "category" (choice Category.ofName?)
    <*> Fields.required fields "points_awarded" anyWhole
    <*> Fields.required fields "is_multiplier" truth
    <*> Fields.defaulted fields "multiplier_variable" none (optional text)
    <*> Fields.required fields "target_scope" (choice TargetScope.ofName?)
    <*> Fields.defaulted fields "target_positions" [] readPositions
    <*> Fields.defaulted fields "target_player_id" none (optional anyWhole)
    <*> Fields.defaulted fields "conditions" [] (listOf ConditionView.read)
    <*> Fields.required fields "is_active" truth

def document (v : RuleView) : Value := .object [
  ("id", .whole v.id), ("team_id", .whole v.teamId), ("name", .text v.name),
  ("description", .text v.description), ("category", .text v.category.name),
  ("points_awarded", .whole v.points), ("is_multiplier", .truth v.isMultiplier),
  ("multiplier_variable", Value.nullable .text v.multiplier),
  ("target_scope", .text v.targetScope.name),
  ("target_positions", .list (v.targetPositions.map fun p => .text p.name)),
  ("target_player_id", Value.nullable .whole v.targetPlayer),
  ("conditions", .list (v.conditions.map ConditionView.document)),
  ("is_active", .truth v.isActive)]

end RuleView

structure VerdictView where
  isValid : Bool
  errors : List String
deriving DecidableEq

namespace VerdictView

def read (shape : Shape) : Value → Checked VerdictView := object shape fun fields =>
  mk <$> Fields.required fields "is_valid" truth
    <*> Fields.defaulted fields "errors" [] (listOf text)

def document (v : VerdictView) : Value := .object [
  ("is_valid", .truth v.isValid), ("errors", .list (v.errors.map .text))]

end VerdictView

structure ProfileRuleView where
  ruleId : Int
  customPoints : Option Int
  isEnabled : Bool
deriving DecidableEq

namespace ProfileRuleView

def read : Value → Checked ProfileRuleView := object .record fun fields =>
  mk <$> Fields.required fields "rule_id" anyWhole
    <*> Fields.defaulted fields "custom_points" none (optional anyWhole)
    <*> Fields.required fields "is_enabled" truth

def document (v : ProfileRuleView) : Value := .object [
  ("rule_id", .whole v.ruleId), ("custom_points", Value.nullable .whole v.customPoints),
  ("is_enabled", .truth v.isEnabled)]

end ProfileRuleView

structure ProfileView where
  id : Int
  clubId : Int
  name : String
  description : String
  isClubDefault : Bool
  isActive : Bool
  rules : List ProfileRuleView
deriving DecidableEq

namespace ProfileView

def read : Value → Checked ProfileView := object .record fun fields =>
  mk <$> Fields.required fields "id" anyWhole
    <*> Fields.required fields "club_id" anyWhole
    <*> Fields.required fields "name" text
    <*> Fields.required fields "description" text
    <*> Fields.required fields "is_club_default" truth
    <*> Fields.required fields "is_active" truth
    <*> Fields.defaulted fields "rules" [] (listOf ProfileRuleView.read)

def document (v : ProfileView) : Value := .object [
  ("id", .whole v.id), ("club_id", .whole v.clubId), ("name", .text v.name),
  ("description", .text v.description), ("is_club_default", .truth v.isClubDefault),
  ("is_active", .truth v.isActive), ("rules", .list (v.rules.map ProfileRuleView.document))]

end ProfileView

end ClubPoints.View
