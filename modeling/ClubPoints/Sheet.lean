import ClubPoints.Profile
import ClubPoints.Value.Items

/-!
# Sheets

Rules and variables as they are written down, with columns that may hold anything. Loading a sheet
gives the rule or variable it stands for, or the first column that is wrong.
-/

namespace ClubPoints

def Family.read {α : Type} (family : Family) (ofName? : String → Option α) (v : Value) :
    Except Fault α :=
  match v.text?.bind ofName? with
  | some x => .ok x
  | none => .error (.notMember family v.literal)

def Scope.read : Value → Except Fault Scope := Family.scope.read Scope.ofName?

def DataType.read : Value → Except Fault DataType := Family.dataType.read DataType.ofName?

def Operator.read : Value → Except Fault Operator := Family.operator.read Operator.ofSymbol?

def Category.read : Value → Except Fault Category := Family.category.read Category.ofName?

def TargetScope.read : Value → Except Fault TargetScope :=
  Family.targetScope.read TargetScope.ofName?

def PointType.read : Value → Except Fault PointType := Family.pointType.read PointType.ofName?

def Position.ofExactName : Value → Except Fault Position := Family.position.read Position.ofName?

structure ConditionSheet where
  key : String
  operator : Value
  value : Value
  scope : Value
  otherKey : Option String

def ConditionSheet.load (sheet : ConditionSheet) : Except Fault Condition := do
  let operator ← Operator.read sheet.operator
  let value ← sheet.value.conditionLiteral
  let scope ← Scope.read sheet.scope
  return {
    key := sheet.key
    operator
    value
    scope
    otherKey := sheet.otherKey.filter (· ≠ "") }

structure RuleSheet where
  id : Int
  name : String
  description : String
  category : Value
  points : Int
  isMultiplier : Bool
  multiplier : Option String
  targetScope : Value
  targetPositions : Value
  targetPlayer : Option Int
  isActive : Bool
  conditions : List ConditionSheet

def RuleSheet.load (sheet : RuleSheet) : Except Fault Rule := do
  let conditions ← sheet.conditions.mapM ConditionSheet.load
  let scope ← TargetScope.read sheet.targetScope
  let named ← sheet.targetPositions.items
  let positions ← named.mapM Position.read
  let category ← Category.read sheet.category
  return {
    id := sheet.id
    name := sheet.name
    points := sheet.points
    description := sheet.description
    target := { scope, positions, playerId := sheet.targetPlayer }
    conditions
    isActive := sheet.isActive
    kind := category.kind sheet.isMultiplier sheet.multiplier conditions }

structure VariableSheet where
  key : String
  label : String
  description : String
  scope : Value
  dataType : Value
  defaultValue : Value
  isActive : Bool

/-- The default of a variable of a kind; that of a truth variable is whether it counts as given. -/
def DataType.default (dataType : DataType) (v : Value) : Value :=
  if dataType = .truth then .truth v.isGiven else v

def VariableSheet.load (sheet : VariableSheet) : Except Fault Variable := do
  let dataType ← DataType.read sheet.dataType
  let scope ← Scope.read sheet.scope
  return {
    key := sheet.key
    label := sheet.label
    scope
    dataType
    defaultValue := dataType.default sheet.defaultValue
    isActive := sheet.isActive
    description := sheet.description }

end ClubPoints
