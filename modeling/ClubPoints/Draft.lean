import ClubPoints.Rule
import ClubPoints.Value.Items

/-!
# Rule drafts

A draft holds what the author of a rule has filled in so far, each field as it came and null where
it is missing. `Draft.problems` lists everything that keeps the draft from being saved, in the order
of the fields.
-/

namespace ClubPoints

structure DraftCondition where
  key : Value := .null
  operator : Value := .null
  value : Value := .null
  scope : Value := .null
  otherKey : Value := .null

structure Draft where
  name : Value := .null
  description : Value := .null
  category : Value := .null
  targetScope : Value := .null
  targetPositions : Value := .null
  targetPlayer : Value := .null
  isMultiplier : Value := .null
  multiplier : Value := .null
  conditions : List DraftCondition := []

inductive DraftProblem where
  | noName
  | noDescription
  | unknownCategory
  | noCondition
  | noTargetPositions
  | noTargetPlayer
  | noMultiplier
  | multiplierNotPlayerNumber
  | noVariable (index : Nat)
  | noOperator (index : Nat)
  | noValue (index : Nat)
  | playerCondition (index : Nat)
deriving DecidableEq

/-- Conditions are counted from one. -/
def DraftProblem.message : DraftProblem → String
  | .noName => "Rule name is required"
  | .noDescription => "Rule description is required"
  | .unknownCategory => "Rule category must be one of RESULT, PERFORMANCE, MANUAL"
  | .noCondition => "At least one condition is required"
  | .noTargetPositions => "Target positions must be specified when using BY_POSITION scope"
  | .noTargetPlayer => "Target player must be specified when using INDIVIDUAL_PLAYER scope"
  | .noMultiplier => "Multiplier rules must name the variable to multiply by"
  | .multiplierNotPlayerNumber => "Multiplier variable must be a player number variable"
  | .noVariable index => s!"Condition {index}: Variable is required"
  | .noOperator index => s!"Condition {index}: Operator is required"
  | .noValue index => s!"Condition {index}: Value is required"
  | .playerCondition index => s!"Condition {index}: Result rules only accept MATCH conditions"

namespace DraftCondition

def ofValue (v : Value) : DraftCondition where
  key := v.field "variable"
  operator := v.field "operator"
  value := v.field "value"
  scope := v.field "scope"
  otherKey := v.field "compare_variable"

def namesMultiplier (c : DraftCondition) : Bool :=
  c.operator.isText Operator.greater.symbol && c.value.same (.whole 0) &&
    c.scope.isText Scope.ofPlayer.name && !c.otherKey.isGiven

def problems (isResult : Bool) (c : DraftCondition) (index : Nat) : List DraftProblem :=
  (if c.key.isGiven then [] else [.noVariable index]) ++
  (if c.operator.isGiven then [] else [.noOperator index]) ++
  (if c.value.isNull && !c.otherKey.isGiven then [.noValue index] else []) ++
  (if isResult && c.scope.isText Scope.ofPlayer.name then [.playerCondition index] else [])

end DraftCondition

namespace Draft

def ofValue (v : Value) : Except Fault Draft := do
  let conditions ← (v.field "conditions").items
  return {
    name := v.field "name"
    description := v.field "description"
    category := v.field "category"
    targetScope := v.field "target_scope"
    targetPositions := v.field "target_positions"
    targetPlayer := v.field "target_player_id"
    isMultiplier := v.field "is_multiplier"
    multiplier := v.field "multiplier_variable"
    conditions := conditions.map DraftCondition.ofValue }

def hasCategory (d : Draft) (category : Category) : Bool := d.category.isText category.name

def hasTargetScope (d : Draft) (scope : TargetScope) : Bool := d.targetScope.isText scope.name

/-- The variable to multiply by: the named one, or that of the first condition of the form `> 0`;
null if neither is given. -/
def multiplierSource (d : Draft) : Value :=
  if d.multiplier.isGiven then d.multiplier
  else
    match d.conditions.find? DraftCondition.namesMultiplier with
    | some c => if c.key.isGiven then c.key else .null
    | none => .null

def isPlayerNumber (r : Registry) (source : Value) : Bool :=
  match source.text?.bind fun key => r.resolve? key .ofPlayer with
  | some v => v.dataType == .number
  | none => false

def multiplierProblems (d : Draft) (r : Registry) : Except Fault (List DraftProblem) :=
  if d.isMultiplier.isGiven && d.hasCategory .performance then
    let source := d.multiplierSource
    if source.isGiven then do
      source.checkKey
      return if isPlayerNumber r source then [] else [.multiplierNotPlayerNumber]
    else .ok [.noMultiplier]
  else .ok []

def headProblems (d : Draft) : List DraftProblem :=
  let known := (d.category.text?.bind Category.ofName?).isSome
  (if d.name.isBlank then [.noName] else []) ++
  (if d.description.isBlank then [.noDescription] else []) ++
  (if known then [] else [.unknownCategory]) ++
  (if !d.hasCategory .manual && d.conditions.isEmpty then [.noCondition] else []) ++
  (if d.hasTargetScope .byPosition && !d.targetPositions.isGiven then [.noTargetPositions]
    else []) ++
  (if d.hasTargetScope .individual && d.targetPlayer.isNull then [.noTargetPlayer] else [])

def conditionProblems (d : Draft) : List DraftProblem :=
  (d.conditions.zipIdx 1).flatMap fun (c, index) => c.problems (d.hasCategory .result) index

def problems (d : Draft) (r : Registry) : Except Fault (List DraftProblem) := do
  d.category.checkKey
  let multiplier ← d.multiplierProblems r
  return d.headProblems ++ multiplier ++ d.conditionProblems

end Draft

end ClubPoints
