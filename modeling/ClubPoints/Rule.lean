import ClubPoints.Condition

/-!
# Rules

A rule gives points to the players it targets. Result rules look at the match alone, performance
rules at each player; manual rules score only by hand.
-/

namespace ClubPoints

inductive Category where
  | result
  | performance
  | manual
deriving DecidableEq, Repr

def Category.name : Category → String
  | .result => "RESULT"
  | .performance => "PERFORMANCE"
  | .manual => "MANUAL"

def Category.ofName? (s : String) : Option Category :=
  [Category.result, .performance, .manual].find? fun x => x.name == s

inductive TargetScope where
  | allPlayers
  | byPosition
  | individual
deriving DecidableEq, Repr

def TargetScope.name : TargetScope → String
  | .allPlayers => "ALL_PLAYERS"
  | .byPosition => "BY_POSITION"
  | .individual => "INDIVIDUAL_PLAYER"

def TargetScope.ofName? (s : String) : Option TargetScope :=
  [TargetScope.allPlayers, .byPosition, .individual].find? fun x => x.name == s

/-- Whom a rule is for. Only the field that belongs to the scope matters. -/
structure Target where
  scope : TargetScope := .allPlayers
  positions : List Position := []
  playerId : Option Int := none
deriving DecidableEq

namespace Target

def covers (t : Target) (p : PlayerFacts) : Bool :=
  match t.scope with
  | .allPlayers => true
  | .byPosition => t.positions.contains p.position
  | .individual => t.playerId == some p.playerId

def select (t : Target) (players : List PlayerFacts) : List PlayerFacts :=
  players.filter t.covers

def sortedPositions (t : Target) : List Position :=
  [Position.defender, .forward, .goalkeeper, .midfielder].filter t.positions.contains

end Target

inductive Pricing where
  | flat
  | multiplied (key : String) (scope : Scope)
deriving DecidableEq

/-- What makes a rule score. A rule of no category cannot be scored. -/
inductive RuleKind where
  | result
  | performance (pricing : Pricing)
  | manual
  | unclassified
deriving DecidableEq

def RuleKind.isAutomatic : RuleKind → Bool
  | .result => true
  | .performance _ => true
  | _ => false

structure Rule where
  id : Int
  name : String
  points : Int
  description : String := ""
  target : Target := {}
  conditions : List Condition := []
  isActive : Bool := true
  kind : RuleKind

def Condition.namesMultiplier (c : Condition) : Bool :=
  c.scope == .ofPlayer && c.operator == .greater && c.otherKey.isNone &&
    c.value.same (.whole 0)

namespace Pricing

def inferredKey? (conditions : List Condition) : Option String :=
  (conditions.find? Condition.namesMultiplier).map Condition.key

/-- The pricing of a stored rule: the named variable, or else the inferred one; an empty name is
none. -/
def choose (isMultiplier : Bool) (named : Option String) (conditions : List Condition) : Pricing :=
  if isMultiplier then
    match ((named.filter (· ≠ "")).or (inferredKey? conditions)).filter (· ≠ "") with
    | some key => .multiplied key .ofPlayer
    | none => .flat
  else .flat

end Pricing

def Category.kind (category : Category) (isMultiplier : Bool) (named : Option String)
    (conditions : List Condition) : RuleKind :=
  match category with
  | .result => .result
  | .performance => .performance (Pricing.choose isMultiplier named conditions)
  | .manual => .manual

end ClubPoints
