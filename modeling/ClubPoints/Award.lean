import ClubPoints.Rule

/-!
# Awards

The points that rules give to the players of a match. Rules are judged one by one and the awards
sorted by player, rule, points and reason, so their order does not depend on the order of the rules.
-/

namespace ClubPoints

structure Award where
  playerId : Int
  ruleId : Int
  ruleName : String
  points : Int
  reason : String := ""
deriving DecidableEq

def Award.before (a b : Award) : Bool :=
  (compareLex (compareOn Award.playerId) <| compareLex (compareOn Award.ruleId) <|
    compareLex (compareOn Award.points) (compareOn Award.reason)) a b |>.isLE

def Award.sort (awards : List Award) : List Award := awards.mergeSort Award.before

namespace Rule

def reason (rule : Rule) (s : Situation) : Except Fault String := do
  let parts ← rule.conditions.mapM fun c => c.describe s
  match parts.filter (· ≠ "") with
  | [] => return rule.name
  | shown => return rule.name ++ ": " ++ " AND ".intercalate shown

def award (rule : Rule) (p : PlayerFacts) (points : Int) (reason : String) : Award where
  playerId := p.playerId
  ruleId := rule.id
  ruleName := rule.name
  points := points
  reason := reason

/-- Result rules look at match facts only: a condition on a player never passes. -/
def resultAwards (rule : Rule) (r : Registry) (game : MatchFacts) (players : List PlayerFacts) :
    Except Fault (List Award) := do
  let s : Situation := { registry := r, game, player := none }
  if ← Condition.allHold s rule.conditions then
    let reason ← rule.reason s
    return (rule.target.select players).map fun p => rule.award p rule.points reason
  else return []

end Rule

/-- The factor that a variable gives; what is no number gives zero. -/
def Value.factor (v : Value) : Except Fault Int :=
  match v.toWhole with
  | .ok n => .ok n
  | .error .infinityAsWhole => .error .infinityAsWhole
  | .error _ => .ok 0

def Pricing.price (pricing : Pricing) (points : Int) (s : Situation) : Except Fault Int :=
  match pricing with
  | .flat => .ok points
  | .multiplied key scope =>
    match s.facts? scope with
    | none => .ok 0
    | some fact => (s.registry.lookup key scope fact).factor.map (points * ·)

namespace Rule

def playerAward? (rule : Rule) (pricing : Pricing) (r : Registry) (game : MatchFacts)
    (p : PlayerFacts) : Except Fault (Option Award) := do
  let s : Situation := { registry := r, game, player := some p }
  if ← Condition.allHold s rule.conditions then
    let points ← pricing.price rule.points s
    let reason ← rule.reason s
    return some (rule.award p points reason)
  else return none

def performanceAwards (rule : Rule) (pricing : Pricing) (r : Registry) (game : MatchFacts)
    (players : List PlayerFacts) : Except Fault (List Award) := do
  let found ← (rule.target.select players).mapM (rule.playerAward? pricing r game)
  return found.reduceOption

/-- The awards of one rule, whether or not it is active. -/
def awards (rule : Rule) (r : Registry) (game : MatchFacts) (players : List PlayerFacts) :
    Except Fault (List Award) :=
  match rule.kind with
  | .result => rule.resultAwards r game players
  | .performance pricing => rule.performanceAwards pricing r game players
  | .manual => .ok []
  | .unclassified => .error .unscorable

def preview (rule : Rule) (r : Registry) (game : MatchFacts) (players : List PlayerFacts) :
    Except Fault (List Award) :=
  (rule.awards r game players).map Award.sort

end Rule

def Award.all (rules : List Rule) (r : Registry) (game : MatchFacts) (players : List PlayerFacts) :
    Except Fault (List Award) := do
  let found ← (rules.filter Rule.isActive).mapM fun rule => rule.awards r game players
  return Award.sort found.flatten

end ClubPoints
