import ClubPoints.Rule

/-!
# Rules profiles

A profile enables rules and may give them points of its own. A team and its club each score through
a profile, and their points are kept apart by their type.
-/

namespace ClubPoints

inductive PointType where
  | team
  | club
deriving DecidableEq, Repr

def PointType.name : PointType → String
  | .team => "TEAM"
  | .club => "CLUB"

def PointType.ofName? (s : String) : Option PointType :=
  [PointType.team, .club].find? fun x => x.name == s

structure Override where
  ruleId : Int
  customPoints : Option Int := none
  isEnabled : Bool := true
deriving DecidableEq

structure Profile where
  id : Int
  pointType : PointType
  overrides : List Override := []
deriving DecidableEq

namespace Profile

/-- A profile with one override for each rule, the last one given. -/
def ofOverrides (id : Int) (pointType : PointType) (overrides : List Override) : Profile where
  id := id
  pointType := pointType
  overrides := Keyed.collect Override.ruleId overrides

def override? (p : Profile) (ruleId : Int) : Option Override :=
  Keyed.find? Override.ruleId ruleId p.overrides

def enables (p : Profile) (ruleId : Int) : Bool :=
  (p.override? ruleId).any Override.isEnabled

/-- The points of the override, zero included, or else those of the rule. -/
def pointsFor (p : Profile) (rule : Rule) : Int :=
  ((p.override? rule.id).bind Override.customPoints).getD rule.points

def reprice (p : Profile) (rule : Rule) : Rule :=
  { rule with points := p.pointsFor rule }

def rules (p : Profile) (all : List Rule) : List Rule :=
  (all.filter fun rule => rule.isActive && p.enables rule.id).map p.reprice

end Profile

end ClubPoints
