import ClubPoints.Amount
import ClubPoints.Measure
import ClubPoints.MatchStatus
import ClubPoints.Profile

/-!
# Records

One structure for each kind of row that is kept. A row gets its number when it is stored. Columns
that hold a document may hold any value, and points and counts any amount; all other columns have
the type of what they mean.
-/

namespace ClubPoints

structure ClubRecord where
  id : Int := 0
  name : String

structure TeamRecord where
  id : Int := 0
  name : String
  clubId : Int
  defaultProfileId : Option Int := none

structure PlayerRecord where
  id : Int := 0
  name : String
  position : Position := .midfielder
  teamId : Int

structure MatchRecord where
  id : Int := 0
  teamId : Int
  opponent : String
  status : MatchStatus := .pending
  goalsFor : Amount := 0
  goalsAgainst : Amount := 0
  customValues : Value := .object []

structure StatRecord where
  id : Int := 0
  matchId : Int
  playerId : Int
  tally : Tally Amount := .uniform 0
  played : Bool := true
  customValues : Value := .object []

structure VariableRecord where
  id : Int := 0
  teamId : Int
  key : String
  label : String
  description : String := ""
  scope : Scope
  dataType : DataType := .number
  defaultValue : Binary64 := .zero
  isActive : Bool := true

structure RuleRecord where
  id : Int := 0
  teamId : Int
  name : String
  description : String
  category : Category
  points : Amount
  isMultiplier : Bool := false
  multiplier : Option String := none
  targetScope : TargetScope := .allPlayers
  targetPositions : Value := .list []
  targetPlayer : Option Int := none
  isActive : Bool := true

/-- The conditions of a rule are kept apart from it and ordered by their index. -/
structure ConditionRecord where
  id : Int := 0
  ruleId : Int
  index : Amount := 0
  key : String
  operator : Operator
  value : Binary64 := .zero
  otherKey : Option String := none
  scope : Scope

structure ProfileRecord where
  id : Int := 0
  clubId : Int
  name : String
  description : String := ""
  isClubDefault : Bool := false
  isActive : Bool := true

structure ProfileRuleRecord where
  id : Int := 0
  profileId : Int
  ruleId : Int
  customPoints : Option Amount := none
  isEnabled : Bool := true

structure EntryRecord where
  id : Int := 0
  matchId : Int
  playerId : Int
  ruleId : Int
  profileId : Int
  points : Amount
  pointType : PointType
  isManual : Bool := false
  count : Option Amount := none
  assignmentKey : Option String := none
  notes : Option String := none

end ClubPoints
