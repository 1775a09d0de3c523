import ClubPoints.Award
import ClubPoints.Profile

/-!
# The ledger of a match

A ledger has a row for every award of every profile, and one for every assignment in each profile
that enables its rule. A player who has a rule by hand does not get it automatically as well.
-/

namespace ClubPoints

/-- A rule given to a player by hand, so many times. -/
structure Assignment where
  ruleId : Int
  playerId : Int
  count : Int
deriving DecidableEq

structure LedgerRow where
  playerId : Int
  ruleId : Int
  points : Int
  pointType : PointType
  profileId : Int
  isManual : Bool
  count : Int := 1
  assignmentKey : Option String := none
  notes : String := ""
deriving DecidableEq

namespace Assignment

def notes (count : Int) : String := s!"Manual assignment: {count} instances"

def key (a : Assignment) : String := s!"{a.playerId}:{a.ruleId}"

def isCounted (a : Assignment) : Bool := decide (0 < a.count)

def row (a : Assignment) (rule : Rule) (p : Profile) : LedgerRow where
  playerId := a.playerId
  ruleId := rule.id
  points := a.count * p.pointsFor rule
  pointType := p.pointType
  profileId := p.id
  isManual := true
  count := a.count
  assignmentKey := some a.key
  notes := notes a.count

end Assignment

def Award.row (a : Award) (p : Profile) : LedgerRow where
  playerId := a.playerId
  ruleId := a.ruleId
  points := a.points
  pointType := p.pointType
  profileId := p.id
  isManual := false
  notes := a.reason

namespace Ledger

def before (a b : LedgerRow) : Bool :=
  (compareLex (compareOn fun x => x.pointType.name) <| compareLex (compareOn LedgerRow.playerId) <|
    compareLex (compareOn LedgerRow.ruleId) (compareOn fun x => !x.isManual)) a b |>.isLE

def sort (rows : List LedgerRow) : List LedgerRow := rows.mergeSort before

/-- The rule with an id; of several the last. -/
def rule? (rules : List Rule) (id : Int) : Option Rule :=
  Keyed.find? Rule.id id rules.reverse

/-- The rows of one assignment, one for each profile that enables its rule. -/
def assignmentRows (rules : List Rule) (profiles : List Profile) (a : Assignment) :
    List LedgerRow :=
  match rule? rules a.ruleId with
  | none => []
  | some rule => (profiles.filter fun p => p.enables rule.id).map (a.row rule)

def manualRows (rules : List Rule) (profiles : List Profile) (assignments : List Assignment) :
    List LedgerRow :=
  (assignments.filter Assignment.isCounted).flatMap (assignmentRows rules profiles)

def isAssigned (assignments : List Assignment) (a : Award) : Bool :=
  assignments.any fun x => x.isCounted && x.playerId == a.playerId && x.ruleId == a.ruleId

def profileRows (rules : List Rule) (assignments : List Assignment) (r : Registry)
    (game : MatchFacts) (players : List PlayerFacts) (p : Profile) :
    Except Fault (List LedgerRow) := do
  let awards ← Award.all (p.rules rules) r game players
  -- who has a rule by hand does not get it automatically as well
  return (awards.filter fun a => !isAssigned assignments a).map fun a => a.row p

def automaticRows (rules : List Rule) (profiles : List Profile) (assignments : List Assignment)
    (r : Registry) (game : MatchFacts) (players : List PlayerFacts) :
    Except Fault (List LedgerRow) := do
  let automatic := rules.filter fun rule => rule.kind.isAutomatic
  let found ← profiles.mapM (profileRows automatic assignments r game players)
  return found.flatten

def assemble (rules : List Rule) (profiles : List Profile) (assignments : List Assignment)
    (r : Registry) (game : MatchFacts) (players : List PlayerFacts) (withAutomatic : Bool) :
    Except Fault (List LedgerRow) := do
  let automatic ←
    if withAutomatic then automaticRows rules profiles assignments r game players else .ok []
  return sort (manualRows rules profiles assignments ++ automatic)

end Ledger

end ClubPoints
