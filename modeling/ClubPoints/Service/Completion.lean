import ClubPoints.Form.Facts
import ClubPoints.Service.Rules

/-!
# Trying out and completing a match

The facts of a match are about players of its team, each at most once. Trying out rules stores
nothing. Completing a match replaces its facts, its statistics and its ledger as a whole, so the
last completion counts.
-/

namespace ClubPoints

open Form

namespace Store

/-! ## Facts and assignments -/

def factsOf (roster : List PlayerRecord) (seen : List Int) :
    List StatForm → Except Cause (List PlayerFacts)
  | [] => .ok []
  | stat :: rest =>
    match roster.find? fun p => p.id == stat.playerId with
    | none => .error (.refused (.playerNotOnTeam stat.playerId))
    | some player =>
      if seen.contains stat.playerId then .error (.refused (.statsRepeated stat.playerId))
      else do
        let more ← factsOf roster (stat.playerId :: seen) rest
        return stat.facts player.position :: more

def playerFacts (s : Store) (team : TeamRecord) (form : FactsForm) :
    Except Cause (List PlayerFacts) :=
  factsOf (s.rosterOf team.id) [] form.stats

def assignmentsOf (roster : List PlayerRecord) (rules : List RuleRecord) (seen : List (Int × Int)) :
    List AssignmentForm → Except Cause (List Assignment)
  | [] => .ok []
  | item :: rest =>
    if !roster.any fun p => p.id == item.playerId then
      .error (.refused (.playerNotOnTeam item.playerId))
    else if !rules.any fun r => r.id == item.ruleId then
      .error (.refused (.ruleOfOtherTeam item.ruleId))
    else if seen.contains (item.playerId, item.ruleId) then
      .error (.refused (.assignmentRepeated item.playerId item.ruleId))
    else do
      let more ← assignmentsOf roster rules ((item.playerId, item.ruleId) :: seen) rest
      return item.assignment :: more

/-! ## Trying out -/

def paid (s : Store) (profileId : Option Int) (a : Award) : Except Cause Award := do
  let points ← Cause.judge ((s.rate profileId a.ruleId).earned a.points)
  match points.shown? with
  | some points => return { a with points }
  | none => throw .notShown

def rulesUnder (s : Store) (team : TeamRecord) (rules : List Rule) (profileId : Option Int) :
    Except Cause (List Rule) :=
  match profileId with
  | none => .ok rules
  | some id => do
    let profile ← s.get ProfileRecord id .profile
    if profile.clubId ≠ team.clubId then throw (.refused .profileOfOtherClub)
    return (s.profile profile .team).rules rules

def previewMatch (s : Store) (matchId : Int) (form : FactsForm) (profileId : Option Int) :
    Except Cause (List Award) := do
  let game ← s.get MatchRecord matchId .game
  let team ← s.get TeamRecord game.teamId .team
  let rules ← Cause.judge (s.rulesOf team.id)
  let rules ← s.rulesUnder team rules profileId
  let players ← s.playerFacts team form
  let awards ← Cause.judge (Award.all rules (s.registryOf team.id) form.facts players)
  awards.mapM (s.paid profileId)

def previewRule (s : Store) (ruleId : Int) (form : FactsForm) : Except Cause (List Award) := do
  let row ← s.get RuleRecord ruleId .rule
  let team ← s.get TeamRecord row.teamId .team
  let rule ← Cause.judge (s.rule row)
  let players ← s.playerFacts team form
  let awards ← Cause.judge (rule.preview (s.registryOf team.id) form.facts players)
  awards.mapM (s.paid none)

/-! ## Completing -/

def statRecord (matchId : Int) (stat : StatForm) : StatRecord where
  matchId := matchId
  playerId := stat.playerId
  tally := stat.tally.map Amount.whole
  played := stat.played
  customValues := measuresDocument stat.customValues

def entryRecord (matchId : Int) (row : LedgerRow) (points : Amount) : EntryRecord where
  matchId := matchId
  playerId := row.playerId
  ruleId := row.ruleId
  profileId := row.profileId
  points := points
  pointType := row.pointType
  isManual := row.isManual
  count := some (.whole row.count)
  assignmentKey := row.assignmentKey
  notes := some row.notes

def completionLedger (s : Store) (team : TeamRecord) (form : CompletionForm)
    (withAutomatic : Bool) : Except Cause (List LedgerRow) := do
  let players ← s.playerFacts team form.facts
  let assignments ← assignmentsOf (s.rosterOf team.id) (s.ruleRecordsOf team.id) []
    form.assignments
  let rules ← Cause.judge (s.rulesOf team.id)
  Cause.judge (Ledger.assemble rules (s.scoringProfiles team) assignments (s.registryOf team.id)
    form.facts.facts players withAutomatic)

/-- The entries of a ledger, with what its rows earn in their profiles. -/
def entriesOfLedger (s : Store) (matchId : Int) (rows : List LedgerRow) :
    Except Fault (List EntryRecord) :=
  rows.mapM fun row =>
    ((s.rate (some row.profileId) row.ruleId).earned row.points).map (entryRecord matchId row)

/-- A number that does not fit is a cause of its own; any other fault means that the match is not
completed. -/
def completionCause (matchId : Int) (fault : StoreFault) : Cause :=
  if fault.isOverflow then .notStored fault else .notCompleted matchId

/-- The store with the facts of a completed match and without its statistics and its ledger. Custom
values that repeat the old ones leave those as they are. -/
def clearedMatch (s : Store) (game : MatchRecord) (form : FactsForm) : Except StoreFault Store := do
  let s ← s.update { game with
    goalsFor := form.goalsFor
    goalsAgainst := form.goalsAgainst
    customValues :=
      if Measure.allRepeat form.customValues game.customValues then game.customValues
      else measuresDocument form.customValues
    status := .completed }
  let s := s.remove fun r : StatRecord => r.matchId == game.id
  return s.remove fun r : EntryRecord => r.matchId == game.id

def writeScores (s : Store) (matchId : Int) (stats : List StatForm) (entries : List EntryRecord) :
    Except StoreFault (Store × Unit) := do
  let (s, _) ← s.insertAll (stats.map (statRecord matchId))
  let (s, _) ← s.insertAll entries
  return (s, ())

def completeMatch (s : Store) (matchId : Int) (form : CompletionForm) (withAutomatic : Bool) :
    Except Cause (Change Unit) := do
  let game ← s.get MatchRecord matchId .game
  let team ← s.get TeamRecord game.teamId .team
  let rows ← s.completionLedger team form withAutomatic
  let entries ← Cause.judge (s.entriesOfLedger game.id rows)
  -- the facts are written before the commit, the statistics and the ledger by it
  let cleared ← (s.clearedMatch game form.facts).mapError (completionCause matchId)
  return {
    write := cleared.writeScores game.id form.facts.stats entries
    whenRefused := .notCompleted matchId
    whenFaulty := completionCause matchId }

def editableAssignments (s : Store) (matchId : Int) : Except Cause (List EditableAssignment) := do
  let game ← s.get MatchRecord matchId .game
  match ((s.entriesOf game.id).filter EntryRecord.isManual).mapM EntryRecord.storedEntry? with
  | some entries => Cause.judge (Editing.reconcile entries)
  | none => throw .notShown

end Store

end ClubPoints
