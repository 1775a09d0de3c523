import ClubPoints.Request.Action
import ClubPoints.Service.Completion
import ClubPoints.Service.Leaderboard

/-!
# Serving requests

Serving takes a store to an answer and the next store. An action that is not carried out leaves the
store as it was; what a commit has written stays, even if it cannot be shown.
-/

namespace ClubPoints

open View

/-- What holds for a whole service: whether completions keep the automatic rows of a ledger. -/
structure Policy where
  keepsAutomatic : Bool := true

def Value.listed {α : Type} (document : α → Value) (items : List α) : Value :=
  .list (items.map document)

namespace Store

def showNewRule (r : RuleRecord × List ConditionRecord) : Option Value :=
  (r.1.view? r.2).map RuleView.document

def showVariables (own : List VariableRecord) : Value :=
  Value.listed VariableView.document
    (Variable.builtIns.map (fun v => v.view none none) ++ own.map VariableRecord.view)

def showVerdict (problems : List DraftProblem) : Value :=
  VerdictView.document {
    isValid := problems.isEmpty
    errors := problems.map DraftProblem.message }

def showRule (s : Store) (r : RuleRecord) : Option Value := (s.ruleView? r).map RuleView.document

def showProfile (s : Store) (r : ProfileRecord) : Option Value :=
  (s.profileView? r).map ProfileView.document

def showMatch (s : Store) (matchId : Int) : Except Cause (Option Value) := do
  let game ← s.get MatchRecord matchId .game
  return (s.scoredMatchView? game).map ScoredMatchView.document

/-- A match that was just completed; its custom values are shown as they were given. -/
def showCompletion (s : Store) (matchId : Int) (form : Form.FactsForm) : Option Value := do
  let game : MatchRecord ← s.find? matchId
  let customValues := Form.measuresDocument form.customValues
  return (← s.scoredMatchView? { game with customValues }).document

def showLedger (s : Store) (matchId : Int) (pointType : Option PointType) :
    Except Cause (Option Value) := do
  let game ← s.get MatchRecord matchId .game
  return ((s.ledgerOf game.id pointType).mapM EntryRecord.view?).map
    (Value.listed EntryView.document)

end Store

/-- What an action brings about: the next store, and what is shown if it can be shown. -/
structure Outcome where
  store : Store
  shown : Option Value

namespace Outcome

def ofQuery (s : Store) (shown : Except Cause Value) : Except Cause Outcome :=
  shown.map fun v => { store := s, shown := some v }

def ofQuery? (s : Store) (shown : Except Cause (Option Value)) : Except Cause Outcome :=
  shown.map fun v => { store := s, shown := v }

def ofChange {α : Type} (isRefused : Bool) (change : Except Cause (Change α))
    (shown : Store → α → Option Value) : Except Cause Outcome := do
  let (s, a) ← (← change).commit isRefused
  return { store := s, shown := shown s a }

end Outcome

open Outcome in
def Action.run (policy : Policy) (isRefused : Bool) (s : Store) : Action → Except Cause Outcome
  | .health => ofQuery s (.ok (.object [("status", .text "ok")]))
  | .listClubs =>
    ofQuery s (.ok (Value.listed (fun c => (ClubRecord.view c).document) s.clubsByName))
  | .createClub form =>
    ofChange isRefused (s.createClub form) fun _ c => c.view.document
  | .listTeams clubId =>
    ofQuery s ((s.teamsByName clubId).map (Value.listed fun t => t.view.document))
  | .createTeam form =>
    ofChange isRefused (s.createTeam form) fun _ t => t.view.document
  | .setTeamProfile teamId form =>
    ofChange isRefused (s.setTeamProfile teamId form) fun _ t => t.view.document
  | .listPlayers teamId =>
    ofQuery s ((s.playersByName teamId).map (Value.listed fun p => p.view.document))
  | .createPlayer form =>
    ofChange isRefused (s.createPlayer form) fun _ p => p.view.document
  | .listMatches teamId status =>
    ofQuery? s ((s.matchesOf teamId status).map fun games =>
      (games.mapM MatchRecord.view?).map (Value.listed MatchView.document))
  | .createMatch form =>
    ofChange isRefused (s.createMatch form) fun _ m => m.view?.map MatchView.document
  | .showMatch matchId => ofQuery? s (s.showMatch matchId)
  | .completeMatch matchId form =>
    ofChange isRefused (s.completeMatch matchId form policy.keepsAutomatic) fun s _ =>
      s.showCompletion matchId form.facts
  | .previewMatch matchId profileId form =>
    ofQuery s ((s.previewMatch matchId form profileId).map (Value.listed awardDocument))
  | .showLedger matchId pointType => ofQuery? s (s.showLedger matchId pointType)
  | .listAssignments matchId =>
    ofQuery s ((s.editableAssignments matchId).map (Value.listed editableDocument))
  | .listRules teamId =>
    ofQuery? s ((s.rulesByName teamId).map fun rules => (rules.mapM s.showRule).map Value.list)
  | .checkRule form => ofQuery s ((s.ruleProblems form).map Store.showVerdict)
  | .createRule form =>
    ofChange isRefused (s.createRule form) fun _ r => Store.showNewRule r
  | .showRule ruleId => ofQuery? s ((s.get RuleRecord ruleId .rule).map s.showRule)
  | .setRuleActive ruleId form =>
    ofChange isRefused (s.setRuleActive ruleId form) Store.showRule
  | .previewRule ruleId form =>
    ofQuery s ((s.previewRule ruleId form).map (Value.listed awardDocument))
  | .listVariables teamId => ofQuery s ((s.variablesByKey teamId).map Store.showVariables)
  | .createVariable form =>
    ofChange isRefused (s.createVariable form) fun _ v => v.view.document
  | .setVariableActive variableId form =>
    ofChange isRefused (s.setVariableActive variableId form) fun _ v => v.view.document
  | .deleteVariable variableId =>
    ofChange isRefused (s.deleteVariable variableId) fun _ _ => Value.null
  | .listProfiles clubId =>
    ofQuery? s ((s.profilesByName clubId).map fun profiles =>
      (profiles.mapM s.showProfile).map Value.list)
  | .createProfile form =>
    ofChange isRefused (s.createProfile form) fun s p => s.showProfile p
  | .showProfile profileId =>
    ofQuery? s ((s.get ProfileRecord profileId .profile).map s.showProfile)
  | .leaderboard pointType clubId teamId =>
    ofQuery s ((s.leaderboard pointType clubId teamId).map
      (Value.listed StandingView.document))

def Action.serve (policy : Policy) (isRefused : Bool) (s : Store) (a : Action) : Answer × Store :=
  match a.run policy isRefused s with
  | .error cause => (Answer.ofCause a.refusalStatus cause, s)
  | .ok outcome =>
    match outcome.shown with
    | some v => (.shown a.successStatus v.presentable, outcome.store)
    | none => (.failed, outcome.store)

/-- Answers a request. A commit may be refused while it is served. To a request for the head of an
answer nothing is shown. -/
def Request.serve (policy : Policy) (isRefused : Bool) (s : Store) (r : Request) :
    Answer × Store :=
  match r.action with
  | .error answer => (if r.method = .head then answer.bare else answer, s)
  | .ok a => a.serve policy isRefused s

end ClubPoints
