import ClubPoints.Form.Setup
import ClubPoints.Service.Loading
import ClubPoints.Text.LetterCase

/-!
# Setting up clubs, teams, players, matches and variables

Names are stored without blanks at the ends and with single blanks inside. A name is taken if a
stored one with its basic letters in lower case equals the new one with all its letters in lower
case.
-/

namespace ClubPoints

open Form

def namesClash (stored new : String) : Bool := Text.lowerBasic stored == Text.lower new

def textBefore (a b : String) : Bool := (compare a b).isLE

namespace Store

/-! ## Clubs -/

def clubsByName (s : Store) : List ClubRecord :=
  s.clubs.mergeSort fun a b => textBefore a.name b.name

def addition (s : Store) {R : Type} [Table R] (r : R) : Change R where
  write := (s.insert r).map fun (s, r) => (s, Table.kept r)

def createClub (s : Store) (form : ClubForm) : Except Cause (Change ClubRecord) :=
  let name := Text.squeeze form.name
  if name = "" then .error (.refused .emptyClubName)
  else if s.clubs.any fun c => namesClash c.name name then .error (.refused .clubNameTaken)
  else .ok (s.addition { name : ClubRecord })

/-! ## Teams -/

def teamsByName (s : Store) (clubId : Option Int) : Except Cause (List TeamRecord) := do
  checkFilter clubId
  let chosen := s.teams.filter fun t => clubId.all fun id => t.clubId == id
  return chosen.mergeSort fun a b => textBefore a.name b.name

def createTeam (s : Store) (form : TeamForm) : Except Cause (Change TeamRecord) := do
  let name := Text.squeeze form.name
  if name = "" then throw (.refused .emptyTeamName)
  let club ← s.get ClubRecord form.clubId .club
  if s.teams.any fun t => t.clubId == club.id && namesClash t.name name then
    throw (.refused .teamNameTaken)
  return s.addition { name, clubId := club.id : TeamRecord }

def revision (s : Store) {R : Type} [Table R] (r : R) : Change R where
  write := (s.update r).map fun s => (s, Table.kept r)

def setTeamProfile (s : Store) (teamId : Int) (form : TeamProfileForm) :
    Except Cause (Change TeamRecord) := do
  let team ← s.get TeamRecord teamId .team
  if let some profileId := form.profileId then
    let profile ← s.get ProfileRecord profileId .profile
    if profile.clubId ≠ team.clubId then throw (.refused .profileOfOtherClub)
  return s.revision { team with defaultProfileId := form.profileId }

/-! ## Players -/

def playersByName (s : Store) (teamId : Option Int) : Except Cause (List PlayerRecord) := do
  checkFilter teamId
  let chosen := s.players.filter fun p => teamId.all fun id => p.teamId == id
  return chosen.mergeSort fun a b =>
    (compareLex (compareOn PlayerRecord.teamId) (compareOn PlayerRecord.name) a b).isLE

def createPlayer (s : Store) (form : PlayerForm) : Except Cause (Change PlayerRecord) := do
  let name := Text.squeeze form.name
  if name = "" then throw (.refused .emptyPlayerName)
  let team ← s.get TeamRecord form.teamId .team
  if s.players.any fun p => p.teamId == team.id && namesClash p.name name then
    throw (.refused .playerNameTaken)
  return s.addition { name, position := form.position, teamId := team.id : PlayerRecord }

/-! ## Matches -/

def matchesOf (s : Store) (teamId : Option Int) (status : Option MatchStatus) :
    Except Cause (List MatchRecord) := do
  checkFilter teamId
  return s.games.filter fun m =>
    (teamId.all fun id => m.teamId == id) && status.all fun x => decide (m.status = x)

def createMatch (s : Store) (form : FixtureForm) : Except Cause (Change MatchRecord) := do
  let opponent := Text.squeeze form.opponent
  if opponent = "" then throw (.refused .emptyOpponent)
  let team ← s.get TeamRecord form.teamId .team
  return s.addition { teamId := team.id, opponent : MatchRecord }

/-! ## Variables -/

def variablesByKey (s : Store) (teamId : Int) : Except Cause (List VariableRecord) := do
  let team ← s.get TeamRecord teamId .team
  return (s.variablesOf team.id).mergeSort fun a b => textBefore a.key b.key

def createVariable (s : Store) (form : VariableForm) : Except Cause (Change VariableRecord) := do
  let team ← s.get TeamRecord form.teamId .team
  if Variable.isBuiltInKey form.key then throw (.refused (.keyBuiltIn form.key))
  if (s.variablesOf team.id).any fun v => v.key == form.key then throw (.refused .keyTaken)
  return s.addition {
    teamId := team.id
    key := form.key
    label := Text.squeeze form.label
    description := Text.strip form.description
    scope := form.scope
    dataType := form.dataType
    defaultValue := form.defaultValue.getD .zero : VariableRecord }

def setVariableActive (s : Store) (id : Int) (form : ActivityForm) :
    Except Cause (Change VariableRecord) := do
  let row ← s.get VariableRecord id .variable
  return s.revision { row with isActive := form.isActive }

def mentions (s : Store) (r : RuleRecord) (key : String) : Bool :=
  r.multiplier == some key ||
    s.conditions.any fun c => c.ruleId == r.id && (c.key == key || c.otherKey == some key)

def rulesUsing (s : Store) (teamId : Int) (key : String) : List String :=
  let names := ((s.ruleRecordsOf teamId).filter fun r => s.mentions r key).map RuleRecord.name
  (names.mergeSort textBefore).eraseReps

def deleteVariable (s : Store) (id : Int) : Except Cause (Change Unit) := do
  let row ← s.get VariableRecord id .variable
  let users := s.rulesUsing row.teamId row.key
  if !users.isEmpty then throw (.refused (.variableInUse row.key users))
  return { write := .ok (s.remove fun v : VariableRecord => v.id == id, ()) }

end Store

end ClubPoints
