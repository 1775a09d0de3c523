import ClubPoints.Service.Completion

/-!
# The demonstration club

A club with two squads, six rules and two profiles, to have something to look at. The first team is
scored by a profile of its own, and its first match may be completed as well. An empty service seeds
itself, if it is set to.
-/

namespace ClubPoints

open Form

namespace Seed

def clubName : String := "Riverside Hockey Club"

def firstsName : String := "Riverside Firsts"

def squads : List (String × List (Position × List String)) := [
  (firstsName, [
    (.goalkeeper, ["Sam Okafor"]),
    (.defender, ["Priya Nair", "Tom Lewis", "Hana Sato", "Jack Byrne"]),
    (.midfielder, ["Ali Hassan", "Maya Cohen", "Ben Carter"]),
    (.forward, ["Leo Silva", "Nina Petrova", "Omar Haddad"])]),
  ("Riverside Seconds", [
    (.goalkeeper, ["Ella Brooks"]),
    (.defender, ["Ravi Patel", "Chloe Martin", "Dan Walsh"]),
    (.midfielder, ["Zoe Adams", "Kai Jensen", "Lily Evans"]),
    (.forward, ["Finn Murphy", "Ivy Chen"])])]

/-- A rule that asks for at least one of a count and multiplies by it. -/
def perCount (teamId : Int) (name description key : String) (points : Int) : RuleForm where
  teamId := teamId
  name := name
  description := description
  category := .performance
  points := points
  isMultiplier := true
  multiplier := some key
  conditions := [{ key := some key, operator := some .greater, value := some .zero }]

def byHand (teamId : Int) (name description : String) (points : Int) : RuleForm where
  teamId := teamId
  name := name
  description := description
  category := .manual
  points := points

def rules (teamId : Int) : List RuleForm := [
  { teamId
    name := "Win"
    description := "Every player in the squad scores when the team wins."
    category := .result
    points := 3
    conditions := [{
      key := some "goalsFor", operator := some .greater, otherKey := some "goalsAgainst"
      scope := .ofMatch }] },
  { teamId
    name := "Clean Sheet"
    description := "Goalkeepers score when the team concedes nothing."
    category := .result
    points := 4
    targetScope := .byPosition
    targetPositions := [.goalkeeper]
    conditions := [{
      key := some "goalsAgainst", operator := some .equal, value := some .zero
      scope := .ofMatch }] },
  byHand teamId "Goal Scored" "Points for every goal a player scores." 3,
  perCount teamId "Assist" "Points for every assist." "goalAssists" 1,
  perCount teamId "Yellow Card" "Deduction for each yellow card." "yellowCards" (-2),
  byHand teamId "Player of the Match" "Awarded by the captain after the match." 5]

/-- The points that the first team's profile gives instead of a rule's own. -/
def teamPoints (ruleName : String) : Option Int :=
  if ruleName = "Goal Scored" then some 4 else none

def put {α : Type} (change : Except Cause (Change α)) : Except Cause (Store × α) := do
  (← change).commit false

def addPlayers (s : Store) (teamId : Int) (squad : List (Position × List String)) :
    Except Cause Store :=
  let players := squad.flatMap fun (position, names) => names.map fun name => (position, name)
  players.foldlM (fun s (position, name) => do
    let (s, _) ← put (s.createPlayer { name, position, teamId })
    return s) s

def addTeams (s : Store) (clubId : Int) : Except Cause Store :=
  squads.foldlM (fun s (name, squad) => do
    let (s, team) ← put (s.createTeam { name, clubId })
    addPlayers s team.id squad) s

def addRules (s : Store) (teamId : Int) : Except Cause Store :=
  (rules teamId).foldlM (fun s form => do
    let (s, _) ← put (s.createRule form)
    return s) s

def addProfiles (s : Store) (clubId : Int) (rules : List RuleRecord) :
    Except Cause (Store × ProfileRecord) := do
  let (s, _) ← put (s.createProfile {
    clubId
    name := "Club Standard"
    description := "Club-wide scoring used for the club leaderboard."
    isClubDefault := true
    rules := rules.map fun r => { ruleId := r.id } })
  put (s.createProfile {
    clubId
    name := "Firsts Scoring"
    description := "Firsts squad scoring with boosted goals."
    rules := rules.map fun r => { ruleId := r.id, customPoints := teamPoints r.name } })

def firstMatchStat (player : PlayerRecord) : StatForm where
  playerId := player.id
  tally := { Tally.zero with
    goalsScored := if player.name = "Leo Silva" then 2 else 0
    goalAssists := if player.name = "Maya Cohen" then 1 else 0 }

def assign (players : List PlayerRecord) (rules : List RuleRecord) (playerName ruleName : String)
    (count : Int) : List AssignmentForm :=
  players.flatMap fun p => rules.filterMap fun r =>
    if p.name = playerName ∧ r.name = ruleName then
      some { ruleId := r.id, playerId := p.id, count }
    else none

def completeFirstMatch (s : Store) (teamId : Int) (withAutomatic : Bool) : Except Cause Store := do
  let (s, game) ← put (s.createMatch { teamId, opponent := "Harbour Town" })
  let players ← s.playersByName (some teamId)
  let rules := s.ruleRecordsOf teamId
  let facts : FactsForm := { goalsFor := 2, stats := players.map firstMatchStat }
  let assignments := assign players rules "Leo Silva" "Goal Scored" 2 ++
    assign players rules "Sam Okafor" "Player of the Match" 1
  let (s, _) ← put (s.completeMatch game.id { facts, assignments } withAutomatic)
  return s

/-- The store with the demonstration club and nothing else, with or without its first match. -/
def store (withMatch withAutomatic : Bool) : Except Cause Store := do
  let (s, club) ← put (Store.createClub {} { name := clubName })
  let s ← addTeams s club.id
  match s.teams.find? fun t => t.name == firstsName with
  | none => return s
  | some firsts =>
    let s ← addRules s firsts.id
    let (s, profile) ← addProfiles s club.id (s.ruleRecordsOf firsts.id)
    let (s, _) ← put (s.setTeamProfile firsts.id { profileId := some profile.id })
    if withMatch then completeFirstMatch s firsts.id withAutomatic else return s

def ifEmpty (s : Store) (isWanted : Bool) : Except Cause Store :=
  if isWanted && s.clubs.isEmpty then store false true else .ok s

end Seed

end ClubPoints
