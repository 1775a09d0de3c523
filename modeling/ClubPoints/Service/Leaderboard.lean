import ClubPoints.Service.Showing

/-!
# The leaderboard

Every player with points of the asked type has a place, by total from the most and then by name. The
places are numbered from one.
-/

namespace ClubPoints

open View

structure Scorer where
  player : PlayerRecord
  team : TeamRecord
  entries : List EntryRecord

structure Tallied where
  player : PlayerRecord
  team : TeamRecord
  total : Int
  matchesPlayed : Nat

namespace Tallied

def before (a b : Tallied) : Bool :=
  (compareLex (compareOn fun x : Tallied => -x.total) (compareOn fun x => x.player.name) a b).isLE

def view (t : Tallied) (rank : Nat) : StandingView where
  rank := rank
  playerId := t.player.id
  playerName := t.player.name
  teamId := t.team.id
  teamName := t.team.name
  position := t.player.position.name
  total := t.total
  matchesPlayed := t.matchesPlayed
  pointsPerMatch := Binary64.ofRatio t.total t.matchesPlayed

end Tallied

def Scorer.tallied? (x : Scorer) : Option Tallied := do
  return {
    player := x.player
    team := x.team
    total := ← EntryRecord.total? x.entries
    matchesPlayed := (x.entries.map EntryRecord.matchId).eraseDups.length }

namespace Store

def entriesFor (s : Store) (playerId : Int) (pointType : PointType) : List EntryRecord :=
  s.entries.filter fun e => e.playerId == playerId && decide (e.pointType = pointType)

def scorer? (s : Store) (pointType : PointType) (player : PlayerRecord) : Option Scorer := do
  let team ← s.teams.find? fun t => t.id == player.teamId
  let entries := s.entriesFor player.id pointType
  if entries.isEmpty then none else some { player, team, entries }

def leaderboard (s : Store) (pointType : PointType) (clubId teamId : Option Int) :
    Except Cause (List StandingView) := do
  checkFilter clubId
  checkFilter teamId
  let scorers := (s.players.filterMap (s.scorer? pointType)).filter fun x =>
    (clubId.all fun id => x.team.clubId == id) && teamId.all fun id => x.team.id == id
  match scorers.mapM Scorer.tallied? with
  | some board =>
    -- Namesakes with equal totals stand in the order of their numbers here. The rows of the ledger
    -- come in no order, so which of them is first there is left to the database.
    return ((board.mergeSort Tallied.before).zipIdx 1).map fun (t, rank) => t.view rank
  | none => throw .notShown

end Store

end ClubPoints
