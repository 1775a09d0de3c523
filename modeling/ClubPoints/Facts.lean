import ClubPoints.Variable

/-!
# Facts of one match

What is known of a match and of each player in it. Goals, position and participation have fields of
their own and win over a custom value of the same name.
-/

namespace ClubPoints

structure MatchFacts where
  goalsFor : Int := 0
  goalsAgainst : Int := 0
  values : List (String × Value) := []

/-- Whether a player took part may be left open. -/
structure PlayerFacts where
  playerId : Int
  position : Position := .fallback
  played : Option Bool := some true
  values : List (String × Value) := []

def MatchFacts.fact (f : MatchFacts) (key : String) : Value :=
  if key = "goalsFor" then .whole f.goalsFor
  else if key = "goalsAgainst" then .whole f.goalsAgainst
  else (f.values.lookup key).getD .null

def PlayerFacts.fact (f : PlayerFacts) (key : String) : Value :=
  if key = "position" then .position f.position
  else if key = "played" then (f.played.map Value.truth).getD .null
  else (f.values.lookup key).getD .null

/-- What a condition is judged by: the facts of the match, those of one player if there is one, and
the variables that the names stand for. -/
structure Situation where
  registry : Registry
  game : MatchFacts
  player : Option PlayerFacts

namespace Situation

def facts? (s : Situation) : Scope → Option (String → Value)
  | .ofMatch => some s.game.fact
  | .ofPlayer => s.player.map PlayerFacts.fact

end Situation

end ClubPoints
