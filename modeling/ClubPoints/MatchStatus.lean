/-!
# The status of a match

A match is pending until it is played and completed once its result is in.
-/

namespace ClubPoints

inductive MatchStatus where
  | pending
  | live
  | completed
deriving DecidableEq, Repr

namespace MatchStatus

def name : MatchStatus → String
  | .pending => "pending"
  | .live => "live"
  | .completed => "completed"

def ofName? (s : String) : Option MatchStatus :=
  [MatchStatus.pending, .live, .completed].find? fun x => x.name == s

end MatchStatus

end ClubPoints
