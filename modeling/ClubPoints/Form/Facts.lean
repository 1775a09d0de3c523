import ClubPoints.Facts
import ClubPoints.Form.Setup
import ClubPoints.Ledger
import ClubPoints.MatchStatus

/-!
# Forms for the facts of a match

What is noted of a match and its players, to try out rules or to complete the match, and the facts
that the rules are judged by. A built-in count wins over a measure of the same name.
-/

namespace ClubPoints.Form

structure StatForm where
  playerId : Int
  tally : Tally Int := .zero
  played : Bool := true
  customValues : List (String × Measure) := []
deriving DecidableEq

def readTally (fields : Fields) : Checked (Tally Int) :=
  let part (name : String) := Fields.defaulted fields name 0 count
  Tally.mk <$> part "goals_scored" <*> part "goal_assists" <*> part "green_cards"
    <*> part "yellow_cards" <*> part "red_cards" <*> part "saves" <*> part "tackles"
    <*> part "passes"

def tallyDocument (t : Tally Int) : Fields := [
  ("goals_scored", .whole t.goalsScored), ("goal_assists", .whole t.goalAssists),
  ("green_cards", .whole t.greenCards), ("yellow_cards", .whole t.yellowCards),
  ("red_cards", .whole t.redCards), ("saves", .whole t.saves), ("tackles", .whole t.tackles),
  ("passes", .whole t.passes)]

namespace StatForm

def read (shape : Shape) : Value → Checked StatForm := object shape fun fields =>
  mk <$> Fields.required fields "player_id" rowId
    <*> readTally fields
    <*> Fields.defaulted fields "played" true truth
    <*> Fields.defaulted fields "custom_values" [] measures

def document (f : StatForm) : Value := .object ([("player_id", .whole f.playerId)] ++
  tallyDocument f.tally ++
  [("played", .truth f.played), ("custom_values", measuresDocument f.customValues)])

def facts (f : StatForm) (position : Position) : PlayerFacts where
  playerId := f.playerId
  position := position
  played := some f.played
  values := f.tally.facts.foldl
    (fun values (key, n) => Keyed.place Prod.fst (key, Value.whole n) values)
    (Measure.values f.customValues)

end StatForm

structure AssignmentForm where
  ruleId : Int
  playerId : Int
  count : Int
deriving DecidableEq

namespace AssignmentForm

def read (shape : Shape) : Value → Checked AssignmentForm := object shape fun fields =>
  mk <$> Fields.required fields "rule_id" rowId
    <*> Fields.required fields "player_id" rowId
    <*> Fields.required fields "count" (whole [.atLeast 0, .atMost 99])

def document (f : AssignmentForm) : Value := .object [
  ("rule_id", .whole f.ruleId), ("player_id", .whole f.playerId), ("count", .whole f.count)]

def assignment (f : AssignmentForm) : Assignment where
  ruleId := f.ruleId
  playerId := f.playerId
  count := f.count

end AssignmentForm

structure FactsForm where
  goalsFor : Int := 0
  goalsAgainst : Int := 0
  customValues : List (String × Measure) := []
  stats : List StatForm := []
deriving DecidableEq

namespace FactsForm

def ofFields (shape : Shape) (fields : Fields) : Checked FactsForm :=
  mk <$> Fields.defaulted fields "goals_for" 0 count
    <*> Fields.defaulted fields "goals_against" 0 count
    <*> Fields.defaulted fields "custom_values" [] measures
    <*> Fields.defaulted fields "player_stats" [] (listOf (StatForm.read shape))

def read (shape : Shape) : Value → Checked FactsForm := object shape (ofFields shape)

def fields (f : FactsForm) : Fields := [
  ("goals_for", .whole f.goalsFor), ("goals_against", .whole f.goalsAgainst),
  ("custom_values", measuresDocument f.customValues),
  ("player_stats", .list (f.stats.map StatForm.document))]

def document (f : FactsForm) : Value := .object f.fields

def facts (f : FactsForm) : MatchFacts where
  goalsFor := f.goalsFor
  goalsAgainst := f.goalsAgainst
  values := Measure.values f.customValues

end FactsForm

def completed? (s : String) : Option MatchStatus :=
  (MatchStatus.ofName? s).filter (· = .completed)

structure CompletionForm where
  facts : FactsForm
  assignments : List AssignmentForm := []
deriving DecidableEq

namespace CompletionForm

def read (shape : Shape) : Value → Checked CompletionForm := object shape fun fields =>
  (fun facts (_ : MatchStatus) assignments => mk facts assignments)
    <$> FactsForm.ofFields shape fields
    <*> Fields.required fields "status" (choice completed?)
    <*> Fields.defaulted fields "manual_assignments" [] (listOf (AssignmentForm.read shape))

def document (f : CompletionForm) : Value := .object (f.facts.fields ++ [
  ("status", .text MatchStatus.completed.name),
  ("manual_assignments", .list (f.assignments.map AssignmentForm.document))])

end CompletionForm

end ClubPoints.Form
