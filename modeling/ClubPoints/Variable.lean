import ClubPoints.Keyed
import ClubPoints.Value.Basic

/-!
# Variables and registries

A variable is a named fact of a match or of a player. Twelve are built in; a team adds its own, and
a registry joins the two. A built-in name is never redefined and an inactive variable is not there.
Look-up never fails: a name that resolves to nothing reads as zero.
-/

namespace ClubPoints

inductive Scope where
  | ofMatch
  | ofPlayer
deriving DecidableEq, Repr

def Scope.name : Scope → String
  | .ofMatch => "MATCH"
  | .ofPlayer => "PLAYER"

def Scope.ofName? (s : String) : Option Scope :=
  [Scope.ofMatch, .ofPlayer].find? fun x => x.name == s

inductive DataType where
  | number
  | truth
  | text
deriving DecidableEq, Repr

def DataType.name : DataType → String
  | .number => "number"
  | .truth => "boolean"
  | .text => "string"

def DataType.ofName? (s : String) : Option DataType :=
  [DataType.number, .truth, .text].find? fun x => x.name == s

structure Variable where
  key : String
  label : String
  scope : Scope
  dataType : DataType := .number
  defaultValue : Value := .whole 0
  isBuiltIn : Bool := false
  isActive : Bool := true
  description : String := ""

namespace Variable

def ident (v : Variable) : String × Scope := (v.key, v.scope)

def builtIn (key label : String) (scope : Scope) (description : String)
    (dataType : DataType) : Variable where
  key := key
  label := label
  scope := scope
  dataType := dataType
  defaultValue := match dataType with
    | .number => .whole 0
    | .truth => .truth true
    | .text => .null
  isBuiltIn := true
  description := description

def builtIns : List Variable := [
  builtIn "goalsFor" "Goals For" .ofMatch "Number of goals scored by the team" .number,
  builtIn "goalsAgainst" "Goals Against" .ofMatch "Number of goals conceded by the team" .number,
  builtIn "goalsScored" "Goals Scored" .ofPlayer "Number of goals scored by the player" .number,
  builtIn "goalAssists" "Goal Assists" .ofPlayer "Number of assists by the player" .number,
  builtIn "greenCards" "Green Cards" .ofPlayer "Number of green cards received" .number,
  builtIn "yellowCards" "Yellow Cards" .ofPlayer "Number of yellow cards received" .number,
  builtIn "redCards" "Red Cards" .ofPlayer "Number of red cards received" .number,
  builtIn "saves" "Saves" .ofPlayer "Number of saves made (goalkeepers)" .number,
  builtIn "tackles" "Tackles" .ofPlayer "Number of successful tackles" .number,
  builtIn "passes" "Passes Completed" .ofPlayer "Number of successful passes" .number,
  builtIn "position" "Player Position" .ofPlayer "Player's position category" .text,
  builtIn "played" "Played" .ofPlayer "Whether the player participated in the match" .truth]

def isBuiltInKey (key : String) : Bool :=
  builtIns.any fun v => v.key == key

def absent (v : Variable) : Value :=
  if v.defaultValue.isNull then .whole 0 else v.defaultValue

end Variable

structure Registry where
  custom : List Variable := []

namespace Registry

/-- Of several variables with one name and scope the last counts. -/
def ofVariables (all : List Variable) : Registry where
  custom := Keyed.collect Variable.ident
    (all.filter fun v => !Variable.isBuiltInKey v.key && v.isActive)

def resolve? (r : Registry) (key : String) (scope : Scope) : Option Variable :=
  (Keyed.find? Variable.ident (key, scope) Variable.builtIns).or
    (Keyed.find? Variable.ident (key, scope) r.custom)

/-- The value of a variable, given the facts of its scope; null stands for a fact that is absent. -/
def lookup (r : Registry) (key : String) (scope : Scope) (fact : String → Value) : Value :=
  match r.resolve? key scope with
  | none => .whole 0
  | some v => if (fact key).isNull then v.absent else fact key

def describe (r : Registry) (scope : Option Scope) : List Variable :=
  (Variable.builtIns ++ r.custom).filter fun v => scope.all fun s => decide (v.scope = s)

end Registry

end ClubPoints
