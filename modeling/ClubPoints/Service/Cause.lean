import ClubPoints.Draft
import ClubPoints.Store.Basic

/-!
# Why a request is not carried out

Either something it names is not there, or the request is refused, or the rule it brings is unsound,
or carrying it out fails. `Cause.message` is the one place where the wording stands.
-/

namespace ClubPoints

inductive Missing where
  | club
  | team
  | game
  | rule
  | variable
  | profile
  | ruleNumber (id : Int)
deriving DecidableEq

def Missing.message : Missing → String
  | .club => "Club not found."
  | .team => "Team not found."
  | .game => "Match not found."
  | .rule => "Rule not found."
  | .variable => "Variable not found."
  | .profile => "Rules profile not found."
  | .ruleNumber id => s!"Rule {id} not found."

inductive Refusal where
  | emptyClubName
  | emptyTeamName
  | emptyPlayerName
  | emptyOpponent
  | clubNameTaken
  | teamNameTaken
  | playerNameTaken
  | profileOfOtherClub
  | keyBuiltIn (key : String)
  | keyTaken
  | variableInUse (key : String) (rules : List String)
  | targetOfOtherTeam
  | ruleRepeated
  | ruleOfOtherClub (id : Int)
  | playerNotOnTeam (id : Int)
  | statsRepeated (id : Int)
  | ruleOfOtherTeam (id : Int)
  | assignmentRepeated (playerId ruleId : Int)
deriving DecidableEq

def Refusal.message : Refusal → String
  | .emptyClubName => "Club name cannot be empty."
  | .emptyTeamName => "Team name cannot be empty."
  | .emptyPlayerName => "Player name cannot be empty."
  | .emptyOpponent => "Opponent cannot be empty."
  | .clubNameTaken => "A club with this name already exists."
  | .teamNameTaken => "A team with this name already exists in this club."
  | .playerNameTaken => "A player with this name already exists for this team."
  | .profileOfOtherClub => "Rules profile belongs to a different club."
  | .keyBuiltIn key => s!"'{key}' is a built-in variable and cannot be redefined."
  | .keyTaken => "A variable with this key already exists for this team."
  | .variableInUse key rules =>
    s!"Variable '{key}' is used by rules: " ++ ", ".intercalate rules ++ "."
  | .targetOfOtherTeam => "Target player must belong to the rule's team."
  | .ruleRepeated => "Each rule can appear only once in a profile."
  | .ruleOfOtherClub id => s!"Rule {id} belongs to a different club."
  | .playerNotOnTeam id => s!"Player {id} is not on this team."
  | .statsRepeated id => s!"Duplicate stats supplied for player {id}."
  | .ruleOfOtherTeam id => s!"Rule {id} does not belong to this team."
  | .assignmentRepeated playerId ruleId =>
    s!"Duplicate manual assignment for player {playerId} and rule {ruleId}."

inductive Cause where
  | missing (what : Missing)
  | refused (why : Refusal)
  | unsoundRule (problems : List DraftProblem)
  | notCompleted (matchId : Int)
  | faulty (fault : Fault)
  | notStored (fault : StoreFault)
  | commitRefused
  /-- A stored row is not what is shown of its kind. -/
  | notShown
deriving DecidableEq

def Cause.message : Cause → String
  | .missing what => what.message
  | .refused why => why.message
  | .unsoundRule problems => "; ".intercalate (problems.map DraftProblem.message)
  | .notCompleted matchId => s!"Failed to complete match {matchId}."
  | .faulty fault => fault.message
  | .notStored fault => fault.message
  | .commitRefused => "The change was not committed."
  | .notShown => "The row cannot be shown."

def Cause.judge {α : Type} (x : Except Fault α) : Except Cause α := x.mapError .faulty

/-! ## Looking up rows -/

namespace Store

def checkWord (id : Int) : Except Cause Unit :=
  if fitsWord id then .ok () else .error (.notStored .wholeTooLarge)

def checkFilter (id : Option Int) : Except Cause Unit :=
  match id with
  | some id => checkWord id
  | none => .ok ()

def lookup (s : Store) (R : Type) [Table R] (id : Int) : Except Cause (Option R) := do
  checkWord id
  return s.find? id

def get (s : Store) (R : Type) [Table R] (id : Int) (what : Missing) : Except Cause R := do
  match ← s.lookup R id with
  | some r => return r
  | none => .error (.missing what)

end Store

/-! ## Changes -/

/-- A change that is ready to be committed: the store it leads to, with what is shown of it, and the
causes that stand for a commit that is refused or fails. -/
structure Change (α : Type) where
  write : Except StoreFault (Store × α)
  whenRefused : Cause := .commitRefused
  whenFaulty : StoreFault → Cause := .notStored

def Change.commit {α : Type} (c : Change α) (isRefused : Bool) : Except Cause (Store × α) :=
  if isRefused then .error c.whenRefused else c.write.mapError c.whenFaulty

end ClubPoints
