import ClubPoints.Form.Facts
import ClubPoints.Form.Rule
import ClubPoints.Request.Basic

/-!
# Actions

A path that no method knows is not found, and a known path does not allow a method that it does not
know. Complaints about the arguments of the path, the named ones and the document are collected.
-/

namespace ClubPoints

open Form

inductive Action where
  | health
  | listClubs
  | createClub (form : ClubForm)
  | listTeams (clubId : Option Int)
  | createTeam (form : TeamForm)
  | setTeamProfile (teamId : Int) (form : TeamProfileForm)
  | listPlayers (teamId : Option Int)
  | createPlayer (form : PlayerForm)
  | listMatches (teamId : Option Int) (status : Option MatchStatus)
  | createMatch (form : FixtureForm)
  | showMatch (matchId : Int)
  | completeMatch (matchId : Int) (form : CompletionForm)
  | previewMatch (matchId : Int) (profileId : Option Int) (form : FactsForm)
  | showLedger (matchId : Int) (pointType : Option PointType)
  | listAssignments (matchId : Int)
  | listRules (teamId : Int)
  | checkRule (form : RuleForm)
  | createRule (form : RuleForm)
  | showRule (ruleId : Int)
  | setRuleActive (ruleId : Int) (form : ActivityForm)
  | previewRule (ruleId : Int) (form : FactsForm)
  | listVariables (teamId : Int)
  | createVariable (form : VariableForm)
  | setVariableActive (variableId : Int) (form : ActivityForm)
  | deleteVariable (variableId : Int)
  | listProfiles (clubId : Option Int)
  | createProfile (form : ProfileForm)
  | showProfile (profileId : Int)
  | leaderboard (pointType : PointType) (clubId teamId : Option Int)
deriving DecidableEq

namespace Action

def successStatus : Action → Nat
  | .createClub _ | .createTeam _ | .createPlayer _ | .createMatch _ | .createRule _
  | .createVariable _ | .createProfile _ => 201
  | .deleteVariable _ => 204
  | _ => 200

def refusalStatus : Action → Nat
  | .createClub _ | .createTeam _ | .createVariable _ | .deleteVariable _ => 409
  | _ => 400

end Action

/-! ## Reading the arguments -/

namespace Request

def inPath (name raw : String) : Checked Int :=
  ((anyWhole (.text raw)).under (.field name)).under (.field "path")

def inQuery {α : Type} (r : Request) (name : String) (read : Value → Checked α) :
    Checked (Option α) :=
  match r.query.lookup name with
  | some raw => (((read (.text raw)).map some).under (.field name)).under (.field "query")
  | none => .valid none

def requiredInQuery {α : Type} (r : Request) (name : String) (read : Value → Checked α) :
    Checked α :=
  (Fields.required (r.query.map fun (name, raw) => (name, .text raw)) name read).under
    (.field "query")

def selector : Value → Checked Int := Form.whole [.atLeast 1]

end Request

structure Endpoint where
  hasDocument : Bool
  read : Request → Option Value → Checked Action

namespace Endpoint

def plain (read : Request → Checked Action) : Endpoint where
  hasDocument := false
  read r _ := read r

def submitting {F : Type} (form : Shape → Value → Checked F)
    (read : Request → Checked (F → Action)) : Endpoint where
  hasDocument := true
  read r document := read r <*>
    match document with
    | some v => (form .record v).under (.field "body")
    | none => .invalid [{ kind := .missing, place := [.field "body"] }]

open Request in
def find? (method : Method) (segments : List String) : Option Endpoint :=
  match method, segments with
  | .get, ["health"] => plain fun _ => .valid .health
  | .get, ["clubs", ""] => plain fun _ => .valid .listClubs
  | .post, ["clubs", ""] => submitting ClubForm.read fun _ => .valid .createClub
  | .get, ["teams", ""] => plain fun r => .listTeams <$> r.inQuery "club_id" selector
  | .post, ["teams", ""] => submitting TeamForm.read fun _ => .valid .createTeam
  | .put, ["teams", id, "profile"] =>
    submitting TeamProfileForm.read fun _ => .setTeamProfile <$> inPath "team_id" id
  | .get, ["players", ""] => plain fun r => .listPlayers <$> r.inQuery "team_id" selector
  | .post, ["players", ""] => submitting PlayerForm.read fun _ => .valid .createPlayer
  | .get, ["matches", ""] => plain fun r =>
    .listMatches <$> r.inQuery "team_id" selector
      <*> r.inQuery "status" (choice MatchStatus.ofName?)
  | .post, ["matches", ""] => submitting FixtureForm.read fun _ => .valid .createMatch
  | .get, ["matches", id] => plain fun _ => .showMatch <$> inPath "match_id" id
  | .post, ["matches", id, "complete"] =>
    submitting CompletionForm.read fun _ => .completeMatch <$> inPath "match_id" id
  | .post, ["matches", id, "preview"] => submitting FactsForm.read fun r =>
    .previewMatch <$> inPath "match_id" id <*> r.inQuery "profile_id" selector
  | .get, ["matches", id, "ledger"] => plain fun r =>
    .showLedger <$> inPath "match_id" id <*> r.inQuery "point_type" (choice PointType.ofName?)
  | .get, ["matches", id, "assignments"] => plain fun _ =>
    .listAssignments <$> inPath "match_id" id
  | .get, ["rules", ""] => plain fun r => .listRules <$> r.requiredInQuery "team_id" selector
  | .post, ["rules", "validate"] => submitting RuleForm.read fun _ => .valid .checkRule
  | .post, ["rules", ""] => submitting RuleForm.read fun _ => .valid .createRule
  | .get, ["rules", id] => plain fun _ => .showRule <$> inPath "rule_id" id
  | .patch, ["rules", id, "active"] =>
    submitting ActivityForm.read fun _ => .setRuleActive <$> inPath "rule_id" id
  | .post, ["rules", id, "preview"] =>
    submitting FactsForm.read fun _ => .previewRule <$> inPath "rule_id" id
  | .get, ["variables", ""] => plain fun r =>
    .listVariables <$> r.requiredInQuery "team_id" selector
  | .post, ["variables", ""] => submitting VariableForm.read fun _ => .valid .createVariable
  | .patch, ["variables", id, "active"] =>
    submitting ActivityForm.read fun _ => .setVariableActive <$> inPath "variable_id" id
  | .delete, ["variables", ""] => none
  | .delete, ["variables", id] => plain fun _ => .deleteVariable <$> inPath "variable_id" id
  | .get, ["profiles", ""] => plain fun r => .listProfiles <$> r.inQuery "club_id" selector
  | .post, ["profiles", ""] => submitting ProfileForm.read fun _ => .valid .createProfile
  | .get, ["profiles", id] => plain fun _ => .showProfile <$> inPath "profile_id" id
  | .get, ["leaderboard", ""] => plain fun r =>
    (fun pointType => .leaderboard (pointType.getD .team))
      <$> r.inQuery "point_type" (choice PointType.ofName?)
      <*> r.inQuery "club_id" selector <*> r.inQuery "team_id" selector
  | _, _ => none

end Endpoint

namespace Request

/-- The endpoint of a request; a path may be known for other methods only. Only the last part of a
path may be empty. -/
def endpoint (r : Request) : Except Answer Endpoint :=
  match r.segments with
  | "" :: segments =>
    if segments.dropLast.contains "" then .error .notFound
    else match Endpoint.find? r.method segments with
    | some endpoint => .ok endpoint
    | none =>
      if [Method.get, .post, .put, .patch, .delete].any fun m =>
        (Endpoint.find? m segments).isSome then .error .notAllowed else .error .notFound
  | _ => .error .notFound

/-- What the request asks for. A document that cannot be read is complained about before anything
else. -/
def action (r : Request) : Except Answer Action := do
  let endpoint ← r.endpoint
  let document ← if endpoint.hasDocument then r.document? else .ok none
  match endpoint.read r document with
  | .valid action => .ok action
  | .invalid complaints => .error (.ofComplaints complaints)

end Request

end ClubPoints
