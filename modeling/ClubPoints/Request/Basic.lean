import ClubPoints.Document.Encoding
import ClubPoints.Form.Fields
import ClubPoints.Service.Cause
import ClubPoints.Value.Presentable

/-!
# Requests and answers

A request has a method, a path, named texts and perhaps a document. The answer shows a document
under a status, or lists what is wrong with the arguments, or says no more than that carrying out
the request failed.
-/

namespace ClubPoints

inductive Method where
  | get
  | head
  | post
  | put
  | patch
  | delete
  | other
deriving DecidableEq, Repr

/-- What is sent along: nothing, a text that is to be read, or a document. -/
inductive Body where
  | absent
  | text (s : String)
  | document (v : Value)

structure Request where
  method : Method
  path : String
  query : List (String × String) := []
  body : Body := .absent

inductive Answer where
  | shown (status : Nat) (body : Value)
  | invalid (complaints : List Form.Complaint)
  | failed

namespace Answer

def detail (status : Nat) (text : String) : Answer :=
  .shown status (.object [("detail", .text text)])

def notFound : Answer := detail 404 "Not Found"

def notAllowed : Answer := detail 405 "Method Not Allowed"

def unreadable : Answer := detail 400 "There was an error parsing the body"

/-- The answer to arguments that are complained about. A complaint repeats what was found, so the
request fails if that is not presentable. -/
def ofComplaints (complaints : List Form.Complaint) : Answer :=
  if complaints.all fun c => c.found.isPresentable then .invalid complaints else .failed

def bare : Answer → Answer
  | .shown status _ => .shown status .null
  | answer => answer

def isSuccess : Answer → Bool
  | .shown status _ => decide (status < 300)
  | _ => false

def ofCause (refusalStatus : Nat) (cause : Cause) : Answer :=
  match cause with
  | .missing _ => detail 404 cause.message
  | .refused _ => detail refusalStatus cause.message
  | .unsoundRule problems =>
    .shown 422 (.object [("detail", .list (problems.map fun p => .text p.message))])
  | .notCompleted _ => detail 500 cause.message
  | _ => .failed

end Answer

namespace Request

def segments (r : Request) : List String := (Text.splitAt '/' r.path.toList).map String.ofList

/-- The document that is sent along, if there is one. No member of a family of names is sent as
such. -/
def document? (r : Request) : Except Answer (Option Value) :=
  match r.body with
  | .absent => .ok none
  | .text "" => .ok none
  | .text s =>
    match Document.ofOctets s with
    | .ok v => .ok (some v)
    | .error .malformed =>
      .error (.invalid [{ kind := .unreadableDocument, place := [.field "body"] }])
    | .error _ => .error .unreadable
  | .document v => .ok (some v.plain)

end Request

end ClubPoints
