import ClubPoints.Text.Blank
import ClubPoints.Value.Conversion

/-!
# Values as lists, keys and texts

How a field of unknown kind is taken: as a list of items, as a key to look up, as a text that may be
blank.
-/

namespace ClubPoints.Value

/-- The items of a value that stands for a list: the characters of a text, the keys of an object,
and no items at all for a value that is not given. -/
def items (v : Value) : Except Fault (List Value) :=
  match v with
  | .list items => .ok items
  | .object fields => .ok (fields.map fun (key, _) => .text key)
  | v =>
    match v.text? with
    | some s => .ok (s.toList.map fun c => .text (String.singleton c))
    | none => if v.isGiven then .error (.noItems v.kind) else .ok []

def checkKey : Value → Except Fault Unit
  | .list _ => .error (.noKey "list")
  | .object _ => .error (.noKey "dict")
  | _ => .ok ()

def isText (v : Value) (s : String) : Bool := v.text? == some s

def isBlank (v : Value) : Bool :=
  match v with
  | .text s => (Text.trim Text.isBlank s.toList).isEmpty
  | v => !v.isGiven

end ClubPoints.Value
