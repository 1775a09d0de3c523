import ClubPoints.Form.Checked
import ClubPoints.Form.Numeral
import ClubPoints.Measure
import ClubPoints.Text.LetterCase
import ClubPoints.Word

/-!
# Fields of forms

A reader accepts what stands for its kind without loss: a whole number may come as a real one without
a fraction, as a numeral or as a truth value.
-/

namespace ClubPoints.Form

/-! ## Single values -/

def wholeOfReal (x : Binary64) : Checked Int :=
  match x.truncate? with
  | none => .fault .wholeNotFinite (.real x)
  | some n =>
    if !x.isIntegral then .fault .wholeWithFraction (.real x)
    else if -wordLimit < n ∧ n < wordLimit then .valid n else .fault .wholeTooLong (.real x)

def WholeFault.kind : WholeFault → FaultKind
  | .unreadable => .wholeUnreadable
  | .tooLong => .wholeTooLong

def anyWhole (v : Value) : Checked Int :=
  match v with
  | .truth b => .valid (if b then 1 else 0)
  | .whole n => .valid n
  | .real x => wholeOfReal x
  | v =>
    match v.text? with
    | none => .fault .wholeType v
    | some s =>
      match wholeNumeral s with
      | .ok n => .valid n
      | .error fault => .fault fault.kind v

inductive Limit where
  | above (n : Int)
  | atLeast (n : Int)
  | atMost (n : Int)

def Limit.check (limit : Limit) (found : Value) (x : Int) : Checked Int :=
  match limit with
  | .above n => if n < x then .valid x else .fault .notGreater found
  | .atLeast n => if n ≤ x then .valid x else .fault .tooSmall found
  | .atMost n => if x ≤ n then .valid x else .fault .tooLarge found

def whole (limits : List Limit) (v : Value) : Checked Int :=
  limits.foldl (fun x limit => x.andThen (limit.check v)) (anyWhole v)

def rowId : Value → Checked Int := whole [.above 0]

def count : Value → Checked Int := whole [.atLeast 0]

def real (v : Value) : Checked Binary64 :=
  match v with
  | .truth b => .valid (Binary64.ofQuotient false (if b then 1 else 0) 1)
  | .whole n =>
    match Binary64.ofInt? n with
    | some x => .valid x
    | none => .fault .realType v
  | .real x => .valid x
  | v =>
    match v.text? with
    | none => .fault .realType v
    | some s =>
      match realNumeral? s with
      | some x => .valid x
      | none => .fault .realUnreadable v

def truthWord? (s : String) : Option Bool :=
  let word := Text.lowerBasic s
  if ["1", "on", "t", "true", "y", "yes"].contains word then some true
  else if ["0", "off", "f", "false", "n", "no"].contains word then some false
  else none

def truthOfWhole (found : Value) (n : Int) : Checked Bool :=
  if n = 0 then .valid false
  else if n = 1 then .valid true
  else .fault (if fitsWord n then .truthUnreadable else .truthType) found

def truth (v : Value) : Checked Bool :=
  match v with
  | .truth b => .valid b
  | .whole n => truthOfWhole v n
  | .real x =>
    match wholeOfReal x with
    | .valid n => truthOfWhole v n
    | .invalid _ => .fault .truthType v
  | v =>
    match v.text? with
    | none => .fault .truthType v
    | some s =>
      match truthWord? s with
      | some b => .valid b
      | none => .fault .truthUnreadable v

def text (v : Value) : Checked String :=
  match v.text? with
  | some s => .valid s
  | none => .fault .textType v

def textBetween (least most : Nat) (v : Value) : Checked String :=
  (text v).andThen fun s =>
    if s.length < least then .fault .textTooShort v
    else if most < s.length then .fault .textTooLong v
    else .valid s

def textOfLeast (least : Nat) (v : Value) : Checked String :=
  (text v).andThen fun s => if s.length < least then .fault .textTooShort v else .valid s

def isIdentifier (s : String) : Bool :=
  match s.toList with
  | [] => false
  | c :: rest => c.isAlpha && rest.all fun d => d.isAlphanum || d = '_'

def identifier (most : Nat) (v : Value) : Checked String :=
  (textBetween 1 most v).andThen fun s => if isIdentifier s then .valid s else .fault .textPattern v

def choice {α : Type} (ofName? : String → Option α) (v : Value) : Checked α :=
  match v.text?.bind ofName? with
  | some x => .valid x
  | none => .fault .notAmongChoices v

def optional {α : Type} (read : Value → Checked α) (v : Value) : Checked (Option α) :=
  if v.isNull then .valid none else (read v).map some

/-! ## Measures -/

/-- Complaints about a value that is none of several kinds, each under the name of the kind. -/
def noneOf {α : Type} (kinds : List (String × FaultKind)) (found : Value) : Checked α :=
  .invalid (kinds.map fun (name, kind) => { kind, place := [.field name], found })

/-- A numeral is a real number if it can be read as one, and otherwise a whole one. -/
def measureOfText (s : String) : Checked Measure :=
  match realNumeral? s, wholeNumeral s, truthWord? s with
  | some x, _, _ => .valid (Measure.real x).spelled
  | none, .ok n, _ => .valid (.whole n)
  | none, .error _, some b => .valid (.truth b)
  | none, .error fault, none =>
    noneOf [("float", .realUnreadable), ("int", fault.kind), ("bool", .truthUnreadable)] (.text s)

def measure (v : Value) : Checked Measure :=
  match v with
  | .real x => .valid (.real x)
  | .whole n => .valid (.whole n)
  | .truth b => .valid (.truth b)
  | v =>
    match v.text? with
    | some s => measureOfText s
    | none => noneOf [("float", .realType), ("int", .wholeType), ("bool", .truthType)] v

def measures (v : Value) : Checked (List (String × Measure)) :=
  match v with
  | .object fields =>
    Checked.all (fun _ (key, x) => ((measure x).map fun m => (key, m)).under (.field key)) 0 fields
  | v => .fault .noTable v

/-! ## Lists and records -/

def listOf {α : Type} (read : Value → Checked α) (v : Value) : Checked (List α) :=
  match v with
  | .list items => Checked.all (fun n x => (read x).under (.index n)) 0 items
  | v => .fault .noList v

/-- What a value without fields is blamed for. A document has to be an object; a record may also be
a member of a family of names. -/
inductive Shape where
  | document
  | record
deriving DecidableEq

def Shape.fault : Shape → FaultKind
  | .document => .noObject
  | .record => .noRecord

abbrev Fields := List (String × Value)

def Shape.fields? (shape : Shape) (v : Value) : Option Fields :=
  match shape, v with
  | _, .object fields => some fields
  | .record, v => v.fields?
  | .document, _ => none

def object {α : Type} (shape : Shape) (build : Fields → Checked α) (v : Value) : Checked α :=
  match shape.fields? v with
  | some fields => build fields
  | none => .fault shape.fault v

namespace Fields

variable {α : Type}

def required (fields : Fields) (name : String) (read : Value → Checked α) : Checked α :=
  match fields.lookup name with
  | some v => (read v).under (.field name)
  | none => .invalid [{ kind := .missing, place := [.field name], found := .object fields }]

def defaulted (fields : Fields) (name : String) (default : α) (read : Value → Checked α) :
    Checked α :=
  match fields.lookup name with
  | some v => (read v).under (.field name)
  | none => .valid default

end Fields

end ClubPoints.Form
