import ClubPoints.Ledger
import ClubPoints.Value.Conversion

/-!
# Editing the assignments of a completed match

The rows that a match keeps of its assignments are read back as one count for each player and rule.
Where team and club rows differ the larger count wins, and of equal counts the team's. Older rows
carry their count in their notes only.
-/

namespace ClubPoints

structure StoredEntry where
  playerId : Int
  ruleId : Int
  pointType : PointType
  points : Int
  isManual : Bool := true
  count : Option Int := none
  notes : Option String := none
deriving DecidableEq

structure EditableAssignment where
  ruleId : Int
  playerId : Int
  count : Int
  points : Int
deriving DecidableEq

namespace Editing

/-- A run of digits at the front, if blanks and the word `instances` follow it. -/
def instancesHere? (text : List Char) : Option (List Nat) :=
  let digits := text.takeWhile fun c => (Text.digitValue? c).isSome
  let rest := text.drop digits.length
  let word := rest.dropWhile Text.isBlank
  if !digits.isEmpty && word.length < rest.length && "instances".toList.isPrefixOf word then
    some (digits.filterMap Text.digitValue?)
  else none

def instances? : List Char → Option (List Nat)
  | [] => none
  | c :: rest => (instancesHere? (c :: rest)).or (instances? rest)

/-- The count that notes speak of; notes that speak of none stand for one. -/
def instanceCount (notes : Option String) : Except Fault Int :=
  match notes.bind fun s => instances? s.toList with
  | none => .ok 1
  | some digits =>
    if Numeral.digitLimit < digits.length then .error (.tooManyDigits digits.length)
    else .ok (Text.ofDigits digits)

def entryCount (e : StoredEntry) : Except Fault Int :=
  match e.count with
  | some n => .ok n
  | none => instanceCount e.notes

def pair (e : StoredEntry) : Int × Int := (e.playerId, e.ruleId)

def before (a b : StoredEntry) : Bool :=
  (compareLex (compareOn StoredEntry.playerId) <| compareLex (compareOn StoredEntry.ruleId)
    (compareOn fun e => decide (e.pointType ≠ .team))) a b |>.isLE

abbrev Counted := StoredEntry × Int

/-- An entry takes the place of another of its player and rule only with a larger count. -/
def contest (winners : List Counted) (x : Counted) : List Counted :=
  match Keyed.find? (fun w : Counted => pair w.1) (pair x.1) winners with
  | none => winners ++ [x]
  | some w => if w.2 < x.2 then Keyed.place (fun w : Counted => pair w.1) x winners else winners

def editable (w : Counted) : EditableAssignment where
  ruleId := w.1.ruleId
  playerId := w.1.playerId
  count := w.2
  points := w.1.points

def reconcile (entries : List StoredEntry) : Except Fault (List EditableAssignment) := do
  let ordered := (entries.filter StoredEntry.isManual).mergeSort before
  let counted ← ordered.mapM fun e => (entryCount e).map fun n => (e, n)
  return (counted.foldl contest []).map editable

end Editing

end ClubPoints
