import ClubPoints.Value.Basic

/-!
# Measures

The values that may be noted of a match or a player beyond the built-in counts: real and whole
numbers and truth values, kept apart.
-/

namespace ClubPoints

inductive Measure where
  | real (x : Binary64)
  | whole (n : Int)
  | truth (b : Bool)
  /-- The absent number, if it was not noted as a number but spelled out. -/
  | spelledNan
deriving DecidableEq

namespace Measure

def value : Measure → Value
  | .real x => .real x
  | .whole n => .whole n
  | .truth b => .truth b
  | .spelledNan => .real .nan

def values (measures : List (String × Measure)) : List (String × Value) :=
  measures.map fun (key, m) => (key, m.value)

def spelled : Measure → Measure
  | .real .nan => .spelledNan
  | m => m

/-- Whether a measure says nothing new about a stored value. The absent number is the stored one,
unless it was spelled out. -/
def repeats (m : Measure) (stored : Value) : Bool :=
  match m, stored with
  | .real .nan, .real .nan => true
  | m, v => m.value.equals v

def allRepeat (measures : List (String × Measure)) : Value → Bool
  | .object fields => measures.length == fields.length &&
    measures.all fun (key, m) => (fields.lookup key).any m.repeats
  | _ => false

end Measure

structure Tally (α : Type) where
  goalsScored : α
  goalAssists : α
  greenCards : α
  yellowCards : α
  redCards : α
  saves : α
  tackles : α
  passes : α
deriving DecidableEq

namespace Tally

def uniform {α : Type} (n : α) : Tally α := ⟨n, n, n, n, n, n, n, n⟩

def zero : Tally Int := uniform 0

def map {α β : Type} (f : α → β) (t : Tally α) : Tally β where
  goalsScored := f t.goalsScored
  goalAssists := f t.goalAssists
  greenCards := f t.greenCards
  yellowCards := f t.yellowCards
  redCards := f t.redCards
  saves := f t.saves
  tackles := f t.tackles
  passes := f t.passes

def mapM? {α β : Type} (f : α → Option β) (t : Tally α) : Option (Tally β) := do
  return {
    goalsScored := ← f t.goalsScored
    goalAssists := ← f t.goalAssists
    greenCards := ← f t.greenCards
    yellowCards := ← f t.yellowCards
    redCards := ← f t.redCards
    saves := ← f t.saves
    tackles := ← f t.tackles
    passes := ← f t.passes }

def facts {α : Type} (t : Tally α) : List (String × α) := [
  ("goalsScored", t.goalsScored), ("goalAssists", t.goalAssists), ("greenCards", t.greenCards),
  ("yellowCards", t.yellowCards), ("redCards", t.redCards), ("saves", t.saves),
  ("tackles", t.tackles), ("passes", t.passes)]

end Tally

end ClubPoints
