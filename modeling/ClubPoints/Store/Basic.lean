import ClubPoints.Fault
import ClubPoints.Store.Record
import ClubPoints.Word

/-!
# The store

A row is accepted if its whole numbers fit a word, its own columns are sound, no other row has its
number or its unique columns and every row it refers to is there; otherwise the store stays as it
is. Rows stand in the order of their numbers.
-/

namespace ClubPoints

structure Store where
  clubs : List ClubRecord := []
  teams : List TeamRecord := []
  players : List PlayerRecord := []
  games : List MatchRecord := []
  stats : List StatRecord := []
  ownVariables : List VariableRecord := []
  rules : List RuleRecord := []
  conditions : List ConditionRecord := []
  profiles : List ProfileRecord := []
  profileRules : List ProfileRuleRecord := []
  entries : List EntryRecord := []

inductive StoreFault where
  | missingValue (table column : String)
  | brokenRule (constraint : String)
  | repeated (table : String) (columns : List String)
  | danglingReference
  | wholeTooLarge
  | unfitNumber
  | unknownColumn (name record : String)
  | faulty (fault : Fault)
  | noTruthNumber (n : Int)
  | noTruth (shown : String)
  /-- A value of this kind cannot be kept in the column that is written at this place. -/
  | unfitKind (place : Nat) (kind : String)
deriving DecidableEq

def StoreFault.message : StoreFault → String
  | .missingValue table column => s!"NOT NULL constraint failed: {table}.{column}"
  | .brokenRule constraint => s!"CHECK constraint failed: {constraint}"
  | .repeated table columns =>
    "UNIQUE constraint failed: " ++ ", ".intercalate (columns.map fun c => s!"{table}.{c}")
  | .danglingReference => "FOREIGN KEY constraint failed"
  | .wholeTooLarge => "Python int too large to convert to SQLite INTEGER"
  | .unfitNumber => "datatype mismatch"
  | .unknownColumn name record => s!"'{name}' is an invalid keyword argument for {record}"
  | .faulty fault => fault.message
  | .noTruthNumber n => s!"Value {n} is not None, True, or False"
  | .noTruth shown => s!"Not a boolean value: {shown}"
  | .unfitKind place kind => s!"Error binding parameter {place}: type '{kind}' is not supported"

/-- Whether the fault is that a whole number does not fit, before any constraint is looked at. -/
def StoreFault.isOverflow (f : StoreFault) : Bool := f == .wholeTooLarge

inductive Reference where
  | club (id : Int)
  | team (id : Int)
  | player (id : Int)
  | game (id : Int)
  | rule (id : Int)
  | profile (id : Int)
deriving DecidableEq

def Store.holds (s : Store) : Reference → Bool
  | .club id => s.clubs.any fun r => r.id == id
  | .team id => s.teams.any fun r => r.id == id
  | .player id => s.players.any fun r => r.id == id
  | .game id => s.games.any fun r => r.id == id
  | .rule id => s.rules.any fun r => r.id == id
  | .profile id => s.profiles.any fun r => r.id == id

class Table (R : Type) where
  name : String
  rows : Store → List R
  setRows : Store → List R → Store
  id : R → Int
  setId : R → Int → R
  /-- The whole numbers of a row besides its own. -/
  words : R → List Int
  fault? : R → Option StoreFault
  uniqueColumns : List String
  clashes : R → R → Bool
  references : R → List Reference
  kept : R → R

namespace Store

variable {R : Type} [Table R]

def find? (s : Store) (id : Int) : Option R :=
  (Table.rows s).find? fun r : R => Table.id r == id

def freeId (s : Store) (R : Type) [Table R] : Int :=
  (Table.rows s : List R).foldl (fun n r => if Table.id r = n then n + 1 else n) 1

/-- The number after the largest, or a free one if a word holds no larger; a first row is number
one. -/
def nextId (s : Store) (R : Type) [Table R] : Int :=
  match (Table.rows s : List R) with
  | [] => 1
  | r :: rest =>
    let next := rest.foldl (fun n r => max n (Table.id r)) (Table.id r) + 1
    if fitsWord next then next else s.freeId R

/-- What keeps a row from standing among others, apart from what it refers to. -/
def fault? (others : List R) (r : R) : Option StoreFault :=
  if (Table.id r :: Table.words r).any fun n => !fitsWord n then some .wholeTooLarge
  else
    match Table.fault? r with
    | some fault => some fault
    | none =>
      if others.any fun x => Table.id x == Table.id r then some (.repeated (Table.name R) ["id"])
      else if others.any fun x => Table.clashes x r then
        some (.repeated (Table.name R) (Table.uniqueColumns R))
      else none

def placed (others : List R) (r : R) : List R :=
  let (lower, upper) := others.span fun x => decide (Table.id x < Table.id r)
  lower ++ Table.kept r :: upper

def put (s : Store) (others : List R) (r : R) : Except StoreFault Store :=
  match fault? others r with
  | some fault => .error fault
  | none =>
    if (Table.references r).all s.holds then .ok (Table.setRows s (placed others r))
    else .error .danglingReference

def insertNumbered (s : Store) (r : R) : Except StoreFault (Store × R) :=
  (s.put (Table.rows s) r).map fun s => (s, r)

/-- Stores a new row; the answer has its number and otherwise the columns as they were given. -/
def insert (s : Store) (r : R) : Except StoreFault (Store × R) :=
  s.insertNumbered (Table.setId r (s.nextId R))

def insertAll (s : Store) : List R → Except StoreFault (Store × List R)
  | [] => .ok (s, [])
  | r :: rest => do
    let (s, numbered) ← s.insert r
    let (s, more) ← s.insertAll rest
    return (s, numbered :: more)

def replace (s : Store) (id : Int) (r : R) : Except StoreFault Store :=
  s.put ((Table.rows s).filter fun x => Table.id x != id) r

def update (s : Store) (r : R) : Except StoreFault Store := s.replace (Table.id r) r

def remove (s : Store) (picks : R → Bool) : Store :=
  Table.setRows s ((Table.rows s).filter fun r => !picks r)

end Store

end ClubPoints
