/-!
# Positions

The four positions on the pitch, their names and their codes. A name or a code stands for exactly
one position (`ofName?_name`, `ofCode?_code`).
-/

namespace ClubPoints

inductive Position where
  | goalkeeper
  | defender
  | midfielder
  | forward
deriving DecidableEq, Repr

namespace Position

def name : Position → String
  | .goalkeeper => "GOALKEEPER"
  | .defender => "DEFENDER"
  | .midfielder => "MIDFIELDER"
  | .forward => "FORWARD"

def code : Position → Int
  | .goalkeeper => 1
  | .defender => 2
  | .midfielder => 3
  | .forward => 4

def all : List Position := [.goalkeeper, .defender, .midfielder, .forward]

def ofName? (s : String) : Option Position := all.find? fun p => p.name == s

def ofCode? (n : Int) : Option Position := all.find? fun p => p.code == n

def fallback : Position := .midfielder

theorem mem_all (p : Position) : p ∈ all := by cases p <;> decide

theorem ofName?_name (p : Position) : ofName? p.name = some p := by cases p <;> decide

theorem ofCode?_code (p : Position) : ofCode? p.code = some p := by cases p <;> decide

end Position

end ClubPoints
