import ClubPoints.Facts
import ClubPoints.Position.Reading

/-!
# Conditions

A condition compares a variable with a literal or with another variable of the same scope. Truth
values and texts are only ever equal or unequal; everything else is compared as real numbers, and
what is no number satisfies nothing.
-/

namespace ClubPoints

inductive Operator where
  | greater
  | equal
  | less
  | greaterEqual
  | lessEqual
  | unequal
deriving DecidableEq, Repr

namespace Operator

def symbol : Operator → String
  | .greater => ">"
  | .equal => "=="
  | .less => "<"
  | .greaterEqual => ">="
  | .lessEqual => "<="
  | .unequal => "!="

def all : List Operator := [.greater, .equal, .less, .greaterEqual, .lessEqual, .unequal]

def ofSymbol? (s : String) : Option Operator := all.find? fun op => op.symbol == s

def holdsOfReals : Operator → Binary64 → Binary64 → Bool
  | .greater, x, y => y.lt x
  | .equal, x, y => x.same y
  | .less, x, y => x.lt y
  | .greaterEqual, x, y => y.le x
  | .lessEqual, x, y => x.le y
  | .unequal, x, y => !x.same y

def holdsOfEquality : Operator → Bool → Bool
  | .equal, same => same
  | .unequal, same => !same
  | _, _ => false

end Operator

def Value.isUnordered : Value → Bool
  | .truth _ | .text _ | .brokenText | .position _ | .member _ => true
  | _ => false

/-- The real number of an operand; none if the value is no number. -/
def Value.operand? (v : Value) : Except Fault (Option Binary64) :=
  match v.toReal with
  | .ok x => .ok (some x)
  | .error .wholeTooLarge => .error .wholeTooLarge
  | .error _ => .ok none

def Operator.compare (op : Operator) (actual expected : Value) : Except Fault Bool :=
  if actual.isUnordered || expected.isUnordered then
    .ok (op.holdsOfEquality (actual.same expected))
  else do
    match ← actual.operand? with
    | none => return false
    | some x =>
      match ← expected.operand? with
      | none => return false
      | some y => return op.holdsOfReals x y

structure Condition where
  key : String
  operator : Operator
  value : Value := .whole 0
  scope : Scope := .ofPlayer
  otherKey : Option String := none

namespace Condition

/-- The variable compared with; an empty name is none. -/
def other? (c : Condition) : Option String :=
  c.otherKey.filter (· ≠ "")

def resolves (c : Condition) (r : Registry) : Bool :=
  (r.resolve? c.key c.scope).isSome &&
    c.other?.all fun key => (r.resolve? key c.scope).isSome

/-- The value that the variable is compared with. Against the variable `position` a literal is a
position code. -/
def expected (c : Condition) (r : Registry) (fact : String → Value) : Except Fault Value :=
  match c.other? with
  | some key => .ok (r.lookup key c.scope fact)
  | none =>
    if c.key = "position" then (Position.decode c.value).map .position else .ok c.value

/-- The two values that are compared. There are none without facts of the scope or when a name does
not resolve. -/
def operands? (c : Condition) (s : Situation) : Except Fault (Option (Value × Value)) :=
  match s.facts? c.scope with
  | none => .ok none
  | some fact =>
    if c.resolves s.registry then do
      let expected ← c.expected s.registry fact
      return some (s.registry.lookup c.key c.scope fact, expected)
    else .ok none

def holds (c : Condition) (s : Situation) : Except Fault Bool := do
  match ← c.operands? s with
  | none => return false
  | some (actual, expected) => c.operator.compare actual expected

/-- Whether all conditions hold; nothing is judged after the first that does not. -/
def allHold (s : Situation) : List Condition → Except Fault Bool
  | [] => .ok true
  | c :: rest => do
    if ← c.holds s then allHold s rest else return false

def describe (c : Condition) (s : Situation) : Except Fault String := do
  match ← c.operands? s with
  | none => return ""
  | some (actual, expected) =>
    let op := c.operator.symbol
    match c.other? with
    | some other =>
      return s!"{c.key} {op} {other} ({actual.display} {op} {expected.display})"
    | none => return s!"{c.key} {op} {expected.display} (actual: {actual.display})"

end Condition

end ClubPoints
