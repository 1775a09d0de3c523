import ClubPoints.Binary64.Basic
import ClubPoints.Position.Basic

/-!
# Values

Numbers come in two kinds, whole and real, and the kinds are kept apart until a comparison brings them
together. A truth value counts as the number one or zero, and a position or another member of a
family of names as the text of its name.
-/

namespace ClubPoints

inductive Number where
  | whole (n : Int)
  | real (x : Binary64)
deriving DecidableEq

def Number.same : Number → Number → Bool
  | .whole m, .whole n => decide (m = n)
  | .whole m, .real y => y.isWhole m
  | .real x, .whole n => x.isWhole n
  | .real x, .real y => x.same y

inductive Value where
  | null
  | truth (b : Bool)
  | whole (n : Int)
  | real (x : Binary64)
  | text (s : String)
  /-- A text with half of a surrogate pair, which cannot be written down. -/
  | brokenText
  | position (p : Position)
  /-- A member of a family of names other than the positions. -/
  | member (name : String)
  | list (items : List Value)
  | object (fields : List (String × Value))
deriving Inhabited

namespace Value

def nullable {α : Type} (ofPresent : α → Value) (x : Option α) : Value :=
  (x.map ofPresent).getD .null

def text? : Value → Option String
  | .text s => some s
  | .position p => some p.name
  | .member name => some name
  | _ => none

def number? : Value → Option Number
  | .truth b => some (.whole (if b then 1 else 0))
  | .whole n => some (.whole n)
  | .real x => some (.real x)
  | _ => none

def isTruth : Value → Bool
  | .truth _ => true
  | _ => false

def isNull : Value → Bool
  | .null => true
  | _ => false

/-- Equality of two values of which none is a list or an object; those equal nothing. Neither does a
broken text, not even itself: what it was made of is not kept, so that two of them cannot be told
apart. -/
def same (a b : Value) : Bool :=
  match a.text?, b.text? with
  | some s, some t => s == t
  | some _, none => false
  | none, some _ => false
  | none, none =>
    match a.number?, b.number? with
    | some m, some n => m.same n
    | _, _ => a.isNull && b.isNull

mutual

/-- Equality of any two values: of lists item by item, of objects field by field in any order. -/
def equals : Value → Value → Bool
  | .list a, .list b => itemsEqual a b
  | .object a, .object b => a.length == b.length && fieldsEqual a b
  | a, b => a.same b

def itemsEqual : List Value → List Value → Bool
  | [], [] => true
  | v :: rest, w :: others => v.equals w && itemsEqual rest others
  | _, _ => false

def fieldsEqual : List (String × Value) → List (String × Value) → Bool
  | [], _ => true
  | (key, v) :: rest, others =>
    (match others.lookup key with
    | some w => v.equals w
    | none => false) && fieldsEqual rest others

end

/-- Whether the value counts as given: null, zero, the empty text and the empty list do not. -/
def isGiven : Value → Bool
  | .null => false
  | .truth b => b
  | .whole n => n != 0
  | .real x => x.isNonzero
  | .text s => s != ""
  | .brokenText => true
  | .position _ => true
  | .member _ => true
  | .list items => !items.isEmpty
  | .object fields => !fields.isEmpty

mutual

def plain : Value → Value
  | .position p => .text p.name
  | .member name => .text name
  | .list items => .list (plainAll items)
  | .object fields => .object (plainFields fields)
  | v => v

def plainAll : List Value → List Value
  | [] => []
  | v :: rest => v.plain :: plainAll rest

def plainFields : List (String × Value) → List (String × Value)
  | [] => []
  | (key, v) :: rest => (key, v.plain) :: plainFields rest

end

/-- What a member of a family of names has for fields. It counts the parts of its text, which is no
number and no text. -/
def memberFields (name : String) : List (String × Value) := [
  ("name", .text name), ("value", .text name), ("count", .object [])]

def fields? : Value → Option (List (String × Value))
  | .object fields => some fields
  | .position p => some (memberFields p.name)
  | .member name => some (memberFields name)
  | _ => none

/-- The value under a key; null when there is none, or when the value has no fields. -/
def field (v : Value) (key : String) : Value :=
  ((v.fields?.getD []).lookup key).getD .null

end Value

end ClubPoints
