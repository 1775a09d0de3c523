import ClubPoints.Binary64.Format
import ClubPoints.Text.Quoted
import ClubPoints.Value.Basic

/-!
# Text of a value

`Value.display` is the text of a value inside a sentence; `Value.literal` is its text inside a list
or an object, where texts stand in quotes.
-/

namespace ClubPoints.Value

/-- Real numbers are written positionally from ten thousandths up to `10 ^ 16`, otherwise with an
exponent of at least two digits. -/
def realFormat : RealFormat where
  leastPositional := -4
  positionalLimit := 16
  exponentWidth := 2
  nanText := "nan"
  infinityText := "inf"

def kind : Value → String
  | .null => "NoneType"
  | .truth _ => "bool"
  | .whole _ => "int"
  | .real _ => "float"
  | .text _ | .brokenText | .member _ => "str"
  | .position _ => "Position"
  | .list _ => "list"
  | .object _ => "dict"

def truthText (b : Bool) : String := if b then "True" else "False"

mutual

def literal : Value → String
  | .null => "None"
  | .truth b => truthText b
  | .whole n => toString n
  | .real x => x.write realFormat
  | .text s => Text.quoted s
  | .brokenText => Text.quoted "\uFFFD"
  | .member name => Text.quoted name
  | .position p => s!"<Position.{p.name}: {Text.quoted p.name}>"
  | .list items => "[" ++ ", ".intercalate (literals items) ++ "]"
  | .object fields => "\x7b" ++ ", ".intercalate (entries fields) ++ "\x7d"

def literals : List Value → List String
  | [] => []
  | v :: rest => v.literal :: literals rest

def entries : List (String × Value) → List String
  | [] => []
  | (key, v) :: rest => (Text.quoted key ++ ": " ++ v.literal) :: entries rest

end

def display : Value → String
  | .text s => s
  | .position p => p.name
  | .member name => name
  | v => v.literal

end ClubPoints.Value
