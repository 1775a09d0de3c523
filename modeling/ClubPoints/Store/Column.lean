import ClubPoints.Binary80.Decimal
import ClubPoints.Store.Basic
import ClubPoints.Value.Conversion

/-!
# Columns

What a column holds decides how a value is written into it. What cannot be turned into a whole number
stays as it is, and a key that is none refers to no row. Whole numbers that a word does not hold
become real ones in a document and fit no other column.
-/

namespace ClubPoints

namespace Value

/-! ## Numbers in columns -/

/-- A real number is kept whole if it is whole and fits a word, the least word apart. -/
def ofReal (x : Binary64) : Value :=
  match x.truncate? with
  | some n => if x.isIntegral && fitsWord n && n != -wordLimit then .whole n else .real x
  | none => .real x

def isNumeric (c : Char) : Bool :=
  (Text.basicDigitValue? c).isSome || ['+', '-', '.', 'e', 'E'].contains c

def isEdge (c : Char) : Bool := [' ', '\t', '\n', '\x0b', '\x0c', '\r'].contains c

/-- The number that a text writes in basic characters: a whole one if it is written as such and fits
a word. -/
def numberOfText? (s : String) : Option Value :=
  let text := Text.trim isEdge s.toList
  let (negative, unsigned) := Numeral.splitSign text
  if text.all isNumeric then
    (Numeral.decimal? Text.basicDigitValue? unsigned).map fun d =>
      match Numeral.whole (String.ofList text) with
      | .ok n => if fitsWord n then .whole n else ofReal (Binary80.readDecimal negative d)
      | .error _ => ofReal (Binary80.readDecimal negative d)
  else none

/-- Real numbers in a column of texts have fifteen digits, and always a point. -/
def columnFormat : RealFormat where
  decimal := Binary80.fifteenDigits
  leastPositional := -4
  positionalLimit := 15
  exponentWidth := 2
  alwaysPoint := true
  nanText := ""
  infinityText := "Inf"

end Value

inductive ColumnKind where
  | whole
  | key
  | text
  | real
  | truth
  | document
deriving DecidableEq

namespace ColumnKind

def truthOf (v : Value) : Except StoreFault Value :=
  if v.same (.whole 0) then .ok (.truth false)
  else if v.same (.whole 1) then .ok (.truth true)
  else
    match v with
    | .whole n => .error (.noTruthNumber n)
    | .list _ | .object _ => .error (.faulty (.noKey v.kind))
    | v => .error (.noTruth v.literal)

def prepare (kind : ColumnKind) (v : Value) : Except StoreFault Value :=
  match kind, v with
  | .real, .null | .truth, .null => .ok .null
  | .real, v => (v.toReal.map .real).mapError .faulty
  | .truth, v => truthOf v
  | .document, v => .ok v.plain
  | .whole, v | .key, v | .text, v => .ok v

/-- A column of whole numbers or of texts has no room for every value. The place of the column
counts those that are written with it. -/
def check (kind : ColumnKind) (place : Nat) (v : Value) : Except StoreFault Unit :=
  if kind = .whole ∨ kind = .key ∨ kind = .text then
    match v with
    | .whole n => if fitsWord n then .ok () else .error .wholeTooLarge
    | .list _ | .object _ => .error (.unfitKind place v.kind)
    | _ => .ok ()
  else .ok ()

def keepWhole : Value → Value
  | .truth b => .whole (if b then 1 else 0)
  | .real .nan => .null
  | .real x => Value.ofReal x
  | v =>
    match v.text? with
    | some s => (Value.numberOfText? s).getD (.text s)
    | none => v

def keepText : Value → Value
  | .truth b => .text (if b then "1" else "0")
  | .whole n => .text (toString n)
  | .real .nan => .null
  | .real x => .text (x.withoutZeroSign.write Value.columnFormat)
  | v => v.plain

/-- What a column of documents keeps of a value. It is written as a text, and a text that is nothing
but a number is read again. -/
def keepDocument : Value → Value
  | .whole n => (Value.numberOfText? (toString n)).getD (.whole n)
  | .real x => (Value.numberOfText? (x.write Value.realFormat)).getD (.real x)
  | v => v

def keep : ColumnKind → Value → Value
  | .whole, v | .key, v => keepWhole v
  | .text, v => keepText v
  | .document, v => keepDocument v
  | .real, v | .truth, v => v

end ColumnKind

namespace Amount

def ofKept : Value → Amount
  | .whole n => .whole n
  | .real x => .real x
  | v => .text v.display

def kept (a : Amount) : Amount := ofKept (ColumnKind.keepWhole a.value)

def words (a : Amount) : List Int := a.whole?.toList

def isBelow (a : Amount) (n : Int) : Bool := !before n a

end Amount

end ClubPoints
