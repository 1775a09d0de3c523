import ClubPoints.Binary64.Basic
import ClubPoints.Text.Blank
import ClubPoints.Text.Digit

/-!
# Numbers read from text

Whole and real numerals: a sign, digits of one alphabet with single low lines between them, and for
real ones a point, an exponent, or a word for infinity or the absent number.
-/

namespace ClubPoints.Numeral

/-- Leading digits, with single low lines allowed between two digits, and the rest. -/
def digitRun (digit? : Char → Option Nat) (afterDigit : Bool) :
    List Char → List Nat × List Char
  | [] => ([], [])
  | c :: rest =>
    match digit? c with
    | some d =>
      let (digits, tail) := digitRun digit? true rest
      (d :: digits, tail)
    | none =>
      if c = '_' && afterDigit && (rest.head?.bind digit?).isSome then
        digitRun digit? false rest
      else ([], c :: rest)

def splitSign : List Char → Bool × List Char
  | '-' :: rest => (true, rest)
  | '+' :: rest => (false, rest)
  | text => (false, text)

/-- The number `count * 10 ^ exponent`. Exponents far outside the format are not computed with. -/
def scale (negative : Bool) (count : Nat) (exponent : Int) : Binary64 :=
  let lead := exponent + (Nat.toDigits 10 count).length
  if count = 0 ∨ lead < -400 then Binary64.ofQuotient negative 0 1
  else if 400 < lead then .infinity negative
  else if 0 ≤ exponent then Binary64.ofQuotient negative (count * tenTo exponent.toNat) 1
  else Binary64.ofQuotient negative count (tenTo (-exponent).toNat)

def exponent? (digit? : Char → Option Nat) : List Char → Option Int
  | [] => some 0
  | c :: rest =>
    if c = 'e' ∨ c = 'E' then
      let (negative, unsigned) := splitSign rest
      match digitRun digit? false unsigned with
      | ([], _) => none
      | (digits, []) => some (Binary64.signed negative (Text.ofDigits digits))
      | _ => none
    else none

structure Decimal where
  whole : List Nat
  fraction : List Nat
  exponent : Int

def decimal? (digit? : Char → Option Nat) (text : List Char) : Option Decimal :=
  let (whole, afterWhole) := digitRun digit? false text
  let (fraction, tail) := match afterWhole with
    | '.' :: rest => digitRun digit? false rest
    | rest => ([], rest)
  if whole.isEmpty && fraction.isEmpty then none
  else (exponent? digit? tail).map fun exponent => { whole, fraction, exponent }

def Decimal.value (d : Decimal) (negative : Bool) : Binary64 :=
  scale negative (Text.ofDigits (d.whole ++ d.fraction)) (d.exponent - d.fraction.length)

def realOver? (digit? : Char → Option Nat) (text : List Char) : Option Binary64 :=
  let (negative, unsigned) := splitSign text
  let word := String.ofList (unsigned.map Char.toLower)
  if word = "nan" then some .nan
  else if word = "inf" ∨ word = "infinity" then some (.infinity negative)
  else (decimal? digit? unsigned).map fun d => d.value negative

def real? (s : String) : Option Binary64 :=
  realOver? Text.digitValue? (Text.trim Text.isWhiteSpace s.toList)

def digitLimit : Nat := 4300

inductive WholeFault where
  | unreadable
  | tooLong (digits : Nat)
deriving DecidableEq

def whole (s : String) : Except WholeFault Int :=
  let (negative, unsigned) := splitSign (Text.trim Text.isWhiteSpace s.toList)
  match digitRun Text.digitValue? false unsigned with
  | ([], _) => .error .unreadable
  | (digits, rest) =>
    if digitLimit < digits.length then .error (.tooLong digits.length)
    else if rest.isEmpty then .ok (Binary64.signed negative (Text.ofDigits digits))
    else .error .unreadable

end ClubPoints.Numeral
