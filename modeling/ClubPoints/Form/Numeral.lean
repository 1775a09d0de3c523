import ClubPoints.Numeral

/-!
# Numerals in forms

A plain whole numeral is a sign and digits without a zero in front. Any other is cleaned first: of
space around it, a plus sign, zeros in front, a point with zeros behind it and single low lines. A
real numeral may have space around it or low lines in it, but not both.
-/

namespace ClubPoints.Form

inductive WholeFault where
  | unreadable
  | tooLong
deriving DecidableEq

/-- A minus sign, perhaps, and digits without a zero in front. Too many digits are noticed before
what follows them. -/
def plainWhole (text : List Char) : Except WholeFault Int :=
  let (negative, unsigned) := match text with
    | '-' :: rest => (true, rest)
    | _ => (false, text)
  match unsigned with
  | ['0'] => .ok 0
  | '0' :: _ => .error .unreadable
  | _ =>
    let digits := unsigned.takeWhile Char.isDigit
    if Numeral.digitLimit < digits.length then .error .tooLong
    else if digits.isEmpty || digits.length < unsigned.length then .error .unreadable
    else .ok (Binary64.signed negative (Text.ofDigits (digits.filterMap Text.basicDigitValue?)))

def startsNumber (c : Char) : Bool := c = '-' || ('1' ≤ c && c ≤ '9')

/-- The rest of a numeral behind zeros, of which `last` is the one just before, with low lines among
them. It stays if nothing or a point follows. -/
def afterZeros? (last : Char) : List Char → Option (List Char)
  | [] => some [last]
  | c :: rest =>
    if c = '0' || c = '_' then afterZeros? c rest
    else if startsNumber c then some (c :: rest)
    else if c = '.' then some (last :: c :: rest)
    else none

def withoutZeros? : List Char → Option (List Char)
  | [] => none
  | c :: rest =>
    if c = '0' then afterZeros? c rest
    else if startsNumber c then some (c :: rest)
    else none

def withoutLeadingZeros? : List Char → Option (List Char)
  | '-' :: rest => (withoutZeros? rest).map ('-' :: ·)
  | text => withoutZeros? text

/-- The text without a plus sign in front; a second sign may not follow it. -/
def withoutPlus? : List Char → Option (List Char)
  | '+' :: '-' :: _ => none
  | '+' :: rest => some rest
  | text => some text

def withoutZeroFraction (text : List Char) : List Char :=
  match text.span (· ≠ '.') with
  | (whole, '.' :: zeros) => if !zeros.isEmpty && zeros.all (· == '0') then whole else text
  | _ => text

/-- The text without its low lines, unless one stands at an end or beside another. -/
def withoutLowLines? (text : List Char) : Option (List Char) :=
  let pieces := Text.splitAt '_' text
  if pieces.any List.isEmpty then none else some pieces.flatten

def cleaned? (s : String) : Option (List Char) := do
  let unsigned ← withoutPlus? (Text.trim Text.isWhiteSpace s.toList)
  let text ← withoutLeadingZeros? unsigned
  let whole := withoutZeroFraction text
  return (withoutLowLines? whole).getD whole

/-- A plain numeral or a cleaned one. Only a plain one is too long. -/
def wholeNumeral (s : String) : Except WholeFault Int :=
  match plainWhole s.toList with
  | .ok n => .ok n
  | .error .tooLong => .error .tooLong
  | .error .unreadable =>
    match (cleaned? s).map plainWhole with
    | some (.ok n) => .ok n
    | _ => .error .unreadable

def realNumeral? (s : String) : Option Binary64 :=
  if s.toList.contains '_' then
    (withoutLowLines? s.toList).bind (Numeral.realOver? Text.basicDigitValue?)
  else Numeral.realOver? Text.basicDigitValue? (Text.trim Text.isWhiteSpace s.toList)

end ClubPoints.Form
