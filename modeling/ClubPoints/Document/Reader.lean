import ClubPoints.Keyed
import ClubPoints.Numeral
import ClubPoints.Value.Basic

/-!
# Documents read from text

A number with a point or an exponent is real, and so are the words for infinity and the absent
number. Of several fields with one name the last counts. A text may hold half of a surrogate pair,
which is no character.
-/

namespace ClubPoints.Document

inductive ReadFault where
  | malformed
  /-- The text is a document as far as it was read, with a whole number of too many digits. -/
  | numberTooLong
  | nestedTooDeep
  | noText
deriving DecidableEq

/-- What a text consists of: a character, or half of a surrogate pair. -/
abbrev Symbol := Option Char

def depthLimit : Nat := 960

def isSpace (c : Char) : Bool := c = ' ' || c = '\t' || c = '\n' || c = '\r'

def skipSpace (text : List Symbol) : List Symbol := text.dropWhile fun c => c.any isSpace

/-! ## Quoted texts -/

def hexValue? (c : Char) : Option Nat :=
  if '0' ≤ c ∧ c ≤ '9' then some (c.toNat - '0'.toNat)
  else if 'a' ≤ c ∧ c ≤ 'f' then some (c.toNat - 'a'.toNat + 10)
  else if 'A' ≤ c ∧ c ≤ 'F' then some (c.toNat - 'A'.toNat + 10)
  else none

def unit? (a b c d : Char) : Option Nat := do
  return ((← hexValue? a) * 16 + (← hexValue? b)) * 256 + ((← hexValue? c) * 16 + (← hexValue? d))

def charOfUnit? (u : Nat) : Symbol :=
  if 0xD800 ≤ u ∧ u < 0xE000 then none else some (Char.ofNat u)

def joinUnits : List Nat → List Symbol
  | [] => []
  | [u] => [charOfUnit? u]
  | u :: v :: rest =>
    if 0xD800 ≤ u ∧ u < 0xDC00 ∧ 0xDC00 ≤ v ∧ v < 0xE000 then
      some (Char.ofNat (0x10000 + (u - 0xD800) * 0x400 + (v - 0xDC00))) :: joinUnits rest
    else charOfUnit? u :: joinUnits (v :: rest)

def escaped? : Char → Option Char
  | '"' => some '"'
  | '\\' => some '\\'
  | '/' => some '/'
  | 'b' => some '\x08'
  | 'f' => some '\x0c'
  | 'n' => some '\n'
  | 'r' => some '\r'
  | 't' => some '\t'
  | _ => none

/-- The rest of a quoted text after its opening quote, behind the units of escapes that were read
just before. -/
def quotedFrom (units : List Nat) :
    List Symbol → Except ReadFault (List Symbol × List Symbol)
  | [] => .error .malformed
  | some '"' :: rest => .ok (joinUnits units.reverse, rest)
  | some '\\' :: some 'u' :: some a :: some b :: some c :: some d :: rest =>
    match unit? a b c d with
    | some u => quotedFrom (u :: units) rest
    | none => .error .malformed
  | some '\\' :: c :: rest =>
    match c.bind escaped? with
    | some e => do
      let (tail, rest) ← quotedFrom [] rest
      return (joinUnits units.reverse ++ some e :: tail, rest)
    | none => .error .malformed
  | c :: rest =>
    if c.any fun c => c.toNat < 0x20 then .error .malformed
    else do
      let (tail, rest) ← quotedFrom [] rest
      return (joinUnits units.reverse ++ c :: tail, rest)

def quoted (text : List Symbol) : Except ReadFault (Option String × List Symbol) :=
  (quotedFrom [] text).map fun (chars, rest) => ((chars.mapM id).map String.ofList, rest)

def ofQuoted (s : Option String) : Value := (s.map Value.text).getD .brokenText

/-- A field; one whose name cannot be written down cannot be written down either. -/
def ofField (key : Option String) (v : Value) : String × Value :=
  match key with
  | some key => (key, v)
  | none => ("\uFFFD", .brokenText)

/-! ## Numbers -/

def takeDigits : List Symbol → List Nat × List Symbol
  | [] => ([], [])
  | c :: rest =>
    match c.bind Text.basicDigitValue? with
    | some digit =>
      let (digits, rest) := takeDigits rest
      (digit :: digits, rest)
    | none => ([], c :: rest)

def splitSign : List Symbol → Bool × List Symbol
  | some '-' :: rest => (true, rest)
  | some '+' :: rest => (false, rest)
  | text => (false, text)

def fraction (text : List Symbol) : List Nat × List Symbol :=
  match text with
  | some '.' :: rest =>
    match takeDigits rest with
    | ([], _) => ([], text)
    | found => found
  | _ => ([], text)

def exponent (text : List Symbol) : Option Int × List Symbol :=
  match text with
  | some 'e' :: rest | some 'E' :: rest =>
    let (negative, unsigned) := splitSign rest
    match takeDigits unsigned with
    | ([], _) => (none, text)
    | (digits, rest) => (some (Binary64.signed negative (Text.ofDigits digits)), rest)
  | _ => (none, text)

/-- A number after its sign. A zero in front of other digits ends the number. -/
def number (negative : Bool) (text : List Symbol) : Except ReadFault (Value × List Symbol) :=
  let (whole, rest) := match text with
    | some '0' :: rest => ([0], rest)
    | _ => takeDigits text
  if whole.isEmpty then .error .malformed
  else
    let (places, rest) := fraction rest
    let (power, rest) := exponent rest
    if places.isEmpty && power.isNone then
      if Numeral.digitLimit < whole.length then .error .numberTooLong
      else .ok (.whole (Binary64.signed negative (Text.ofDigits whole)), rest)
    else
      .ok (.real (Numeral.scale negative (Text.ofDigits (whole ++ places))
        (power.getD 0 - places.length)), rest)

/-! ## Values -/

def words : List (String × Value) := [
  ("null", .null), ("true", .truth true), ("false", .truth false), ("NaN", .real .nan),
  ("Infinity", .real (.infinity false)), ("-Infinity", .real (.infinity true))]

def word? (text : List Symbol) : Option (Value × List Symbol) :=
  (words.find? fun (word, _) => (word.toList.map some).isPrefixOf text).map fun (word, v) =>
    (v, text.drop word.length)

def scalar (text : List Symbol) : Except ReadFault (Value × List Symbol) :=
  match word? text with
  | some found => .ok found
  | none =>
    match text with
    | some '"' :: rest => (quoted rest).map fun (s, rest) => (ofQuoted s, rest)
    | some '-' :: rest => number true rest
    | _ => number false text

mutual

/-- A value after the space before it, at a depth that counts down. The fuel bounds the calls, of
which each takes a character. -/
def value (fuel depth : Nat) (text : List Symbol) : Except ReadFault (Value × List Symbol) :=
  match fuel with
  | 0 => .error .malformed
  | fuel + 1 =>
    match text, depth with
    | some '[' :: _, 0 | some '\x7b' :: _, 0 => .error .nestedTooDeep
    | some '[' :: rest, depth + 1 =>
      match skipSpace rest with
      | some ']' :: rest => .ok (.list [], rest)
      | first => do
        let (items, rest) ← items fuel depth first
        return (.list items, rest)
    | some '\x7b' :: rest, depth + 1 =>
      match skipSpace rest with
      | some '\x7d' :: rest => .ok (.object [], rest)
      | first => do
        let (fields, rest) ← fields fuel depth first
        return (.object (Keyed.collect Prod.fst fields), rest)
    | _, _ => scalar text

def items (fuel depth : Nat) (text : List Symbol) : Except ReadFault (List Value × List Symbol) :=
  match fuel with
  | 0 => .error .malformed
  | fuel + 1 => do
    let (v, rest) ← value fuel depth text
    match skipSpace rest with
    | some ',' :: rest =>
      let (more, rest) ← items fuel depth (skipSpace rest)
      return (v :: more, rest)
    | some ']' :: rest => return ([v], rest)
    | _ => .error .malformed

def fields (fuel depth : Nat) (text : List Symbol) :
    Except ReadFault (List (String × Value) × List Symbol) :=
  match fuel with
  | 0 => .error .malformed
  | fuel + 1 =>
    match text with
    | some '"' :: rest => do
      let (key, rest) ← quoted rest
      match skipSpace rest with
      | some ':' :: rest =>
        let (v, rest) ← value fuel depth (skipSpace rest)
        match skipSpace rest with
        | some ',' :: rest =>
          let (more, rest) ← fields fuel depth (skipSpace rest)
          return (ofField key v :: more, rest)
        | some '\x7d' :: rest => return ([ofField key v], rest)
        | _ => .error .malformed
      | _ => .error .malformed
    | _ => .error .malformed

end

def read (text : List Symbol) : Except ReadFault Value := do
  let (v, rest) ← value (text.length + 1) depthLimit (skipSpace text)
  if (skipSpace rest).isEmpty then return v else .error .malformed

def readString (s : String) : Except ReadFault Value := read (s.toList.map some)

end ClubPoints.Document
