import ClubPoints.Document.Reader

/-!
# Encodings of documents

A document comes as octets, in units of one octet, of two or of four. Where the first four octets
are zero tells which, since a document starts with two basic characters.
-/

namespace ClubPoints.Document

inductive OctetOrder where
  | highFirst
  | lowFirst
deriving DecidableEq

inductive Encoding where
  | single
  | double (order : OctetOrder)
  | quadruple (order : OctetOrder)
deriving DecidableEq

/-- The encoding that the first octets show. Two octets or at least four are needed to tell. -/
def Encoding.detect : List Nat → Encoding
  | 0 :: b :: _ :: _ :: _ => if b = 0 then .quadruple .highFirst else .double .highFirst
  | _ :: 0 :: c :: d :: _ => if c = 0 ∧ d = 0 then .quadruple .lowFirst else .double .lowFirst
  | [0, _] => .double .highFirst
  | [_, 0] => .double .lowFirst
  | _ => .single

def OctetOrder.double (order : OctetOrder) (a b : Nat) : Nat :=
  match order with
  | .highFirst => a * 256 + b
  | .lowFirst => b * 256 + a

def OctetOrder.quadruple (order : OctetOrder) (a b c d : Nat) : Nat :=
  match order with
  | .highFirst => order.double a b * 65536 + order.double c d
  | .lowFirst => order.double c d * 65536 + order.double a b

def doubles? (order : OctetOrder) : List Nat → Option (List Nat)
  | [] => some []
  | [_] => none
  | a :: b :: rest => (doubles? order rest).map (order.double a b :: ·)

def quadruples? (order : OctetOrder) : List Nat → Option (List Nat)
  | [] => some []
  | a :: b :: c :: d :: rest => (quadruples? order rest).map (order.quadruple a b c d :: ·)
  | _ => none

def symbolOfCode? (n : Nat) : Option Symbol :=
  if n < 0x110000 then some (charOfUnit? n) else none

def Encoding.decode? (octets : List Nat) : Encoding → Option (List Symbol)
  | .single => none
  | .double order => (doubles? order octets).map joinUnits
  | .quadruple order => (quadruples? order octets).bind fun units => units.mapM symbolOfCode?

def withoutMark : List Char → List Char
  | '\uFEFF' :: rest => rest
  | text => text

def ofOctets (s : String) : Except ReadFault Value :=
  let octets := s.toUTF8.toList.map UInt8.toNat
  match Encoding.detect octets with
  | .single => read ((withoutMark s.toList).map some)
  | encoding =>
    match encoding.decode? octets with
    | some text => read text
    | none => .error .noText

end ClubPoints.Document
