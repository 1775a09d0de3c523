import ClubPoints.Value.Presentable

/-!
# Checked forms

What is found wrong with a submitted document: a complaint names its kind, the place and what was
found there. Reading a form goes on after a complaint, so that all of them are collected, in the
order of the fields.
-/

namespace ClubPoints.Form

inductive Step where
  | field (name : String)
  | index (n : Nat)
deriving DecidableEq

inductive FaultKind where
  | missing
  | noObject
  | noRecord
  | noList
  | noTable
  | unreadableDocument
  | wholeType
  | wholeNotFinite
  | wholeWithFraction
  | wholeUnreadable
  | wholeTooLong
  | notGreater
  | tooSmall
  | tooLarge
  | realType
  | realUnreadable
  | truthType
  | truthUnreadable
  | textType
  | textTooShort
  | textTooLong
  | textPattern
  | notAmongChoices
deriving DecidableEq

def FaultKind.code : FaultKind → String
  | .missing => "missing"
  | .noObject => "model_type"
  | .noRecord => "model_attributes_type"
  | .noList => "list_type"
  | .noTable => "dict_type"
  | .unreadableDocument => "json_invalid"
  | .wholeType => "int_type"
  | .wholeNotFinite => "finite_number"
  | .wholeWithFraction => "int_from_float"
  | .wholeUnreadable => "int_parsing"
  | .wholeTooLong => "int_parsing_size"
  | .notGreater => "greater_than"
  | .tooSmall => "greater_than_equal"
  | .tooLarge => "less_than_equal"
  | .realType => "float_type"
  | .realUnreadable => "float_parsing"
  | .truthType => "bool_type"
  | .truthUnreadable => "bool_parsing"
  | .textType => "string_type"
  | .textTooShort => "string_too_short"
  | .textTooLong => "string_too_long"
  | .textPattern => "string_pattern_mismatch"
  | .notAmongChoices => "literal_error"

structure Complaint where
  kind : FaultKind
  place : List Step := []
  /-- The value complained about; for a missing field the value it is missing from. -/
  found : Value := .null

inductive Checked (α : Type) where
  | valid (a : α)
  | invalid (complaints : List Complaint)

namespace Checked

variable {α β : Type}

def complaints : Checked α → List Complaint
  | .valid _ => []
  | .invalid c => c

def map (f : α → β) : Checked α → Checked β
  | .valid a => .valid (f a)
  | .invalid c => .invalid c

/-- Applies a function that was read to an argument that was read; complaints add up. -/
def seq (f : Checked (α → β)) (x : Checked α) : Checked β :=
  match f, x with
  | .valid f, .valid a => .valid (f a)
  | f, x => .invalid (f.complaints ++ x.complaints)

instance : Applicative Checked where
  pure := .valid
  map := map
  seq f x := seq f (x ())

def fault (kind : FaultKind) (found : Value) : Checked α := .invalid [{ kind, found }]

def under (step : Step) : Checked α → Checked α
  | .valid a => .valid a
  | .invalid c => .invalid (c.map fun x => { x with place := step :: x.place })

def andThen (x : Checked α) (check : α → Checked β) : Checked β :=
  match x with
  | .valid a => check a
  | .invalid c => .invalid c

def toOption : Checked α → Option α
  | .valid a => some a
  | .invalid _ => none

def all (read : Nat → α → Checked β) (n : Nat) : List α → Checked (List β)
  | [] => .valid []
  | a :: rest => seq (map List.cons (read n a)) (all read (n + 1) rest)

theorem seq_eq_valid {f : Checked (α → β)} {x : Checked α} {b : β} :
    seq f x = .valid b ↔ ∃ g a, f = .valid g ∧ x = .valid a ∧ g a = b := by
  cases f <;> cases x <;> simp [seq]

end Checked

end ClubPoints.Form
