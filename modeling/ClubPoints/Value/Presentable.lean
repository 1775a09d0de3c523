import ClubPoints.Value.Basic

/-!
# Values that can be presented

A document that is handed out has no infinite or absent numbers; null stands for them. A value that
came from outside is repeated only as it is, so one with such a number or a text that cannot be
written down is not presentable.
-/

namespace ClubPoints.Value

mutual

def presentable : Value → Value
  | .real (.finite negative units h) => .real (.finite negative units h)
  | .real _ => .null
  | .list items => .list (presentables items)
  | .object fields => .object (presentableFields fields)
  | v => v

def presentables : List Value → List Value
  | [] => []
  | v :: rest => v.presentable :: presentables rest

def presentableFields : List (String × Value) → List (String × Value)
  | [] => []
  | (key, v) :: rest => (key, v.presentable) :: presentableFields rest

end

theorem presentables_eq_map (items : List Value) : presentables items = items.map presentable := by
  induction items with
  | nil => rfl
  | cons v rest ih => rw [presentables, ih, List.map_cons]

mutual

def isPresentable : Value → Bool
  | .real (.finite _ _ _) => true
  | .real _ => false
  | .brokenText => false
  | .list items => arePresentable items
  | .object fields => haveFieldsPresentable fields
  | _ => true

def arePresentable : List Value → Bool
  | [] => true
  | v :: rest => v.isPresentable && arePresentable rest

def haveFieldsPresentable : List (String × Value) → Bool
  | [] => true
  | (_, v) :: rest => v.isPresentable && haveFieldsPresentable rest

end

end ClubPoints.Value
