import ClubPoints.Proofs.Unordered
import ClubPoints.Proofs.WholeNumbers

/-!
# Comparing values of any kind

The six operators agree with each other on values of any two kinds (`Operator.compare_coherent`).
-/

namespace ClubPoints

namespace Binary64

variable {x y : Binary64}

theorem same_comm (x y : Binary64) : x.same y = y.same x := by
  unfold same related
  cases x.key? with
  | none => cases y.key? <;> rfl
  | some p =>
    cases y.key? with
    | none => rfl
    | some q => exact decide_eq_decide.mpr eq_comm

theorem key?_eq_none : x.key? = none ↔ x = .nan := by
  cases x <;> simp [key?]

theorem places (x y : Binary64) :
    (x.key? = none ∨ y.key? = none) ∨ ∃ p q, x.key? = some p ∧ y.key? = some q := by
  cases hx : x.key? with
  | none => exact .inl (.inl rfl)
  | some p =>
    cases hy : y.key? with
    | none => exact .inl (.inr rfl)
    | some q => exact .inr ⟨p, q, rfl, rfl⟩

theorem related_of_key?_eq_none (r : Int → Int → Bool) (h : x.key? = none ∨ y.key? = none) :
    related r x y = false := by
  unfold related
  rcases h with h | h
  · rw [h]
  · rw [h]
    cases x.key? <;> rfl

end Binary64

theorem Number.same_comm (m n : Number) : m.same n = n.same m := by
  cases m with
  | whole a =>
    cases n with
    | whole b => exact decide_eq_decide.mpr eq_comm
    | real y => rfl
  | real x =>
    cases n with
    | whole b => rfl
    | real y => exact Binary64.same_comm x y

namespace Value

variable {v : Value}

theorem same_comm (v w : Value) : v.same w = w.same v := by
  unfold same
  cases v.text? with
  | some s =>
    cases w.text? with
    | none => rfl
    | some t => exact Bool.beq_comm
  | none =>
    cases w.text? with
    | some t => rfl
    | none =>
      cases v.number? with
      | none => cases w.number? <;> exact Bool.and_comm ..
      | some m =>
        cases w.number? with
        | none => exact Bool.and_comm ..
        | some n => exact Number.same_comm m n

def isNumber : Value → Bool
  | .whole _ | .real _ => true
  | _ => false

theorem operand?_of_near (h : v.isBeyondReals = false) : v.operand? = .ok v.toReal.toOption := by
  cases v with
  | whole n =>
    cases hn : Binary64.ofInt? n with
    | none =>
      rw [isBeyondReals, hn] at h
      cases h
    | some x =>
      rw [operand?_whole hn, toReal, hn]
      rfl
  | text s =>
    unfold operand? toReal
    dsimp only
    cases Numeral.real? s <;> rfl
  | _ => rfl

theorem toReal_of_number (hnumber : v.isNumber = true) (h : v.isBeyondReals = false) :
    ∃ x, v.toReal = .ok x ∧ (x.key? = none ↔ v = .real .nan) := by
  cases v with
  | whole n =>
    cases hn : Binary64.ofInt? n with
    | none =>
      rw [isBeyondReals, hn] at h
      cases h
    | some x =>
      refine ⟨x, by rw [toReal, hn]; rfl, ?_⟩
      simp [Binary64.key?_of_ofInt? hn]
  | real x => exact ⟨x, rfl, by rw [Binary64.key?_eq_none, Value.real.injEq]⟩
  | _ => cases hnumber

theorem toReal_of_other (hnumber : v.isNumber = false) (h : v.isUnordered = false) :
    v.toReal.toOption = none := by
  cases v with
  | null | list | object => rfl
  | whole | real => cases hnumber
  | _ => cases h

end Value

namespace Operator

variable {op : Operator} {a b : Value}

/-- The operator that says the same of a pair turned round. -/
def converse : Operator → Operator
  | .greater => .less
  | .less => .greater
  | .greaterEqual => .lessEqual
  | .lessEqual => .greaterEqual
  | op => op

theorem holdsOfReals_converse (op : Operator) (x y : Binary64) :
    op.converse.holdsOfReals y x = op.holdsOfReals x y := by
  cases op <;> simp [converse, holdsOfReals, Binary64.same_comm]

theorem holdsOfEquality_converse (op : Operator) (same : Bool) :
    op.converse.holdsOfEquality same = op.holdsOfEquality same := by
  cases op <;> rfl

theorem relates_converse (op : Operator) (a b : Value) :
    op.converse.relates b a = op.relates a b := by
  unfold relates
  rw [Bool.or_comm, Value.same_comm, holdsOfEquality_converse]
  split
  · rfl
  · cases a.toReal.toOption with
    | none => cases b.toReal.toOption <;> rfl
    | some x =>
      cases b.toReal.toOption with
      | none => rfl
      | some y => exact holdsOfReals_converse op x y

theorem compare_of_near (op : Operator) (ha : a.isBeyondReals = false)
    (hb : b.isBeyondReals = false) : op.compare a b = .ok (op.relates a b) := by
  unfold compare relates
  split
  · rfl
  · rw [Value.operand?_of_near ha, Value.operand?_of_near hb]
    cases a.toReal.toOption with
    | none => rfl
    | some x => cases b.toReal.toOption <;> rfl

/-- What the six operators find of two numbers: at most one of the three relations holds, and the
other operators are made of those. -/
structure IsOrdering (verdict : Operator → Bool) : Prop where
  less_or_equal : (verdict .less && verdict .equal) = false
  less_or_greater : (verdict .less && verdict .greater) = false
  equal_or_greater : (verdict .equal && verdict .greater) = false
  lessEqual : verdict .lessEqual = (verdict .less || verdict .equal)
  greaterEqual : verdict .greaterEqual = (verdict .greater || verdict .equal)
  unequal : verdict .unequal = !verdict .equal

theorem isOrdering_wholes (p q : Int) : IsOrdering fun op => op.holdsOfWholes p q := by
  constructor <;> simp only [holdsOfWholes] <;> grind

theorem holdsOfReals_of_nan {x y : Binary64} (op : Operator) (h : x.key? = none ∨ y.key? = none) :
    op.holdsOfReals x y = decide (op = .unequal) := by
  cases op <;>
    simp [holdsOfReals, Binary64.lt, Binary64.le, Binary64.same,
      Binary64.related_of_key?_eq_none, h, h.symm]

theorem isOrdering_reals (x y : Binary64) : IsOrdering fun op => op.holdsOfReals x y := by
  rcases Binary64.places x y with h | ⟨p, q, hp, hq⟩
  · simp only [holdsOfReals_of_nan _ h]
    constructor <;> rfl
  · simp only [holdsOfReals_eq hp hq]
    exact isOrdering_wholes p q

theorem related_iff {x y : Binary64} :
    (less.holdsOfReals x y || equal.holdsOfReals x y || greater.holdsOfReals x y) = true ↔
      ¬ (x.key? = none ∨ y.key? = none) := by
  rcases Binary64.places x y with h | ⟨p, q, hp, hq⟩
  · simp [holdsOfReals_of_nan _ h, h]
  · simp only [holdsOfReals_eq hp hq, holdsOfWholes, Bool.or_eq_true, decide_eq_true_eq, hp, hq,
      reduceCtorEq, or_self, not_false_eq_true, iff_true]
    omega

theorem relates_of_numbers {x y : Binary64} (ha : a.isNumber = true) (hb : b.isNumber = true)
    (hx : a.toReal = .ok x) (hy : b.toReal = .ok y) : op.relates a b = op.holdsOfReals x y := by
  have hordered {v : Value} (h : v.isNumber = true) : v.isUnordered = false := by
    cases v with
    | whole | real => rfl
    | _ => cases h
  unfold relates
  rw [hordered ha, hordered hb, hx, hy]
  rfl

theorem relates_of_unordered (h : (a.isUnordered || b.isUnordered) = true) :
    op.relates a b = op.holdsOfEquality (a.same b) := by
  rw [relates, if_pos h]

theorem relates_of_other (h : (a.isUnordered || b.isUnordered) = false)
    (hnumber : (a.isNumber && b.isNumber) = false) : op.relates a b = false := by
  obtain ⟨ha, hb⟩ := Bool.or_eq_false_iff.mp h
  unfold relates
  rw [h, if_neg Bool.false_ne_true]
  rcases Bool.and_eq_false_iff.mp hnumber with hnumber | hnumber
  · rw [Value.toReal_of_other hnumber ha]
  · rw [Value.toReal_of_other hnumber hb]
    cases a.toReal.toOption <;> rfl

/-- Any two values whose whole numbers have nearest real numbers are compared, the same way round
and turned round. A truth value or a text is equal or unequal to the other and nothing else, two
numbers have the order of numbers unless one of them is none, and anything else stands in no
relation. -/
theorem compare_coherent (ha : a.isBeyondReals = false) (hb : b.isBeyondReals = false) :
    ∃ verdict : Operator → Bool,
      (∀ op : Operator, op.compare a b = .ok (verdict op)) ∧
      (∀ op : Operator, op.compare b a = .ok (verdict op.converse)) ∧
      ((a.isUnordered || b.isUnordered) = true →
        (∀ op : Operator, op.isOrder = true → verdict op = false) ∧
          verdict .unequal = !verdict .equal) ∧
      (a.isNumber = true → b.isNumber = true → IsOrdering verdict ∧
        ((verdict .less || verdict .equal || verdict .greater) = true ↔
          a ≠ .real .nan ∧ b ≠ .real .nan)) ∧
      ((a.isUnordered || b.isUnordered) = false → (a.isNumber && b.isNumber) = false →
        ∀ op : Operator, verdict op = false) := by
  refine ⟨fun op => op.relates a b, fun op => compare_of_near op ha hb, fun op => ?turned,
    fun hunordered => ⟨fun op hop => ?order, ?equality⟩, fun hna hnb => ?numbers,
    fun hordered hother op => relates_of_other hordered hother⟩
  case turned =>
    rw [compare_of_near op hb ha]
    exact congrArg Except.ok (relates_converse op b a).symm
  case order =>
    refine (relates_of_unordered hunordered).trans ?_
    cases op with
    | equal | unequal => cases hop
    | _ => rfl
  case equality =>
    simp only [relates_of_unordered hunordered]
    rfl
  case numbers =>
    obtain ⟨x, hx, hxnan⟩ := Value.toReal_of_number hna ha
    obtain ⟨y, hy, hynan⟩ := Value.toReal_of_number hnb hb
    simp only [relates_of_numbers hna hnb hx hy]
    exact ⟨isOrdering_reals x y, related_iff.trans (by rw [not_or, hxnan, hynan])⟩

end Operator

theorem compare_coherent_three_nan :
    (Value.whole 3).isBeyondReals = false ∧ (Value.real .nan).isBeyondReals = false ∧
      Operator.unequal.compare (.whole 3) (.real .nan) = .ok true ∧
      Operator.less.compare (.real .nan) (.whole 3) = .ok false := by
  have ha : (Value.whole 3).isBeyondReals = false := by decide +kernel
  obtain ⟨verdict, hsame, hturned, -, hnumbers, -⟩ :=
    Operator.compare_coherent (b := .real .nan) ha rfl
  obtain ⟨hordering, hrelated⟩ := hnumbers rfl rfl
  have hnone : ¬ (verdict .less || verdict .equal || verdict .greater) = true :=
    fun h => (hrelated.mp h).2 rfl
  simp only [Bool.not_eq_true, Bool.or_eq_false_iff] at hnone
  obtain ⟨⟨-, hequal⟩, hgreater⟩ := hnone
  refine ⟨ha, rfl, ?_, ?_⟩
  · rw [hsame, hordering.unequal, hequal]
    rfl
  · rw [hturned, Operator.converse, hgreater]

end ClubPoints
