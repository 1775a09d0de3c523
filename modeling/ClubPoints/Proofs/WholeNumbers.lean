import ClubPoints.Proofs.Judging
import ClubPoints.Proofs.Nearest

/-!
# Comparing whole numbers

Two whole numbers are compared by the real numbers nearest to them. Rounding keeps the order, so the
outcome is the exact one unless it makes the two numbers one.
-/

namespace ClubPoints

open Binary64

theorem Value.operand?_whole {n : Int} {x : Binary64} (h : ofInt? n = some x) :
    (Value.whole n).operand? = .ok (some x) := by
  rw [operand?, toReal, h]
  rfl

namespace Operator

variable {op : Operator} {x y : Binary64} {a b p q : Int}

def holdsOfWholes : Operator → Int → Int → Bool
  | .greater, m, n => decide (n < m)
  | .equal, m, n => decide (m = n)
  | .less, m, n => decide (m < n)
  | .greaterEqual, m, n => decide (n ≤ m)
  | .lessEqual, m, n => decide (m ≤ n)
  | .unequal, m, n => decide (m ≠ n)

theorem holdsOfReals_eq (hx : x.key? = some p) (hy : y.key? = some q) :
    op.holdsOfReals x y = op.holdsOfWholes p q := by
  cases op <;> simp [holdsOfReals, holdsOfWholes, lt, le, same, related, hx, hy]

theorem holdsOfWholes_congr (hlt : p < q ↔ a < b) (hgt : q < p ↔ b < a) :
    op.holdsOfWholes p q = op.holdsOfWholes a b := by
  cases op <;> simp only [holdsOfWholes, decide_eq_decide] <;> omega

theorem compare_whole (op : Operator) (hx : ofInt? a = some x) (hy : ofInt? b = some y) :
    op.compare (.whole a) (.whole b) = .ok (op.holdsOfReals x y) := by
  unfold compare
  rw [if_neg (by simp [Value.isUnordered]), Value.operand?_whole hx,
    Value.operand?_whole hy]
  rfl

theorem same_iff_key? (hx : x.key? = some p) (hy : y.key? = some q) : x.same y = true ↔ p = q := by
  simp [same, related, hx, hy]

theorem holdsOfReals_of_ofInt? (hx : ofInt? a = some x) (hy : ofInt? b = some y) :
    op.holdsOfReals x y = if x.same y then op.holdsOfWholes a a else op.holdsOfWholes a b := by
  obtain ⟨p, hp⟩ : ∃ p, x.key? = some p := ⟨_, key?_of_ofInt? hx⟩
  obtain ⟨q, hq⟩ : ∃ q, y.key? = some q := ⟨_, key?_of_ofInt? hy⟩
  have hsame : x.same y = true ↔ p = q := same_iff_key? hp hq
  rw [holdsOfReals_eq hp hq]
  split
  · rename_i h
    have heq := hsame.mp h
    exact holdsOfWholes_congr (by omega) (by omega)
  · rename_i h
    have hne : p ≠ q := fun heq => h (hsame.mpr heq)
    have hle : a ≤ b → p ≤ q := key?_le_of_ofInt? hx hy hp hq
    have hge : b ≤ a → q ≤ p := key?_le_of_ofInt? hy hx hq hp
    exact holdsOfWholes_congr (by omega) (by omega)

theorem eq_of_same_of_small (hx : ofInt? a = some x) (hy : ofInt? b = some y)
    (ha : a.natAbs ≤ 2 ^ 53) (hb : b.natAbs ≤ 2 ^ 53) (h : x.same y = true) : a = b := by
  have hplaces := (same_iff_key? (key?_of_ofInt?_small hx ha) (key?_of_ofInt?_small hy hb)).mp h
  have hunits : (unitsPerOne : Int) ≠ 0 := Int.natCast_ne_zero.mpr (Nat.ne_of_gt (twoTo_pos 1074))
  exact Int.eq_of_mul_eq_mul_right hunits hplaces

end Operator

theorem Condition.holds_of_operands {c : Condition} {s : Situation} {actual expected : Value}
    (h : c.operands? s = .ok (some (actual, expected))) :
    c.holds s = c.operator.compare actual expected := by
  rw [holds, h]
  rfl

def Condition.ofGoals (op : Operator) : Condition where
  key := "goalsFor"
  operator := op
  scope := .ofMatch
  otherKey := some "goalsAgainst"

theorem Condition.holds_ofGoals (op : Operator) (r : Registry) (game : MatchFacts)
    (player : Option PlayerFacts) :
    (Condition.ofGoals op).holds ⟨r, game, player⟩ =
      op.compare (.whole game.goalsFor) (.whole game.goalsAgainst) := by
  have hoperands : (Condition.ofGoals op).operands? ⟨r, game, player⟩ =
      .ok (some (.whole game.goalsFor, .whole game.goalsAgainst)) := rfl
  exact holds_of_operands hoperands

/-- Two whole numbers that have nearest real numbers are compared by those. Two that have one nearest
number compare as equal, all others as they are; and the goals of a match are compared in this way. -/
theorem Operator.compare_whole_rounded {a b : Int} (ha : a.natAbs < 2 ^ 1024 - 2 ^ 970)
    (hb : b.natAbs < 2 ^ 1024 - 2 ^ 970) :
    ∃ x y, ofInt? a = some x ∧ ofInt? b = some y ∧ x.IsNearest a ∧ y.IsNearest b ∧
      (∀ op : Operator, op.compare (.whole a) (.whole b) = .ok (op.holdsOfReals x y)) ∧
      (∀ op : Operator, op.holdsOfReals x y =
        if x.same y then op.holdsOfWholes a a else op.holdsOfWholes a b) ∧
      (a.natAbs ≤ 2 ^ 53 → b.natAbs ≤ 2 ^ 53 → x.same y = true → a = b) ∧
      ∀ (op : Operator) (r : Registry) (values : List (String × Value))
        (player : Option PlayerFacts),
        (Condition.ofGoals op).holds ⟨r, ⟨a, b, values⟩, player⟩ = .ok (op.holdsOfReals x y) := by
  obtain ⟨x, hx⟩ := exists_ofInt?_iff.mpr ha
  obtain ⟨y, hy⟩ := exists_ofInt?_iff.mpr hb
  refine ⟨x, y, hx, hy, isNearest_of_ofInt? hx, isNearest_of_ofInt? hy,
    fun op => compare_whole op hx hy, fun op => holdsOfReals_of_ofInt? hx hy,
    eq_of_same_of_small hx hy, fun op r values player => ?_⟩
  rw [Condition.holds_ofGoals]
  exact compare_whole op hx hy

theorem compare_whole_rounded_three_one :
    (3 : Int).natAbs < 2 ^ 1024 - 2 ^ 970 ∧ (1 : Int).natAbs < 2 ^ 1024 - 2 ^ 970 ∧
      Operator.greater.compare (.whole 3) (.whole 1) = .ok true ∧
      (Condition.ofGoals .greater).holds ⟨{}, ⟨3, 1, []⟩, none⟩ = .ok true := by
  have ha : (3 : Int).natAbs < 2 ^ 1024 - 2 ^ 970 := by decide +kernel
  have hb : (1 : Int).natAbs < 2 ^ 1024 - 2 ^ 970 := by decide +kernel
  obtain ⟨x, y, -, -, -, -, hcompare, hreals, hexact, hgoals⟩ :=
    Operator.compare_whole_rounded ha hb
  have hsame : x.same y = false := by
    rw [← Bool.not_eq_true]
    intro h
    exact absurd (hexact (by decide) (by decide) h) (by decide)
  have hgreater : Operator.greater.holdsOfReals x y = true := by
    rw [hreals, hsame]
    rfl
  exact ⟨ha, hb, hgreater ▸ hcompare .greater, hgreater ▸ hgoals .greater {} [] none⟩

/-- The first whole number that is rounded: it is greater than the one before, and not found so. -/
theorem compare_whole_inexact :
    Operator.greater.holdsOfWholes (2 ^ 53 + 1) (2 ^ 53) = true ∧
      Operator.greater.compare (.whole (2 ^ 53 + 1)) (.whole (2 ^ 53)) = .ok false ∧
      (Condition.ofGoals .greater).holds ⟨{}, ⟨2 ^ 53 + 1, 2 ^ 53, []⟩, none⟩ = .ok false := by
  have hmerged : ofInt? (2 ^ 53 + 1) = ofInt? (2 ^ 53) := by decide +kernel
  obtain ⟨x, hx⟩ := exists_ofInt?_iff.mpr
    (show (2 ^ 53 : Int).natAbs < 2 ^ 1024 - 2 ^ 970 by decide +kernel)
  have hreals : Operator.greater.holdsOfReals x x = false := by
    rw [Operator.holdsOfReals_of_ofInt? hx hx, ite_self]
    rfl
  have hcompare := Operator.compare_whole .greater (hmerged.trans hx) hx
  rw [hreals] at hcompare
  refine ⟨by decide, hcompare, ?_⟩
  rw [Condition.holds_ofGoals]
  exact hcompare

end ClubPoints
