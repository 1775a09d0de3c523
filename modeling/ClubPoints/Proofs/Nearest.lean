import ClubPoints.Proofs.Rounding
import Mathlib.Data.Nat.Dist

/-!
# Rounding whole numbers

Rounding finds the nearest finite number (`Binary64.isNearest_of_ofInt?`), keeps the order
(`Binary64.key?_le_of_ofInt?`) and changes nothing up to `2 ^ 53`
(`Binary64.key?_of_ofInt?_small`).
-/

namespace ClubPoints

/-! ## The nearest multiple -/

theorem roundHalfEven_cases (num den : Nat) :
    (roundHalfEven num den = num / den ∧ 2 * (num % den) ≤ den) ∨
      (roundHalfEven num den = num / den + 1 ∧ den ≤ 2 * (num % den)) := by
  unfold roundHalfEven
  dsimp only
  split
  · exact .inl ⟨rfl, by omega⟩
  · split
    · exact .inr ⟨rfl, by omega⟩
    · split
      · exact .inl ⟨rfl, by omega⟩
      · exact .inr ⟨rfl, by omega⟩

theorem div_le_roundHalfEven (num den : Nat) : num / den ≤ roundHalfEven num den := by
  rcases roundHalfEven_cases num den with ⟨h, -⟩ | ⟨h, -⟩ <;> omega

theorem roundHalfEven_mono {m n den : Nat} (h : m ≤ n) :
    roundHalfEven m den ≤ roundHalfEven n den := by
  have hdiv : m / den ≤ n / den := Nat.div_le_div_right h
  rcases Nat.lt_or_eq_of_le hdiv with hlt | heq
  · have hm := roundHalfEven_le m den
    have hn := div_le_roundHalfEven n den
    omega
  · have hn := div_le_roundHalfEven n den
    rcases roundHalfEven_cases m den with ⟨hm, -⟩ | ⟨hm, hup⟩
    · omega
    rcases roundHalfEven_cases n den with ⟨hn, hdown⟩ | ⟨hn, -⟩
    · -- one rounds up and the other down only from the half between them
      have hm := Nat.div_add_mod m den
      have hn := Nat.div_add_mod n den
      rw [heq] at hm
      have hsame : m = n := by omega
      rw [hsame]
    · omega

/-- No multiple of the divisor is nearer than the one that rounding finds. -/
theorem dist_roundHalfEven_le (n k : Nat) {den : Nat} (hden : 0 < den) :
    Nat.dist n (roundHalfEven n den * den) ≤ Nat.dist n (k * den) := by
  have hsplit := Nat.div_add_mod n den
  have hrest := Nat.mod_lt n hden
  rw [Nat.mul_comm] at hsplit
  have hside : k * den ≤ n / den * den ∨ n / den * den + den ≤ k * den := by
    rcases Nat.lt_or_ge (n / den) k with h | h
    · have hmul := Nat.mul_le_mul_right den h
      rw [Nat.succ_mul] at hmul
      exact .inr hmul
    · exact .inl (Nat.mul_le_mul_right den h)
  unfold Nat.dist
  rcases roundHalfEven_cases n den with ⟨heq, hhalf⟩ | ⟨heq, hhalf⟩
  · rw [heq]
    omega
  · rw [heq, Nat.succ_mul]
    omega

/-! ## Counts of units -/

theorem roundUnits_one (n : Nat) :
    roundUnits n 1 = roundHalfEven n (twoTo (n.log2 - 52)) * twoTo (n.log2 - 52) := by
  rw [roundUnits, Nat.div_one, Nat.one_mul]

theorem roundUnits_le (n : Nat) : roundUnits n 1 ≤ twoTo (n.log2 - 52 + 53) := by
  have hcut := div_spare_lt n 1
  rw [Nat.div_one, Nat.one_mul] at hcut
  have hround := roundHalfEven_le n (twoTo (n.log2 - 52))
  rw [roundUnits_one, twoTo_add, Nat.mul_comm (twoTo _)]
  exact Nat.mul_le_mul_right _ (by omega)

theorem twoTo_le_roundUnits {n : Nat} (h : 52 ≤ n.log2) : twoTo n.log2 ≤ roundUnits n 1 := by
  have hn : n ≠ 0 := by
    intro h0
    rw [h0, Nat.log2_zero] at h
    omega
  have hsplit : twoTo n.log2 = twoTo 52 * twoTo (n.log2 - 52) := by
    rw [← twoTo_add, Nat.add_sub_cancel' h]
  have hlead : twoTo 52 ≤ n / twoTo (n.log2 - 52) := by
    rw [Nat.le_div_iff_mul_le (twoTo_pos _), ← hsplit]
    exact Nat.log2_self_le hn
  rw [hsplit, roundUnits_one]
  exact Nat.mul_le_mul_right _ (hlead.trans (div_le_roundHalfEven ..))

theorem log2_mono {m n : Nat} (h : m ≤ n) : m.log2 ≤ n.log2 := by
  rcases Nat.eq_zero_or_pos m with rfl | hm
  · simp
  · have hn : n ≠ 0 := by omega
    exact (Nat.le_log2 hn).mpr ((Nat.log2_self_le (by omega)).trans h)

theorem roundUnits_mono {m n : Nat} (h : m ≤ n) : roundUnits m 1 ≤ roundUnits n 1 := by
  have hlog := log2_mono h
  by_cases hcut : m.log2 - 52 = n.log2 - 52
  · rw [roundUnits_one, roundUnits_one, hcut]
    exact Nat.mul_le_mul_right _ (roundHalfEven_mono h)
  · -- the cut moved, so a power of two stands between the two
    calc roundUnits m 1 ≤ twoTo (m.log2 - 52 + 53) := roundUnits_le m
      _ ≤ twoTo n.log2 := twoTo_le_twoTo (by omega)
      _ ≤ roundUnits n 1 := twoTo_le_roundUnits (by omega)

/-- No count of units that the format holds is nearer than the one that rounding finds. -/
theorem dist_roundUnits_le (n : Nat) {k : Nat} (h : Representable k) :
    Nat.dist n (roundUnits n 1) ≤ Nat.dist n k := by
  obtain ⟨-, m, j, hm, rfl⟩ := h
  rw [roundUnits_one]
  by_cases hcut : n.log2 - 52 ≤ j
  · have hmultiple : m * twoTo j = m * twoTo (j - (n.log2 - 52)) * twoTo (n.log2 - 52) := by
      rw [Nat.mul_assoc, ← twoTo_add, Nat.sub_add_cancel hcut]
    rw [hmultiple]
    exact dist_roundHalfEven_le n _ (twoTo_pos _)
  · -- a finer number lies below the leading bit of `n`, which is a multiple of the cut
    have hn : n ≠ 0 := by
      intro h0
      rw [h0, Nat.log2_zero] at hcut
      omega
    have hlead : twoTo 52 * twoTo (n.log2 - 52) ≤ n := by
      rw [← twoTo_add, Nat.add_sub_cancel' (by omega)]
      exact Nat.log2_self_le hn
    have hbelow : m * twoTo j ≤ twoTo 52 * twoTo (n.log2 - 52) :=
      calc m * twoTo j ≤ twoTo 53 * twoTo j := Nat.mul_le_mul_right _ hm
        _ = twoTo (53 + j) := (twoTo_add 53 j).symm
        _ ≤ twoTo (52 + (n.log2 - 52)) := twoTo_le_twoTo (by omega)
        _ = twoTo 52 * twoTo (n.log2 - 52) := twoTo_add 52 _
    have hnear := dist_roundHalfEven_le n (twoTo 52) (twoTo_pos (n.log2 - 52))
    have hfar : Nat.dist n (twoTo 52 * twoTo (n.log2 - 52)) ≤ Nat.dist n (m * twoTo j) := by
      unfold Nat.dist
      omega
    exact hnear.trans hfar

namespace Binary64

variable {x y : Binary64} {a b : Int}

/-! ## Whole numbers -/

def unitsFrom? : Binary64 → Int → Option Nat
  | .finite negative units _, n => some (signed negative units - n * unitsPerOne).natAbs
  | _, _ => none

/-- The number is finite, and no finite number is nearer to the whole one. -/
def IsNearest (x : Binary64) (n : Int) : Prop :=
  ∃ d, x.unitsFrom? n = some d ∧ ∀ (y : Binary64) e, y.unitsFrom? n = some e → d ≤ e

theorem signed_natAbs (n : Int) : signed (decide (n < 0)) n.natAbs = n := by
  unfold signed
  split <;> rename_i h <;> simp at h <;> omega

theorem signed_mul (negative : Bool) (m n : Nat) :
    signed negative (m * n) = signed negative m * n := by
  cases negative with
  | false => exact Int.natCast_mul m n
  | true => exact (congrArg Neg.neg (Int.natCast_mul m n)).trans (Int.neg_mul ..).symm

theorem signed_units (n : Int) :
    signed (decide (n < 0)) (n.natAbs * unitsPerOne) = n * unitsPerOne := by
  rw [signed_mul, signed_natAbs]

theorem ofInt?_eq_some :
    ofInt? a = some x ↔ ∃ h : roundUnits (a.natAbs * unitsPerOne) 1 < unitsLimit,
      x = .finite (decide (a < 0)) _ (representable_roundUnits h) := by
  unfold ofInt? ofQuotient ofUnits
  split
  · rename_i h
    constructor
    · intro hx
      exact ⟨h, (Option.some.inj hx).symm⟩
    · rintro ⟨-, rfl⟩
      rfl
  · rename_i h
    constructor
    · intro hx
      cases hx
    · rintro ⟨hlimit, -⟩
      exact absurd hlimit h

/-- The place of the nearest number is the whole number's own, rounded without its sign. -/
theorem key?_of_ofInt? (h : ofInt? a = some x) :
    x.key? = some (signed (decide (a < 0)) (roundUnits (a.natAbs * unitsPerOne) 1)) := by
  obtain ⟨-, rfl⟩ := ofInt?_eq_some.mp h
  rfl

/-- The finite numbers end half a step below the power that would come next. -/
theorem exists_ofInt?_iff : (∃ x, ofInt? a = some x) ↔ a.natAbs < 2 ^ 1024 - 2 ^ 970 := by
  constructor
  · rintro ⟨x, hx⟩
    obtain ⟨h, -⟩ := ofInt?_eq_some.mp hx
    by_contra hfar
    have hlimit : roundUnits ((2 ^ 1024 - 2 ^ 970) * unitsPerOne) 1 = unitsLimit := by
      decide +kernel
    have hmono := roundUnits_mono (Nat.mul_le_mul_right unitsPerOne (Nat.not_lt.mp hfar))
    omega
  · intro h
    have hlast : roundUnits ((2 ^ 1024 - 2 ^ 970 - 1) * unitsPerOne) 1 < unitsLimit := by
      decide +kernel
    have hmono := roundUnits_mono (Nat.mul_le_mul_right unitsPerOne (Nat.le_sub_one_of_lt h))
    exact ⟨_, ofInt?_eq_some.mpr ⟨Nat.lt_of_le_of_lt hmono hlast, rfl⟩⟩

theorem natAbs_signed_sub (negative : Bool) (m n : Nat) :
    (signed negative m - signed negative n).natAbs = Nat.dist n m := by
  cases negative <;> simp only [signed, Nat.dist] <;> grind

theorem dist_zero_le_of_ne {negative other : Bool} (h : other ≠ negative) (m n : Nat) :
    Nat.dist n 0 ≤ (signed other m - signed negative n).natAbs := by
  cases negative <;> cases other <;> simp_all [signed, Nat.dist] <;> grind

theorem isNearest_of_ofInt? (h : ofInt? a = some x) : x.IsNearest a := by
  obtain ⟨hlimit, rfl⟩ := ofInt?_eq_some.mp h
  refine ⟨_, rfl, fun y e he => ?_⟩
  cases y with
  | nan => cases he
  | infinity negative => cases he
  | finite negative units hunits =>
    obtain rfl := Option.some.inj he
    rw [← signed_units a, natAbs_signed_sub]
    by_cases hsign : negative = decide (a < 0)
    · rw [hsign, natAbs_signed_sub]
      exact dist_roundUnits_le _ hunits
    · -- zero lies between the whole number and every number of the other sign
      exact (dist_roundUnits_le _ representable_zero).trans (dist_zero_le_of_ne hsign ..)

theorem key?_le_of_ofInt? {p q : Int} (hx : ofInt? a = some x) (hy : ofInt? b = some y)
    (hp : x.key? = some p) (hq : y.key? = some q) (h : a ≤ b) : p ≤ q := by
  rw [key?_of_ofInt? hx] at hp
  rw [key?_of_ofInt? hy] at hq
  obtain rfl := Option.some.inj hp
  obtain rfl := Option.some.inj hq
  unfold signed
  by_cases ha : a < 0
  · by_cases hb : b < 0
    · have hmono := roundUnits_mono
        (Nat.mul_le_mul_right unitsPerOne (show b.natAbs ≤ a.natAbs by omega))
      simp [ha, hb, hmono]
    · simp [ha, hb]
  · have hb : ¬ b < 0 := by omega
    have hmono := roundUnits_mono
      (Nat.mul_le_mul_right unitsPerOne (show a.natAbs ≤ b.natAbs by omega))
    simp [ha, hb, hmono]

theorem key?_of_ofInt?_small (hx : ofInt? a = some x) (h : a.natAbs ≤ 2 ^ 53) :
    x.key? = some (a * unitsPerOne) := by
  have hlimit : 2 ^ 53 * unitsPerOne < unitsLimit := by decide +kernel
  have hexact : Representable (a.natAbs * unitsPerOne) :=
    ⟨Nat.lt_of_le_of_lt (Nat.mul_le_mul_right _ h) hlimit, a.natAbs, 1074, h, rfl⟩
  rw [key?_of_ofInt? hx, roundUnits_of_representable hexact, signed_units]

end Binary64

end ClubPoints
