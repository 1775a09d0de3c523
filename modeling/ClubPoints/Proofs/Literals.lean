import ClubPoints.Condition
import ClubPoints.Proofs.Rounding

/-!
# Numbers as literals

The number of a condition is stored without the sign of a zero and read back as a whole literal if
it has no fraction. Neither comparisons nor position codes can tell the two apart
(`Value.compare_stored`, `Value.decode_stored`).
-/

namespace ClubPoints

namespace Binary64

variable {x : Binary64}

theorem signed_withoutZeroSign (negative : Bool) {units n : Nat} (h : units = 0 → n = 0) :
    signed (negative && units != 0) n = signed negative n := by
  by_cases hunits : units = 0
  · rw [h hunits]
    cases negative <;> simp [signed, hunits]
  · rw [bne_iff_ne.mpr hunits, Bool.and_true]

theorem key?_withoutZeroSign (x : Binary64) : x.withoutZeroSign.key? = x.key? := by
  cases x with
  | finite negative units h => exact congrArg some (signed_withoutZeroSign negative id)
  | _ => rfl

theorem isIntegral_withoutZeroSign (x : Binary64) :
    x.withoutZeroSign.isIntegral = x.isIntegral := by
  cases x <;> rfl

theorem truncate?_withoutZeroSign (x : Binary64) : x.withoutZeroSign.truncate? = x.truncate? := by
  cases x with
  | finite negative units h =>
    exact congrArg some (signed_withoutZeroSign negative fun hzero => by rw [hzero, Nat.zero_div])
  | _ => rfl

theorem ofInt?_withoutZeroSign {n : Int} (hx : x.isIntegral = true) (hn : x.truncate? = some n) :
    ofInt? n = some x.withoutZeroSign := by
  cases x with
  | nan => cases hn
  | infinity negative => cases hn
  | finite negative units h =>
    have hmod : units % unitsPerOne = 0 := of_decide_eq_true hx
    have hunits : units / unitsPerOne * unitsPerOne = units :=
      Nat.div_mul_cancel (Nat.dvd_of_mod_eq_zero hmod)
    have hwhole : n = signed negative (units / unitsPerOne) := (Option.some.inj hn).symm
    have hsign : decide (n < 0) = (negative && units != 0) := by
      rw [hwhole]
      cases negative with
      | false => exact decide_eq_false (Int.not_lt.mpr (Int.natCast_nonneg _))
      | true =>
        have hpos : 0 < units / unitsPerOne ↔ units ≠ 0 := by
          rw [← Nat.pos_iff_ne_zero, ← Nat.mul_pos_iff_of_pos_right (twoTo_pos 1074)]
          exact iff_of_eq (congrArg (0 < ·) hunits)
        rw [Bool.eq_iff_iff, decide_eq_true_iff, Bool.true_and, bne_iff_ne, ← hpos]
        change -((units / unitsPerOne : Nat) : Int) < 0 ↔ _
        omega
    rw [ofInt?, ofQuotient, hsign, hwhole, natAbs_signed, hunits, ofUnits_of_representable _ h]
    rfl

theorem same_withoutZeroSign (h : x ≠ .nan) : x.withoutZeroSign.same x = true := by
  unfold same related
  rw [key?_withoutZeroSign]
  cases x with
  | nan => exact absurd rfl h
  | _ => exact decide_eq_true rfl

theorem holdsOfReals_withoutZeroSign (op : Operator) (y x : Binary64) :
    op.holdsOfReals y x.withoutZeroSign = op.holdsOfReals y x := by
  cases op <;> simp only [Operator.holdsOfReals, lt, le, same, related, key?_withoutZeroSign]

theorem isWhole_withoutZeroSign (x : Binary64) (m : Int) :
    x.withoutZeroSign.isWhole m = x.isWhole m := by
  cases x with
  | finite negative units h =>
    simp only [withoutZeroSign, isWhole, signed_withoutZeroSign negative id]
  | _ => rfl

theorem isWhole_iff {n : Int} (hx : x.isIntegral = true) (hn : x.truncate? = some n) (m : Int) :
    x.isWhole m = decide (m = n) := by
  cases x with
  | nan => cases hn
  | infinity negative => cases hn
  | finite negative units h =>
    have hunits : units / unitsPerOne * unitsPerOne = units :=
      Nat.div_mul_cancel (Nat.dvd_of_mod_eq_zero (of_decide_eq_true hx))
    have hplace : signed negative units = n * unitsPerOne := by
      rw [← Option.some.inj hn]
      cases negative with
      | false =>
        change (units : Int) = (units / unitsPerOne : Nat) * unitsPerOne
        exact_mod_cast hunits.symm
      | true =>
        change -(units : Int) = -((units / unitsPerOne : Nat) : Int) * unitsPerOne
        rw [Int.neg_mul]
        exact_mod_cast congrArg (fun k : Nat => -(k : Int)) hunits.symm
    have hpos : (unitsPerOne : Int) ≠ 0 := by exact_mod_cast Nat.pos_iff_ne_zero.mp (twoTo_pos 1074)
    rw [isWhole, hplace]
    exact decide_eq_decide.mpr ((Int.mul_eq_mul_right_iff hpos).trans eq_comm)

end Binary64

namespace Value

def stored (x : Binary64) : Value := literalOfReal x.withoutZeroSign

/-- A number without a fraction is stored as the whole number that it is, and any other number as a
real one. -/
theorem stored_cases (x : Binary64) :
    (∃ n, stored x = .whole n ∧ Binary64.ofInt? n = some x.withoutZeroSign ∧
      ∀ m, x.isWhole m = decide (m = n)) ∨ stored x = .real x.withoutZeroSign := by
  unfold stored literalOfReal
  rw [Binary64.isIntegral_withoutZeroSign, Binary64.truncate?_withoutZeroSign]
  by_cases hx : x.isIntegral = true
  · obtain ⟨n, hn⟩ := Binary64.exists_truncate? hx
    rw [if_pos hx, hn]
    exact .inl ⟨n, rfl, Binary64.ofInt?_withoutZeroSign hx hn, Binary64.isWhole_iff hx hn⟩
  · rw [if_neg hx]
    exact .inr rfl

theorem stored_zero : stored .zero = .whole 0 := by
  have hintegral : Binary64.zero.withoutZeroSign.isIntegral = true :=
    beq_iff_eq.mpr (Nat.zero_mod _)
  unfold stored literalOfReal
  rw [if_pos hintegral]
  exact congrArg (fun n : Nat => Value.whole n) (Nat.zero_div _)

theorem toReal_stored (x : Binary64) : (stored x).toReal = .ok x.withoutZeroSign := by
  rcases stored_cases x with ⟨n, hstored, hn, -⟩ | hstored
  · rw [hstored, toReal, hn]
    rfl
  · rw [hstored]
    rfl

theorem isUnordered_stored (x : Binary64) : (stored x).isUnordered = false := by
  rcases stored_cases x with ⟨n, hstored, -⟩ | hstored <;> rw [hstored] <;> rfl

theorem same_stored {v : Value} (h : v.isUnordered = true) (x : Binary64) :
    v.same (stored x) = v.same (.real x) := by
  rcases stored_cases x with ⟨n, hstored, -, hwhole⟩ | hstored <;> rw [hstored]
  · cases v with
    | truth b => exact (hwhole _).symm
    | text | brokenText | position | member => rfl
    | _ => cases h
  · cases v with
    | truth b => exact x.isWhole_withoutZeroSign _
    | text | brokenText | position | member => rfl
    | _ => cases h

theorem stored_same {x : Binary64} (h : x ≠ .nan) : (stored x).same (.real x) = true := by
  rcases stored_cases x with ⟨n, hstored, -, hwhole⟩ | hstored <;> rw [hstored]
  · exact (hwhole n).trans (decide_eq_true rfl)
  · exact Binary64.same_withoutZeroSign h

/-- No comparison can tell a literal from the number that it was made of. -/
theorem compare_stored (op : Operator) (actual : Value) (x : Binary64) :
    op.compare actual (stored x) = op.compare actual (.real x) := by
  have hreal : (Value.real x).isUnordered = false := rfl
  unfold Operator.compare
  rw [isUnordered_stored, hreal]
  by_cases hordered : actual.isUnordered = true
  · rw [hordered, same_stored hordered]
    rfl
  · have hoperand : (stored x).operand? = .ok (some x.withoutZeroSign) := by
      rw [operand?, toReal_stored]
    have hoperand' : (Value.real x).operand? = .ok (some x) := rfl
    simp only [Bool.not_eq_true] at hordered
    simp only [hordered, hoperand, hoperand', bind, Except.bind,
      Binary64.holdsOfReals_withoutZeroSign]
    rfl

theorem decode_stored (x : Binary64) :
    Position.decode (stored x) = Position.decode (.real x) := by
  have htruth : (stored x).isTruth = false := by
    rcases stored_cases x with ⟨n, hstored, -⟩ | hstored <;> rw [hstored] <;> rfl
  unfold Position.decode
  simp only [htruth, toReal_stored, Binary64.isIntegral_withoutZeroSign,
    Binary64.truncate?_withoutZeroSign]
  rfl

end Value

end ClubPoints
