import ClubPoints.Value.Conversion

/-!
# Numbers that need no rounding

A count of units that the format holds is its own rounding (`roundUnits_of_representable`), so a real
number without a fraction, read as a whole number, is turned back into itself and never lies beyond
the real numbers (`Binary64.ofInt?_truncate`).
-/

namespace ClubPoints

/-- A number with few significant bits has zeros where rounding cuts. -/
theorem twoTo_spare_dvd {units : Nat} (h : Representable units) :
    twoTo (units.log2 - 52) ∣ units := by
  obtain ⟨-, m, k, hm, hunits⟩ := h
  rcases Nat.eq_zero_or_pos units with h0 | hpos
  · rw [h0]
    exact Nat.dvd_zero _
  -- up to a full mantissa the cut is in the factor `2 ^ k`; a full one shifts it by one bit
  rcases Nat.lt_or_eq_of_le hm with hm | rfl
  · have hlt : units < twoTo (53 + k) := by
      rw [hunits, twoTo_add]
      exact Nat.mul_lt_mul_of_pos_right hm (twoTo_pos k)
    have hlog : units.log2 < 53 + k := (Nat.log2_lt (Nat.pos_iff_ne_zero.mp hpos)).mpr hlt
    have hcut : twoTo (units.log2 - 52) ∣ twoTo k := Nat.pow_dvd_pow 2 (by omega)
    exact Nat.dvd_trans hcut ⟨m, hunits.trans (Nat.mul_comm ..)⟩
  · rw [← twoTo_add] at hunits
    have hlog : units.log2 = 53 + k := hunits ▸ Nat.log2_two_pow
    rw [hlog, hunits]
    exact Nat.pow_dvd_pow 2 (by omega)

theorem roundHalfEven_of_dvd {num den : Nat} (hden : 0 < den) (h : den ∣ num) :
    roundHalfEven num den = num / den := by
  simp [roundHalfEven, Nat.mod_eq_zero_of_dvd h, hden]

theorem roundUnits_of_representable {units : Nat} (h : Representable units) :
    roundUnits units 1 = units := by
  have hdvd := twoTo_spare_dvd h
  rw [roundUnits, Nat.div_one, Nat.one_mul, roundHalfEven_of_dvd (twoTo_pos _) hdvd,
    Nat.div_mul_cancel hdvd]

namespace Binary64

theorem ofUnits_of_representable (negative : Bool) {units : Nat} (h : Representable units) :
    ofUnits negative units 1 = .finite negative units h := by
  simp [ofUnits, roundUnits_of_representable h, h.1]

theorem natAbs_signed (negative : Bool) (n : Nat) : (signed negative n).natAbs = n := by
  cases negative <;> simp [signed]

theorem exists_truncate? {x : Binary64} (hx : x.isIntegral = true) :
    ∃ n, x.truncate? = some n := by
  cases x with
  | finite => exact ⟨_, rfl⟩
  | _ => cases hx

theorem ofInt?_truncate {x : Binary64} {n : Int} (hx : x.isIntegral = true)
    (hn : x.truncate? = some n) : (ofInt? n).isSome = true := by
  cases x with
  | nan => cases hn
  | infinity negative => cases hn
  | finite negative units h =>
    have hwhole : n = signed negative (units / unitsPerOne) := (Option.some.inj hn).symm
    have hunits : units / unitsPerOne * unitsPerOne = units :=
      Nat.div_mul_cancel (Nat.dvd_of_mod_eq_zero (of_decide_eq_true hx))
    rw [ofInt?, ofQuotient, hwhole, natAbs_signed, hunits, ofUnits_of_representable _ h]
    rfl

end Binary64

end ClubPoints
