import ClubPoints.Position.Reading
import ClubPoints.Proofs.Judgeable
import ClubPoints.Proofs.Literals
import ClubPoints.Proofs.Nearest

/-!
# Codes and names of positions

Rounding makes no whole number a code that is none, so only a whole number beyond the real ones is
not read as a position (`Position.read_or_fallback`).
-/

namespace ClubPoints

namespace Binary64

variable {x : Binary64} {a n : Int}

theorem isWhole_iff_truncate? :
    x.isWhole n = true ↔ x.isIntegral = true ∧ x.truncate? = some n := by
  constructor
  · intro h
    cases x with
    | nan => cases h
    | infinity negative => cases h
    | finite negative units hunits =>
      have hplace : signed negative units = n * unitsPerOne := of_decide_eq_true h
      have hcount : units = n.natAbs * unitsPerOne := by
        rw [← natAbs_signed negative units, hplace, Int.natAbs_mul, Int.natAbs_natCast]
      have hintegral : isIntegral (.finite negative units hunits) = true :=
        beq_iff_eq.mpr (by rw [hcount, Nat.mul_mod_left])
      rw [isWhole_iff hintegral rfl, decide_eq_true_eq] at h
      exact ⟨hintegral, congrArg some h.symm⟩
  · rintro ⟨hintegral, hn⟩
    rw [isWhole_iff hintegral hn, decide_eq_true_eq]

theorem isWhole_of_ofInt? {p : Int} (hx : ofInt? a = some x) (hp : x.key? = some p) :
    x.isWhole n = decide (p = n * unitsPerOne) := by
  obtain ⟨hlimit, rfl⟩ := ofInt?_eq_some.mp hx
  cases hp
  rfl

/-- Rounding makes a whole number a small one only if it is that one. -/
theorem isWhole_ofInt? (hx : ofInt? a = some x) (hn : n.natAbs < 2 ^ 53) :
    x.isWhole n = decide (n = a) := by
  have hunits : (0 : Int) < unitsPerOne := Int.natCast_pos.mpr (twoTo_pos 1074)
  have hexact {b : Int} (hb : b.natAbs ≤ 2 ^ 53) :
      ∃ y, ofInt? b = some y ∧ y.key? = some (b * unitsPerOne) := by
    have hnear : (2 : Nat) ^ 53 < 2 ^ 1024 - 2 ^ 970 := by decide +kernel
    obtain ⟨y, hy⟩ := exists_ofInt?_iff.mpr (Nat.lt_of_le_of_lt hb hnear)
    exact ⟨y, hy, key?_of_ofInt?_small hy hb⟩
  have hp := key?_of_ofInt? hx
  rw [isWhole_of_ofInt? hx hp, decide_eq_decide]
  -- the neighbours of a small number are their own nearest numbers
  rcases Int.lt_trichotomy a n with hlt | rfl | hgt
  · obtain ⟨y, hy, hq⟩ := hexact (b := n - 1) (by omega)
    have hle := key?_le_of_ofInt? hx hy hp hq (by omega)
    have hbelow : (n - 1) * (unitsPerOne : Int) < n * unitsPerOne :=
      Int.mul_lt_mul_of_pos_right (by omega) hunits
    exact iff_of_false (by omega) (by omega)
  · rw [key?_of_ofInt?_small hx (Nat.le_of_lt hn)] at hp
    exact iff_of_true (Option.some.inj hp).symm rfl
  · obtain ⟨y, hy, hq⟩ := hexact (b := n + 1) (by omega)
    have hle := key?_le_of_ofInt? hy hx hq hp (by omega)
    have habove : n * (unitsPerOne : Int) < (n + 1) * unitsPerOne :=
      Int.mul_lt_mul_of_pos_right (by omega) hunits
    exact iff_of_false (by omega) (by omega)

theorem isWhole_unique {m : Int} (hm : x.isWhole m = true) (hn : x.isWhole n = true) : m = n :=
  Option.some.inj
    ((isWhole_iff_truncate?.mp hm).2.symm.trans (isWhole_iff_truncate?.mp hn).2)

end Binary64

namespace Value

/-- Whether the value is a number equal to a whole one, or a text that is read as such a number. A
truth value is no number here. -/
def isCode (n : Int) : Value → Bool
  | .whole m => decide (n = m)
  | .real x => x.isWhole n
  | .text s => (Numeral.real? s).any fun x => x.isWhole n
  | _ => false

theorem isCode_unique {v : Value} {m n : Int} (hm : v.isCode m = true) (hn : v.isCode n = true) :
    m = n := by
  cases v with
  | whole k => exact (of_decide_eq_true hm).trans (of_decide_eq_true hn).symm
  | real x => exact Binary64.isWhole_unique hm hn
  | text s =>
    rw [isCode] at hm hn
    cases hs : Numeral.real? s with
    | none =>
      rw [hs] at hm
      cases hm
    | some x =>
      rw [hs] at hm hn
      exact Binary64.isWhole_unique hm hn
  | _ => cases hm

/-- The whole numbers beyond the real ones begin half a step below the power that would come
next. -/
theorem isBeyondReals_iff {v : Value} :
    v.isBeyondReals = true ↔ ∃ n : Int, v = .whole n ∧ 2 ^ 1024 - 2 ^ 970 ≤ n.natAbs := by
  cases v with
  | whole n =>
    have hnone : (Value.whole n).isBeyondReals = true ↔ ¬∃ x, Binary64.ofInt? n = some x := by
      rw [isBeyondReals, Option.isNone_iff_eq_none, Option.eq_none_iff_forall_ne_some, not_exists]
    rw [hnone, Binary64.exists_ofInt?_iff, Nat.not_lt]
    constructor
    · exact fun h => ⟨n, rfl, h⟩
    · rintro ⟨m, hm, h⟩
      cases hm
      exact h
  | _ =>
    refine iff_of_false Bool.false_ne_true ?_
    rintro ⟨m, hm, -⟩
    cases hm

end Value

namespace Position

variable {v : Value} {x : Binary64} {mark : Position → Bool} {p : Position}

/-- The position that a mark picks out, or the midfielder if it picks out none. -/
def IsPicked (mark : Position → Bool) (p : Position) : Prop :=
  mark p = true ∨ p = .midfielder ∧ ∀ q, mark q = false

theorem isPicked_iff (hone : ∀ p q, mark p = true → mark q = true → p = q) :
    IsPicked mark p ↔ p = (all.find? mark).getD fallback := by
  cases h : all.find? mark with
  | none =>
    have hnone (q : Position) : mark q = false :=
      eq_false_of_ne_true (List.find?_eq_none.mp h q q.mem_all)
    constructor
    · rintro (hp | ⟨hp, -⟩)
      · rw [hnone] at hp
        cases hp
      · exact hp
    · exact fun hp => .inr ⟨hp, hnone⟩
  | some q =>
    have hq : mark q = true := List.find?_some h
    constructor
    · rintro (hp | ⟨-, hnone⟩)
      · exact hone p q hp hq
      · rw [hnone] at hq
        cases hq
    · rintro rfl
      exact .inl hq

theorem code_inj {p q : Position} (h : p.code = q.code) : p = q := by
  have hcode := ofCode?_code p
  rw [h, ofCode?_code] at hcode
  exact (Option.some.inj hcode).symm

theorem name_inj {p q : Position} (h : p.name = q.name) : p = q := by
  have hname := ofName?_name p
  rw [h, ofName?_name] at hname
  exact (Option.some.inj hname).symm

theorem natAbs_code_lt (p : Position) : p.code.natAbs < 2 ^ 53 := by
  cases p <;> decide

theorem code_of_real (x : Binary64) :
    (if x.isIntegral then (x.truncate?.bind ofCode?).getD fallback else fallback) =
      (all.find? fun q => x.isWhole q.code).getD fallback := by
  cases hintegral : x.isIntegral with
  | false =>
    have hnone : all.find? (fun q => x.isWhole q.code) = none := by
      rw [List.find?_eq_none]
      intro q _ hq
      rw [(Binary64.isWhole_iff_truncate?.mp hq).1] at hintegral
      cases hintegral
    rw [hnone]
    rfl
  | true =>
    obtain ⟨n, hn⟩ := Binary64.exists_truncate? hintegral
    have hcode (q : Position) : x.isWhole q.code = (q.code == n) :=
      Binary64.isWhole_iff hintegral hn q.code
    simp only [hcode, hn]
    rfl

theorem decode_of_toReal (htruth : v.isTruth = false) (hx : v.toReal = .ok x) :
    decode v = .ok ((all.find? fun q => x.isWhole q.code).getD fallback) := by
  rw [← code_of_real, decode, htruth, hx]
  dsimp only
  cases x.isIntegral <;> rfl

theorem decode_of_beyond (h : v.isBeyondReals = true) : decode v = .error .wholeTooLarge := by
  cases v with
  | whole n =>
    have hnone : Binary64.ofInt? n = none := Option.isNone_iff_eq_none.mp h
    have hread : (Value.whole n).toReal = .error .wholeTooLarge := by
      rw [Value.toReal, hnone]
      rfl
    rw [decode, hread]
    rfl
  | _ => cases h

theorem decode_of_near (h : v.isBeyondReals = false) :
    decode v = .ok ((all.find? fun q => v.isCode q.code).getD fallback) := by
  cases v with
  | whole n =>
    obtain ⟨x, hx⟩ : ∃ x, Binary64.ofInt? n = some x :=
      Option.isSome_iff_exists.mp (Option.isNone_eq_false_iff.mp h)
    have hread : (Value.whole n).toReal = .ok x := by
      rw [Value.toReal, hx]
      rfl
    rw [decode_of_toReal rfl hread]
    simp only [Binary64.isWhole_ofInt? hx (natAbs_code_lt _)]
    rfl
  | real x => exact decode_of_toReal rfl rfl
  | text s =>
    cases hs : Numeral.real? s with
    | none =>
      simp only [decode, Value.toReal, Value.isCode, hs]
      rfl
    | some x =>
      have hread : (Value.text s).toReal = .ok x := by
        rw [Value.toReal, hs]
      rw [decode_of_toReal rfl hread]
      simp only [Value.isCode, hs]
      rfl
  | _ => rfl

theorem read_text (s : String) :
    read (.text s) =
      .ok ((all.find? fun q => q.name == Text.upper (Text.strip s)).getD fallback) := rfl

theorem read_of_not_text (h : v.text? = none) : read v = decode v := by
  cases v with
  | text s => cases h
  | position p => cases h
  | _ => rfl

/-- A value that is the code of a position is decoded to it and any other to the midfielder, unless
it is a whole number beyond the real ones. A text is read by its name in upper case and without the
blanks around it, a position as itself, and all that is no text as it is decoded. -/
theorem read_or_fallback (v : Value) :
    (∃ p, (∀ q, IsPicked (fun q => v.isCode q.code) q ↔ q = p) ∧
      decode v = if v.isBeyondReals then .error .wholeTooLarge else .ok p) ∧
    (v.isBeyondReals = true ↔ ∃ n : Int, v = .whole n ∧ 2 ^ 1024 - 2 ^ 970 ≤ n.natAbs) ∧
    (v.text? = none → read v = decode v) ∧
    (∀ s, ∃ p, (∀ q, IsPicked (fun q => q.name == Text.upper (Text.strip s)) q ↔ q = p) ∧
      read (.text s) = .ok p) ∧
    ∀ p, read (.position p) = .ok p := by
  refine ⟨⟨_, fun q => isPicked_iff ?code, ?decoded⟩, Value.isBeyondReals_iff, read_of_not_text,
    fun s => ⟨_, fun q => isPicked_iff ?name, read_text s⟩, fun p => rfl⟩
  case code => exact fun p q hp hq => code_inj (Value.isCode_unique hp hq)
  case name => exact fun p q hp hq => name_inj ((eq_of_beq hp).trans (eq_of_beq hq).symm)
  case decoded =>
    cases h : v.isBeyondReals with
    | true => exact decode_of_beyond h
    | false => exact decode_of_near h

theorem read_or_fallback_real :
    (Value.real (.ofRatio 4 1)).text? = none ∧ read (.real (.ofRatio 4 1)) = .ok .forward := by
  obtain ⟨⟨p, hpicked, hdecoded⟩, -, hread, -⟩ := read_or_fallback (.real (.ofRatio 4 1))
  have hforward : IsPicked (fun q => (Value.real (.ofRatio 4 1)).isCode q.code) .forward :=
    .inl (by decide +kernel)
  rw [(hpicked _).mp hforward]
  exact ⟨rfl, (hread rfl).trans hdecoded⟩

/-- The first power of two beyond the real numbers stands for no position, not even for the
midfielder. -/
theorem read_or_fallback_not_always :
    (¬∀ v : Value, ∃ p, IsPicked (fun q => v.isCode q.code) p ∧ decode v = .ok p) ∧
    (¬∀ v : Value, ∃ p, read v = .ok p) ∧
    decode (.whole (2 ^ 1024)) = .error .wholeTooLarge := by
  have hbeyond : decode (.whole (2 ^ 1024)) = .error .wholeTooLarge :=
    decode_of_beyond (by decide +kernel)
  refine ⟨fun h => ?_, fun h => ?_, hbeyond⟩
  · obtain ⟨p, -, hp⟩ := h (.whole (2 ^ 1024))
    rw [hbeyond] at hp
    cases hp
  · obtain ⟨p, hp⟩ := h (.whole (2 ^ 1024))
    rw [read_of_not_text rfl, hbeyond] at hp
    cases hp

end Position

end ClubPoints
