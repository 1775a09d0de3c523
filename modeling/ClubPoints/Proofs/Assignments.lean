import ClubPoints.Proofs.Ledger

/-!
# The assignments that a ledger depends on

An assignment that does not count, or whose rule no profile enables, brings no rows, and since no
automatic row is for its rule either it keeps none away (`assemble_kept`).
-/

namespace ClubPoints

theorem Award.ruleId_of_all {rules : List Rule} {r : Registry} {game : MatchFacts}
    {players : List PlayerFacts} {awards : List Award}
    (h : Award.all rules r game players = .ok awards) {a : Award} (ha : a ∈ awards) :
    ∃ rule ∈ rules, a.ruleId = rule.id := by
  have hmem := (Award.all_eq_ok h).mem_iff.mp ha
  obtain ⟨rule, hrule, ha⟩ := List.mem_flatMap.mp hmem
  exact ⟨rule, (List.mem_filter.mp hrule).1, Rule.mem_found_awards ha⟩

namespace Ledger

variable {rules : List Rule} {profiles : List Profile} {assignments others : List Assignment}
  {r : Registry} {game : MatchFacts} {players : List PlayerFacts}

/-- Whether an assignment brings rows: it counts, and a profile enables its rule. -/
def isKept (profiles : List Profile) (a : Assignment) : Bool :=
  a.isCounted && profiles.any fun p => p.enables a.ruleId

/-! ## Rows by hand -/

theorem assignmentRows_eq_nil {a : Assignment} (h : ∀ p ∈ profiles, p.enables a.ruleId = false) :
    assignmentRows rules profiles a = [] := by
  unfold assignmentRows
  cases hrule : rule? rules a.ruleId with
  | none => rfl
  | some rule =>
    have hid : rule.id = a.ruleId := (rule?_eq_some hrule).2
    have hnone : (profiles.filter fun p => p.enables rule.id) = [] := by
      rw [List.filter_eq_nil_iff, hid]
      intro p hp
      rw [h p hp]
      exact Bool.false_ne_true
    simp only [hnone, List.map_nil]

theorem manualRows_kept (rules : List Rule) (profiles : List Profile)
    (assignments : List Assignment) :
    manualRows rules profiles (assignments.filter (isKept profiles)) =
      manualRows rules profiles assignments := by
  unfold manualRows
  induction assignments with
  | nil => rfl
  | cons a rest ih =>
    cases hcount : a.isCounted with
    | false =>
      have hkept : isKept profiles a = false := by rw [isKept, hcount, Bool.false_and]
      rw [List.filter_cons, hkept, List.filter_cons, hcount]
      exact ih
    | true =>
      by_cases henabled : profiles.any (fun p => p.enables a.ruleId) = true
      · have hkept : isKept profiles a = true := by rw [isKept, hcount, henabled, Bool.true_and]
        simp only [List.filter_cons, hkept, hcount, ↓reduceIte, List.flatMap_cons, ih]
      · have hkept : isKept profiles a = false := by
          rw [isKept, hcount, Bool.eq_false_of_not_eq_true henabled, Bool.true_and]
        have hnil : assignmentRows rules profiles a = [] := by
          refine assignmentRows_eq_nil fun p hp => ?_
          rw [Bool.eq_false_iff]
          exact fun hp' => henabled (List.any_eq_true.mpr ⟨p, hp, hp'⟩)
        simp only [List.filter_cons, hkept, hcount, Bool.false_eq_true, ↓reduceIte,
          List.flatMap_cons, hnil, List.nil_append, ih]

/-! ## Automatic rows -/

theorem isAssigned_kept {a : Award} {p : Profile} (hp : p ∈ profiles)
    (henabled : p.enables a.ruleId = true) :
    isAssigned (assignments.filter (isKept profiles)) a = isAssigned assignments a := by
  unfold isAssigned
  rw [List.any_filter]
  congr 1
  funext x
  cases hrule : x.ruleId == a.ruleId with
  | false => simp only [Bool.and_false]
  | true =>
    have hx : (profiles.any fun p => p.enables x.ruleId) = true :=
      List.any_eq_true.mpr ⟨p, hp, by rw [eq_of_beq hrule]; exact henabled⟩
    rw [isKept, hx]
    cases x.isCounted <;> rfl

theorem profileRows_congr {p : Profile}
    (h : ∀ a : Award, p.enables a.ruleId = true → isAssigned others a = isAssigned assignments a) :
    profileRows rules others r game players p = profileRows rules assignments r game players p := by
  unfold profileRows
  cases hawards : Award.all (p.rules rules) r game players with
  | error fault => rfl
  | ok awards =>
    have hsame : (awards.filter fun a => !isAssigned others a) =
        awards.filter fun a => !isAssigned assignments a := by
      refine List.filter_congr fun a ha => ?_
      obtain ⟨rule, hrule, hid⟩ := Award.ruleId_of_all hawards ha
      obtain ⟨x, hx, rfl⟩ := List.mem_map.mp hrule
      have henabled : p.enables x.id = true :=
        (Bool.and_eq_true_iff.mp (List.mem_filter.mp hx).2).2
      rw [h a (hid ▸ henabled)]
    exact congrArg (fun l => Except.ok (l.map fun a => a.row p)) hsame

theorem automaticRows_congr
    (h : ∀ p ∈ profiles, ∀ a : Award, p.enables a.ruleId = true →
      isAssigned others a = isAssigned assignments a) :
    automaticRows rules profiles others r game players =
      automaticRows rules profiles assignments r game players := by
  have hsame : profiles.mapM (profileRows (rules.filter fun rule => rule.kind.isAutomatic) others r
      game players) = profiles.mapM (profileRows (rules.filter fun rule => rule.kind.isAutomatic)
      assignments r game players) :=
    mapM_congr fun p hp => profileRows_congr (h p hp)
  rw [automaticRows, automaticRows, hsame]

/-! ## The whole ledger -/

theorem slot_eq_of_place {a b : LedgerRow} (h : a.place = b.place) : slot a = slot b := by
  have hplace := congrArg (fun x => ((ofLex x).1, (ofLex (ofLex x).2).1,
    (ofLex (ofLex (ofLex x).2).2).1)) h
  obtain ⟨hname, hplayer, hrule⟩ : a.pointType.name = b.pointType.name ∧
      a.playerId = b.playerId ∧ a.ruleId = b.ruleId := by
    simpa only [LedgerRow.place, ofLex_toLex, Prod.mk.injEq] using hplace
  have htype : a.pointType = b.pointType := by
    cases ha : a.pointType <;> cases hb : b.pointType <;> rw [ha, hb] at hname <;>
      first | rfl | exact absurd hname (by decide)
  rw [slot, slot, htype, hplayer, hrule]

theorem nodup_place {rows : List LedgerRow} (h : (rows.map slot).Nodup) :
    (rows.map LedgerRow.place).Nodup := by
  rw [List.Nodup, List.pairwise_map] at h ⊢
  exact h.imp fun hne hplace => hne (slot_eq_of_place hplace)

/-- The ledger is the same for the assignments that bring rows, in any order. -/
theorem assemble_kept {withAutomatic : Bool} {rows : List LedgerRow}
    (hothers : others.Perm (assignments.filter (isKept profiles)))
    (hslots : (rows.map slot).Nodup)
    (h : assemble rules profiles assignments r game players withAutomatic = .ok rows) :
    assemble rules profiles others r game players withAutomatic = .ok rows := by
  obtain ⟨automatic, hautomatic, rfl⟩ := assemble_eq_ok.mp h
  have hmanual : (manualRows rules profiles others).Perm
      (manualRows rules profiles assignments) := by
    rw [← manualRows_kept rules profiles assignments]
    exact (hothers.filter _).flatMap_right _
  have hsame : automaticRows rules profiles others r game players =
      automaticRows rules profiles assignments r game players := by
    refine automaticRows_congr fun p hp a henabled => ?_
    exact hothers.any_eq.trans (isAssigned_kept hp henabled)
  refine assemble_eq_ok.mpr ⟨automatic, by rw [hsame]; exact hautomatic, ?_⟩
  -- no two rows have one place, so sorting forgets the order of the assignments
  have hplaces : ((manualRows rules profiles others ++ automatic).map LedgerRow.place).Nodup := by
    have hperm := ((List.mergeSort_perm _ _).map slot).nodup_iff.mp hslots
    exact nodup_place (((hmanual.append_right automatic).map slot).nodup_iff.mpr hperm)
  exact sortsBy_before.mergeSort_congr (hmanual.append_right automatic).symm hplaces

end Ledger

end ClubPoints
