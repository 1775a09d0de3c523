import ClubPoints.Proofs.Editing
import ClubPoints.Proofs.Readings
import ClubPoints.Proofs.Scores
import ClubPoints.Proofs.StoredRules
import Mathlib.Data.List.Find

/-!
# The variable that a created rule multiplies by

A condition of a form is looked at three times for a variable to multiply by: in the draft that is
judged, in the form that is stored, and in the rows that are read back. The form as it is stored
passes a condition with an empty name to compare with over, the other two do not.
-/

namespace ClubPoints

open Form

/-! ## Zero -/

namespace Binary64

variable {negative : Bool} {units : Nat} {h : Representable units}

theorem signed_eq_zero : signed negative units = 0 ↔ units = 0 := by
  cases negative <;> simp [signed]

theorem isWhole_finite_zero : (finite negative units h).isWhole 0 = decide (units = 0) := by
  unfold isWhole
  rw [Int.zero_mul]
  exact decide_eq_decide.mpr signed_eq_zero

theorem isWhole_zero : zero.isWhole 0 = true := isWhole_finite_zero

theorem isWhole_zero_withoutZeroSign (x : Binary64) :
    x.withoutZeroSign.isWhole 0 = x.isWhole 0 := by
  cases x with
  | finite => exact isWhole_finite_zero.trans isWhole_finite_zero.symm
  | _ => rfl

end Binary64

theorem Value.same_literalOfReal_zero (x : Binary64) :
    (Value.literalOfReal x).same (.whole 0) = x.isWhole 0 := by
  unfold literalOfReal
  by_cases hx : x.isIntegral = true
  · rw [if_pos hx]
    cases x with
    | finite negative units h =>
      have hunits : units % unitsPerOne = 0 := eq_of_beq hx
      have hdiv : units / unitsPerOne = 0 ↔ units = 0 := by
        constructor
        · intro hzero
          have hsplit := Nat.div_add_mod units unitsPerOne
          rw [hzero, hunits, Nat.mul_zero] at hsplit
          exact hsplit.symm
        · intro hzero
          rw [hzero, Nat.zero_div]
      rw [Binary64.isWhole_finite_zero]
      exact decide_eq_decide.mpr (Binary64.signed_eq_zero.trans hdiv)
    | _ => cases hx
  · rw [if_neg hx]
    rfl

/-! ## The readings of a condition -/

namespace Form.ConditionForm

def isAboveZero (c : ConditionForm) : Bool :=
  c.operator == some .greater && c.value.any (·.isWhole 0) && c.scope == .ofPlayer

def stored (c : ConditionForm) : Condition := (Table.kept (c.record 0)).condition

structure IsSound (c : ConditionForm) : Prop where
  key : ∃ key, c.key = some key ∧ key ≠ ""
  value : c.value = none → ∃ other, c.otherKey = some other ∧ other ≠ ""

variable {c : ConditionForm}

theorem draft_namesMultiplier (c : ConditionForm) :
    c.draft.namesMultiplier = (c.isAboveZero && c.otherKey.all (· == "")) := by
  have hoperator : (Value.nullable (fun op : Operator => .text op.symbol) c.operator).isText
      Operator.greater.symbol = (c.operator == some .greater) := by
    rcases c.operator with _ | op
    · rfl
    · cases op <;> decide
  have hvalue : (Value.nullable .real c.value).same (.whole 0) = c.value.any (·.isWhole 0) := by
    cases c.value <;> rfl
  have hscope : (Value.text c.scope.name).isText Scope.ofPlayer.name = (c.scope == .ofPlayer) := by
    cases c.scope <;> decide
  have hother : (!(Value.nullable .text c.otherKey).isGiven) = c.otherKey.all (· == "") := by
    cases c.otherKey with
    | none => rfl
    | some other =>
      show (!(other != "")) = (other == "")
      simp [bne]
  unfold DraftCondition.namesMultiplier
  simp only [draft, hoperator, hvalue, hscope, hother, isAboveZero]

/-- A stored condition is `> 0` if it was in the form. An absent value is stored as zero, but then
the condition has a variable to compare with. -/
theorem namesMultiplier_of_parts (h : c.IsSound) {isMissing : Bool}
    (hmissing : isMissing = true → c.otherKey.all (· == "") = true) :
    (c.scope == .ofPlayer && c.operator.getD .equal == .greater && isMissing &&
        (c.value.getD .zero).isWhole 0) =
      (c.isAboveZero && isMissing) := by
  have hoperator : (c.operator.getD .equal == .greater) = (c.operator == some .greater) := by
    cases c.operator <;> rfl
  rw [hoperator]
  cases isMissing with
  | false => simp
  | true =>
    unfold isAboveZero
    cases hvalue : c.value with
    | none =>
      obtain ⟨other, hother, hne⟩ := h.value hvalue
      have hempty := hmissing rfl
      simp [hother, hne] at hempty
    | some x =>
      simp only [Option.getD_some, Option.any_some, Bool.and_true]
      rw [Bool.and_comm (c.scope == .ofPlayer), Bool.and_right_comm]

theorem stored_namesMultiplier (h : c.IsSound) :
    c.stored.namesMultiplier = c.draft.namesMultiplier := by
  have hother : c.stored.otherKey.isNone = c.otherKey.all (· == "") := by
    show (((c.otherKey.filter (· ≠ "")).filter (· ≠ "")).isNone) = _
    rcases c.otherKey with _ | other
    · rfl
    · by_cases hempty : other = "" <;> simp [hempty]
  have hvalue : c.stored.value.same (.whole 0) = (c.value.getD .zero).isWhole 0 := by
    show (Value.literalOfReal (c.value.getD .zero).withoutZeroSign).same (.whole 0) = _
    rw [Value.same_literalOfReal_zero, Binary64.isWhole_zero_withoutZeroSign]
  unfold Condition.namesMultiplier
  rw [hother, hvalue, draft_namesMultiplier]
  exact namesMultiplier_of_parts h id

theorem condition_namesMultiplier (h : c.IsSound) :
    c.condition.namesMultiplier = (c.draft.namesMultiplier && c.otherKey.isNone) := by
  have hvalue : c.condition.value.same (.whole 0) = (c.value.getD .zero).isWhole 0 := by
    unfold condition
    cases c.value with
    | none => exact Binary64.isWhole_zero.symm
    | some x => rfl
  have hnone : (c.otherKey.all (· == "") && c.otherKey.isNone) = c.otherKey.isNone := by
    cases c.otherKey <;> simp
  unfold Condition.namesMultiplier
  rw [hvalue, draft_namesMultiplier, Bool.and_assoc c.isAboveZero, hnone]
  refine namesMultiplier_of_parts h fun hmissing => ?_
  cases hother : c.otherKey with
  | none => rfl
  | some other =>
    rw [condition, hother] at hmissing
    cases hmissing

end Form.ConditionForm

/-! ## What was judged -/

theorem filter_given {s : String} (h : s ≠ "") : (some s).filter (· ≠ "") = some s := by simp [h]

theorem Value.given_text {x : Option String} (h : (Value.nullable .text x).isGiven = true) :
    ∃ s, x = some s ∧ s ≠ "" := by
  cases x with
  | none => cases h
  | some s => exact ⟨s, rfl, by simpa [Value.nullable, Value.isGiven] using h⟩

theorem Form.ConditionForm.sound_of_problems {c : ConditionForm} {isResult : Bool} {index : Nat}
    (h : c.draft.problems isResult index = []) : c.IsSound := by
  simp only [DraftCondition.problems, List.append_eq_nil_iff, ite_eq_left_iff, ite_eq_right_iff,
    reduceCtorEq, imp_false, Bool.not_eq_true, Bool.not_eq_false] at h
  obtain ⟨⟨⟨hkey, -⟩, hvalue⟩, -⟩ := h
  refine ⟨Value.given_text hkey, fun hnone => Value.given_text ?_⟩
  simpa [draft, hnone, Value.nullable, Value.isNull] using hvalue

namespace Form.RuleForm

variable {form : RuleForm} {r : Registry}

def named? (f : RuleForm) : Option String := f.multiplier.filter (· ≠ "")

/-- The named variable, or else the one inferred from the conditions as they are read back. -/
def judgedMultiplier? (f : RuleForm) : Option String :=
  f.named?.or (Pricing.inferredKey? (f.conditions.map ConditionForm.stored))

theorem condition_of_problems (h : form.draft.problems r = .ok []) {c : ConditionForm}
    (hc : c ∈ form.conditions) : ∃ isResult index, c.draft.problems isResult index = [] := by
  simp only [Draft.problems, bind_eq_ok, pure_eq_ok, List.append_eq_nil_iff] at h
  obtain ⟨_, -, _, -, -, hconditions⟩ := h
  have hdraft : c.draft ∈ form.draft.conditions := List.mem_map_of_mem hc
  rw [← List.zipIdx_map_fst 1 form.draft.conditions] at hdraft
  obtain ⟨⟨d, index⟩, hmem, rfl : d = c.draft⟩ := List.mem_map.mp hdraft
  exact ⟨_, index, List.flatMap_eq_nil_iff.mp hconditions _ hmem⟩

theorem parts_of_problems (h : form.draft.problems r = .ok []) :
    form.draft.multiplierProblems r = .ok [] ∧ ∀ c ∈ form.conditions, c.IsSound := by
  constructor
  · simp only [Draft.problems, bind_eq_ok, pure_eq_ok, List.append_eq_nil_iff] at h
    obtain ⟨_, -, problems, hmultiplier, ⟨-, rfl⟩, -⟩ := h
    exact hmultiplier
  · intro c hc
    obtain ⟨_, _, hnone⟩ := condition_of_problems h hc
    exact ConditionForm.sound_of_problems hnone

theorem multiplierSource_eq (hsound : ∀ c ∈ form.conditions, c.IsSound) :
    form.draft.multiplierSource = Value.nullable .text form.judgedMultiplier? := by
  unfold Draft.multiplierSource judgedMultiplier?
  by_cases hnamed : form.draft.multiplier.isGiven = true
  · obtain ⟨name, hname, hne⟩ := Value.given_text hnamed
    rw [if_pos hnamed, named?, hname, filter_given hne, Option.some_or]
    exact congrArg (Value.nullable .text) hname
  · have hnone : form.named? = none := by
      refine Option.filter_eq_none_iff.mpr fun name hname => ?_
      simpa [draft, hname, Value.nullable, Value.isGiven] using hnamed
    have hfind : form.conditions.find? (Condition.namesMultiplier ∘ ConditionForm.stored) =
        form.conditions.find? (DraftCondition.namesMultiplier ∘ ConditionForm.draft) :=
      List.find?_congr fun c hc => ConditionForm.stored_namesMultiplier (hsound c hc)
    have hconditions : form.draft.conditions = form.conditions.map ConditionForm.draft := rfl
    -- both searches stop at one condition, and its variable is not empty
    rw [if_neg hnamed, hnone, Option.none_or, Pricing.inferredKey?, hconditions, List.find?_map,
      List.find?_map, hfind]
    cases hc : form.conditions.find? (DraftCondition.namesMultiplier ∘ ConditionForm.draft) with
    | none => rfl
    | some c =>
      obtain ⟨key, hkey, hne⟩ := (hsound c (List.mem_of_find?_eq_some hc)).key
      have hdraft : c.draft.key = .text key := by
        unfold ConditionForm.draft
        rw [hkey]
        rfl
      have hstored : c.stored.key = key := by
        show c.key.getD "" = key
        rw [hkey]
        rfl
      have hgiven : (Value.text key).isGiven = true := by simpa [Value.isGiven] using hne
      simp only [Option.map_some, hdraft, hstored, hgiven, if_true]
      rfl

/-- A performance rule that multiplies is accepted only if what it multiplies by is a number
variable of the player. -/
theorem source_of_problems (h : form.draft.multiplierProblems r = .ok [])
    (hcategory : form.category = .performance) (hmultiplier : form.isMultiplier = true) :
    form.draft.multiplierSource.isGiven = true ∧
      Draft.isPlayerNumber r form.draft.multiplierSource = true := by
  have hasked :
      (form.draft.isMultiplier.isGiven && form.draft.hasCategory .performance) = true := by
    unfold draft Draft.hasCategory
    rw [hmultiplier, hcategory]
    rfl
  unfold Draft.multiplierProblems at h
  rw [if_pos hasked] at h
  dsimp only at h
  by_cases hgiven : form.draft.multiplierSource.isGiven = true
  · rw [if_pos hgiven] at h
    obtain ⟨_, -, hproblems⟩ := bind_eq_ok.mp h
    refine ⟨hgiven, ?_⟩
    by_contra hnumber
    rw [if_neg hnumber] at hproblems
    cases hproblems
  · rw [if_neg hgiven] at h
    cases h

/-! ## What is stored and read back -/

theorem inferredKey?_given {read : ConditionForm → Condition} {key : String}
    (hsound : ∀ c ∈ form.conditions, c.IsSound) (hread : ∀ c, (read c).key = c.key.getD "")
    (h : Pricing.inferredKey? (form.conditions.map read) = some key) : key ≠ "" := by
  obtain ⟨c, hc, rfl⟩ := Option.map_eq_some_iff.mp h
  obtain ⟨c, hmem, rfl⟩ := List.mem_map.mp (List.mem_of_find?_eq_some hc)
  obtain ⟨key, hkey, hne⟩ := (hsound c hmem).key
  rw [hread, hkey]
  exact hne

/-- Without empty names to compare with, the same condition is found in the form as it is stored. -/
theorem inferredKey?_condition (hsound : ∀ c ∈ form.conditions, c.IsSound)
    (hplain : ∀ c ∈ form.conditions, c.otherKey ≠ some "") :
    Pricing.inferredKey? (form.conditions.map ConditionForm.condition) =
      Pricing.inferredKey? (form.conditions.map ConditionForm.stored) := by
  have hfind : form.conditions.find? (Condition.namesMultiplier ∘ ConditionForm.condition) =
      form.conditions.find? (Condition.namesMultiplier ∘ ConditionForm.stored) := by
    refine List.find?_congr fun c hc => ?_
    have hsame : (c.otherKey.all (· == "") && c.otherKey.isNone) = c.otherKey.all (· == "") := by
      have hnot := hplain c hc
      cases hother : c.otherKey with
      | none => rfl
      | some other =>
        rw [hother] at hnot
        simpa using hnot
    simp only [Function.comp_apply]
    rw [ConditionForm.condition_namesMultiplier (hsound c hc),
      ConditionForm.stored_namesMultiplier (hsound c hc), ConditionForm.draft_namesMultiplier,
      Bool.and_assoc, hsame]
  unfold Pricing.inferredKey?
  rw [List.find?_map, List.find?_map, hfind, Option.map_map, Option.map_map]
  rfl

theorem multiplies_eq (hcategory : form.category = .performance)
    (hmultiplier : form.isMultiplier = true) : form.multiplies = true := by
  unfold multiplies
  rw [hcategory, hmultiplier]
  rfl

theorem chosenMultiplier_eq (hcategory : form.category = .performance)
    (hmultiplier : form.isMultiplier = true) :
    form.chosenMultiplier = form.named?.or
      (Pricing.inferredKey? (form.conditions.map ConditionForm.condition)) :=
  if_pos (multiplies_eq hcategory hmultiplier)

variable {key : String}

theorem choose_eq (hsound : ∀ c ∈ form.conditions, c.IsSound)
    (hcategory : form.category = .performance) (hmultiplier : form.isMultiplier = true)
    (hsource : form.judgedMultiplier? = some key) :
    Pricing.choose true form.chosenMultiplier (form.conditions.map ConditionForm.stored) =
      .multiplied (form.chosenMultiplier.getD key) .ofPlayer := by
  have hchosen := chosenMultiplier_eq hcategory hmultiplier
  unfold judgedMultiplier? at hsource
  unfold Pricing.choose
  rw [if_pos rfl]
  cases hstored : form.chosenMultiplier with
  | none =>
    rw [hstored, eq_comm, Option.or_eq_none_iff] at hchosen
    rw [hchosen.1, Option.none_or] at hsource
    have hne : key ≠ "" := inferredKey?_given hsound (fun _ => rfl) hsource
    rw [Option.filter_none, Option.none_or, hsource, filter_given hne]
    rfl
  | some other =>
    have hne : other ≠ "" := by
      rw [hstored] at hchosen
      rcases Option.or_eq_some_iff.mp hchosen.symm with hnamed | ⟨-, hinferred⟩
      · simpa using (Option.filter_eq_some_iff.mp hnamed).2
      · exact inferredKey?_given hsound (fun _ => rfl) hinferred
    rw [filter_given hne, Option.some_or, filter_given hne]
    rfl

/-- The created rule multiplies by what was judged exactly if that was named or is also found in the
form as it is stored. -/
theorem chosenMultiplier_getD_iff (hcategory : form.category = .performance)
    (hmultiplier : form.isMultiplier = true)
    (hsource : form.judgedMultiplier? = some key) :
    form.chosenMultiplier.getD key = key ↔ form.named?.isSome ∨
      ∀ other, Pricing.inferredKey? (form.conditions.map ConditionForm.condition) = some other →
        other = key := by
  unfold judgedMultiplier? at hsource
  rw [chosenMultiplier_eq hcategory hmultiplier]
  cases hnamed : form.named? with
  | some name =>
    rw [hnamed, Option.some_or] at hsource
    simpa using Option.some.inj hsource
  | none =>
    rw [Option.none_or]
    cases Pricing.inferredKey? (form.conditions.map ConditionForm.condition) <;> simp

end Form.RuleForm

theorem Draft.isPlayerNumber_text {r : Registry} {key : String}
    (h : Draft.isPlayerNumber r (.text key) = true) :
    ∃ v, r.resolve? key .ofPlayer = some v ∧ v.scope = .ofPlayer ∧ v.dataType = .number := by
  simp only [isPlayerNumber, Value.text?, Option.bind_some] at h
  cases hv : r.resolve? key .ofPlayer with
  | none =>
    rw [hv] at h
    cases h
  | some v =>
    rw [hv] at h
    exact ⟨v, rfl, (Registry.resolve?_ident hv).2, eq_of_beq h⟩

namespace Store

variable {s t : Store} {form : RuleForm} {rule : RuleRecord} {conditions : List ConditionRecord}

theorem exists_rule {positions : List Position}
    (h : rule.targetPositions = .list (positions.map fun p => .text p.name)) :
    ∃ r, t.rule rule = .ok r ∧ r.kind = rule.category.kind rule.isMultiplier rule.multiplier
      ((t.conditionsOf rule.id).map ConditionRecord.condition) := by
  have hread : ∀ v ∈ positions.map fun p => Value.text p.name, ∃ p, Position.read v = .ok p := by
    intro v hv
    obtain ⟨p, -, rfl⟩ := List.mem_map.mp hv
    exact ⟨_, rfl⟩
  obtain ⟨read, hread⟩ := mapM_total hread
  refine ⟨_, bind_eq_ok.mpr ⟨_, congrArg Value.items h, bind_eq_ok.mpr ⟨read, hread, rfl⟩⟩, rfl⟩

theorem NewRule.conditions_read (n : NewRule s form rule conditions t) (h : s.RulesInTurn) :
    (t.conditionsOf rule.id).map ConditionRecord.condition =
      form.conditions.map ConditionForm.stored := by
  rw [n.conditionsOf_eq h, List.map_map]
  have hread : conditions.map (ConditionRecord.condition ∘ Table.kept) =
      form.conditionRecords.map (ConditionRecord.condition ∘ Table.kept) := by
    refine map_eq_of_forall₂ n.conditions_of fun c c' hc => ?_
    obtain ⟨k, rfl⟩ := hc
    rfl
  have hstored : form.conditionRecords.map (ConditionRecord.condition ∘ Table.kept) =
      form.conditions.zipIdx.map (ConditionForm.stored ∘ Prod.fst) := by
    rw [RuleForm.conditionRecords, List.map_map]
    rfl
  rw [hread, hstored, ← List.map_map, List.zipIdx_map_fst]

theorem id_of_showNewRule {v : Value} (h : showNewRule (rule, conditions) = some v) :
    v.presentable.field "id" = .whole rule.id := by
  obtain ⟨view, hview, rfl⟩ := Option.map_eq_some_iff.mp h
  have hid : view.id = rule.id := by
    simp only [RuleRecord.view?, Option.bind_eq_bind, Option.bind_eq_some_iff, Option.pure_def,
      Option.some.injEq] at hview
    obtain ⟨_, -, _, -, rfl⟩ := hview
    rfl
  exact congrArg Value.whole hid

theorem NewRule.multiplies (hs : s.Reachable) (ht : t.Reachable)
    (n : NewRule s form rule conditions t) {key : String}
    (hsound : ∀ c ∈ form.conditions, c.IsSound) (hcategory : form.category = .performance)
    (hmultiplier : form.isMultiplier = true) (hsource : form.judgedMultiplier? = some key)
    (later : List Arrival) :
    ∃ row r, (t.after later).find? rule.id = some row ∧ (t.after later).rule row = .ok r ∧
      r.kind = .performance (.multiplied (form.chosenMultiplier.getD key) .ofPlayer) := by
  have hmem : rule ∈ t.rules := by
    rw [n.rules_eq]
    simp
  have hlasting : t.Lasting (t.after later) := ht.lasting later
  obtain ⟨row, hrow, hsame⟩ := hlasting.rules rule hmem
  have hid : row.id = rule.id := RuleRecord.id_of_lasting hsame
  obtain ⟨positions, hpositions⟩ := (ht.after later).accepted.positions row hrow
  obtain ⟨r, hr, hkind⟩ := exists_rule (t := t.after later) hpositions
  refine ⟨row, r, hid ▸ find?_of_mem (ht.after later).numbered.rules hrow, hr, ?_⟩
  have hcolumns : row.lasting = { form.record with id := s.nextId RuleRecord }.lasting :=
    hsame.trans (congrArg RuleRecord.lasting n.rule_eq)
  have hkept : row.category = form.category := congrArg RuleRecord.category hcolumns
  have hmultiplies : row.isMultiplier = form.multiplies :=
    congrArg RuleRecord.isMultiplier hcolumns
  have hchosen : row.multiplier = form.chosenMultiplier := congrArg RuleRecord.multiplier hcolumns
  rw [hkind, hid, hlasting.conditions rule hmem, n.conditions_read hs.rulesInTurn, hkept, hcategory,
    hmultiplies, RuleForm.multiplies_eq hcategory hmultiplier, hchosen]
  exact congrArg RuleKind.performance (RuleForm.choose_eq hsound hcategory hmultiplier hsource)

/-- A performance rule that multiplies is created only if the variable that its draft is judged to
multiply by is a number variable of the player. From then on the rule is there and multiplies by
what was stored, or by the judged variable if that is nothing. The two are the same exactly if the
form names the variable, or if the conditions as they are stored lead to the judged one or to none;
so they are whenever no condition has an empty name to compare with. -/
theorem multiplier_applied (s : Store) (hs : s.Reachable) (form : RuleForm) (x : Arrival)
    (hx : x.request.action = .ok (.createRule form)) (hcategory : form.category = .performance)
    (hmultiplier : form.isMultiplier = true) (h : (s.served x).1.hasStatus 201 = true) :
    ∃ (key : String) (v : Variable) (id : Int) (body : Value),
      form.draft.multiplierSource = .text key ∧
      (s.registryOf form.teamId).resolve? key .ofPlayer = some v ∧ v.scope = .ofPlayer ∧
      v.dataType = .number ∧
      (s.served x).1 = .shown 201 body ∧ body.field "id" = .whole id ∧
      ∀ later : List Arrival, ∃ row rule,
        ((s.served x).2.after later).find? id = some row ∧
        ((s.served x).2.after later).rule row = .ok rule ∧
        rule.kind = .performance (.multiplied (form.chosenMultiplier.getD key) .ofPlayer) ∧
        (rule.kind = .performance (.multiplied key .ofPlayer) ↔ form.named?.isSome ∨
          ∀ other, Pricing.inferredKey? (form.conditions.map ConditionForm.condition) = some other →
            other = key) ∧
        ((∀ c ∈ form.conditions, c.otherKey ≠ some "") →
          rule.kind = .performance (.multiplied key .ofPlayer)) := by
  have ht : (s.served x).2.Reachable := hs.served x
  rw [served_of_action hx] at h ht ⊢
  obtain ⟨-, hproblems, -, t, rule, conditions, shown, hwrite, hshown, hserve⟩ :=
    Action.serve_createRule.mp h
  rw [hserve] at ht ⊢
  obtain ⟨team, hteam, hproblems⟩ := ruleProblems_eq_ok.mp hproblems
  have hid : team.id = form.teamId := (find?_eq_some (get_eq_ok.mp hteam).2).2
  rw [hid] at hproblems
  obtain ⟨hasked, hsound⟩ := RuleForm.parts_of_problems hproblems
  obtain ⟨hgiven, hnumber⟩ := RuleForm.source_of_problems hasked hcategory hmultiplier
  rw [RuleForm.multiplierSource_eq hsound] at hgiven hnumber
  obtain ⟨key, hsource, -⟩ := Value.given_text hgiven
  rw [hsource] at hnumber
  obtain ⟨v, hresolved, hscope, htype⟩ := Draft.isPlayerNumber_text hnumber
  -- what was judged of the draft is carried over to the rule that was stored
  have hnew : NewRule s form rule conditions t := (hs.rulesInTurn.created hwrite).2
  refine ⟨key, v, rule.id, shown.presentable, ?_, hresolved, hscope, htype, rfl,
    id_of_showNewRule hshown, fun later => ?_⟩
  · rw [RuleForm.multiplierSource_eq hsound, hsource]
    rfl
  · obtain ⟨row, r, hfound, hr, hkind⟩ :=
      hnew.multiplies hs ht hsound hcategory hmultiplier hsource later
    have happlied : r.kind = .performance (.multiplied key .ofPlayer) ↔
        form.chosenMultiplier.getD key = key := by
      rw [hkind]
      simp
    refine ⟨row, r, hfound, hr, hkind, ?_, fun hplain => ?_⟩
    · rw [happlied]
      exact RuleForm.chosenMultiplier_getD_iff hcategory hmultiplier hsource
    · rw [happlied, RuleForm.chosenMultiplier_eq hcategory hmultiplier,
        RuleForm.inferredKey?_condition hsound hplain]
      exact congrArg (·.getD key) hsource

def perPass : RuleForm where
  teamId := 1
  name := "Passes"
  description := "Per pass"
  category := .performance
  points := 1
  isMultiplier := true
  conditions := [{ key := some "passes", operator := some .greater, value := some .zero }]

theorem multiplier_applied_season :
    ∃ (id : Int) (row : RuleRecord) (rule : Rule),
      ((after {} season).served (.posting "/rules/" perPass.document)).2.find? id = some row ∧
      ((after {} season).served (.posting "/rules/" perPass.document)).2.rule row = .ok rule ∧
      rule.kind = .performance (.multiplied "passes" .ofPlayer) := by
  obtain ⟨key, _, id, _, hsource, -, -, -, -, -, hall⟩ := multiplier_applied (after {} season)
    ⟨season, rfl⟩ perPass (.posting "/rules/" perPass.document) rfl rfl rfl (by decide +kernel)
  obtain ⟨row, rule, hfound, hrule, -, -, hplain⟩ := hall []
  have hkey : perPass.draft.multiplierSource.text? = some "passes" := by decide +kernel
  rw [hsource] at hkey
  cases hkey
  exact ⟨id, row, rule, hfound, hrule, hplain (by decide)⟩

def goalsOrPasses : RuleForm :=
  { perPass with conditions :=
      { key := some "goalsScored", operator := some .greater, value := some .zero
        otherKey := some "" } :: perPass.conditions }

/-- Not every rule multiplies by the variable that it was judged to multiply by: with an empty name
to compare with, the variable of a later condition is stored. -/
theorem multiplier_applied_not_always :
    ¬∀ (s : Store) (form : RuleForm) (x : Arrival), s.Reachable →
      x.request.action = .ok (.createRule form) → form.category = .performance →
      form.isMultiplier = true → (s.served x).1.hasStatus 201 = true →
      ∃ key, form.draft.multiplierSource = .text key ∧
        ∀ row ∈ (s.served x).2.rules, (s.find? row.id : Option RuleRecord) = none →
          ∀ rule, (s.served x).2.rule row = .ok rule →
            rule.kind = .performance (.multiplied key .ofPlayer) := by
  intro h
  obtain ⟨key, hsource, hall⟩ := h (after {} season) goalsOrPasses
    (.posting "/rules/" goalsOrPasses.document) ⟨season, rfl⟩ rfl rfl rfl (by decide +kernel)
  have hkey : goalsOrPasses.draft.multiplierSource.text? = some "goalsScored" := by decide +kernel
  rw [hsource] at hkey
  cases hkey
  have hstored : (((after {} season).served (.posting "/rules/" goalsOrPasses.document)).2.rules.any
      fun row => ((after {} season).find? row.id : Option RuleRecord).isNone &&
        ((((after {} season).served (.posting "/rules/" goalsOrPasses.document)).2.rule row).map
          Rule.kind).toOption == some (.performance (.multiplied "passes" .ofPlayer))) = true := by
    decide +kernel
  obtain ⟨row, hrow, hpasses⟩ := List.any_eq_true.mp hstored
  rw [Bool.and_eq_true, Option.isNone_iff_eq_none, beq_iff_eq, toOption_eq_some,
    map_eq_ok] at hpasses
  obtain ⟨hnew, rule, hrule, hkind⟩ := hpasses
  have hgoals := hall row hrow hnew rule hrule
  rw [hkind] at hgoals
  simp at hgoals

end Store

end ClubPoints
