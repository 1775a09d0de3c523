import ClubPoints.Proofs.Alike
import ClubPoints.Proofs.Drafts
import ClubPoints.Proofs.Judgeable
import ClubPoints.Proofs.Literals
import ClubPoints.Proofs.Multiplier

/-!
# What a created rule means

A created rule is read back with whole literals for numbers without a fraction and without the parts
of a target that its scope does not need (`NewRule.readBack`). None of this can be told from its
awards (`Store.created_rule_means_form`).
-/

namespace ClubPoints

open Form

/-! ## Conditions -/

namespace Form.ConditionForm

variable {c : ConditionForm}

theorem stored_value (c : ConditionForm) : c.stored.value = .stored (c.value.getD .zero) := rfl

theorem other?_stored (c : ConditionForm) : c.stored.other? = c.condition.other? := by
  unfold Condition.other?
  change ((c.otherKey.filter (· ≠ "")).filter (· ≠ "")).filter (· ≠ "") =
    c.otherKey.filter (· ≠ "")
  simp only [Option.filter_filter, Bool.and_self]

theorem compare_stored (c : ConditionForm) (op : Operator) (actual : Value) :
    op.compare actual c.stored.value = op.compare actual c.condition.value := by
  rw [stored_value]
  unfold condition
  cases c.value with
  | none => exact congrArg (op.compare actual) Value.stored_zero
  | some x => exact Value.compare_stored op actual x

theorem decode_stored (c : ConditionForm) :
    Position.decode c.stored.value = Position.decode c.condition.value := by
  rw [stored_value]
  unfold condition
  cases c.value with
  | none => exact congrArg Position.decode Value.stored_zero
  | some x => exact Value.decode_stored x

/-- A condition holds as it is stored just where it holds as it is in the form. -/
theorem holds_stored (c : ConditionForm) (s : Situation) :
    c.stored.holds s = c.condition.holds s := by
  have hkey : c.stored.key = c.condition.key := rfl
  have hscope : c.stored.scope = c.condition.scope := rfl
  have hoperator : c.stored.operator = c.condition.operator := rfl
  unfold Condition.holds
  rw [Condition.operands?_eq, Condition.operands?_eq, other?_stored, hkey, hscope, hoperator]
  cases s.read? c.condition.key c.condition.scope with
  | none => rfl
  | some actual? =>
    cases actual? with
    | none => rfl
    | some actual =>
      cases c.condition.other? with
      | some other => rfl
      | none =>
        unfold Condition.literal
        rw [hkey, decode_stored]
        by_cases hposition : c.condition.key = "position"
        · rw [if_pos hposition, if_pos hposition]
        · rw [if_neg hposition, if_neg hposition]
          exact c.compare_stored _ actual

end Form.ConditionForm

theorem Condition.allHold_stored (conditions : List ConditionForm) (s : Situation) :
    allHold s (conditions.map ConditionForm.stored) =
      allHold s (conditions.map ConditionForm.condition) := by
  induction conditions with
  | nil => rfl
  | cons c rest ih => rw [List.map_cons, List.map_cons, allHold, allHold, c.holds_stored, ih]

/-! ## Rules that score alike -/

section
variable {ε α β γ : Type}

theorem mapM_map {f : α → Except ε β} (g : β → γ) (xs : List α) :
    (xs.mapM f).map (List.map g) = xs.mapM fun x => (f x).map g := by
  induction xs with
  | nil => rfl
  | cons x rest ih =>
    rw [List.mapM_cons, List.mapM_cons, ← ih]
    cases f x with
    | error e => rfl
    | ok y => cases rest.mapM f <;> rfl

end

def Award.score (a : Award) : Int × Int × Int := (a.playerId, a.ruleId, a.points)

namespace Rule

/-- Two rules of the same number, points and kind cover the same players, and their conditions hold
together. -/
structure ScoresLike (rule other : Rule) : Prop where
  id : rule.id = other.id
  points : rule.points = other.points
  kind : rule.kind = other.kind
  covers : ∀ p, rule.target.covers p = other.target.covers p
  allHold : ∀ s, Condition.allHold s rule.conditions = Condition.allHold s other.conditions

namespace ScoresLike

variable {rule other : Rule} {r : Registry} {game : MatchFacts} {players : List PlayerFacts}

variable (h : rule.ScoresLike other)
include h

theorem select_eq : rule.target.select players = other.target.select players :=
  List.filter_congr fun p _ => h.covers p

theorem score_award (p : PlayerFacts) (points : Int) (reason reason' : String) :
    (rule.award p points reason).score = (other.award p points reason').score := by
  unfold award Award.score
  rw [h.id]

theorem resultAwards_score :
    (rule.resultAwards r game players).map (List.map Award.score) =
      (other.resultAwards r game players).map (List.map Award.score) := by
  unfold resultAwards
  dsimp only
  rw [h.allHold]
  cases hholds : Condition.allHold ⟨r, game, none⟩ other.conditions with
  | error fault => rfl
  | ok holds =>
    cases holds with
    | false => rfl
    | true =>
      obtain ⟨reason, hreason⟩ := exists_reason ((h.allHold _).trans hholds)
      obtain ⟨reason', hreason'⟩ := exists_reason hholds
      simp only [hreason, hreason', h.select_eq, h.points, bind, Except.bind, ↓reduceIte, pure,
        Except.pure, Except.map, List.map_map]
      exact congrArg Except.ok (List.map_congr_left fun p _ => h.score_award p _ _ _)

theorem playerAward?_score (pricing : Pricing) (p : PlayerFacts) :
    (rule.playerAward? pricing r game p).map (Option.map Award.score) =
      (other.playerAward? pricing r game p).map (Option.map Award.score) := by
  unfold playerAward?
  dsimp only
  rw [h.allHold, h.points]
  cases hholds : Condition.allHold ⟨r, game, some p⟩ other.conditions with
  | error fault => rfl
  | ok holds =>
    cases holds with
    | false => rfl
    | true =>
      obtain ⟨reason, hreason⟩ := exists_reason ((h.allHold _).trans hholds)
      obtain ⟨reason', hreason'⟩ := exists_reason hholds
      cases hprice : pricing.price other.points ⟨r, game, some p⟩ with
      | error fault => rfl
      | ok points =>
        simp only [hreason, hreason', bind, Except.bind, ↓reduceIte, pure, Except.pure, Except.map,
          Option.map_some, h.score_award p points reason reason']

theorem performanceAwards_score (pricing : Pricing) :
    (rule.performanceAwards pricing r game players).map (List.map Award.score) =
      (other.performanceAwards pricing r game players).map (List.map Award.score) := by
  have hreduce (found : Except Fault (List (Option Award))) :
      (found >>= fun found => pure found.reduceOption).map (List.map Award.score) =
        (found.map (List.map (Option.map Award.score))).map List.reduceOption := by
    cases found with
    | error fault => rfl
    | ok found => exact congrArg Except.ok (List.reduceOption_map ..).symm
  unfold performanceAwards
  rw [hreduce, hreduce, mapM_map, mapM_map, h.select_eq]
  exact congrArg _ (mapM_congr fun p _ => h.playerAward?_score pricing p)

theorem awards_score :
    (rule.awards r game players).map (List.map Award.score) =
      (other.awards r game players).map (List.map Award.score) := by
  unfold Rule.awards
  rw [h.kind]
  cases other.kind with
  | result => exact h.resultAwards_score
  | performance pricing => exact h.performanceAwards_score pricing
  | manual => rfl
  | unclassified => rfl

theorem exists_awards {awards : List Award} (hawards : rule.awards r game players = .ok awards) :
    ∃ given, other.awards r game players = .ok given ∧
      awards.map Award.playerId = given.map Award.playerId := by
  have hscore : (rule.awards r game players).map (List.map Award.score) =
      (other.awards r game players).map (List.map Award.score) := h.awards_score
  rw [hawards] at hscore
  obtain ⟨given, hgiven, hsame⟩ := map_eq_ok.mp hscore.symm
  refine ⟨given, hgiven, ?_⟩
  have hplayers := congrArg (List.map Prod.fst) hsame
  rw [List.map_map, List.map_map] at hplayers
  exact hplayers.symm

end ScoresLike

end Rule

/-! ## The rule of a form -/

def RuleKind.category? : RuleKind → Option Category
  | .result => some .result
  | .performance _ => some .performance
  | .manual => some .manual
  | .unclassified => none

namespace Form

/-- A condition says what a condition of a form says. A value that was left out is zero, and an
empty name to compare with is none. -/
structure ConditionForm.IsRead (c : ConditionForm) (read : Condition) : Prop where
  key : c.key = some read.key
  operator : c.operator = some read.operator
  scope : c.scope = read.scope
  value : read.value.same ((c.value.map Value.real).getD (.whole 0)) = true
  otherKey : read.otherKey = c.otherKey.filter (· ≠ "")

/-- A rule says what a form says, apart from its words and from what it multiplies by. -/
structure RuleForm.IsRead (f : RuleForm) (id : Int) (rule : Rule) : Prop where
  id : rule.id = id
  category : rule.kind.category? = some f.category
  points : rule.points = f.points
  conditions : List.Forall₂ ConditionForm.IsRead f.conditions rule.conditions
  targetScope : rule.target.scope = f.targetScope
  positions : ∀ p, p ∈ rule.target.positions ↔
    f.targetScope = .byPosition ∧ p ∈ f.targetPositions
  targetPlayer : rule.target.playerId =
    if f.targetScope = .individual then f.targetPlayer else none

/-- The rule that a form writes down, if it multiplies by a given variable where it multiplies. -/
def RuleForm.rule (f : RuleForm) (id : Int) (multiplier : String) : Rule where
  id := id
  name := f.name
  points := f.points
  description := f.description
  target := { scope := f.targetScope, positions := f.targetPositions, playerId := f.targetPlayer }
  conditions := f.conditions.map ConditionForm.condition
  isActive := f.isActive
  kind := match f.category with
    | .result => .result
    | .performance =>
      .performance (if f.isMultiplier then .multiplied multiplier .ofPlayer else .flat)
    | .manual => .manual

namespace ConditionForm

variable {c : ConditionForm}

theorem operator_of_problems {isResult : Bool} {index : Nat}
    (h : c.draft.problems isResult index = []) : ∃ op, c.operator = some op := by
  simp only [DraftCondition.problems, List.append_eq_nil_iff, ite_eq_left_iff, reduceCtorEq,
    imp_false, Bool.not_eq_true, Bool.not_eq_false] at h
  obtain ⟨⟨⟨-, hoperator⟩, -⟩, -⟩ := h
  cases hop : c.operator with
  | none =>
    rw [draft, hop] at hoperator
    cases hoperator
  | some op => exact ⟨op, rfl⟩

theorem isRead_stored (hsound : c.IsSound) (hoperator : ∃ op, c.operator = some op)
    (hvalue : c.value ≠ some .nan) : c.IsRead c.stored := by
  obtain ⟨key, hkey, -⟩ := hsound.key
  obtain ⟨op, hop⟩ := hoperator
  refine ⟨?_, ?_, rfl, ?_, ?_⟩
  · change c.key = some (c.key.getD "")
    rw [hkey]
    rfl
  · change c.operator = some (c.operator.getD .equal)
    rw [hop]
    rfl
  · rw [stored_value]
    cases hv : c.value with
    | none =>
      rw [Option.getD_none, Value.stored_zero]
      rfl
    | some x => exact Value.stored_same fun hnan => hvalue (hnan ▸ hv)
  · change (c.otherKey.filter (· ≠ "")).filter (· ≠ "") = _
    simp only [Option.filter_filter, Bool.and_self]

end ConditionForm

namespace RuleForm

variable {form : RuleForm} {id : Int} {isActive : Bool}

def readBack (f : RuleForm) (id : Int) (isActive : Bool) : Rule where
  id := id
  name := Text.squeeze f.name
  points := f.points
  description := Text.strip f.description
  target := {
    scope := f.targetScope
    positions := if f.targetScope = .byPosition then f.targetPositions else []
    playerId := if f.targetScope = .individual then f.targetPlayer else none }
  conditions := f.conditions.map ConditionForm.stored
  isActive := isActive
  kind := f.category.kind f.multiplies f.chosenMultiplier (f.conditions.map ConditionForm.stored)

theorem isRead_readBack (h : ∀ c ∈ form.conditions, c.IsRead c.stored) :
    form.IsRead id (form.readBack id isActive) where
  id := rfl
  category := by
    unfold readBack
    cases form.category <;> rfl
  points := rfl
  conditions := List.forall₂_map_right_iff.mpr (List.forall₂_same.mpr h)
  targetScope := rfl
  positions p := by
    unfold readBack
    by_cases hscope : form.targetScope = .byPosition <;> simp [hscope]
  targetPlayer := rfl

theorem covers_readBack (multiplier : String) (p : PlayerFacts) :
    (form.readBack id isActive).target.covers p = (form.rule id multiplier).target.covers p := by
  unfold readBack rule Target.covers
  cases hscope : form.targetScope <;> simp

theorem exists_kind (hsound : ∀ c ∈ form.conditions, c.IsSound) {r : Registry}
    (hasked : form.draft.multiplierProblems r = .ok []) :
    ∃ multiplier, (form.readBack id isActive).kind = (form.rule id multiplier).kind := by
  unfold readBack rule
  cases hcategory : form.category with
  | result => exact ⟨"", rfl⟩
  | manual => exact ⟨"", rfl⟩
  | performance =>
    cases hmultiplier : form.isMultiplier with
    | false =>
      have hflat : form.multiplies = false := by
        unfold multiplies
        rw [hmultiplier]
        rfl
      rw [hflat]
      exact ⟨"", rfl⟩
    | true =>
      obtain ⟨hgiven, -⟩ := source_of_problems hasked hcategory hmultiplier
      rw [multiplierSource_eq hsound] at hgiven
      obtain ⟨key, hsource, -⟩ := Value.given_text hgiven
      rw [multiplies_eq hcategory hmultiplier]
      exact ⟨_, congrArg RuleKind.performance (choose_eq hsound hcategory hmultiplier hsource)⟩

theorem readBack_scoresLike {multiplier : String}
    (hkind : (form.readBack id isActive).kind = (form.rule id multiplier).kind) :
    (form.readBack id isActive).ScoresLike (form.rule id multiplier) where
  id := rfl
  points := rfl
  kind := hkind
  covers := covers_readBack multiplier
  allHold := Condition.allHold_stored form.conditions

/-- What a rule multiplies by is of no matter for who has earned its points. -/
theorem players_of_rule {r : Registry} {game : MatchFacts} {players : List PlayerFacts}
    {multiplier other : String} {awards awards' : List Award}
    (h : (form.rule id multiplier).awards r game players = .ok awards)
    (h' : (form.rule id other).awards r game players = .ok awards') :
    awards.map Award.playerId = awards'.map Award.playerId := by
  have hearned (p : PlayerFacts) : (form.rule id multiplier).isEarned r game p =
      (form.rule id other).isEarned r game p := by
    unfold rule Rule.isEarned
    cases form.category <;> rfl
  rw [Rule.awards_eq_deserved h, Rule.awards_eq_deserved h', Rule.deserved, Rule.deserved,
    List.map_map, List.map_map]
  simp only [hearned]
  rfl

end RuleForm

end Form

theorem Position.read_name (p : Position) : read (.text p.name) = .ok p := by
  apply toOption_eq_some.mp
  cases p <;> decide +kernel

namespace Store

variable {s t : Store} {form : RuleForm} {rule : RuleRecord} {conditions : List ConditionRecord}

theorem rule_eq_ok {positions : List Position}
    (h : rule.targetPositions = .list (positions.map fun p => .text p.name)) :
    t.rule rule = .ok {
      id := rule.id
      name := rule.name
      points := rule.points.unit
      description := rule.description
      target := { scope := rule.targetScope, positions, playerId := rule.targetPlayer }
      conditions := (t.conditionsOf rule.id).map ConditionRecord.condition
      isActive := rule.isActive
      kind := rule.category.kind rule.isMultiplier rule.multiplier
        ((t.conditionsOf rule.id).map ConditionRecord.condition) } := by
  have hread : (positions.map fun p => Value.text p.name).mapM Position.read = .ok positions := by
    rw [mapM_eq_ok, List.forall₂_map_left_iff, List.forall₂_same]
    exact fun p _ => p.read_name
  exact bind_eq_ok.mpr ⟨_, congrArg Value.items h, bind_eq_ok.mpr ⟨positions, hread, rfl⟩⟩

theorem NewRule.readBack (hs : s.Reachable) (ht : t.Reachable)
    (n : NewRule s form rule conditions t) (later : List Arrival) :
    ∃ row, (t.after later).find? rule.id = some row ∧
      (t.after later).rule row = .ok (form.readBack rule.id row.isActive) := by
  have hmem : rule ∈ t.rules := by
    rw [n.rules_eq]
    simp
  have hlasting : t.Lasting (t.after later) := ht.lasting later
  obtain ⟨row, hrow, hsame⟩ := hlasting.rules rule hmem
  obtain ⟨isActive, rfl⟩ : ∃ isActive, row = { form.record with id := rule.id, isActive } := by
    refine ⟨row.isActive, ?_⟩
    calc row = { row.lasting with isActive := row.isActive } := rfl
      _ = { rule.lasting with isActive := row.isActive } := by rw [hsame]
      _ = { form.record with id := rule.id, isActive := row.isActive } := by rw [n.rule_eq]; rfl
  have hconditions : ((t.after later).conditionsOf rule.id).map ConditionRecord.condition =
      form.conditions.map ConditionForm.stored := by
    rw [hlasting.conditions rule hmem, n.conditions_read hs.rulesInTurn]
  have hpositions : ({ form.record with id := rule.id, isActive } : RuleRecord).targetPositions =
      .list ((if form.targetScope = .byPosition then form.targetPositions else []).map fun p =>
        .text p.name) :=
    congrArg Value.list (apply_ite (List.map fun p : Position => Value.text p.name) _ _ []).symm
  have hfound : (t.after later).find? rule.id =
      some ({ form.record with id := rule.id, isActive } : RuleRecord) :=
    find?_of_mem (ht.after later).numbered.rules hrow
  refine ⟨_, hfound, ?_⟩
  rw [rule_eq_ok hpositions]
  dsimp only
  rw [hconditions]
  rfl

/-- A rule that was created says for good what its form says, whatever is requested later. It gives
the same points to the same players as the rule that the form writes down, by whatever facts and
variables they are judged, if both multiply by the same variable; and if they do not, it still gives
points to the same players. -/
theorem created_rule_means_form (s : Store) (hs : s.Reachable) (form : RuleForm) (x : Arrival)
    (hx : x.request.action = .ok (.createRule form)) (h : (s.served x).1.hasStatus 201 = true) :
    ∃ (id : Int) (body : Value),
      (s.served x).1 = .shown 201 body ∧ body.field "id" = .whole id ∧
      ∀ later : List Arrival, ∃ row rule,
        ((s.served x).2.after later).find? id = some row ∧
        ((s.served x).2.after later).rule row = .ok rule ∧ form.IsRead id rule ∧
        ∃ multiplier, rule.kind = (form.rule id multiplier).kind ∧
          ∀ (r : Registry) (game : MatchFacts) (players : List PlayerFacts),
            (rule.awards r game players).map (List.map Award.score) =
                ((form.rule id multiplier).awards r game players).map (List.map Award.score) ∧
              ∀ other awards awards', rule.awards r game players = .ok awards →
                (form.rule id other).awards r game players = .ok awards' →
                  awards.map Award.playerId = awards'.map Award.playerId := by
  have ht : (s.served x).2.Reachable := hs.served x
  rw [served_of_action hx] at h ht ⊢
  have hcreated := Action.serve_createRule.mp h
  obtain ⟨hkept, hproblems, -, t, rule, conditions, shown, hwrite, hshown, hserve⟩ := hcreated
  rw [hkept, created_iff_saveable hs hproblems] at h
  rw [hserve] at ht ⊢
  obtain ⟨team, -, hjudged⟩ := ruleProblems_eq_ok.mp hproblems
  obtain ⟨hasked, hsound⟩ := RuleForm.parts_of_problems hjudged
  have hread : ∀ c ∈ form.conditions, c.IsRead c.stored := by
    intro c hc
    obtain ⟨_, _, hnone⟩ := RuleForm.condition_of_problems hjudged hc
    exact ConditionForm.isRead_stored (hsound c hc) (ConditionForm.operator_of_problems hnone)
      (h.values c hc)
  have hnew : NewRule s form rule conditions t := (hs.rulesInTurn.created hwrite).2
  refine ⟨rule.id, shown.presentable, rfl, id_of_showNewRule hshown, fun later => ?_⟩
  obtain ⟨row, hrow, hloaded⟩ := hnew.readBack hs ht later
  obtain ⟨multiplier, hkind⟩ : ∃ multiplier, (form.readBack rule.id row.isActive).kind =
      (form.rule rule.id multiplier).kind := RuleForm.exists_kind hsound hasked
  have hscores := RuleForm.readBack_scoresLike hkind
  refine ⟨row, _, hrow, hloaded, RuleForm.isRead_readBack hread, multiplier, hkind,
    fun r game players => ⟨hscores.awards_score, fun other awards awards' hawards hother => ?_⟩⟩
  obtain ⟨given, hgiven, hplayers⟩ := hscores.exists_awards hawards
  rw [hplayers, RuleForm.players_of_rule hgiven hother]

def steadyPasser : RuleForm where
  teamId := 1
  name := "Steady"
  description := "Passes in a win"
  category := .performance
  points := 2
  targetScope := .byPosition
  targetPositions := [.midfielder, .defender, .midfielder]
  conditions := [
    { key := some "passes", operator := some .greaterEqual, value := some (.ofRatio 5 2) },
    { key := some "position", operator := some .unequal, value := some (.ofRatio 4 1)
      otherKey := some "" },
    { key := some "goalsFor", operator := some .greater, otherKey := some "goalsAgainst"
      scope := .ofMatch }]

theorem created_rule_means_form_season :
    ∃ (id : Int) (row : RuleRecord) (rule : Rule),
      ((after {} season).served (.posting "/rules/" steadyPasser.document)).2.find? id = some row ∧
      ((after {} season).served (.posting "/rules/" steadyPasser.document)).2.rule row = .ok rule ∧
      steadyPasser.IsRead id rule := by
  obtain ⟨id, _, -, -, hall⟩ := created_rule_means_form (after {} season) ⟨season, rfl⟩ steadyPasser
    (.posting "/rules/" steadyPasser.document) rfl (by decide +kernel)
  obtain ⟨row, rule, hrow, hrule, hread, -⟩ := hall []
  exact ⟨id, row, rule, hrow, hrule, hread⟩

end Store

end ClubPoints
