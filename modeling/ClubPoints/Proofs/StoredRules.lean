import ClubPoints.Proofs.Accepted
import ClubPoints.Proofs.Counting

/-!
# What becomes of stored rules

Only storing a new rule and switching one on or off touch the tables of rules and of conditions. So
both tables are counted (`RulesInTurn`), and a stored rule stays for good, up to whether it is active
(`Lasting`).
-/

namespace ClubPoints

open Form Store

variable {s t u : Store}

/-! ## Creating a rule -/

theorem Answer.isSuccess_of_hasStatus {a : Answer} {n : Nat} (h : a.hasStatus n = true)
    (hn : n < 300) : a.isSuccess = true := by
  cases a with
  | shown status body =>
    have hstatus : status = n := eq_of_beq h
    rw [hstatus]
    exact decide_eq_true hn
  | invalid complaints => cases h
  | failed => cases h

theorem Answer.isSuccess_ofCause {status : Nat} (h : 300 ≤ status) (cause : Cause) :
    (Answer.ofCause status cause).isSuccess = false := by
  cases cause <;> simp [Answer.ofCause, Answer.detail, Answer.isSuccess, h]

theorem Store.ruleProblems_eq_ok {form : RuleForm} {problems : List DraftProblem} :
    s.ruleProblems form = .ok problems ↔
      ∃ team, s.get TeamRecord form.teamId .team = .ok team ∧
        form.draft.problems (s.registryOf team.id) = .ok problems := by
  simp only [ruleProblems, bind_eq_ok, judge_eq_ok]

theorem Action.serve_createRule {policy : Policy} {isRefused : Bool} {form : RuleForm} :
    ((createRule form).serve policy isRefused s).1.hasStatus 201 = true ↔
      isRefused = false ∧ s.ruleProblems form = .ok [] ∧ s.checkTarget form = .ok () ∧
        ∃ t rule conditions v, s.writeRule form = .ok (t, rule, conditions) ∧
          showNewRule (rule, conditions) = some v ∧
          (createRule form).serve policy isRefused s = (.shown 201 v.presentable, t) := by
  unfold serve
  constructor
  · intro h
    cases hrun : (createRule form).run policy isRefused s with
    | error cause =>
      rw [hrun] at h
      have hok : (Answer.ofCause 400 cause).isSuccess = true :=
        Answer.isSuccess_of_hasStatus h (by decide)
      rw [Answer.isSuccess_ofCause (by decide)] at hok
      cases hok
    | ok o =>
      rw [hrun] at h
      simp only [run] at hrun
      obtain ⟨hr, c, t, ⟨rule, conditions⟩, hc, hw, rfl⟩ := Outcome.ofChange_eq_ok.mp hrun
      obtain ⟨hproblems, htarget, rfl⟩ := createRule_eq_ok.mp hc
      refine ⟨hr, hproblems, htarget, t, rule, conditions, ?_⟩
      cases hv : showNewRule (rule, conditions) with
      | none =>
        simp only [hv] at h
        cases h
      | some v => exact ⟨v, hw, rfl, rfl⟩
  · rintro ⟨-, -, -, t, rule, conditions, v, -, -, h⟩
    rw [h]
    rfl

namespace Store

/-! ## Rules and conditions in turn -/

/-- No number of a rule or a condition was left out, and every condition is one of a rule. -/
structure RulesInTurn (s : Store) : Prop where
  rules : Counted RuleRecord s
  conditions : Counted ConditionRecord s
  owners : ∀ c ∈ s.conditions, ∃ r ∈ s.rules, r.id = c.ruleId

/-- A new rule comes after all others, with its conditions after all others. -/
structure NewRule (s : Store) (form : RuleForm) (rule : RuleRecord)
    (conditions : List ConditionRecord) (t : Store) : Prop where
  rule_eq : rule = { form.record with id := s.nextId RuleRecord }
  rules_eq : t.rules = s.rules ++ [rule]
  conditions_eq : t.conditions = s.conditions ++ conditions.map Table.kept
  conditions_of : List.Forall₂ (fun c c' : ConditionRecord =>
    ∃ n, c' = { c with ruleId := rule.id, id := n }) form.conditionRecords conditions

namespace RulesInTurn

theorem empty : RulesInTurn {} where
  rules := ⟨rfl, by decide⟩
  conditions := ⟨rfl, by decide⟩
  owners _ h := absurd h List.not_mem_nil

theorem congr (h : s.RulesInTurn) (hrules : t.rules = s.rules)
    (hconditions : t.conditions = s.conditions) : t.RulesInTurn where
  rules := h.rules.congr hrules
  conditions := h.conditions.congr hconditions
  owners := by
    rw [hrules, hconditions]
    exact h.owners

theorem created (h : s.RulesInTurn) {form : RuleForm} {rule : RuleRecord}
    {conditions : List ConditionRecord}
    (hw : s.writeRule form = .ok (t, rule, conditions)) :
    t.RulesInTurn ∧ NewRule s form rule conditions t := by
  obtain ⟨u, hrule, hconditions⟩ := writeRule_eq_ok.mp hw
  obtain ⟨hnumber, hinserted⟩ := insert_eq_ok.mp hrule
  have hsame : u.conditions = s.conditions := by rw [hinserted.store]; rfl
  have hu : Counted ConditionRecord u := h.conditions.congr hsame
  have hall := insertAll_eq_ok hconditions
  have hrules : t.rules = u.rules := by rw [hall.store]; rfl
  obtain ⟨hcounted, hrows⟩ := hu.insertAll hconditions
  rw [hnumber] at hinserted
  have hcreated := h.rules.inserted hinserted
  have hlast : u.rules = s.rules ++ [rule] := by
    rw [hnumber]
    exact h.rules.inserted_rows hinserted
  have hnew : NewRule s form rule conditions t := by
    refine ⟨hnumber, hrules.trans hlast, ?_, ?_⟩
    · rw [← hsame]
      exact hrows
    · exact (List.forall₂_map_left_iff.mp hall.numbers).imp fun c c' hc => hc
  refine ⟨⟨hcreated.congr hrules, hcounted, fun c hc => ?_⟩, hnew⟩
  rw [hnew.conditions_eq] at hc
  rw [hnew.rules_eq]
  rcases List.mem_append.mp hc with hc | hc
  · obtain ⟨r, hr, hid⟩ := h.owners c hc
    exact ⟨r, List.mem_append_left _ hr, hid⟩
  · obtain ⟨c', hc', rfl⟩ := List.mem_map.mp hc
    obtain ⟨_, -, n, rfl⟩ := exists_of_forall₂ hnew.conditions_of c' hc'
    exact ⟨rule, by simp, rfl⟩

theorem switched (h : s.RulesInTurn) {id : Int} {form : ActivityForm}
    (ht : Leads (s.setRuleActive id form) t) : t.RulesInTurn := by
  obtain ⟨rule, hrule, hu⟩ := setRuleActive_leads ht
  have hmem := (find?_eq_some hrule).1
  have hrules := h.rules.updated (r := { rule with isActive := form.isActive }) hmem rfl hu
  obtain ⟨-, -, rfl⟩ := update_eq_ok.mp hu
  refine ⟨hrules, h.conditions.congr rfl, fun c hc => ?_⟩
  obtain ⟨r, hr, hid⟩ := h.owners c hc
  by_cases hsame : r.id = rule.id
  · exact ⟨_, mem_placed.mpr (.inl rfl), hsame.symm.trans hid⟩
  · have hother : r ∈ s.rules.filter fun x => x.id != rule.id :=
      List.mem_filter.mpr ⟨hr, by simpa using hsame⟩
    exact ⟨r, mem_placed.mpr (.inr hother), hid⟩

theorem turns {policy : Policy} {a : Action} (h : s.RulesInTurn) (ht : a.Turns policy s t) :
    t.RulesInTurn := by
  rcases ht.touched.rules with ⟨hrules, hconditions⟩ | ⟨form, ht⟩ | ⟨id, form, ht⟩
  · exact h.congr hrules hconditions
  · obtain ⟨rule, conditions, hw⟩ := writeRule_of_leads ht
    exact (h.created hw).1
  · exact h.switched ht

end RulesInTurn

theorem Reachable.rulesInTurn (h : s.Reachable) : s.RulesInTurn :=
  h.induction .empty fun _ _ _ _ _ hs _ ht => hs.turns ht

/-! ## The conditions of a new rule -/

theorem before_whole {m n : Int} (h : m ≤ n) : (Amount.whole m).before (.whole n) = true := by
  simp only [Amount.before, Amount.place?, decide_eq_true_eq]
  exact Int.mul_le_mul_of_nonneg_right h (Int.natCast_nonneg _)

theorem conditionRecords_increasing (form : RuleForm) :
    form.conditionRecords.Pairwise fun a b => a.index.before b.index = true := by
  refine List.pairwise_map.mpr ?_
  have hindex : (form.conditions.zipIdx.map Prod.snd).Pairwise (· < ·) := by
    rw [List.zipIdx_map_snd]
    exact List.pairwise_lt_range'
  exact (List.pairwise_map.mp hindex).imp fun hab => before_whole (by omega)

namespace NewRule

variable {form : RuleForm} {rule : RuleRecord} {conditions : List ConditionRecord}
  (n : NewRule s form rule conditions t)
include n

theorem id_eq : rule.id = s.nextId RuleRecord := by rw [n.rule_eq]

theorem fresh (h : s.RulesInTurn) : ∀ r ∈ s.rules, r.id ≠ rule.id := by
  intro r hr
  rw [n.id_eq]
  exact ne_of_lt (h.rules.id_lt_next r hr)

theorem conditionsOf_eq (h : s.RulesInTurn) :
    t.conditionsOf rule.id = conditions.map Table.kept := by
  -- the number of the rule is new, so no old condition has it
  have hold : s.conditions.filter (fun c => c.ruleId == rule.id) = [] := by
    refine List.filter_eq_nil_iff.mpr fun c hc => ?_
    obtain ⟨r, hr, hid⟩ := h.owners c hc
    have hfresh := n.fresh h r hr
    rw [hid] at hfresh
    simpa using hfresh
  have hnew : (conditions.map Table.kept).filter (fun c => c.ruleId == rule.id) =
      conditions.map Table.kept := by
    refine List.filter_eq_self.mpr fun c hc => ?_
    obtain ⟨c', hc', rfl⟩ := List.mem_map.mp hc
    obtain ⟨_, -, k, rfl⟩ := exists_of_forall₂ n.conditions_of c' hc'
    exact beq_self_eq_true _
  have hindex : (conditions.map Table.kept).map ConditionRecord.index =
      form.conditionRecords.map ConditionRecord.index := by
    rw [List.map_map]
    refine map_eq_of_forall₂ n.conditions_of fun c c' hc => ?_
    obtain ⟨k, rfl⟩ := hc
    rfl
  have hsorted : (conditions.map Table.kept).Pairwise fun a b => a.index.before b.index = true := by
    have hform : (form.conditionRecords.map ConditionRecord.index).Pairwise fun a b =>
        a.before b = true := List.pairwise_map.mpr (conditionRecords_increasing form)
    rw [← hindex] at hform
    exact List.pairwise_map.mp hform
  unfold conditionsOf
  rw [n.conditions_eq, List.filter_append, hold, hnew, List.nil_append,
    List.mergeSort_of_pairwise hsorted]

end NewRule

/-! ## Stored rules stay -/

end Store

def RuleRecord.lasting (r : RuleRecord) : RuleRecord := { r with isActive := true }

theorem RuleRecord.id_of_lasting {r r' : RuleRecord} (h : r'.lasting = r.lasting) :
    r'.id = r.id := by
  have hid := congrArg RuleRecord.id h
  exact hid

namespace Store

/-- Each rule of a store is there in another one, the same for good, with the same conditions. -/
structure Lasting (s t : Store) : Prop where
  rules : Kept RuleRecord.lasting s.rules t.rules
  conditions : ∀ r ∈ s.rules, t.conditionsOf r.id = s.conditionsOf r.id

namespace Lasting

theorem refl (s : Store) : s.Lasting s := ⟨.refl, fun _ _ => rfl⟩

theorem trans (hst : s.Lasting t) (htu : t.Lasting u) : s.Lasting u := by
  constructor
  · intro r hr
    obtain ⟨r', hr', hsame⟩ := hst.rules r hr
    obtain ⟨r'', hr'', hsame'⟩ := htu.rules r' hr'
    exact ⟨r'', hr'', hsame'.trans hsame⟩
  · intro r hr
    obtain ⟨r', hr', hsame⟩ := hst.rules r hr
    have hid : r'.id = r.id := RuleRecord.id_of_lasting hsame
    rw [← hst.conditions r hr, ← hid]
    exact htu.conditions r' hr'

theorem created (h : s.RulesInTurn) {form : RuleForm} {rule : RuleRecord}
    {conditions : List ConditionRecord} (n : NewRule s form rule conditions t) : s.Lasting t := by
  constructor
  · rw [n.rules_eq]
    exact .of_subset fun r hr => List.mem_append_left _ hr
  · intro r hr
    have hother : (conditions.map Table.kept).filter (fun c => c.ruleId == r.id) = [] := by
      refine List.filter_eq_nil_iff.mpr fun c hc => ?_
      obtain ⟨c', hc', rfl⟩ := List.mem_map.mp hc
      obtain ⟨_, -, k, rfl⟩ := exists_of_forall₂ n.conditions_of c' hc'
      simpa [Table.kept] using (n.fresh h r hr).symm
    unfold conditionsOf
    rw [n.conditions_eq, List.filter_append, hother, List.append_nil]

theorem switched (h : s.Numbered) {id : Int} {form : ActivityForm}
    (ht : Leads (s.setRuleActive id form) t) : s.Lasting t := by
  obtain ⟨rule, hrule, hu⟩ := setRuleActive_leads ht
  obtain ⟨-, -, rfl⟩ := update_eq_ok.mp hu
  exact ⟨.replaced h.rules (find?_eq_some hrule).1 rfl rfl, fun _ _ => rfl⟩

theorem of_turns {policy : Policy} {a : Action} (hs : s.Reachable) (ht : a.Turns policy s t) :
    s.Lasting t := by
  rcases ht.touched.rules with ⟨hrules, hconditions⟩ | ⟨form, ht⟩ | ⟨id, form, ht⟩
  · refine ⟨by rw [hrules]; exact .refl, fun r _ => ?_⟩
    unfold conditionsOf
    rw [hconditions]
  · obtain ⟨rule, conditions, hw⟩ := writeRule_of_leads ht
    exact created hs.rulesInTurn (hs.rulesInTurn.created hw).2
  · exact switched hs.numbered ht

end Lasting

/-- Whatever is requested later, the rules of a store stay. -/
theorem Reachable.lasting (h : s.Reachable) (later : List Arrival) : s.Lasting (s.after later) := by
  induction later generalizing s with
  | nil => exact .refl s
  | cons x rest ih =>
    have hx : s.Lasting (s.served x).2 := by
      rcases s.served_cases x with hsame | ⟨a, -, ht⟩
      · rw [hsame]
        exact .refl s
      · exact .of_turns h ht
    exact hx.trans (ih (h.served x))

end Store

end ClubPoints
