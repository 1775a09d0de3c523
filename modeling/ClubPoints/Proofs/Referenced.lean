import ClubPoints.Proofs.StoredRules
import ClubPoints.Proofs.Undeclared

/-!
# Variables that rules refer to

A rule refers to a variable in a condition, as what to compare with, or to multiply by, whether that
name is stored or only inferred when the rule is loaded. The inferred name is always one of a
condition, so looking for stored names finds every reference (`mentions_iff`).
-/

namespace ClubPoints

open Form

theorem Binary64.withoutZeroSign_twice (x : Binary64) :
    x.withoutZeroSign.withoutZeroSign = x.withoutZeroSign := by
  cases x with
  | finite negative units h => simp [withoutZeroSign]
  | _ => rfl

/-- What a variable keeps for good: everything but whether it is active. -/
def VariableRecord.lasting (v : VariableRecord) : VariableRecord := { v with isActive := true }

theorem VariableRecord.of_lasting {v v' : VariableRecord} (h : v'.lasting = v.lasting) :
    v'.id = v.id ∧ v'.teamId = v.teamId ∧ v'.key = v.key := by
  simp only [lasting, VariableRecord.mk.injEq] at h
  exact ⟨h.1, h.2.1, h.2.2.1⟩

namespace Pricing

theorem exists_of_inferredKey? {conditions : List Condition} {key : String}
    (h : inferredKey? conditions = some key) : ∃ c ∈ conditions, c.key = key := by
  obtain ⟨c, hc, hkey⟩ := Option.map_eq_some_iff.mp h
  exact ⟨c, List.mem_of_find?_eq_some hc, hkey⟩

theorem of_choose_eq_multiplied {isMultiplier : Bool} {named : Option String}
    {conditions : List Condition} {key : String} {scope : Scope}
    (h : choose isMultiplier named conditions = .multiplied key scope) :
    named = some key ∨ ∃ c ∈ conditions, c.key = key := by
  unfold choose at h
  cases isMultiplier with
  | false => cases h
  | true =>
    rw [if_pos rfl] at h
    split at h
    · rename_i found hfound
      cases h
      have hchosen := (Option.filter_eq_some_iff.mp hfound).1
      rcases Option.or_eq_some_iff.mp hchosen with hnamed | ⟨-, hinferred⟩
      · exact .inl (Option.filter_eq_some_iff.mp hnamed).1
      · exact .inr (exists_of_inferredKey? hinferred)
    · cases h

end Pricing

namespace Store

variable {s t : Store}

/-! ## References -/

inductive RefersTo (s : Store) (r : RuleRecord) (key : String) : Prop
  | condition {c : ConditionRecord} : c ∈ s.conditionsOf r.id → c.key = key → RefersTo s r key
  | comparison {c : ConditionRecord} :
    c ∈ s.conditionsOf r.id → c.otherKey = some key → RefersTo s r key
  | multiplier : r.multiplier = some key → RefersTo s r key
  | inferred {rule : Rule} {scope : Scope} : s.rule r = .ok rule →
    rule.kind = .performance (.multiplied key scope) → RefersTo s r key

theorem mem_conditionsOf {c : ConditionRecord} {ruleId : Int} :
    c ∈ s.conditionsOf ruleId ↔ c ∈ s.conditions ∧ c.ruleId = ruleId := by
  rw [conditionsOf, List.mem_mergeSort, List.mem_filter, beq_iff_eq]

theorem mentions_of_condition {r : RuleRecord} {key : String} {c : ConditionRecord}
    (hc : c ∈ s.conditionsOf r.id) (hkey : c.key = key ∨ c.otherKey = some key) :
    s.mentions r key = true := by
  obtain ⟨hmem, hrule⟩ := mem_conditionsOf.mp hc
  refine Bool.or_eq_true_iff.mpr (.inr (List.any_eq_true.mpr ⟨c, hmem, ?_⟩))
  simpa [hrule] using hkey

theorem mentions_iff {r : RuleRecord} {key : String} :
    s.mentions r key = true ↔ s.RefersTo r key := by
  constructor
  · intro h
    rcases Bool.or_eq_true_iff.mp h with hmultiplier | hcondition
    · exact .multiplier (eq_of_beq hmultiplier)
    · obtain ⟨c, hc, hnames⟩ := List.any_eq_true.mp hcondition
      simp only [Bool.and_eq_true, beq_iff_eq, Bool.or_eq_true] at hnames
      have hmem : c ∈ s.conditionsOf r.id := mem_conditionsOf.mpr ⟨hc, hnames.1⟩
      rcases hnames.2 with hkey | hother
      · exact .condition hmem hkey
      · exact .comparison hmem hother
  · intro h
    cases h with
    | condition hc hkey => exact mentions_of_condition hc (.inl hkey)
    | comparison hc hother => exact mentions_of_condition hc (.inr hother)
    | multiplier h => simp [mentions, h]
    -- what is inferred is the variable of a condition
    | @inferred rule scope hrule hkind =>
      simp only [Store.rule, RuleRecord.rule, bind_eq_ok, pure_eq_ok] at hrule
      obtain ⟨_, -, _, -, rfl⟩ := hrule
      have hprice : Pricing.choose r.isMultiplier r.multiplier
          ((s.conditionsOf r.id).map ConditionRecord.condition) = .multiplied key scope := by
        unfold Category.kind at hkind
        cases hcategory : r.category <;> rw [hcategory] at hkind <;> simp_all
      rcases Pricing.of_choose_eq_multiplied hprice with hnamed | ⟨c, hc, hkey⟩
      · simp [mentions, hnamed]
      · obtain ⟨row, hrow, rfl⟩ := List.mem_map.mp hc
        exact mentions_of_condition hrow (.inl hkey)

theorem RefersTo.congr {r r' : RuleRecord} {key : String} (h : s.RefersTo r key)
    (hlasting : r'.lasting = r.lasting) (hconditions : t.conditionsOf r.id = s.conditionsOf r.id) :
    t.RefersTo r' key := by
  have hid : r'.id = r.id := RuleRecord.id_of_lasting hlasting
  have hmultiplier : r'.multiplier = r.multiplier := by
    have hsame := congrArg RuleRecord.multiplier hlasting
    exact hsame
  rw [← hid] at hconditions
  rcases Bool.or_eq_true_iff.mp (mentions_iff.mpr h) with hnamed | hcondition
  · exact .multiplier (hmultiplier.trans (eq_of_beq hnamed))
  · obtain ⟨c, hc, hnames⟩ := List.any_eq_true.mp hcondition
    simp only [Bool.and_eq_true, beq_iff_eq, Bool.or_eq_true] at hnames
    have hmem : c ∈ t.conditionsOf r'.id := by
      rw [hconditions]
      exact mem_conditionsOf.mpr ⟨hc, hnames.1.trans hid.symm⟩
    exact mentions_iff.mp (mentions_of_condition hmem hnames.2)

def IsReferenced (s : Store) (v : VariableRecord) : Prop :=
  ∃ r ∈ s.rules, r.teamId = v.teamId ∧ s.RefersTo r v.key

instance (v : VariableRecord) : Decidable (s.IsReferenced v) :=
  decidable_of_iff (∃ r ∈ s.rules, r.teamId = v.teamId ∧ s.mentions r v.key = true) <| by
    simp only [IsReferenced, mentions_iff]

theorem IsReferenced.lasting {v v' : VariableRecord} (h : s.IsReferenced v) (hst : s.Lasting t)
    (hteam : v'.teamId = v.teamId) (hkey : v'.key = v.key) : t.IsReferenced v' := by
  obtain ⟨r, hr, hrteam, hrefers⟩ := h
  obtain ⟨r', hr', hsame⟩ := hst.rules r hr
  have hteam' : r'.teamId = r.teamId := by
    have hsame' := congrArg RuleRecord.teamId hsame
    exact hsame'
  exact ⟨r', hr', by rw [hteam', hrteam, hteam],
    hkey ▸ hrefers.congr hsame (hst.conditions r hr)⟩

/-! ## Removing a variable -/

theorem eraseReps_eq_nil {α : Type} [BEq α] {xs : List α} : xs.eraseReps = [] ↔ xs = [] := by
  have hloop (rest : List α) (a : α) (seen : List α) :
      List.eraseRepsBy.loop (· == ·) a rest seen ≠ [] := by
    induction rest generalizing a seen with
    | nil => simp [List.eraseRepsBy.loop]
    | cons b rest ih =>
      unfold List.eraseRepsBy.loop
      split <;> exact ih _ _
  cases xs with
  | nil => exact iff_of_true rfl rfl
  | cons a rest => exact iff_of_false (hloop rest a []) (List.cons_ne_nil a rest)

theorem rulesUsing_eq_nil {v : VariableRecord} :
    s.rulesUsing v.teamId v.key = [] ↔ ¬s.IsReferenced v := by
  unfold rulesUsing
  rw [eraseReps_eq_nil, ← List.length_eq_zero_iff, List.length_mergeSort, List.length_eq_zero_iff,
    List.map_eq_nil_iff, List.filter_eq_nil_iff]
  simp only [ruleRecordsOf, List.mem_filter, beq_iff_eq, mentions_iff, and_imp, IsReferenced,
    not_exists, not_and]

theorem deleteVariable_eq {id : Int} {v : VariableRecord}
    (hv : s.get VariableRecord id .variable = .ok v) :
    s.deleteVariable id =
      if s.IsReferenced v then
        .error (.refused (.variableInUse v.key (s.rulesUsing v.teamId v.key)))
      else .ok { write := .ok (s.remove fun v : VariableRecord => v.id == id, ()) } := by
  unfold deleteVariable
  rw [hv]
  by_cases h : s.IsReferenced v
  · have hsome : (s.rulesUsing v.teamId v.key).isEmpty = false :=
      List.isEmpty_eq_false_iff.mpr fun hnone => rulesUsing_eq_nil.mp hnone h
    rw [if_pos h]
    simp only [bind, Except.bind, hsome]
    rfl
  · have hnone : (s.rulesUsing v.teamId v.key).isEmpty = true :=
      List.isEmpty_iff.mpr (rulesUsing_eq_nil.mpr h)
    rw [if_neg h]
    simp only [bind, Except.bind, hnone]
    rfl

theorem not_referenced_of_deleteVariable {id : Int} (h : Leads (s.deleteVariable id) t) :
    ∃ v : VariableRecord, s.find? id = some v ∧ ¬s.IsReferenced v := by
  obtain ⟨v, hv, -⟩ := leads_bind.mp h
  rw [deleteVariable_eq hv] at h
  exact ⟨v, (get_eq_ok.mp hv).2, (leads_unless.mp h).1⟩

theorem served_deleteVariable {x : Arrival} {id : Int} {v : VariableRecord}
    (hx : x.request.action = .ok (.deleteVariable id)) (hcommit : x.isRefused = false)
    (hv : s.get VariableRecord id .variable = .ok v) :
    s.served x =
      if s.IsReferenced v then
        (.detail 409 (Refusal.variableInUse v.key (s.rulesUsing v.teamId v.key)).message, s)
      else (.shown 204 .null, s.remove fun v : VariableRecord => v.id == id) := by
  rw [served_of_action hx, hcommit, Action.serve, Action.run, deleteVariable_eq hv]
  by_cases h : s.IsReferenced v
  · rw [if_pos h, if_pos h]
    rfl
  · rw [if_neg h, if_neg h]
    rfl

/-! ## Stored variables -/

/-- A variable as it is kept in the table: its number fits a word, and its default has lost the sign
of a zero. -/
structure VariableKept (v : VariableRecord) : Prop where
  fits : fitsWord v.id = true
  plain : v.defaultValue.withoutZeroSign = v.defaultValue

theorem VariableKept.placed {others : List VariableRecord} {v : VariableRecord}
    (hsound : fault? others v = none) : VariableKept (Table.kept v) := by
  obtain ⟨hwords, -⟩ := fault?_eq_none.mp hsound
  exact ⟨hwords v.id List.mem_cons_self, v.defaultValue.withoutZeroSign_twice⟩

theorem Reachable.variables_kept (h : s.Reachable) : ∀ v ∈ s.ownVariables, VariableKept v := by
  apply h.induction
  · exact fun _ h => absurd h List.not_mem_nil
  · intro _ s a t _ hs _ ht
    rcases ht.touched.ownVariables with hsame | ⟨_, ht⟩ | ⟨_, _, ht⟩ | ⟨_, ht⟩
    · rw [hsame]
      exact hs
    · obtain ⟨w, -, -, hsound, -, rfl⟩ := createVariable_leads ht
      intro v hv
      rcases mem_placed.mp hv with rfl | hv
      · exact .placed hsound
      · exact hs v hv
    · obtain ⟨w, -, hu⟩ := setVariableActive_leads ht
      obtain ⟨hsound, -, rfl⟩ := update_eq_ok.mp hu
      intro v hv
      rcases mem_placed.mp hv with rfl | hv
      · exact .placed hsound
      · exact hs v (List.mem_filter.mp hv).1
    · rw [deleteVariable_leads ht]
      intro v hv
      exact hs v (List.mem_filter.mp hv).1

/-- No operation takes away a variable that is referred to, or changes more than whether it is
active. -/
theorem referenced_turns {policy : Policy} {a : Action} {v : VariableRecord} (hs : s.Reachable)
    (hv : v ∈ s.ownVariables) (hreferenced : s.IsReferenced v) (ht : a.Turns policy s t) :
    ∃ row ∈ t.ownVariables, row.lasting = v.lasting := by
  have hids : (s.ownVariables.map VariableRecord.id).Nodup := hs.numbered.ownVariables
  rcases ht.touched.ownVariables with hsame | ⟨_, ht⟩ | ⟨_, form, ht⟩ | ⟨id, ht⟩
  · rw [hsame]
    exact ⟨v, hv, rfl⟩
  · obtain ⟨w, -, -, -, -, rfl⟩ := createVariable_leads ht
    exact ⟨v, mem_placed.mpr (.inr hv), rfl⟩
  · obtain ⟨w, hw, hu⟩ := setVariableActive_leads ht
    obtain ⟨-, -, rfl⟩ := update_eq_ok.mp hu
    have hmem : w ∈ s.ownVariables := (find?_eq_some hw).1
    have hkept : (Table.kept { w with isActive := form.isActive }).lasting = w.lasting := by
      simp only [Table.kept, VariableRecord.lasting, (hs.variables_kept w hmem).plain]
    exact Kept.replaced (r := { w with isActive := form.isActive }) hids hmem rfl hkept v hv
  · obtain ⟨w, hw, hunused⟩ := not_referenced_of_deleteVariable ht
    obtain ⟨hmem, hid⟩ := find?_eq_some hw
    have hother : v.id ≠ id := by
      intro hsame
      rw [List.inj_on_of_nodup_map hids hmem hv (hid.trans hsame.symm)] at hunused
      exact hunused hreferenced
    rw [deleteVariable_leads ht]
    exact ⟨v, List.mem_filter.mpr ⟨hv, by simpa using hother⟩, rfl⟩

theorem referenced_after {v : VariableRecord} (hs : s.Reachable) (hv : v ∈ s.ownVariables)
    (hreferenced : s.IsReferenced v) (later : List Arrival) :
    ∃ row ∈ (s.after later).ownVariables, row.lasting = v.lasting := by
  induction later generalizing s v with
  | nil => exact ⟨v, hv, rfl⟩
  | cons x rest ih =>
    obtain ⟨row, hrow, hsame⟩ : ∃ row ∈ (s.served x).2.ownVariables, row.lasting = v.lasting := by
      rcases s.served_cases x with hsame | ⟨a, -, ht⟩
      · rw [hsame]
        exact ⟨v, hv, rfl⟩
      · exact referenced_turns hs hv hreferenced ht
    obtain ⟨-, hteam, hkey⟩ := VariableRecord.of_lasting hsame
    have hrefers : (s.served x).2.IsReferenced row :=
      hreferenced.lasting (hs.lasting [x]) hteam hkey
    obtain ⟨row', hrow', hsame'⟩ := ih (hs.served x) hrow hrefers
    exact ⟨row', hrow', hsame'.trans hsame⟩

/-- A variable that a rule of its team refers to is there ever after, the same up to whether it is
active. It is removed on request just if no rule of its team refers to it, and otherwise the request
is refused. -/
theorem referenced_variable_stays (s : Store) (h : s.Reachable) :
    (∀ v ∈ s.ownVariables, s.IsReferenced v → ∀ later : List Arrival, ∃ row : VariableRecord,
      (s.after later).find? v.id = some row ∧ row.lasting = v.lasting) ∧
    ∀ (x : Arrival) (id : Int) (v : VariableRecord), x.request.action = .ok (.deleteVariable id) →
      x.isRefused = false → s.find? id = some v →
      ((s.served x).1.hasStatus 204 = true ↔ ¬s.IsReferenced v) ∧
        ((s.served x).1.hasStatus 409 = true ↔ s.IsReferenced v) := by
  constructor
  · intro v hv hreferenced later
    obtain ⟨row, hrow, hsame⟩ := referenced_after h hv hreferenced later
    obtain ⟨hid, -, -⟩ := VariableRecord.of_lasting hsame
    exact ⟨row, hid ▸ find?_of_mem (h.after later).numbered.ownVariables hrow, hsame⟩
  · intro x id v hx hcommit hv
    obtain ⟨hmem, hid⟩ := find?_eq_some hv
    have hfits : fitsWord id = true := hid ▸ (h.variables_kept v hmem).fits
    rw [served_deleteVariable hx hcommit (get_eq_ok.mpr ⟨hfits, hv⟩)]
    by_cases hreferenced : s.IsReferenced v
    · rw [if_pos hreferenced]
      exact ⟨iff_of_false Bool.false_ne_true (not_not.mpr hreferenced), iff_of_true rfl hreferenced⟩
    · rw [if_neg hreferenced]
      exact ⟨iff_of_true rfl hreferenced, iff_of_false Bool.false_ne_true hreferenced⟩

def twoVariables : List Arrival := measured ++ [
  .posting "/variables/" (VariableForm.document {
    teamId := 1, key := "clearances", label := "Clearances", description := "Balls cleared"
    scope := .ofPlayer, dataType := .number, defaultValue := none })]

def removing (path : String) : Arrival where
  request := { method := .delete, path }

theorem referenced_variable_stays_twoVariables :
    (∃ v ∈ (after {} twoVariables).ownVariables, v.key = "interceptions" ∧
      ∀ later : List Arrival, ∃ row : VariableRecord,
        ((after {} twoVariables).after later).find? v.id = some row ∧ row.lasting = v.lasting) ∧
      ((after {} twoVariables).served (removing "/variables/1")).1.hasStatus 409 = true ∧
      ((after {} twoVariables).served (removing "/variables/2")).1.hasStatus 204 = true := by
  have hreachable : (after {} twoVariables).Reachable := ⟨twoVariables, rfl⟩
  have hused : ∃ v ∈ (after {} twoVariables).ownVariables, v.id = 1 ∧ v.key = "interceptions" ∧
      (after {} twoVariables).IsReferenced v := by decide +kernel
  have hunused : ∃ w ∈ (after {} twoVariables).ownVariables, w.id = 2 ∧
      ¬(after {} twoVariables).IsReferenced w := by decide +kernel
  obtain ⟨v, hv, hvid, hkey, hreferenced⟩ := hused
  obtain ⟨w, hw, hwid, hfree⟩ := hunused
  obtain ⟨hstays, hremoved⟩ := referenced_variable_stays _ hreachable
  have hfound {u : VariableRecord} (hu : u ∈ (after {} twoVariables).ownVariables) :
      (after {} twoVariables).find? u.id = some u :=
    find?_of_mem hreachable.numbered.ownVariables hu
  refine ⟨⟨v, hv, hkey, hstays v hv hreferenced⟩, ?_, ?_⟩
  · exact (hremoved (removing "/variables/1") 1 v rfl rfl (hvid ▸ hfound hv)).2.mpr hreferenced
  · exact (hremoved (removing "/variables/2") 2 w rfl rfl (hwid ▸ hfound hw)).1.mpr hfree

end Store

end ClubPoints
