import ClubPoints.Proofs.Rejection
import ClubPoints.Proofs.StoredRules

/-!
# Drafts that are checked and rules that are created

Checking a draft and creating a rule judge it alike, but a draft without problems is created only if
it is also `Saveable`.
-/

namespace ClubPoints

open Form View

/-! ## What a draft is answered -/

def Answer.verdict (isValid : Bool) (errors : List String) : Answer :=
  .shown 200 (VerdictView.document { isValid, errors })

def Answer.problems (errors : List String) : Answer :=
  .shown 422 (.object [("detail", .list (errors.map .text))])

theorem presentables_texts (texts : List String) :
    Value.presentables (texts.map .text) = texts.map .text := by
  rw [Value.presentables_eq_map, List.map_map]
  exact List.map_congr_left fun _ _ => rfl

theorem texts_injective : Function.Injective fun texts : List String => texts.map Value.text :=
  List.map_injective_iff.mpr fun _ _ h => Value.text.inj h

theorem Answer.problems_inj {errors errors' : List String} :
    Answer.problems errors = .problems errors' ↔ errors = errors' := by
  simp [Answer.problems, texts_injective.eq_iff]

theorem Answer.verdict_inj {isValid isValid' : Bool} {errors errors' : List String} :
    Answer.verdict isValid errors = .verdict isValid' errors' ↔
      isValid = isValid' ∧ errors = errors' := by
  simp [Answer.verdict, VerdictView.document, texts_injective.eq_iff]

namespace Store

variable {s t : Store} {form : RuleForm} {id : Int}

/-! ## Storing a rule -/

/-- What else a rule has to be in order to be created: its target is on the team, its points fit a
word, its conditions compare with numbers, and there are numbers left for all its rows. -/
structure Saveable (s : Store) (form : RuleForm) : Prop where
  target : ∀ id, form.targetPlayer = some id →
    ∃ player, s.lookup PlayerRecord id = .ok (some player) ∧ player.teamId = form.teamId
  points : fitsWord form.points = true
  values : ∀ c ∈ form.conditions, c.value ≠ some .nan
  rules : fitsWord (s.rules.length + 1) = true
  conditions : fitsWord (s.conditions.length + form.conditions.length) = true

theorem checkTarget_eq_ok :
    s.checkTarget form = .ok () ↔ ∀ id, form.targetPlayer = some id →
      ∃ player, s.lookup PlayerRecord id = .ok (some player) ∧ player.teamId = form.teamId := by
  unfold checkTarget
  cases form.targetPlayer with
  | none => simp
  | some id =>
    simp only [bind_eq_ok, Option.some.injEq, forall_eq']
    constructor
    · rintro ⟨found, hfound, h⟩
      cases found with
      | none => cases h
      | some player =>
        by_cases hteam : player.teamId = form.teamId
        · exact ⟨player, hfound, hteam⟩
        · simp only [if_neg hteam] at h
          cases h
    · rintro ⟨player, hfound, hteam⟩
      exact ⟨some player, hfound, if_pos hteam⟩

theorem player_of_record (htarget : s.checkTarget form = .ok ())
    (h : form.record.targetPlayer = some id) :
    fitsWord id = true ∧ s.holds (.player id) = true := by
  have hgiven : form.targetPlayer = some id := by
    unfold RuleForm.record at h
    by_cases hscope : form.targetScope = .individual
    · rwa [if_pos hscope] at h
    · rw [if_neg hscope] at h
      cases h
  obtain ⟨player, hplayer, -⟩ := checkTarget_eq_ok.mp htarget id hgiven
  obtain ⟨hfits, hfound⟩ := lookup_eq_ok.mp hplayer
  exact ⟨hfits, any_of_find? hfound⟩

theorem storable_record {team : TeamRecord} (hteam : s.get TeamRecord form.teamId .team = .ok team)
    (htarget : s.checkTarget form = .ok ()) :
    s.Storable form.record ↔ fitsWord form.points = true := by
  obtain ⟨hfits, hfound⟩ := get_eq_ok.mp hteam
  have hwords : Table.words form.record =
      form.teamId :: ([form.points] ++ form.record.targetPlayer.toList) := rfl
  have hrefers : Table.references form.record =
      .team form.teamId :: form.record.targetPlayer.toList.map .player := rfl
  constructor
  · intro h
    exact h.words _ (by simp [hwords])
  · intro hpoints
    refine ⟨?_, rfl, ?_⟩
    · rw [hwords]
      intro n hn
      simp only [List.mem_cons, List.mem_append, List.not_mem_nil, or_false,
        Option.mem_toList] at hn
      rcases hn with rfl | rfl | hn
      · exact hfits
      · exact hpoints
      · exact (player_of_record htarget hn).1
    · rw [hrefers]
      intro ref href
      simp only [List.mem_cons, List.mem_map, Option.mem_toList] at href
      rcases href with rfl | ⟨id, hid, rfl⟩
      · exact any_of_find? hfound
      · exact (player_of_record htarget hid).2

theorem storable_condition {c : ConditionForm} {index : Nat} (hrule : fitsWord id = true)
    (hheld : s.holds (.rule id) = true) (hindex : fitsWord index = true) :
    s.Storable { c.record index with ruleId := id } ↔ c.value ≠ some .nan := by
  have hvalue : (c.value.getD .zero = .nan) ↔ c.value = some .nan := by
    cases c.value with
    | none => exact ⟨nofun, nofun⟩
    | some x => simp
  rw [Ne, ← hvalue]
  constructor
  · intro h hnan
    have hfault := h.sound
    simp only [Table.fault?, ConditionForm.record, hnan, if_true] at hfault
    cases hfault
  · intro hnumber
    refine ⟨?_, if_neg hnumber, ?_⟩
    · show ∀ n ∈ [id, (index : Int)], fitsWord n = true
      simp [hrule, hindex]
    · show ∀ ref ∈ [Reference.rule id], s.holds ref = true
      simp [hheld]

theorem storable_conditionRecords (hrule : fitsWord id = true) (hheld : s.holds (.rule id) = true)
    (hcount : fitsWord form.conditions.length = true) :
    (∀ c ∈ form.conditionRecords.map fun c => { c with ruleId := id }, s.Storable c) ↔
      ∀ c ∈ form.conditions, c.value ≠ some .nan := by
  have hindex {index : Nat} (h : index < form.conditions.length) : fitsWord index = true :=
    fitsWord_of_le (by omega) (by omega) hcount
  simp only [RuleForm.conditionRecords, List.map_map, List.forall_mem_map, Function.comp_apply]
  constructor
  · intro h c hc
    obtain ⟨index, hlt, rfl⟩ := List.mem_iff_getElem.mp hc
    have hmem : (form.conditions[index], index) ∈ form.conditions.zipIdx := by
      simp [List.mk_mem_zipIdx_iff_getElem?, hlt]
    exact (storable_condition hrule hheld (hindex hlt)).mp (h _ hmem)
  · rintro h ⟨c, index⟩ hmem
    obtain ⟨hlt, hc⟩ := List.getElem?_eq_some_iff.mp (List.mk_mem_zipIdx_iff_getElem?.mp hmem)
    exact (storable_condition hrule hheld (hindex hlt)).mpr (h c (hc ▸ List.getElem_mem hlt))

/-- Once the row of a rule is stored, only its conditions can keep the rule from being stored. -/
theorem exists_insertAll_conditions_iff {u : Store} {rule : RuleRecord} (hs : s.RulesInTurn)
    (h : s.insert form.record = .ok (u, rule)) :
    (∃ x, u.insertAll (form.conditionRecords.map fun c => { c with ruleId := rule.id }) = .ok x) ↔
      (∀ c ∈ form.conditions, c.value ≠ some .nan) ∧
        fitsWord (s.conditions.length + form.conditions.length) = true := by
  obtain ⟨-, hinserted⟩ := insert_eq_ok.mp h
  have hrule : fitsWord rule.id = true :=
    (fault?_eq_none.mp hinserted.sound).1 _ (by simp [Table.id])
  have hheld : u.holds (.rule rule.id) = true := by
    rw [hinserted.store]
    exact List.any_eq_true.mpr ⟨rule, mem_placed.mpr (.inl rfl), beq_self_eq_true _⟩
  have hsame : u.conditions = s.conditions := by rw [hinserted.store]; rfl
  have hlength : (Table.rows u : List ConditionRecord).length = s.conditions.length :=
    congrArg List.length hsame
  have hcount : form.conditionRecords.length = form.conditions.length := by
    simp [RuleForm.conditionRecords]
  rw [(hs.conditions.congr hsame).exists_insertAll_iff, List.length_map, hlength, hcount]
  refine and_congr_left fun hfits => storable_conditionRecords hrule hheld ?_
  exact fitsWord_of_le (by omega) (by omega) hfits

theorem exists_writeRule_iff (hs : s.RulesInTurn) (hproblems : s.ruleProblems form = .ok [])
    (htarget : s.checkTarget form = .ok ()) :
    (∃ r, s.writeRule form = .ok r) ↔
      fitsWord form.points = true ∧ (∀ c ∈ form.conditions, c.value ≠ some .nan) ∧
        fitsWord (s.rules.length + 1) = true ∧
        fitsWord (s.conditions.length + form.conditions.length) = true := by
  obtain ⟨team, hteam, -⟩ := ruleProblems_eq_ok.mp hproblems
  have hrow := hs.rules.exists_insert_iff (r := form.record)
  rw [storable_record hteam htarget] at hrow
  constructor
  · intro ⟨⟨t, rule, conditions⟩, h⟩
    obtain ⟨u, hrule, hconditions⟩ := writeRule_eq_ok.mp h
    obtain ⟨hpoints, hrules⟩ := hrow.mp ⟨_, hrule⟩
    obtain ⟨hvalues, hcount⟩ := (exists_insertAll_conditions_iff hs hrule).mp ⟨_, hconditions⟩
    exact ⟨hpoints, hvalues, hrules, hcount⟩
  · intro ⟨hpoints, hvalues, hrules, hcount⟩
    obtain ⟨⟨u, rule⟩, hrule⟩ := hrow.mpr ⟨hpoints, hrules⟩
    obtain ⟨⟨t, conditions⟩, hconditions⟩ :=
      (exists_insertAll_conditions_iff hs hrule).mpr ⟨hvalues, hcount⟩
    exact ⟨_, writeRule_eq_ok.mpr ⟨u, hrule, hconditions⟩⟩

theorem created_iff_saveable (hs : s.Reachable) (hproblems : s.ruleProblems form = .ok [])
    {policy : Policy} :
    ((Action.createRule form).serve policy false s).1.hasStatus 201 = true ↔ s.Saveable form := by
  rw [Action.serve_createRule]
  constructor
  · rintro ⟨-, -, htarget, t, rule, conditions, v, hwrite, -⟩
    obtain ⟨hpoints, hvalues, hrules, hcount⟩ :=
      (exists_writeRule_iff hs.rulesInTurn hproblems htarget).mp ⟨_, hwrite⟩
    exact ⟨checkTarget_eq_ok.mp htarget, hpoints, hvalues, hrules, hcount⟩
  · intro h
    have htarget := checkTarget_eq_ok.mpr h.target
    obtain ⟨⟨t, rule, conditions⟩, hwrite⟩ :=
      (exists_writeRule_iff hs.rulesInTurn hproblems htarget).mpr
        ⟨h.points, h.values, h.rules, h.conditions⟩
    have hcreate := createRule_eq_ok.mpr ⟨hproblems, htarget, rfl⟩
    obtain ⟨v, hv⟩ := createRule_shown hcreate hwrite
    refine ⟨rfl, hproblems, htarget, t, rule, conditions, v, hwrite, hv, ?_⟩
    have hrun : Outcome.ofChange false (s.createRule form) (fun _ r => showNewRule r) =
        .ok { store := t, shown := some v } :=
      Outcome.ofChange_eq_ok.mpr ⟨rfl, _, t, _, hcreate, hwrite, by rw [hv]⟩
    simp only [Action.serve, Action.run, hrun]
    rfl

/-! ## What keeps a rule from being created -/

theorem lookup_error {R : Type} [Table R] {cause : Cause} (h : s.lookup R id = .error cause) :
    cause = .notStored .wholeTooLarge := by
  unfold lookup checkWord at h
  by_cases hfits : fitsWord id = true
  · rw [if_pos hfits] at h
    cases h
  · rw [if_neg hfits] at h
    exact (Except.error.inj h).symm

theorem ruleProblems_error {cause : Cause} (h : s.ruleProblems form = .error cause) :
    cause = .missing .team ∨ cause = .notStored .wholeTooLarge ∨
      ∃ fault, cause = .faulty fault := by
  rcases bind_eq_error.mp h with hget | ⟨team, -, hjudge⟩
  · rcases bind_eq_error.mp hget with hlookup | ⟨found, -, hmissing⟩
    · exact .inr (.inl (lookup_error hlookup))
    · cases found with
      | none => exact .inl (Except.error.inj hmissing).symm
      | some team => cases hmissing
  · unfold Cause.judge at hjudge
    cases hproblems : form.draft.problems (s.registryOf team.id) with
    | ok problems =>
      rw [hproblems] at hjudge
      cases hjudge
    | error fault =>
      rw [hproblems] at hjudge
      exact .inr (.inr ⟨fault, (Except.error.inj hjudge).symm⟩)

theorem checkTarget_error {cause : Cause} (h : s.checkTarget form = .error cause) :
    cause = .refused .targetOfOtherTeam ∨ cause = .notStored .wholeTooLarge := by
  unfold checkTarget at h
  cases htarget : form.targetPlayer with
  | none =>
    rw [htarget] at h
    cases h
  | some id =>
    simp only [htarget] at h
    rcases bind_eq_error.mp h with hlookup | ⟨found, -, hrefused⟩
    · exact .inr (lookup_error hlookup)
    · refine .inl ?_
      cases found with
      | none => exact (Except.error.inj hrefused).symm
      | some player =>
        by_cases hteam : player.teamId = form.teamId
        · simp only [if_pos hteam] at hrefused
          cases hrefused
        · simp only [if_neg hteam] at hrefused
          exact (Except.error.inj hrefused).symm

/-! ## The two answers -/

variable {x y : Arrival}

theorem served_checkRule (hx : x.request.action = .ok (.checkRule form)) :
    (s.served x).1 = match s.ruleProblems form with
      | .ok problems => .verdict problems.isEmpty (problems.map DraftProblem.message)
      | .error cause => .ofCause 400 cause := by
  have hpresentable (problems : List DraftProblem) :
      (showVerdict problems).presentable = showVerdict problems := by
    simp only [showVerdict, VerdictView.document, Value.presentable, Value.presentableFields,
      presentables_texts]
  rw [served_of_action hx]
  cases hproblems : s.ruleProblems form with
  | error cause =>
    simp only [Action.serve, Action.run, hproblems]
    rfl
  | ok problems =>
    simp only [Action.serve, Action.run, hproblems]
    exact congrArg _ (hpresentable problems)

theorem served_createRule_error {cause : Cause} (hy : y.request.action = .ok (.createRule form))
    (h : s.createRule form = .error cause) : (s.served y).1 = .ofCause 400 cause := by
  rw [served_of_action hy]
  simp only [Action.serve, Action.run, h]
  rfl

theorem served_createRule_unjudged {cause : Cause}
    (hy : y.request.action = .ok (.createRule form)) (h : s.ruleProblems form = .error cause) :
    (s.served y).1 = .ofCause 400 cause := by
  apply served_createRule_error hy
  rw [createRule, h]
  rfl

theorem served_createRule_unsound {problem : DraftProblem} {rest : List DraftProblem}
    (hy : y.request.action = .ok (.createRule form))
    (h : s.ruleProblems form = .ok (problem :: rest)) :
    (s.served y).1 = .problems ((problem :: rest).map DraftProblem.message) := by
  have hcreate : s.createRule form = .error (.unsoundRule (problem :: rest)) := by
    rw [createRule, h]
    rfl
  rw [served_createRule_error hy hcreate, Answer.problems, List.map_map]
  rfl

theorem createRule_of_sound (h : s.ruleProblems form = .ok []) :
    s.createRule form = (s.checkTarget form).map fun _ => { write := s.writeRule form } := by
  rw [createRule, h]
  rfl

theorem run_createRule_error {policy : Policy} {isRefused : Bool} {cause : Cause}
    (hcreate : s.createRule form = .ok { write := s.writeRule form })
    (h : (Action.createRule form).run policy isRefused s = .error cause) :
    cause = .commitRefused ∨ ∃ fault, cause = .notStored fault := by
  simp only [Action.run, Outcome.ofChange, hcreate] at h
  rcases bind_eq_error.mp h with hready | ⟨c, hc, h⟩
  · cases hready
  · cases hc
    rcases bind_eq_error.mp h with hcommit | ⟨_, -, hok⟩
    · cases isRefused with
      | true => exact .inl (Except.error.inj hcommit).symm
      | false =>
        cases hwrite : s.writeRule form with
        | error fault =>
          rw [hwrite] at hcommit
          exact .inr ⟨fault, (Except.error.inj hcommit).symm⟩
        | ok r =>
          rw [hwrite] at hcommit
          cases hcommit
    · cases hok

theorem served_createRule_sound (hy : y.request.action = .ok (.createRule form))
    (hproblems : s.ruleProblems form = .ok []) {n : Nat} (hn : n = 404 ∨ n = 422) :
    (s.served y).1.hasStatus n = false := by
  cases htarget : s.checkTarget form with
  | error cause =>
    have hcreate : s.createRule form = .error cause := by
      rw [createRule_of_sound hproblems, htarget]
      rfl
    rw [served_createRule_error hy hcreate]
    rcases checkTarget_error htarget with rfl | rfl
    · rcases hn with rfl | rfl <;> rfl
    · rfl
  | ok _ =>
    have hcreate : s.createRule form = .ok { write := s.writeRule form } := by
      rw [createRule_of_sound hproblems, htarget]
      rfl
    rw [served_of_action hy]
    unfold Action.serve
    cases hrun : (Action.createRule form).run y.policy y.isRefused s with
    | error cause => rcases run_createRule_error hcreate hrun with rfl | ⟨fault, rfl⟩ <;> rfl
    | ok o =>
      dsimp only
      cases o.shown with
      | none => rfl
      | some v => rcases hn with rfl | rfl <;> rfl

/-- Checking a draft and creating the rule find the same team missing and the same problems, and a
draft without problems is created exactly if it can also be saved. -/
theorem verdict_agrees (s : Store) (hs : s.Reachable) (form : RuleForm) (x y : Arrival)
    (hx : x.request.action = .ok (.checkRule form))
    (hy : y.request.action = .ok (.createRule form)) :
    ((s.served x).1.hasStatus 404 = true ↔ (s.served y).1.hasStatus 404 = true) ∧
    (∀ errors : List String,
      (s.served x).1 = .verdict false errors ↔ (s.served y).1 = .problems errors) ∧
    (y.isRefused = false →
      ((s.served y).1.hasStatus 201 = true ↔
        (s.served x).1 = .verdict true [] ∧ s.Saveable form)) := by
  have hchecked := served_checkRule hx (s := s)
  cases hproblems : s.ruleProblems form with
  | error cause =>
    rw [hproblems] at hchecked
    rw [hchecked, served_createRule_unjudged hy hproblems]
    rcases ruleProblems_error hproblems with rfl | rfl | ⟨fault, rfl⟩ <;>
      exact ⟨Iff.rfl, fun _ => ⟨nofun, nofun⟩, fun _ => ⟨nofun, nofun⟩⟩
  | ok problems =>
    rw [hproblems] at hchecked
    cases problems with
    | nil =>
      -- a sound draft is neither missed nor found unsound, so only storing it can fail
      have hmissing := served_createRule_sound hy hproblems (n := 404) (.inl rfl)
      have hunsound := served_createRule_sound hy hproblems (n := 422) (.inr rfl)
      refine ⟨?_, ?_, ?_⟩
      · rw [hchecked, hmissing]
        exact ⟨nofun, nofun⟩
      · intro errors
        rw [hchecked]
        refine ⟨nofun, fun h => ?_⟩
        rw [h] at hunsound
        cases hunsound
      · intro hkept
        rw [served_of_action hy, hkept, created_iff_saveable hs hproblems, hchecked]
        exact (and_iff_right rfl).symm
    | cons problem rest =>
      rw [hchecked, served_createRule_unsound hy hproblems]
      refine ⟨Iff.rfl, fun errors => ?_, fun _ => ⟨nofun, nofun⟩⟩
      rw [Answer.problems_inj, Answer.verdict_inj]
      exact and_iff_right rfl

def bestPlayer : RuleForm where
  teamId := 1
  name := "Best"
  description := "Played best"
  category := .manual
  points := 1

theorem verdict_agrees_season :
    ((after {} season).served (.posting "/rules/validate" bestPlayer.document)).1 =
        .verdict true [] ∧
      (after {} season).Saveable bestPlayer :=
  ((verdict_agrees (after {} season) ⟨season, rfl⟩ bestPlayer
    (.posting "/rules/validate" bestPlayer.document) (.posting "/rules/" bestPlayer.document)
    rfl rfl).2.2 rfl).mp (by decide +kernel)

def strangeTarget : RuleForm := { bestPlayer with targetPlayer := some 999 }

/-- Not every draft without problems is created: a target that the rule would not even keep has to
be on the team. -/
theorem verdict_agrees_not_always :
    ¬∀ (s : Store) (form : RuleForm) (x y : Arrival), s.Reachable →
      x.request.action = .ok (.checkRule form) → y.request.action = .ok (.createRule form) →
      y.isRefused = false →
      ((s.served y).1.hasStatus 201 = true ↔ (s.served x).1 = .verdict true []) := by
  intro h
  have hx : (Arrival.posting "/rules/validate" strangeTarget.document).request.action =
      .ok (.checkRule strangeTarget) := rfl
  have hsound : (after {} season).ruleProblems strangeTarget = .ok [] := by decide +kernel
  have hverdict : ((after {} season).served
      (.posting "/rules/validate" strangeTarget.document)).1 = .verdict true [] := by
    rw [served_checkRule hx, hsound]
    rfl
  have hnot : ((after {} season).served
      (.posting "/rules/" strangeTarget.document)).1.hasStatus 201 = false := by decide +kernel
  have hcreated := (h (after {} season) strangeTarget
    (.posting "/rules/validate" strangeTarget.document)
    (.posting "/rules/" strangeTarget.document) ⟨season, rfl⟩ hx rfl rfl).mpr hverdict
  rw [hnot] at hcreated
  cases hcreated

end Store

end ClubPoints
