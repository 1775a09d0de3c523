import ClubPoints.Proofs.Literals
import ClubPoints.Proofs.InTurn
import ClubPoints.Proofs.Room
import ClubPoints.Proofs.Unordered
import ClubPoints.Proofs.WellFormed

/-!
# Keys of new variables

A key is free if it is neither built in nor used by the team, whether by an active variable or not
and in whatever scope (`Store.variable_created_iff_fresh`).
-/

namespace ClubPoints

open Form

/-! ## Registries of stored variables -/

namespace Keyed

variable {α κ : Type} [DecidableEq κ] {key : α → κ} {entries : List α}

theorem find?_unique {x : α} (hx : x ∈ entries) (hunique : ∀ y ∈ entries, key y = key x → y = x) :
    find? key (key x) entries = some x := by
  cases hfind : find? key (key x) entries with
  | none => exact absurd rfl (find?_eq_none.mp hfind x hx)
  | some y =>
    obtain ⟨hy, hkey⟩ := find?_eq_some hfind
    rw [hunique y hy hkey]

end Keyed

theorem Variable.find?_builtIns {key : String} (h : isBuiltInKey key = false) (scope : Scope) :
    Keyed.find? ident (key, scope) builtIns = none := by
  apply Keyed.find?_eq_none.mpr
  intro v hv hident
  have hkey : isBuiltInKey key = true :=
    List.any_eq_true.mpr ⟨v, hv, beq_iff_eq.mpr (congrArg Prod.fst hident)⟩
  rw [h] at hkey
  cases hkey

theorem VariableRecord.absent_variable (r : VariableRecord) :
    r.variable.absent = r.dataType.default (.real r.defaultValue) := by
  unfold Variable.absent VariableRecord.variable DataType.default
  dsimp only
  by_cases htruth : r.dataType = .truth
  · rw [if_pos htruth]
    rfl
  · rw [if_neg htruth]
    rfl

theorem Binary64.isNonzero_withoutZeroSign (x : Binary64) :
    x.withoutZeroSign.isNonzero = x.isNonzero := by
  cases x <;> rfl

namespace Store

variable {s t : Store} {teamId : Int}

theorem resolve?_registryOf_row {row : VariableRecord} (hrow : row ∈ s.variablesOf teamId)
    (hunique : ((s.variablesOf teamId).map VariableRecord.key).Nodup)
    (hbuiltIn : Variable.isBuiltInKey row.key = false) (hactive : row.isActive = true)
    (scope : Scope) :
    (s.registryOf teamId).resolve? row.key scope =
      if scope = row.scope then some row.variable else none := by
  have hcustom : (s.registryOf teamId).resolve? row.key scope =
      Keyed.find? Variable.ident (row.key, scope)
        (((s.variablesOf teamId).map VariableRecord.variable).filter fun v =>
          !Variable.isBuiltInKey v.key && v.isActive).reverse := by
    unfold Registry.resolve?
    rw [Variable.find?_builtIns hbuiltIn, Option.none_or]
    exact Keyed.find?_collect ..
  -- the team has the key once, so the last variable under it is this one
  have hother : ∀ v ∈ (((s.variablesOf teamId).map VariableRecord.variable).filter fun v =>
      !Variable.isBuiltInKey v.key && v.isActive).reverse, v.key = row.key → v = row.variable := by
    intro v hv hkey
    obtain ⟨row', hrow', rfl⟩ := List.mem_map.mp (List.mem_filter.mp (List.mem_reverse.mp hv)).1
    rw [List.inj_on_of_nodup_map hunique hrow' hrow hkey]
  rw [hcustom]
  split
  · rename_i hscope
    rw [hscope]
    refine Keyed.find?_unique (x := row.variable) ?_ ?_
    · rw [List.mem_reverse, List.mem_filter]
      refine ⟨List.mem_map_of_mem hrow, ?_⟩
      rw [Bool.and_eq_true, Bool.not_eq_true']
      exact ⟨hbuiltIn, hactive⟩
    · exact fun v hv hident => hother v hv (congrArg Prod.fst hident)
  · rename_i hscope
    apply Keyed.find?_eq_none.mpr
    intro v hv hident
    have hsame := hother v hv (congrArg Prod.fst hident)
    rw [hsame] at hident
    exact hscope (congrArg Prod.snd hident).symm

/-! ## Numbers of variables -/

theorem Reachable.variablesInOrder (h : s.Reachable) : Ascending VariableRecord s := by
  apply h.induction
  · exact ⟨.nil, fun _ h => absurd h List.not_mem_nil⟩
  · intro _ s a t _ hs _ ht
    rcases ht.touched.ownVariables with hsame | ⟨_, ht⟩ | ⟨_, form, ht⟩ | ⟨_, ht⟩
    · exact hs.congr hsame
    · obtain ⟨_, rfl, -, hi⟩ := createVariable_leads ht
      exact hs.inserted (r := newVariable _ 0) hi
    · obtain ⟨v, hv, hu⟩ := setVariableActive_leads ht
      exact hs.updated (r := { v with isActive := form.isActive }) (find?_eq_some hv).1 rfl hu
    · rw [deleteVariable_leads ht]
      exact hs.of_sublist List.filter_sublist

/-! ## Creating a variable -/

def HasKey (s : Store) (teamId : Int) (key : String) : Prop :=
  ∃ v ∈ s.ownVariables, v.teamId = teamId ∧ v.key = key

instance (key : String) : Decidable (s.HasKey teamId key) :=
  inferInstanceAs (Decidable (∃ v ∈ s.ownVariables, v.teamId = teamId ∧ v.key = key))

theorem any_key_iff {key : String} :
    ((s.variablesOf teamId).any fun v => v.key == key) = true ↔ s.HasKey teamId key := by
  simp [variablesOf, HasKey]

theorem exists_team (hs : s.Reachable) (h : s.holds (.team teamId) = true) :
    ∃ team : TeamRecord, team.id = teamId ∧ s.get TeamRecord teamId .team = .ok team := by
  obtain ⟨team, hteam⟩ := Option.isSome_iff_exists.mp
    (List.find?_isSome.mpr (List.any_eq_true.mp h) : (s.find? teamId : Option TeamRecord).isSome)
  exact ⟨team, (find?_eq_some hteam).2, hs.inTurn.teams.get_eq .team hteam⟩

variable {form : VariableForm} {x : Arrival}

def IsTaken (s : Store) (form : VariableForm) : Prop :=
  Variable.isBuiltInKey form.key = true ∨ s.HasKey form.teamId form.key

instance : Decidable (s.IsTaken form) := inferInstanceAs (Decidable (_ ∨ _))

theorem createVariable_eq {team : TeamRecord} (hid : team.id = form.teamId)
    (hteam : s.get TeamRecord form.teamId .team = .ok team) :
    s.createVariable form =
      if Variable.isBuiltInKey form.key then .error (.refused (.keyBuiltIn form.key))
      else if (s.variablesOf form.teamId).any fun v => v.key == form.key then
        .error (.refused .keyTaken)
      else .ok (s.addition (newVariable form 0)) := by
  unfold createVariable newVariable
  rw [hteam, ← hid]
  rfl

theorem createVariable_taken (hs : s.Reachable) (hteam : s.holds (.team form.teamId) = true)
    (h : s.IsTaken form) : ∃ why : Refusal, s.createVariable form = .error (.refused why) := by
  obtain ⟨team, hid, hget⟩ := exists_team hs hteam
  rw [createVariable_eq hid hget]
  by_cases hbuiltIn : Variable.isBuiltInKey form.key = true
  · exact ⟨_, if_pos hbuiltIn⟩
  · have hkey := any_key_iff.mpr (h.resolve_left hbuiltIn)
    exact ⟨_, by rw [if_neg hbuiltIn, if_pos hkey]⟩

theorem createVariable_free (hs : s.Reachable) (hteam : s.holds (.team form.teamId) = true)
    (h : ¬s.IsTaken form) : s.createVariable form = .ok (s.addition (newVariable form 0)) := by
  obtain ⟨team, hid, hget⟩ := exists_team hs hteam
  obtain ⟨hbuiltIn, hkey⟩ := not_or.mp h
  rw [createVariable_eq hid hget, if_neg hbuiltIn, if_neg (any_key_iff.not.mpr hkey)]

theorem storable_newVariable (hs : s.Reachable) (hteam : s.holds (.team form.teamId) = true)
    (htype : form.dataType ≠ .text) :
    s.Storable (newVariable form 0) ↔ form.defaultValue ≠ some .nan := by
  obtain ⟨team, -, hget⟩ := exists_team hs hteam
  have hsound : Table.fault? (newVariable form 0) = none ↔ form.defaultValue ≠ some .nan := by
    change VariableRecord.fault? (newVariable form 0) = none ↔ _
    unfold VariableRecord.fault? newVariable
    cases form.defaultValue with
    | none => simp [htype, Binary64.zero]
    | some d => simp [htype]
  constructor
  · exact fun h => hsound.mp h.sound
  · intro h
    exact ⟨List.forall_mem_singleton.mpr (get_eq_ok.mp hget).1, hsound.mpr h,
      List.forall_mem_singleton.mpr hteam⟩

/-- A variable whose key is free can be inserted if its default is a number and a word holds the
number of its row. -/
theorem exists_insert_variable (hs : s.Reachable) (hteam : s.holds (.team form.teamId) = true)
    (hfree : ¬s.IsTaken form) (htype : form.dataType ≠ .text) :
    (∃ t, Inserted s (newVariable form (s.nextId VariableRecord)) t) ↔
      form.defaultValue ≠ some .nan ∧ fitsWord (s.nextId VariableRecord) = true := by
  constructor
  · rintro ⟨t, hi⟩
    obtain ⟨hwords, hsound, -⟩ := fault?_eq_none.mp hi.sound
    have hstorable : s.Storable (newVariable form 0) :=
      ⟨fun n hn => hwords n (List.mem_cons_of_mem _ hn), hsound, hi.refers⟩
    exact ⟨(storable_newVariable hs hteam htype).mp hstorable, hwords _ List.mem_cons_self⟩
  · rintro ⟨hdefault, hfits⟩
    have hclash : ∀ v ∈ s.ownVariables, Table.clashes v (newVariable form 0) = false := by
      intro v hv
      rw [← Bool.not_eq_true]
      intro hclash
      obtain ⟨hsame, hkey⟩ := Bool.and_eq_true_iff.mp hclash
      exact hfree (.inr ⟨v, hv, beq_iff_eq.mp hsame, beq_iff_eq.mp hkey⟩)
    exact ⟨_, hs.variablesInOrder.inserted_next hfits
      ((storable_newVariable hs hteam htype).mpr hdefault) hclash⟩

/-! ## What a new variable brings -/

/-- The key of the form stands for a variable in its scope and for nothing in the other, and what it
reads as without a fact is its default: of a truth variable whether that counts as given. -/
structure Provides (t : Store) (form : VariableForm) : Prop where
  scope : ∀ scope, ((t.registryOf form.teamId).resolve? form.key scope).isSome = true ↔
    scope = form.scope
  number : form.dataType = .number → ∀ fact : String → Value, (fact form.key).isNull = true →
    ∃ d, (t.registryOf form.teamId).lookup form.key form.scope fact = .real d ∧
      d.same (form.defaultValue.getD .zero) = true
  truth : form.dataType = .truth → ∀ fact : String → Value, (fact form.key).isNull = true →
    (t.registryOf form.teamId).lookup form.key form.scope fact =
      .truth (form.defaultValue.getD .zero).isNonzero

theorem provides_inserted (ht : t.Reachable) (hfree : Variable.isBuiltInKey form.key = false)
    (hi : Inserted s (newVariable form (s.nextId VariableRecord)) t)
    (hdefault : form.defaultValue ≠ some .nan) : t.Provides form := by
  have hrow : Table.kept (newVariable form (s.nextId VariableRecord)) ∈
      t.variablesOf form.teamId := by
    rw [hi.store]
    exact List.mem_filter.mpr ⟨mem_placed.mpr (.inl rfl), beq_self_eq_true _⟩
  have hresolve : ∀ scope, (t.registryOf form.teamId).resolve? form.key scope =
      if scope = form.scope then
        some (Table.kept (newVariable form (s.nextId VariableRecord))).variable else none :=
    resolve?_registryOf_row hrow (nodup_within form.teamId ht.keys_nodup) hfree rfl
  -- without a fact the row is read as its default, which has lost the sign of a zero
  have hlookup {fact : String → Value} (hnull : (fact form.key).isNull = true) :
      (t.registryOf form.teamId).lookup form.key form.scope fact =
        form.dataType.default (.real (form.defaultValue.getD .zero).withoutZeroSign) := by
    unfold Registry.lookup
    rw [hresolve, if_pos rfl]
    dsimp only
    rw [if_pos hnull]
    exact VariableRecord.absent_variable _
  constructor
  · intro scope
    rw [hresolve]
    split <;> simp [*]
  · intro hnumber fact hnull
    refine ⟨(form.defaultValue.getD .zero).withoutZeroSign, ?_, Binary64.same_withoutZeroSign ?_⟩
    · rw [hlookup hnull, hnumber]
      rfl
    · cases hgiven : form.defaultValue with
      | none => exact nofun
      | some d => exact fun hnan => hdefault (hgiven.trans (congrArg some hnan))
  · intro htruth fact hnull
    rw [hlookup hnull, htruth]
    exact congrArg Value.truth (Binary64.isNonzero_withoutZeroSign _)

/-! ## Answers -/

section
variable (hx : x.request.action = .ok (.createVariable form)) (hcommit : x.isRefused = false)
include hx

theorem served_createVariable_error {cause : Cause} (h : s.createVariable form = .error cause) :
    s.served x = (Answer.ofCause 409 cause, s) := by
  rw [served_of_action hx, Action.serve, Action.run, h]
  rfl

theorem served_createVariable_missing (h : s.holds (.team form.teamId) = false) :
    s.served x = (if fitsWord form.teamId then .detail 404 Missing.team.message else .failed, s) := by
  have hnone : (s.find? form.teamId : Option TeamRecord) = none := by
    cases hfound : (s.find? form.teamId : Option TeamRecord) with
    | none => rfl
    | some team =>
      have hheld : s.holds (.team form.teamId) = true := any_of_find? hfound
      rw [h] at hheld
      cases hheld
  have hget : s.get TeamRecord form.teamId .team =
      .error (if fitsWord form.teamId then .missing .team else .notStored .wholeTooLarge) := by
    unfold get lookup checkWord
    rw [hnone]
    split <;> rfl
  have hcreate : s.createVariable form =
      .error (if fitsWord form.teamId then .missing .team else .notStored .wholeTooLarge) := by
    unfold createVariable
    rw [hget]
    rfl
  rw [served_createVariable_error hx hcreate]
  split <;> rfl

include hcommit

theorem served_createVariable_free
    (hcreate : s.createVariable form = .ok (s.addition (newVariable form 0))) :
    s.served x = match s.insert (newVariable form 0) with
      | .ok (t, v) => (.shown 201 (Table.kept v).view.document.presentable, t)
      | .error _ => (.failed, s) := by
  rw [served_of_action hx, hcommit, Action.serve, Action.run, hcreate]
  unfold Outcome.ofChange Change.commit addition
  cases s.insert (newVariable form 0) <;> rfl

theorem served_createVariable_inserted
    (hcreate : s.createVariable form = .ok (s.addition (newVariable form 0)))
    (hi : Inserted s (newVariable form (s.nextId VariableRecord)) t) :
    ∃ body, s.served x = (.shown 201 body, t) := by
  have hinsert : s.insert (newVariable form 0) = .ok (t, newVariable form (s.nextId _)) :=
    insert_eq_ok.mpr ⟨rfl, hi⟩
  rw [served_createVariable_free hx hcommit hcreate, hinsert]
  exact ⟨_, rfl⟩

theorem served_createVariable_unfit
    (hcreate : s.createVariable form = .ok (s.addition (newVariable form 0)))
    (hnone : ¬∃ t, Inserted s (newVariable form (s.nextId VariableRecord)) t) :
    s.served x = (.failed, s) := by
  rw [served_createVariable_free hx hcommit hcreate]
  cases hinsert : s.insert (newVariable form 0) with
  | error fault => rfl
  | ok inserted =>
    obtain ⟨hnumber, hi⟩ := insert_eq_ok.mp hinsert
    rw [hnumber] at hi
    exact absurd ⟨_, hi⟩ hnone

end

/-- A variable is created, and then provides its key, just if the team is there, the key is neither
built in nor one of the team's, the default is a number and a word holds the number of the row.
A missing team and a taken key are told apart from other failures, and nothing is stored. -/
theorem variable_created_iff_fresh (s : Store) (hs : s.Reachable) (x : Arrival)
    (form : VariableForm) (hx : x.request.action = .ok (.createVariable form))
    (hcommit : x.isRefused = false) :
    ((s.served x).1.hasStatus 404 = true ↔
      s.holds (.team form.teamId) = false ∧ fitsWord form.teamId = true) ∧
    ((s.served x).1.hasStatus 409 = true ↔
      s.holds (.team form.teamId) = true ∧ s.IsTaken form) ∧
    ((s.served x).1.hasStatus 201 = true ↔
      s.holds (.team form.teamId) = true ∧ ¬s.IsTaken form ∧
        form.defaultValue ≠ some .nan ∧ fitsWord (s.nextId VariableRecord) = true) ∧
    ((s.served x).1.hasStatus 201 = true → (s.served x).2.Provides form) ∧
    ((s.served x).1.hasStatus 201 = false → (s.served x).2 = s) := by
  have htype : form.dataType ≠ .text :=
    VariableForm.dataType_ne_text (Request.isSubmitted_of_action hx)
  cases hteam : s.holds (.team form.teamId) with
  | false =>
    rw [served_createVariable_missing hx hteam]
    cases fitsWord form.teamId <;> simp [Answer.hasStatus, Answer.detail]
  | true =>
    by_cases htaken : s.IsTaken form
    · obtain ⟨why, hcreate⟩ := createVariable_taken hs hteam htaken
      rw [served_createVariable_error hx hcreate]
      simp [Answer.hasStatus, Answer.ofCause, Answer.detail, htaken]
    · have hcreate := createVariable_free hs hteam htaken
      have hinserted := exists_insert_variable hs hteam htaken htype
      by_cases hfit : form.defaultValue ≠ some .nan ∧ fitsWord (s.nextId VariableRecord) = true
      · obtain ⟨t, hi⟩ := hinserted.mpr hfit
        obtain ⟨body, hserved⟩ := served_createVariable_inserted hx hcommit hcreate hi
        have ht : t.Reachable := by
          have hafter := hs.served x
          rwa [hserved] at hafter
        have hprovides : t.Provides form :=
          provides_inserted ht (eq_false_of_ne_true (not_or.mp htaken).1) hi hfit.1
        rw [hserved]
        simp [Answer.hasStatus, htaken, hfit, hprovides]
      · rw [served_createVariable_unfit hx hcommit hcreate (hinserted.not.mpr hfit)]
        simp [Answer.hasStatus, htaken, hfit]

def blocks : VariableForm where
  teamId := 1
  key := "blocks"
  label := "Blocks"
  description := "Shots blocked"
  scope := .ofPlayer
  dataType := .number
  defaultValue := some (.infinity false)

theorem variable_created_iff_fresh_blocks :
    (after {} season).Reachable ∧
      (Arrival.posting "/variables/" blocks.document).request.action =
        .ok (.createVariable blocks) ∧
      ((after {} season).served (.posting "/variables/" blocks.document)).1.hasStatus 201 = true ∧
      ((after {} season).served (.posting "/variables/" blocks.document)).2.Provides blocks := by
  have hreachable : (after {} season).Reachable := ⟨season, rfl⟩
  obtain ⟨-, -, hcreated, hprovides, -⟩ := variable_created_iff_fresh (after {} season) hreachable
    (.posting "/variables/" blocks.document) blocks rfl rfl
  have hstatus := hcreated.mpr (by decide +kernel)
  exact ⟨hreachable, rfl, hstatus, hprovides hstatus⟩

def uncounted : VariableForm := { blocks with defaultValue := some .nan }

def beyondWords : VariableForm := { blocks with teamId := wordLimit }

/-- Not every free key is taken on, and not every missing team is missed. -/
theorem variable_created_iff_fresh_not_always :
    (¬∀ (s : Store) (x : Arrival) (form : VariableForm), s.Reachable →
      x.request.action = .ok (.createVariable form) → x.isRefused = false →
      s.holds (.team form.teamId) = true → ¬s.IsTaken form →
        (s.served x).1.hasStatus 201 = true) ∧
    ¬∀ (s : Store) (x : Arrival) (form : VariableForm), s.Reachable →
      x.request.action = .ok (.createVariable form) → x.isRefused = false →
      s.holds (.team form.teamId) = false → (s.served x).1.hasStatus 404 = true := by
  constructor
  · intro h
    have hcreated := h (after {} season) (.posting "/variables/" uncounted.document) uncounted
      ⟨season, rfl⟩ rfl rfl (by decide +kernel) (by decide +kernel)
    have hfailed : ((after {} season).served
        (.posting "/variables/" uncounted.document)).1.hasStatus 201 = false := by decide +kernel
    rw [hfailed] at hcreated
    cases hcreated
  · intro h
    have hmissed := h {} (.posting "/variables/" beyondWords.document) beyondWords
      reachable_empty rfl rfl rfl
    have hfailed : (served {} (.posting "/variables/" beyondWords.document)).1.hasStatus 404 =
        false := by decide +kernel
    rw [hfailed] at hmissed
    cases hmissed

end Store

end ClubPoints
