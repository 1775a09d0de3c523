import ClubPoints.Proofs.Rows
import ClubPoints.Proofs.Runs

/-!
# What the operations write

One statement for each operation that changes the store: the rows it found and the row or the rows
that it wrote. `completion_of_leads` says it of the completion of a match, which replaces one match
and the statistics and entries that belong to it.
-/

namespace ClubPoints

open Form

namespace Store

variable {s t : Store} {α : Type}

/-! ## Changes that are made ready -/

theorem leads_ok {c : Change α} : Leads (.ok c) t ↔ ∃ a, c.write = .ok (t, a) := by
  simp [Leads]

theorem not_leads_error {cause : Cause} : ¬Leads (.error cause : Except Cause (Change α)) t := by
  rintro ⟨_, _, h, -⟩
  cases h

theorem leads_bind {β : Type} {x : Except Cause β} {f : β → Except Cause (Change α)} :
    Leads (x >>= f) t ↔ ∃ b, x = .ok b ∧ Leads (f b) t := by
  cases x with
  | error cause => exact ⟨fun h => absurd h not_leads_error, fun ⟨_, h, _⟩ => nomatch h⟩
  | ok b => exact ⟨fun h => ⟨b, rfl, h⟩, fun ⟨_, hb, h⟩ => by cases hb; exact h⟩

theorem leads_get {R : Type} [Table R] {id : Int} {what : Missing}
    {f : R → Except Cause (Change α)} (h : Leads (s.get R id what >>= f) t) :
    ∃ r, s.find? id = some r ∧ Leads (f r) t := by
  obtain ⟨r, hr, h⟩ := leads_bind.mp h
  exact ⟨r, (get_eq_ok.mp hr).2, h⟩

theorem leads_unless {p : Prop} [Decidable p] {cause : Cause} {x : Except Cause (Change α)} :
    Leads (if p then .error cause else x) t ↔ ¬p ∧ Leads x t := by
  by_cases hp : p
  · rw [if_pos hp]
    exact ⟨fun h => absurd h not_leads_error, fun h => absurd hp h.1⟩
  · rw [if_neg hp]
    exact ⟨fun h => ⟨hp, h⟩, And.right⟩

theorem leads_addition {R : Type} [Table R] {r : R} :
    Leads (.ok (s.addition r)) t ↔ Inserted s (Table.setId r (s.nextId R)) t := by
  simp only [leads_ok, addition, map_eq_ok, Prod.exists, insert_eq_ok, Prod.mk.injEq]
  constructor
  · rintro ⟨_, t', r', ⟨rfl, h⟩, rfl, rfl⟩
    exact h
  · exact fun h => ⟨_, t, _, ⟨rfl, h⟩, rfl, rfl⟩

theorem leads_revision {R : Type} [Table R] {r : R} :
    Leads (.ok (s.revision r)) t ↔ s.update r = .ok t := by
  simp only [leads_ok, revision, map_eq_ok, Prod.mk.injEq]
  constructor
  · rintro ⟨_, t', h, rfl, rfl⟩
    exact h
  · exact fun h => ⟨_, t, h, rfl, rfl⟩

/-! ## Single rows -/

theorem createClub_leads {form : ClubForm} (h : Leads (s.createClub form) t) :
    ∃ club : ClubRecord, club.name = Text.squeeze form.name ∧
      Inserted s (Table.setId club (s.nextId ClubRecord)) t := by
  unfold createClub at h
  obtain ⟨-, h⟩ := leads_unless.mp h
  obtain ⟨-, h⟩ := leads_unless.mp h
  exact ⟨_, rfl, leads_addition.mp h⟩

theorem createTeam_leads {form : TeamForm} (h : Leads (s.createTeam form) t) :
    ∃ team : TeamRecord, team.defaultProfileId = none ∧
      Inserted s (Table.setId team (s.nextId TeamRecord)) t := by
  unfold createTeam at h
  obtain ⟨-, h⟩ := leads_unless.mp h
  obtain ⟨club, -, h⟩ := leads_get h
  obtain ⟨-, h⟩ := leads_unless.mp h
  exact ⟨_, rfl, leads_addition.mp h⟩

theorem setTeamProfile_leads {id : Int} {form : TeamProfileForm}
    (h : Leads (s.setTeamProfile id form) t) :
    ∃ team : TeamRecord, s.find? id = some team ∧
      (∀ p, form.profileId = some p → ∃ profile : ProfileRecord, s.find? p = some profile ∧
        profile.clubId = team.clubId) ∧
      s.update { team with defaultProfileId := form.profileId } = .ok t := by
  unfold setTeamProfile at h
  obtain ⟨team, hteam, h⟩ := leads_get h
  dsimp only at h
  split at h
  · rename_i p hp
    obtain ⟨profile, hprofile, h⟩ := leads_get h
    obtain ⟨hclub, h⟩ := leads_unless.mp h
    refine ⟨team, hteam, ?_, leads_revision.mp h⟩
    intro q hq
    rw [hp] at hq
    cases hq
    exact ⟨profile, hprofile, not_not.mp hclub⟩
  · rename_i hp
    exact ⟨team, hteam, fun p hq => absurd hq (hp p), leads_revision.mp h⟩

theorem createPlayer_leads {form : PlayerForm} (h : Leads (s.createPlayer form) t) :
    ∃ player : PlayerRecord, player.teamId = form.teamId ∧
      Inserted s (Table.setId player (s.nextId PlayerRecord)) t := by
  unfold createPlayer at h
  obtain ⟨-, h⟩ := leads_unless.mp h
  obtain ⟨team, hteam, h⟩ := leads_get h
  obtain ⟨-, h⟩ := leads_unless.mp h
  exact ⟨_, (find?_eq_some hteam).2, leads_addition.mp h⟩

theorem createMatch_leads {form : FixtureForm} (h : Leads (s.createMatch form) t) :
    Inserted s (Table.setId
      { teamId := form.teamId, opponent := Text.squeeze form.opponent : MatchRecord }
      (s.nextId MatchRecord)) t := by
  unfold createMatch at h
  obtain ⟨-, h⟩ := leads_unless.mp h
  obtain ⟨team, hteam, h⟩ := leads_get h
  rw [← (find?_eq_some hteam).2]
  exact leads_addition.mp h

def newVariable (form : VariableForm) (id : Int) : VariableRecord where
  id := id
  teamId := form.teamId
  key := form.key
  label := Text.squeeze form.label
  description := Text.strip form.description
  scope := form.scope
  dataType := form.dataType
  defaultValue := form.defaultValue.getD .zero

theorem createVariable_leads {form : VariableForm} (h : Leads (s.createVariable form) t) :
    ∃ v : VariableRecord, v = newVariable form (s.nextId VariableRecord) ∧
      Variable.isBuiltInKey form.key = false ∧ Inserted s v t := by
  unfold createVariable at h
  obtain ⟨team, hteam, h⟩ := leads_get h
  obtain ⟨hkey, h⟩ := leads_unless.mp h
  obtain ⟨-, h⟩ := leads_unless.mp h
  have hid : team.id = form.teamId := (find?_eq_some hteam).2
  rw [hid] at h
  exact ⟨_, rfl, eq_false_of_ne_true hkey, leads_addition.mp h⟩

theorem setVariableActive_leads {id : Int} {form : ActivityForm}
    (h : Leads (s.setVariableActive id form) t) :
    ∃ v : VariableRecord, s.find? id = some v ∧
      s.update { v with isActive := form.isActive } = .ok t := by
  obtain ⟨v, hv, h⟩ := leads_get h
  exact ⟨v, hv, leads_revision.mp h⟩

theorem deleteVariable_leads {id : Int} (h : Leads (s.deleteVariable id) t) :
    t = s.remove fun v : VariableRecord => v.id == id := by
  unfold deleteVariable at h
  obtain ⟨v, hv, h⟩ := leads_get h
  obtain ⟨-, h⟩ := leads_unless.mp h
  obtain ⟨_, h⟩ := leads_ok.mp h
  cases h
  rfl

theorem setRuleActive_leads {id : Int} {form : ActivityForm}
    (h : Leads (s.setRuleActive id form) t) :
    ∃ r : RuleRecord, s.find? id = some r ∧
      s.update { r with isActive := form.isActive } = .ok t := by
  obtain ⟨r, hr, h⟩ := leads_get h
  exact ⟨r, hr, leads_revision.mp h⟩

/-! ## Rules and profiles with their parts -/

theorem createRule_eq_ok {form : RuleForm} {c : Change (RuleRecord × List ConditionRecord)} :
    s.createRule form = .ok c ↔
      s.ruleProblems form = .ok [] ∧ s.checkTarget form = .ok () ∧
        c = { write := s.writeRule form } := by
  unfold createRule
  simp only [bind_eq_ok]
  constructor
  · rintro ⟨problems, hproblems, h⟩
    cases problems with
    | nil =>
      obtain ⟨_, htarget, h⟩ := bind_eq_ok.mp h
      exact ⟨hproblems, htarget, (Except.ok.inj h).symm⟩
    | cons problem rest => cases h
  · rintro ⟨hproblems, htarget, rfl⟩
    exact ⟨[], hproblems, bind_eq_ok.mpr ⟨(), htarget, rfl⟩⟩

theorem writeRule_eq_ok {form : RuleForm} {rule : RuleRecord} {conditions : List ConditionRecord} :
    s.writeRule form = .ok (t, rule, conditions) ↔
      ∃ u, s.insert form.record = .ok (u, rule) ∧
        u.insertAll (form.conditionRecords.map fun c => { c with ruleId := rule.id }) =
          .ok (t, conditions) := by
  simp only [writeRule, bind_eq_ok, Prod.exists, pure_eq_ok, Prod.mk.injEq]
  constructor
  · rintro ⟨u, _, hrule, _, _, hconditions, rfl, rfl, rfl⟩
    exact ⟨u, hrule, hconditions⟩
  · rintro ⟨u, hrule, hconditions⟩
    exact ⟨u, rule, hrule, t, conditions, hconditions, rfl, rfl, rfl⟩

theorem writeRule_of_leads {form : RuleForm} (h : Leads (s.createRule form) t) :
    ∃ rule conditions, s.writeRule form = .ok (t, rule, conditions) := by
  obtain ⟨c, ⟨rule, conditions⟩, hc, hw⟩ := h
  obtain ⟨-, -, rfl⟩ := createRule_eq_ok.mp hc
  exact ⟨rule, conditions, hw⟩

theorem createRule_leads {form : RuleForm} (h : Leads (s.createRule form) t) :
    ∃ (rule : RuleRecord) (conditions : List ConditionRecord) (u : Store),
      rule = { form.record with id := rule.id } ∧ Inserted s rule u ∧
        InsertedAll u (form.conditionRecords.map fun c => { c with ruleId := rule.id })
          conditions t := by
  obtain ⟨rule, conditions, h⟩ := writeRule_of_leads h
  obtain ⟨u, hrule, hconditions⟩ := writeRule_eq_ok.mp h
  obtain ⟨hnumber, hinserted⟩ := insert_eq_ok.mp hrule
  refine ⟨rule, conditions, u, ?_, hinserted, insertAll_eq_ok hconditions⟩
  rw [hnumber]
  rfl

/-- The store that a new profile is added to: where it becomes the default of its club, without the
marks of the club's other profiles. -/
def beforeProfile (s : Store) (form : ProfileForm) : Store :=
  if form.isClubDefault then s.clearDefault form.clubId else s

theorem beforeProfile_frame (s : Store) (form : ProfileForm) :
    s.beforeProfile form = { s with profiles := (s.beforeProfile form).profiles } := by
  unfold beforeProfile
  by_cases hdefault : form.isClubDefault = true <;> simp [hdefault, clearDefault]

def newProfile (form : ProfileForm) (id : Int) : ProfileRecord where
  id := id
  clubId := form.clubId
  name := Text.squeeze form.name
  description := Text.strip form.description
  isClubDefault := form.isClubDefault

theorem createProfile_leads {form : ProfileForm} (h : Leads (s.createProfile form) t) :
    ∃ (profile : ProfileRecord) (rules : List ProfileRuleRecord) (u : Store),
      profile = newProfile form ((s.beforeProfile form).nextId ProfileRecord) ∧
      Inserted (s.beforeProfile form) profile u ∧
        InsertedAll u (form.rules.map fun item : ProfileRuleForm =>
          ({ profileId := profile.id, ruleId := item.ruleId,
             customPoints := item.customPoints.map Amount.whole,
             isEnabled := item.isEnabled } : ProfileRuleRecord)) rules t := by
  unfold createProfile at h
  obtain ⟨club, hclub, h⟩ := leads_get h
  obtain ⟨_, -, h⟩ := leads_bind.mp h
  obtain ⟨_, h⟩ := leads_ok.mp h
  have hid : club.id = form.clubId := (find?_eq_some hclub).2
  simp only [writeProfile, hid, bind_eq_ok, Prod.exists, pure_eq_ok, Prod.mk.injEq] at h
  obtain ⟨u, profile, hprofile, _, rules, hrules, rfl, -⟩ := h
  obtain ⟨hnumber, hinserted⟩ := insert_eq_ok.mp hprofile
  exact ⟨profile, rules, u, hnumber, hinserted, insertAll_eq_ok hrules⟩

end Store

end ClubPoints
