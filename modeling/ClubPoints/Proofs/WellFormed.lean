import ClubPoints.Proofs.ClubDefault
import ClubPoints.Proofs.Drafts
import ClubPoints.Proofs.Undeclared

/-!
# Well-formed configurations

The tables do not say what a rule, a profile or a variable has to be like; only the operations see to
it (`Store.RuleWellFormed`, `Store.ProfileWellFormed`). What these rows refer to stays where it is
(`Store.Rooted`).
-/

namespace ClubPoints

open Form

/-! ## Drafts without problems -/

namespace Form.RuleForm

variable {form : RuleForm} {r : Registry}

/-- What a rule needs in order to be sound: conditions unless it scores by hand, on the match alone if
it is about results, and the target that its scope asks for. -/
structure IsComplete (f : RuleForm) : Prop where
  conditions : f.category ≠ .manual → f.conditions ≠ []
  ofMatch : f.category = .result → ∀ c ∈ f.conditions, c.scope = .ofMatch
  positions : f.targetScope = .byPosition → f.targetPositions ≠ []
  player : f.targetScope = .individual → f.targetPlayer.isSome = true

theorem draft_hasCategory (f : RuleForm) (category : Category) :
    f.draft.hasCategory category = (f.category == category) := by
  show (Value.text f.category.name).isText category.name = _
  cases f.category <;> cases category <;> decide

theorem draft_hasTargetScope (f : RuleForm) (scope : TargetScope) :
    f.draft.hasTargetScope scope = (f.targetScope == scope) := by
  show (Value.text f.targetScope.name).isText scope.name = _
  cases f.targetScope <;> cases scope <;> decide

theorem complete_of_problems (h : form.draft.problems r = .ok []) : form.IsComplete := by
  simp only [Draft.problems, bind_eq_ok, pure_eq_ok, List.append_eq_nil_iff] at h
  obtain ⟨_, -, _, -, ⟨hhead, -⟩, hconditions⟩ := h
  simp only [Draft.headProblems, List.append_eq_nil_iff, draft_hasCategory,
    draft_hasTargetScope] at hhead
  obtain ⟨⟨⟨-, hconditioned⟩, hpositions⟩, hplayer⟩ := hhead
  refine ⟨?_, ?_, ?_, ?_⟩
  · intro hmanual hnone
    simp [draft, hmanual, hnone] at hconditioned
  · intro hresult c hc
    have hdraft : c.draft ∈ form.draft.conditions := List.mem_map_of_mem hc
    rw [← List.zipIdx_map_fst 1 form.draft.conditions] at hdraft
    obtain ⟨⟨d, index⟩, hmem, rfl : d = c.draft⟩ := List.mem_map.mp hdraft
    have hproblems := List.flatMap_eq_nil_iff.mp hconditions _ hmem
    simp only [DraftCondition.problems, List.append_eq_nil_iff, draft_hasCategory,
      hresult] at hproblems
    cases hscope : c.scope with
    | ofMatch => rfl
    | ofPlayer =>
      have hplayer : c.draft.scope.isText Scope.ofPlayer.name = true := by
        rw [ConditionForm.draft, hscope]
        rfl
      simp [hplayer] at hproblems
  · intro hscope hnone
    simp [draft, hscope, hnone, Value.isGiven] at hpositions
  · intro hscope
    cases hnone : form.targetPlayer with
    | none => simp [draft, hscope, hnone, Value.nullable, Value.isNull] at hplayer
    | some id => rfl

end Form.RuleForm

namespace Store

variable {s t : Store} {id teamId clubId : Int}

/-! ## Rows that others refer to -/

/-- Teams stay in their club, players and rules in their team, and profiles in their club. -/
structure Rooted (s t : Store) : Prop where
  teams : Kept (fun x => (x.id, x.clubId)) s.teams t.teams
  players : Kept (fun x => (x.id, x.teamId)) s.players t.players
  rules : Kept (fun x => (x.id, x.teamId)) s.rules t.rules
  profiles : Kept (fun x => (x.id, x.clubId)) s.profiles t.profiles

theorem Rooted.of_turns {policy : Policy} {a : Action} (hn : s.Numbered) (ht : a.Turns policy s t) :
    s.Rooted t := by
  rcases Grows.or_completed hn ht with hgrows | ⟨id, form, -, ⟨c⟩⟩
  · exact ⟨hgrows.teams, hgrows.players, hgrows.rules, hgrows.profiles⟩
  · rw [c.frame]
    exact ⟨.refl, .refl, .refl, .refl⟩

theorem find?_of_kept {R κ : Type} [Table R] {columns : R → κ} {r : R}
    (hn : ((Table.rows t : List R).map Table.id).Nodup)
    (hkept : Kept columns (Table.rows s) (Table.rows t))
    (hid : ∀ a b : R, columns a = columns b → Table.id a = Table.id b) (h : s.find? id = some r) :
    ∃ r', t.find? id = some r' ∧ columns r' = columns r := by
  obtain ⟨hmem, hr⟩ := find?_eq_some h
  obtain ⟨r', hmem', hsame⟩ := hkept r hmem
  exact ⟨r', (hid _ _ hsame).trans hr ▸ find?_of_mem hn hmem', hsame⟩

def HasPlayer (s : Store) (teamId id : Int) : Prop :=
  ∃ player : PlayerRecord, s.find? id = some player ∧ player.teamId = teamId

def HasProfile (s : Store) (clubId id : Int) : Prop :=
  ∃ profile : ProfileRecord, s.find? id = some profile ∧ profile.clubId = clubId

def HasRule (s : Store) (clubId id : Int) : Prop :=
  ∃ (rule : RuleRecord) (team : TeamRecord), s.find? id = some rule ∧
    s.find? rule.teamId = some team ∧ team.clubId = clubId

namespace Rooted

variable (h : s.Rooted t) (hn : t.Numbered)
include h hn

theorem hasPlayer (hs : s.HasPlayer teamId id) : t.HasPlayer teamId id := by
  obtain ⟨player, hplayer, hteam⟩ := hs
  obtain ⟨player', hplayer', hsame⟩ :=
    find?_of_kept hn.players h.players (fun _ _ hab => congrArg Prod.fst hab) hplayer
  exact ⟨player', hplayer', (congrArg Prod.snd hsame).trans hteam⟩

theorem hasProfile (hs : s.HasProfile clubId id) : t.HasProfile clubId id := by
  obtain ⟨profile, hprofile, hclub⟩ := hs
  obtain ⟨profile', hprofile', hsame⟩ :=
    find?_of_kept hn.profiles h.profiles (fun _ _ hab => congrArg Prod.fst hab) hprofile
  exact ⟨profile', hprofile', (congrArg Prod.snd hsame).trans hclub⟩

theorem hasRule (hs : s.HasRule clubId id) : t.HasRule clubId id := by
  obtain ⟨rule, team, hrule, hteam, hclub⟩ := hs
  obtain ⟨rule', hrule', hsame⟩ :=
    find?_of_kept hn.rules h.rules (fun _ _ hab => congrArg Prod.fst hab) hrule
  have hteamId : rule'.teamId = rule.teamId := congrArg Prod.snd hsame
  obtain ⟨team', hteam', hsame'⟩ :=
    find?_of_kept hn.teams h.teams (fun _ _ hab => congrArg Prod.fst hab) hteam
  exact ⟨rule', team', hrule', hteamId ▸ hteam', (congrArg Prod.snd hsame').trans hclub⟩

end Rooted

/-! ## Rules -/

/-- A rule has the target of its scope and no other, with a target player on its team; it has
conditions unless it scores by hand, counted from zero and for results on the match alone; and it
multiplies only if it is about performance. -/
structure RuleWellFormed (s : Store) (r : RuleRecord) : Prop where
  positions : ∃ positions : List Position,
    r.targetPositions = .list (positions.map fun p => .text p.name) ∧
      (positions ≠ [] ↔ r.targetScope = .byPosition)
  player : r.targetPlayer.isSome = true ↔ r.targetScope = .individual
  onTeam : ∀ id, r.targetPlayer = some id → s.HasPlayer r.teamId id
  conditions : r.category ≠ .manual → s.conditionsOf r.id ≠ []
  indices : (s.conditionsOf r.id).map ConditionRecord.index =
    (List.range (s.conditionsOf r.id).length).map fun i : Nat => .whole i
  ofMatch : r.category = .result → ∀ c ∈ s.conditionsOf r.id, c.scope = .ofMatch
  multiplies : r.isMultiplier = true → r.category = .performance
  multiplier : r.multiplier.isSome = true → r.isMultiplier = true

theorem RuleWellFormed.mono {r : RuleRecord} (h : s.RuleWellFormed r)
    (hconditions : t.conditionsOf r.id = s.conditionsOf r.id)
    (hplayer : ∀ id, s.HasPlayer r.teamId id → t.HasPlayer r.teamId id) : t.RuleWellFormed r := by
  refine { h with onTeam := fun id hid => hplayer id (h.onTeam id hid), conditions := ?_,
                  indices := ?_, ofMatch := ?_ } <;> rw [hconditions]
  · exact h.conditions
  · exact h.indices
  · exact h.ofMatch

namespace NewRule

variable {form : RuleForm} {rule : RuleRecord} {conditions : List ConditionRecord}

theorem conditionsOf_map {κ : Type} (n : NewRule s form rule conditions t) (h : s.RulesInTurn)
    {f : ConditionRecord → κ}
    (hf : ∀ (c : ConditionRecord) (k : Int),
      f (Table.kept ({ c with ruleId := rule.id, id := k } : ConditionRecord)) = f c) :
    (t.conditionsOf rule.id).map f = form.conditionRecords.map f := by
  rw [n.conditionsOf_eq h, List.map_map]
  refine map_eq_of_forall₂ n.conditions_of fun c c' hc => ?_
  obtain ⟨k, rfl⟩ := hc
  exact hf c k

theorem wellFormed (n : NewRule s form rule conditions t) (h : s.RulesInTurn)
    (hcomplete : form.IsComplete) (htarget : s.checkTarget form = .ok ())
    (hplayer : ∀ id, s.HasPlayer form.teamId id → t.HasPlayer form.teamId id) :
    t.RuleWellFormed rule := by
  have hindices := n.conditionsOf_map h (f := ConditionRecord.index) fun _ _ => rfl
  have hscopes := n.conditionsOf_map h (f := ConditionRecord.scope) fun _ _ => rfl
  have hcount : (t.conditionsOf rule.id).length = form.conditions.length := by
    have hlength := congrArg List.length hindices
    simpa [RuleForm.conditionRecords] using hlength
  have hrow := n.rule_eq
  have hmultiplies : form.multiplies = true → form.category = .performance := by
    intro hmultiplies
    exact eq_of_beq (Bool.and_eq_true_iff.mp hmultiplies).2
  constructor
  case positions =>
    rw [hrow]
    refine ⟨if form.targetScope = .byPosition then form.targetPositions else [],
      congrArg Value.list (apply_ite (List.map fun p : Position => Value.text p.name)
        (_ = TargetScope.byPosition) _ []).symm, ?_⟩
    by_cases hscope : form.targetScope = .byPosition
    · simpa [hscope, RuleForm.record] using hcomplete.positions hscope
    · simp [hscope, RuleForm.record]
  case player =>
    rw [hrow]
    by_cases hscope : form.targetScope = .individual
    · simpa [hscope, RuleForm.record] using hcomplete.player hscope
    · simp [hscope, RuleForm.record]
  case onTeam =>
    intro id hid
    rw [hrow] at hid ⊢
    have hgiven : form.targetPlayer = some id := by
      by_cases hscope : form.targetScope = .individual
      · simpa [hscope, RuleForm.record] using hid
      · simp [hscope, RuleForm.record] at hid
    obtain ⟨player, hfound, hteam⟩ := checkTarget_eq_ok.mp htarget id hgiven
    exact hplayer id ⟨player, (lookup_eq_ok.mp hfound).2, hteam⟩
  case conditions =>
    intro hmanual hnone
    rw [hrow] at hmanual
    rw [hnone, List.length_nil, eq_comm, List.length_eq_zero_iff] at hcount
    exact hcomplete.conditions hmanual hcount
  case indices =>
    rw [hindices, hcount, RuleForm.conditionRecords, List.map_map, List.range_eq_range',
      ← List.zipIdx_map_snd 0 form.conditions, List.map_map]
    rfl
  case ofMatch =>
    intro hresult c hc
    rw [hrow] at hresult
    have hscope : c.scope ∈ form.conditionRecords.map ConditionRecord.scope := by
      rw [← hscopes]
      exact List.mem_map_of_mem hc
    simp only [RuleForm.conditionRecords, List.map_map, List.mem_map, Prod.exists] at hscope
    obtain ⟨item, index, hitem, hsame⟩ := hscope
    rw [← hsame]
    exact hcomplete.ofMatch hresult item (List.fst_mem_of_mem_zipIdx hitem)
  case multiplies =>
    rw [hrow]
    exact hmultiplies
  case multiplier =>
    rw [hrow]
    intro hsome
    by_contra hnot
    have hnone : form.chosenMultiplier = none := if_neg hnot
    simp [RuleForm.record, hnone] at hsome

end NewRule

theorem Reachable.rules_wellFormed (h : s.Reachable) : ∀ r ∈ s.rules, s.RuleWellFormed r := by
  apply h.induction
  · exact fun _ h => absurd h List.not_mem_nil
  · intro _ s a t hs hrules _ ht
    have hn : t.Numbered := hs.numbered.turns ht
    have hlasting : s.Lasting t := .of_turns hs ht
    have hplayer (teamId id : Int) : s.HasPlayer teamId id → t.HasPlayer teamId id :=
      (Rooted.of_turns hs.numbered ht).hasPlayer hn
    have hold : ∀ r ∈ s.rules, t.RuleWellFormed r := fun r hr =>
      (hrules r hr).mono (hlasting.conditions r hr) (hplayer r.teamId)
    rcases ht.touched.rules with ⟨hsame, -⟩ | ⟨form, ⟨c, ⟨rule, conditions⟩, hc, hw⟩⟩ | ⟨_, _, ht⟩
    · rw [hsame]
      exact hold
    · obtain ⟨hproblems, htarget, rfl⟩ := createRule_eq_ok.mp hc
      obtain ⟨team, -, hproblems⟩ := ruleProblems_eq_ok.mp hproblems
      have hnew : NewRule s form rule conditions t := (hs.rulesInTurn.created hw).2
      intro r hr
      rw [hnew.rules_eq, List.mem_append, List.mem_singleton] at hr
      rcases hr with hr | rfl
      · exact hold r hr
      · exact hnew.wellFormed hs.rulesInTurn (RuleForm.complete_of_problems hproblems) htarget
          (hplayer form.teamId)
    · obtain ⟨rule, hrule, hu⟩ := setRuleActive_leads ht
      obtain ⟨-, -, hstore⟩ := update_eq_ok.mp hu
      intro r hr
      rw [hstore] at hr
      rcases mem_placed.mp hr with rfl | hr
      · exact { hold rule (find?_eq_some hrule).1 with }
      · exact hold r (List.mem_filter.mp hr).1

/-! ## Profiles -/

theorem checkProfileRules_eq_ok (hn : s.Numbered) {seen : List Int} {items : List ProfileRuleForm}
    (h : s.checkProfileRules clubId seen items = .ok ()) :
    (∀ item ∈ items, s.HasRule clubId item.ruleId ∧ item.ruleId ∉ seen) ∧
      (items.map ProfileRuleForm.ruleId).Nodup := by
  induction items generalizing seen with
  | nil => exact ⟨nofun, List.nodup_nil⟩
  | cons item rest ih =>
    unfold checkProfileRules at h
    by_cases hseen : seen.contains item.ruleId = true
    · rw [if_pos hseen] at h
      cases h
    · rw [if_neg hseen] at h
      obtain ⟨rule, hrule, h⟩ := bind_eq_ok.mp h
      dsimp only at h
      cases hclub : s.teams.any fun t => t.id == rule.teamId && t.clubId == clubId with
      | false =>
        rw [hclub] at h
        cases h
      | true =>
        rw [hclub] at h
        obtain ⟨hrest, honce⟩ := ih h
        obtain ⟨team, hteam, hsame⟩ := List.any_eq_true.mp hclub
        simp only [Bool.and_eq_true, beq_iff_eq] at hsame
        have hfound : s.find? rule.teamId = some team := hsame.1 ▸ find?_of_mem hn.teams hteam
        refine ⟨List.forall_mem_cons.mpr ⟨⟨⟨rule, team, (get_eq_ok.mp hrule).2, hfound, hsame.2⟩, ?_⟩,
          fun x hx => ⟨(hrest x hx).1, fun hmem => (hrest x hx).2 (List.mem_cons_of_mem _ hmem)⟩⟩, ?_⟩
        · simpa using hseen
        · rw [List.map_cons, List.nodup_cons, List.mem_map]
          refine ⟨fun ⟨x, hx, hxid⟩ => (hrest x hx).2 ?_, honce⟩
          rw [hxid]
          exact List.mem_cons_self

theorem checked_of_createProfile {form : ProfileForm} (h : Leads (s.createProfile form) t) :
    s.checkProfileRules form.clubId [] form.rules = .ok () := by
  unfold createProfile at h
  obtain ⟨club, hclub, h⟩ := leads_get h
  obtain ⟨_, hchecked, -⟩ := leads_bind.mp h
  have hid : club.id = form.clubId := (find?_eq_some hclub).2
  rw [← hid]
  exact hchecked

structure ProfilesLinked (s : Store) : Prop where
  linked : ∀ r ∈ s.profileRules, ∃ clubId, s.HasProfile clubId r.profileId ∧
    s.HasRule clubId r.ruleId
  once : (s.profileRules.map fun r => (r.profileId, r.ruleId)).Nodup

theorem ProfilesLinked.created {form : ProfileForm} (h : s.ProfilesLinked) (hs : s.Numbered)
    (ht : t.Numbered) (hrooted : s.Rooted t) (hleads : Leads (s.createProfile form) t) :
    t.ProfilesLinked := by
  obtain ⟨hchecked, honce⟩ := checkProfileRules_eq_ok hs (checked_of_createProfile hleads)
  obtain ⟨p, hnew, hfresh, hprofiles, ⟨added, hperm, hadded⟩, -⟩ := createProfile_stored hleads
  have hclub : p.clubId = form.clubId := by
    rw [hnew]
    rfl
  have hprofile : t.HasProfile form.clubId p.id := by
    have hmem : p ∈ t.profiles := by
      rw [hprofiles]
      exact mem_placed.mpr (.inl rfl)
    exact ⟨p, find?_of_mem ht.profiles hmem, hclub⟩
  have hkeys : added.map (fun r => (r.profileId, r.ruleId)) =
      form.rules.map fun item => (p.id, item.ruleId) :=
    map_eq_of_forall₂ hadded fun item r hr => Prod.ext hr.1 hr.2
  constructor
  · intro r hr
    rcases List.mem_append.mp (hperm.mem_iff.mp hr) with hr | hr
    · obtain ⟨item, hitem, hid, hrule⟩ := exists_of_forall₂ hadded r hr
      rw [hid, hrule]
      exact ⟨form.clubId, hprofile, hrooted.hasRule ht (hchecked item hitem).1⟩
    · obtain ⟨clubId, hprofile, hrule⟩ := h.linked r hr
      exact ⟨clubId, hrooted.hasProfile ht hprofile, hrooted.hasRule ht hrule⟩
  · rw [(hperm.map _).nodup_iff, List.map_append, List.nodup_append, hkeys]
    refine ⟨?_, h.once, ?_⟩
    · exact List.pairwise_map.mpr ((List.pairwise_map.mp honce).imp
        fun hab heq => hab (congrArg Prod.snd heq))
    · -- the profile of an old row was there before
      intro x hx y hy hxy
      obtain ⟨item, -, rfl⟩ := List.mem_map.mp hx
      obtain ⟨r, hr, rfl⟩ := List.mem_map.mp hy
      obtain ⟨_, ⟨q, hq, -⟩, -⟩ := h.linked r hr
      obtain ⟨hmem, hid⟩ := find?_eq_some hq
      exact hfresh q hmem (hid.trans (congrArg Prod.fst hxy).symm)

theorem Reachable.profilesLinked (h : s.Reachable) : s.ProfilesLinked := by
  apply h.induction
  · exact ⟨fun _ h => absurd h List.not_mem_nil, List.nodup_nil⟩
  · intro _ s a t hs hlinked _ ht
    have hn : t.Numbered := hs.numbered.turns ht
    have hrooted : s.Rooted t := .of_turns hs.numbered ht
    rcases ht.touched.profiles with ⟨-, hsame⟩ | ⟨form, -, hleads⟩
    · refine ⟨?_, by rw [hsame]; exact hlinked.once⟩
      intro r hr
      obtain ⟨clubId, hprofile, hrule⟩ := hlinked.linked r (hsame ▸ hr)
      exact ⟨clubId, hrooted.hasProfile hn hprofile, hrooted.hasRule hn hrule⟩
    · exact hlinked.created hs.numbered hn hrooted hleads

/-! ## Variables -/

theorem nodup_key_placed {R κ : Type} [Table R] {key : R → κ} {others : List R} {r : R}
    (hkept : key (Table.kept r) = key r) (hfresh : ∀ x ∈ others, key x ≠ key r)
    (h : (others.map key).Nodup) : ((placed others r).map key).Nodup := by
  rw [((perm_placed others r).map key).nodup_iff, List.map_cons, hkept, List.nodup_cons,
    List.mem_map]
  exact ⟨fun ⟨x, hx, hxr⟩ => hfresh x hx hxr, h⟩

theorem Reachable.keys_nodup (h : s.Reachable) :
    (s.ownVariables.map fun v => (v.teamId, v.key)).Nodup := by
  have hfresh {others : List VariableRecord} {v : VariableRecord} (hf : fault? others v = none) :
      ∀ x ∈ others, (x.teamId, x.key) ≠ (v.teamId, v.key) := by
    intro x hx hsame
    obtain ⟨hteam, hkey⟩ := Prod.mk.inj hsame
    have hclash := (fault?_eq_none.mp hf).2.2.2 x hx
    simp [Table.clashes, hteam, hkey] at hclash
  apply h.induction (P := fun s => (s.ownVariables.map fun v => (v.teamId, v.key)).Nodup)
  · exact List.nodup_nil
  · intro _ s a t _ hs _ ht
    rcases ht.touched.ownVariables with hsame | ⟨_, ht⟩ | ⟨_, _, ht⟩ | ⟨_, ht⟩
    · rw [hsame]
      exact hs
    · obtain ⟨v, -, -, hsound, -, rfl⟩ := createVariable_leads ht
      exact nodup_key_placed rfl (hfresh hsound) hs
    · obtain ⟨v, -, hu⟩ := setVariableActive_leads ht
      obtain ⟨hsound, -, rfl⟩ := update_eq_ok.mp hu
      exact nodup_key_placed rfl (hfresh hsound) (hs.sublist (List.filter_sublist.map _))
    · rw [deleteVariable_leads ht]
      exact hs.sublist (List.filter_sublist.map _)

/-! ## Whole configurations -/

structure ProfileWellFormed (s : Store) (p : ProfileRecord) : Prop where
  once : ((s.profileRulesOf p.id).map ProfileRuleRecord.ruleId).Nodup
  ofClub : ∀ r ∈ s.profileRulesOf p.id, s.HasRule p.clubId r.ruleId

/-- Rules and profiles are well-formed, a team's default profile is one of its club, and a team's
variables have different keys, none of them built in. -/
structure WellFormed (s : Store) : Prop where
  rules : ∀ r ∈ s.rules, s.RuleWellFormed r
  profiles : ∀ p ∈ s.profiles, s.ProfileWellFormed p
  defaults : ∀ team ∈ s.teams, ∀ id, team.defaultProfileId = some id → s.HasProfile team.clubId id
  keys : ∀ teamId, ((s.variablesOf teamId).map VariableRecord.key).Nodup
  notBuiltIn : ∀ v ∈ s.ownVariables, Variable.isBuiltInKey v.key = false

/-- Every store that requests lead to is well-formed. -/
theorem configuration_wellFormed (s : Store) (h : s.Reachable) : s.WellFormed where
  rules := h.rules_wellFormed
  profiles p hp := by
    refine ⟨nodup_within p.id h.profilesLinked.once, fun r hr => ?_⟩
    obtain ⟨hr, hid⟩ := List.mem_filter.mp hr
    obtain ⟨clubId, ⟨q, hq, hclub⟩, hrule⟩ := h.profilesLinked.linked r hr
    have hfound : s.find? p.id = some p := find?_of_mem h.numbered.profiles hp
    rw [eq_of_beq hid, hfound] at hq
    cases hq
    rw [hclub]
    exact hrule
  defaults team hteam id hid := by
    obtain ⟨p, hp, rfl, hclub⟩ := h.configured.defaults team hteam id hid
    exact ⟨p, find?_of_mem h.numbered.profiles hp, hclub⟩
  keys teamId := nodup_within teamId h.keys_nodup
  notBuiltIn := h.key_not_builtIn

def configured : List Arrival := measured ++ [
  .posting "/rules/" (RuleForm.document {
    teamId := 1, name := "Ball winner", description := "Per interception", category := .performance
    points := 1, isMultiplier := true, targetScope := .byPosition, targetPositions := [.forward]
    conditions := [
      { key := some "interceptions", operator := some .greater, value := some .zero },
      { key := some "goalsAgainst", operator := some .equal, value := some .zero
        scope := .ofMatch }] }),
  .posting "/rules/" (RuleForm.document {
    teamId := 1, name := "Talisman", description := "Not beaten", category := .result, points := 1
    targetScope := .individual, targetPlayer := some 1
    conditions := [
      { key := some "goalsFor", operator := some .greaterEqual, otherKey := some "goalsAgainst"
        scope := .ofMatch }] }),
  { request := { method := .put, path := "/teams/1/profile"
                 body := .document (TeamProfileForm.document { profileId := some 1 }) } }]

theorem configuration_wellFormed_configured :
    (after {} configured).Reachable ∧
      ((after {} configured).rules.map fun r => (r.targetScope, r.targetPlayer, r.multiplier)) =
        [(.allPlayers, none, none), (.allPlayers, none, some "goalsScored"),
          (.allPlayers, none, some "interceptions"), (.byPosition, none, some "interceptions"),
          (.individual, some 1, none)] ∧
      ((after {} configured).teams.map TeamRecord.defaultProfileId) = [some 1] ∧
      (after {} configured).WellFormed :=
  ⟨⟨configured, rfl⟩, by decide +kernel, by decide +kernel,
    configuration_wellFormed _ ⟨configured, rfl⟩⟩

end Store

end ClubPoints
