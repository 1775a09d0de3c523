import ClubPoints.Proofs.Configuration
import ClubPoints.Seed
import ClubPoints.Settings
import Mathlib.Data.List.Induction

/-!
# Seeding an empty service

A service that starts looks for a club, and if there is none it drops all tables and stores the
demonstration club. No row is lost by that: whatever a row refers to is there (`Intact`), and each
kind of row leads to a club, so a store without clubs has no row at all (`Intact.eq_empty`).
-/

namespace ClubPoints.Store

variable {s t : Store}

/-! ## Whatever a row refers to is there -/

section
variable {R : Type} [Table R]

def Refer (held : Reference → Bool) (rows : List R) : Prop :=
  ∀ r ∈ rows, ∀ ref ∈ Table.references r, held ref = true

theorem Refer.mono {held held' : Reference → Bool} {rows : List R} (h : Refer held rows)
    (hheld : ∀ ref, held ref = true → held' ref = true) : Refer held' rows :=
  fun r hr ref href => hheld ref (h r hr ref href)

theorem any_id_of_ids {xs ys : List R} {id : Int}
    (h : ∀ x ∈ xs, ∃ y ∈ ys, Table.id y = Table.id x)
    (hany : (xs.any fun r => Table.id r == id) = true) :
    (ys.any fun r => Table.id r == id) = true := by
  obtain ⟨x, hx, hid⟩ := List.any_eq_true.mp hany
  obtain ⟨y, hy, hyx⟩ := h x hx
  exact List.any_eq_true.mpr ⟨y, hy, hyx ▸ hid⟩

end

structure Linked (held : Reference → Bool) (s : Store) : Prop where
  teams : Refer held s.teams
  players : Refer held s.players
  games : Refer held s.games
  stats : Refer held s.stats
  ownVariables : Refer held s.ownVariables
  rules : Refer held s.rules
  conditions : Refer held s.conditions
  profiles : Refer held s.profiles
  profileRules : Refer held s.profileRules
  entries : Refer held s.entries

theorem Linked.mono {held held' : Reference → Bool} (h : Linked held s)
    (hheld : ∀ ref, held ref = true → held' ref = true) : Linked held' s where
  teams := h.teams.mono hheld
  players := h.players.mono hheld
  games := h.games.mono hheld
  stats := h.stats.mono hheld
  ownVariables := h.ownVariables.mono hheld
  rules := h.rules.mono hheld
  conditions := h.conditions.mono hheld
  profiles := h.profiles.mono hheld
  profileRules := h.profileRules.mono hheld
  entries := h.entries.mono hheld

theorem linked_iff {held : Reference → Bool} :
    Linked held s ↔ ∀ ref ∈ s.references, held ref = true := by
  have hrefer {R : Type} [Table R] : Refer held (Table.rows s : List R) ↔
      ∀ ref ∈ s.referencesOf R, held ref = true := by
    simp only [Refer, referencesOf, List.mem_flatMap, forall_exists_index, and_imp]
    exact ⟨fun h ref r hr href => h r hr ref href, fun h r hr ref href => h ref r hr href⟩
  simp only [references, List.forall_mem_append, ← hrefer]
  constructor
  · intro h
    exact ⟨⟨⟨⟨⟨⟨⟨⟨⟨h.teams, h.players⟩, h.games⟩, h.stats⟩, h.ownVariables⟩, h.rules⟩, h.conditions⟩,
      h.profiles⟩, h.profileRules⟩, h.entries⟩
  · rintro ⟨⟨⟨⟨⟨⟨⟨⟨⟨teams, players⟩, games⟩, stats⟩, ownVariables⟩, rules⟩, conditions⟩, profiles⟩,
      profileRules⟩, entries⟩
    exact ⟨teams, players, games, stats, ownVariables, rules, conditions, profiles, profileRules,
      entries⟩

def Intact (s : Store) : Prop := s.Linked s.holds

instance : DecidablePred Intact := fun _ => decidable_of_iff _ linked_iff.symm

/-- A table whose rows may be set to others that refer to what is held. What rows of other tables
refer to is there as long as no number is given up. -/
class LinkedTable (R : Type) [Table R] : Prop extends LawfulTable R where
  references_kept (r : R) : Table.references (Table.kept r) = Table.references r
  refer {held : Reference → Bool} {s : Store} : Linked held s → Refer held (Table.rows s : List R)
  setRows {held : Reference → Bool} {s : Store} {l : List R} :
    Linked held s → Refer held l → Linked held (Table.setRows s l)
  held {s : Store} {l : List R} (ref : Reference) :
    (∀ x ∈ (Table.rows s : List R), ∃ y ∈ l, Table.id y = Table.id x) →
      s.holds ref = true → (Table.setRows s l).holds ref = true

instance : LinkedTable ClubRecord where
  references_kept _ := rfl
  refer _ _ _ _ href := nomatch href
  setRows h _ := { h with }
  held ref hids := by
    cases ref
    case club => exact any_id_of_ids hids
    all_goals exact id

instance : LinkedTable TeamRecord where
  references_kept _ := rfl
  refer h := h.teams
  setRows h hl := { h with teams := hl }
  held ref hids := by
    cases ref
    case team => exact any_id_of_ids hids
    all_goals exact id

instance : LinkedTable PlayerRecord where
  references_kept _ := rfl
  refer h := h.players
  setRows h hl := { h with players := hl }
  held ref hids := by
    cases ref
    case player => exact any_id_of_ids hids
    all_goals exact id

instance : LinkedTable MatchRecord where
  references_kept _ := rfl
  refer h := h.games
  setRows h hl := { h with games := hl }
  held ref hids := by
    cases ref
    case game => exact any_id_of_ids hids
    all_goals exact id

instance : LinkedTable StatRecord where
  references_kept _ := rfl
  refer h := h.stats
  setRows h hl := { h with stats := hl }
  held ref _ := by cases ref <;> exact id

instance : LinkedTable VariableRecord where
  references_kept _ := rfl
  refer h := h.ownVariables
  setRows h hl := { h with ownVariables := hl }
  held ref _ := by cases ref <;> exact id

instance : LinkedTable RuleRecord where
  references_kept _ := rfl
  refer h := h.rules
  setRows h hl := { h with rules := hl }
  held ref hids := by
    cases ref
    case rule => exact any_id_of_ids hids
    all_goals exact id

instance : LinkedTable ConditionRecord where
  references_kept _ := rfl
  refer h := h.conditions
  setRows h hl := { h with conditions := hl }
  held ref _ := by cases ref <;> exact id

instance : LinkedTable ProfileRecord where
  references_kept _ := rfl
  refer h := h.profiles
  setRows h hl := { h with profiles := hl }
  held ref hids := by
    cases ref
    case profile => exact any_id_of_ids hids
    all_goals exact id

instance : LinkedTable ProfileRuleRecord where
  references_kept _ := rfl
  refer h := h.profileRules
  setRows h hl := { h with profileRules := hl }
  held ref _ := by cases ref <;> exact id

instance : LinkedTable EntryRecord where
  references_kept _ := rfl
  refer h := h.entries
  setRows h hl := { h with entries := hl }
  held ref _ := by cases ref <;> exact id

namespace Intact

theorem empty : Intact {} := by decide

section
variable {R : Type} [Table R] [LinkedTable R] (h : s.Intact)
include h

theorem set {l : List R} (hids : ∀ x ∈ (Table.rows s : List R), ∃ y ∈ l, Table.id y = Table.id x)
    (hl : Refer s.holds l) : (Table.setRows s l).Intact :=
  (LinkedTable.setRows h hl).mono fun ref => LinkedTable.held ref hids

theorem refer_placedAll {others rs : List R} (hothers : ∀ x ∈ others, x ∈ (Table.rows s : List R))
    (hrs : ∀ r ∈ rs, ∀ ref ∈ Table.references r, s.holds ref = true) :
    Refer s.holds (placedAll others rs) := by
  intro x hx ref href
  rcases mem_placedAll.mp hx with ⟨r, hr, rfl⟩ | hx
  · rw [LinkedTable.references_kept] at href
    exact hrs r hr ref href
  · exact LinkedTable.refer h x (hothers x hx) ref href

theorem refer_placed {others : List R} {r : R} (hothers : ∀ x ∈ others, x ∈ (Table.rows s : List R))
    (hr : ∀ ref ∈ Table.references r, s.holds ref = true) : Refer s.holds (placed others r) := by
  have hone : ∀ x ∈ [r], ∀ ref ∈ Table.references x, s.holds ref = true :=
    List.forall_mem_singleton.mpr hr
  exact h.refer_placedAll hothers hone

theorem insertedAll {rs numbered : List R} (hi : InsertedAll s rs numbered t) : t.Intact := by
  rw [hi.store]
  exact h.set (fun x hx => ⟨x, mem_placedAll.mpr (.inr hx), rfl⟩)
    (h.refer_placedAll (fun _ hx => hx) hi.refers)

theorem inserted {r : R} (hi : Inserted s r t) : t.Intact := by
  rw [hi.store]
  exact h.set (fun x hx => ⟨x, mem_placed.mpr (.inr hx), rfl⟩)
    (h.refer_placed (fun _ hx => hx) hi.refers)

theorem updated {r : R} (hu : s.update r = .ok t) : t.Intact := by
  obtain ⟨-, hrefers, rfl⟩ := update_eq_ok.mp hu
  refine h.set (fun x hx => ?_)
    (h.refer_placed (fun _ hx => (List.mem_filter.mp hx).1) hrefers)
  by_cases hxr : Table.id x = Table.id r
  · exact ⟨_, mem_placed.mpr (.inl rfl), (LawfulTable.id_kept r).trans hxr.symm⟩
  · exact ⟨x, mem_placed.mpr (.inr (List.mem_filter.mpr ⟨hx, by simpa using hxr⟩)), rfl⟩

theorem filtered (p : R → Bool)
    (hheld : ∀ ref, (Table.setRows s ((Table.rows s : List R).filter p)).holds ref = s.holds ref) :
    (Table.setRows s ((Table.rows s : List R).filter p)).Intact := by
  refine (LinkedTable.setRows h fun x hx => ?_).mono fun ref href => (hheld ref).trans href
  exact LinkedTable.refer h x (List.mem_filter.mp hx).1

end

theorem beforeProfile (h : s.Intact) (form : Form.ProfileForm) : (s.beforeProfile form).Intact := by
  unfold Store.beforeProfile
  by_cases hdefault : form.isClubDefault = true
  · rw [if_pos hdefault]
    refine h.set (R := ProfileRecord) (fun p hp => ⟨_, List.mem_map_of_mem hp, ?_⟩) ?_
    · split <;> rfl
    · intro x hx
      obtain ⟨p, hp, rfl⟩ := List.mem_map.mp hx
      have hrefer := h.profiles p hp
      split <;> exact hrefer
  · rwa [if_neg hdefault]

theorem completed {id : Int} {form : Form.CompletionForm} {withAutomatic : Bool} (h : s.Intact)
    (c : Completion s id form withAutomatic t) : t.Intact := by
  obtain ⟨hfault, hteam, hcleared⟩ := clearedMatch_eq_ok.mp c.cleared_eq
  have hgame := h.updated (update_eq_ok.mpr ⟨hfault, List.forall_mem_singleton.mpr hteam, rfl⟩)
  have hc : c.cleared.Intact := by
    rw [hcleared]
    exact (hgame.filtered (R := StatRecord) _ fun ref => by cases ref <;> rfl).filtered
      (R := EntryRecord) _ fun ref => by cases ref <;> rfl
  exact (hc.insertedAll c.stats_inserted).insertedAll c.entries_inserted

theorem turns {policy : Policy} {a : Action} (h : s.Intact) (ht : a.Turns policy s t) :
    t.Intact := by
  cases ht with
  | nothing => exact h
  | createClub ht =>
    obtain ⟨_, -, hi⟩ := createClub_leads ht
    exact h.inserted hi
  | createTeam ht =>
    obtain ⟨_, -, hi⟩ := createTeam_leads ht
    exact h.inserted hi
  | setTeamProfile ht =>
    obtain ⟨_, -, -, hu⟩ := setTeamProfile_leads ht
    exact h.updated hu
  | createPlayer ht =>
    obtain ⟨_, -, hi⟩ := createPlayer_leads ht
    exact h.inserted hi
  | createMatch ht =>
    exact h.inserted (createMatch_leads ht)
  | completeMatch ht =>
    obtain ⟨c⟩ := completion_of_leads ht
    exact h.completed c
  | createRule ht =>
    obtain ⟨_, _, _, -, hrule, hconditions⟩ := createRule_leads ht
    exact (h.inserted hrule).insertedAll hconditions
  | setRuleActive ht =>
    obtain ⟨_, -, hu⟩ := setRuleActive_leads ht
    exact h.updated hu
  | createVariable ht =>
    obtain ⟨_, -, -, hi⟩ := createVariable_leads ht
    exact h.inserted hi
  | setVariableActive ht =>
    obtain ⟨_, -, hu⟩ := setVariableActive_leads ht
    exact h.updated hu
  | deleteVariable ht =>
    rw [deleteVariable_leads ht]
    exact h.filtered _ fun ref => by cases ref <;> rfl
  | createProfile ht =>
    obtain ⟨_, _, _, -, hprofile, hrules⟩ := createProfile_leads ht
    exact ((h.beforeProfile _).inserted hprofile).insertedAll hrules

theorem served (h : s.Intact) (x : Arrival) : (s.served x).2.Intact := by
  rcases s.served_cases x with hsame | ⟨a, -, ht⟩
  · rwa [hsame]
  · exact h.turns ht

/-! ## No row without a club -/

theorem rows_eq_nil {R : Type} [Table R] [LinkedTable R] (h : s.Intact) (held : R → Reference)
    (hmem : ∀ r, held r ∈ Table.references r) (hnone : ∀ r, s.holds (held r) = false) :
    (Table.rows s : List R) = [] :=
  List.eq_nil_iff_forall_not_mem.mpr fun r hr =>
    Bool.false_ne_true ((hnone r).symm.trans (LinkedTable.refer h r hr _ (hmem r)))

/-- A store without clubs has no rows: teams and profiles belong to clubs, and the rows of all other
tables to teams, profiles, rules or matches. -/
theorem eq_empty (h : s.Intact) (hclubs : s.clubs = []) : s = {} := by
  -- from the clubs downwards, each kind of row refers to a kind that is empty already
  have hteams : s.teams = [] :=
    h.rows_eq_nil (fun r : TeamRecord => .club r.clubId) (fun _ => List.mem_cons_self) fun _ => by
      rw [holds, hclubs]; rfl
  have hprofiles : s.profiles = [] :=
    h.rows_eq_nil (fun r : ProfileRecord => .club r.clubId) (fun _ => List.mem_cons_self)
      fun _ => by rw [holds, hclubs]; rfl
  have hplayers : s.players = [] :=
    h.rows_eq_nil (fun r : PlayerRecord => .team r.teamId) (fun _ => List.mem_cons_self)
      fun _ => by rw [holds, hteams]; rfl
  have hgames : s.games = [] :=
    h.rows_eq_nil (fun r : MatchRecord => .team r.teamId) (fun _ => List.mem_cons_self)
      fun _ => by rw [holds, hteams]; rfl
  have hvariables : s.ownVariables = [] :=
    h.rows_eq_nil (fun r : VariableRecord => .team r.teamId) (fun _ => List.mem_cons_self)
      fun _ => by rw [holds, hteams]; rfl
  have hrules : s.rules = [] :=
    h.rows_eq_nil (fun r : RuleRecord => .team r.teamId) (fun _ => List.mem_cons_self)
      fun _ => by rw [holds, hteams]; rfl
  have hconditions : s.conditions = [] :=
    h.rows_eq_nil (fun r : ConditionRecord => .rule r.ruleId) (fun _ => List.mem_cons_self)
      fun _ => by rw [holds, hrules]; rfl
  have hprofileRules : s.profileRules = [] :=
    h.rows_eq_nil (fun r : ProfileRuleRecord => .profile r.profileId)
      (fun _ => List.mem_cons_self) fun _ => by rw [holds, hprofiles]; rfl
  have hstats : s.stats = [] :=
    h.rows_eq_nil (fun r : StatRecord => .game r.matchId) (fun _ => List.mem_cons_self)
      fun _ => by rw [holds, hgames]; rfl
  have hentries : s.entries = [] :=
    h.rows_eq_nil (fun r : EntryRecord => .game r.matchId) (fun _ => List.mem_cons_self)
      fun _ => by rw [holds, hgames]; rfl
  cases s
  simp only at *
  simp only [*]

end Intact

/-! ## Starting and serving -/

/-- What a service may have stored. It has nothing at first; it may start, again and again and with
other settings, and it serves requests. -/
inductive Lived : Store → Prop
  | nothing : Lived {}
  | started {s t : Store} (settings : Settings) :
    Lived s → Seed.ifEmpty s settings.autoSeedOnEmpty = .ok t → Lived t
  | served {s : Store} (x : Arrival) : Lived s → Lived (s.served x).2

theorem Reachable.lived (h : s.Reachable) : s.Lived := by
  obtain ⟨arrivals, rfl⟩ := h
  induction arrivals using List.reverseRecOn with
  | nil => exact .nothing
  | append_singleton arrivals x ih =>
    rw [after_append]
    exact .served x ih

theorem ifEmpty_eq (isWanted : Bool) :
    Seed.ifEmpty s isWanted =
      if isWanted = true ∧ s.clubs = [] then Seed.store false true else .ok s := by
  simp [Seed.ifEmpty]

theorem exists_demonstration : ∃ t, Seed.store false true = .ok t ∧ t.Intact := by
  have h : (Seed.store false true).toOption.any (fun t => decide t.Intact) = true := by
    decide +kernel
  cases hstore : Seed.store false true with
  | error cause =>
    rw [hstore] at h
    cases h
  | ok t =>
    rw [hstore] at h
    exact ⟨t, rfl, of_decide_eq_true h⟩

theorem Lived.intact (h : s.Lived) : s.Intact := by
  induction h with
  | nothing => exact .empty
  | @started s t settings _ hstart ih =>
    rw [ifEmpty_eq] at hstart
    split at hstart
    · obtain ⟨u, hu, hintact⟩ := exists_demonstration
      cases hu.symm.trans hstart
      exact hintact
    · cases hstart
      exact ih
  | served x _ ih => exact ih.served x

/-- Every row of a store is there in another one, as it was and in the same order. -/
structure Survives (s t : Store) : Prop where
  clubs : s.clubs.Sublist t.clubs
  teams : s.teams.Sublist t.teams
  players : s.players.Sublist t.players
  games : s.games.Sublist t.games
  stats : s.stats.Sublist t.stats
  ownVariables : s.ownVariables.Sublist t.ownVariables
  rules : s.rules.Sublist t.rules
  conditions : s.conditions.Sublist t.conditions
  profiles : s.profiles.Sublist t.profiles
  profileRules : s.profileRules.Sublist t.profileRules
  entries : s.entries.Sublist t.entries

theorem Survives.refl (s : Store) : s.Survives s := by constructor <;> exact .refl _

theorem empty_survives (t : Store) : Survives {} t := by constructor <;> exact List.nil_sublist _

/-- A service starts without losing a row, whatever its settings are and whatever requests it has
served: it drops its tables only if it seeds, it seeds only if it has no club, and then its tables
are all empty. -/
theorem start_loses_no_row (h : s.Lived) (settings : Settings) :
    (s.clubs = [] → s = {}) ∧
      ∃ t, Seed.ifEmpty s settings.autoSeedOnEmpty = .ok t ∧ s.Survives t ∧
        (settings.autoSeedOnEmpty = true → s.clubs = [] → Seed.store false true = .ok t) ∧
        (settings.autoSeedOnEmpty = false ∨ s.clubs ≠ [] → t = s) := by
  refine ⟨h.intact.eq_empty, ?_⟩
  rw [ifEmpty_eq]
  by_cases hseeds : settings.autoSeedOnEmpty = true ∧ s.clubs = []
  · obtain ⟨t, ht, -⟩ := exists_demonstration
    rw [if_pos hseeds, h.intact.eq_empty hseeds.2]
    refine ⟨t, ht, empty_survives t, fun _ _ => ht, ?_⟩
    rintro (hoff | hclubs)
    · exact absurd (hoff.symm.trans hseeds.1) Bool.false_ne_true
    · exact absurd rfl hclubs
  · rw [if_neg hseeds]
    exact ⟨s, rfl, .refl s, fun hon hclubs => absurd ⟨hon, hclubs⟩ hseeds, fun _ => rfl⟩

def oneTeam : List Arrival := [
  .posting "/clubs/" (Form.ClubForm.document { name := "Rovers" }),
  .posting "/teams/" (Form.TeamForm.document { name := "First", clubId := 1 })]

theorem start_loses_no_row_oneTeam :
    (after {} oneTeam).Lived ∧ (after {} oneTeam).teams.map TeamRecord.name = ["First"] ∧
      Seed.ifEmpty (after {} oneTeam) ({} : Settings).autoSeedOnEmpty = .ok (after {} oneTeam) := by
  have hlived : (after {} oneTeam).Lived := Reachable.lived ⟨oneTeam, rfl⟩
  have hclub : (after {} oneTeam).clubs ≠ [] := by decide +kernel
  obtain ⟨-, t, ht, -, -, hsame⟩ := start_loses_no_row hlived {}
  rw [hsame (.inr hclub)] at ht
  exact ⟨hlived, by decide +kernel, ht⟩

end ClubPoints.Store
