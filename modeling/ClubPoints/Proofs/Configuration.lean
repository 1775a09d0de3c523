import ClubPoints.Proofs.Completion

/-!
# What every store has

Invariants of all operations. Each table is touched by a few of them only (`Action.Touched`). Rows
that others refer to stay, with the columns that do not change (`Grows`).
-/

namespace ClubPoints

open Store

/-! ## What an operation touches -/

/-- The tables but those for scores are each as they were, or as an operation of their own has left
them. -/
structure Action.Touched (a : Action) (s t : Store) : Prop where
  clubs : t.clubs = s.clubs ∨ ∃ form, Leads (s.createClub form) t
  teams : t.teams = s.teams ∨ (∃ form, Leads (s.createTeam form) t) ∨
    ∃ id form, Leads (s.setTeamProfile id form) t
  players : t.players = s.players ∨ ∃ form, Leads (s.createPlayer form) t
  games : t.games = s.games ∨ (∃ form, Leads (s.createMatch form) t) ∨
    ∃ id form withAutomatic, Leads (s.completeMatch id form withAutomatic) t
  rules : (t.rules = s.rules ∧ t.conditions = s.conditions) ∨
    (∃ form, Leads (s.createRule form) t) ∨ ∃ id form, Leads (s.setRuleActive id form) t
  ownVariables : t.ownVariables = s.ownVariables ∨ (∃ form, Leads (s.createVariable form) t) ∨
    (∃ id form, Leads (s.setVariableActive id form) t) ∨ ∃ id, Leads (s.deleteVariable id) t
  profiles : (t.profiles = s.profiles ∧ t.profileRules = s.profileRules) ∨
    ∃ form, a = .createProfile form ∧ Leads (s.createProfile form) t

theorem Action.Turns.touched {s t : Store} {policy : Policy} {a : Action}
    (ht : a.Turns policy s t) : a.Touched s t := by
  cases ht with
  | nothing =>
    exact ⟨.inl rfl, .inl rfl, .inl rfl, .inl rfl, .inl ⟨rfl, rfl⟩, .inl rfl, .inl ⟨rfl, rfl⟩⟩
  | createClub ht =>
    obtain ⟨_, -, -, -, rfl⟩ := createClub_leads ht
    exact ⟨.inr ⟨_, ht⟩, .inl rfl, .inl rfl, .inl rfl, .inl ⟨rfl, rfl⟩, .inl rfl, .inl ⟨rfl, rfl⟩⟩
  | createTeam ht =>
    obtain ⟨_, -, -, -, rfl⟩ := createTeam_leads ht
    exact ⟨.inl rfl, .inr (.inl ⟨_, ht⟩), .inl rfl, .inl rfl, .inl ⟨rfl, rfl⟩, .inl rfl,
      .inl ⟨rfl, rfl⟩⟩
  | setTeamProfile ht =>
    obtain ⟨_, -, -, hu⟩ := setTeamProfile_leads ht
    obtain ⟨-, -, rfl⟩ := update_eq_ok.mp hu
    exact ⟨.inl rfl, .inr (.inr ⟨_, _, ht⟩), .inl rfl, .inl rfl, .inl ⟨rfl, rfl⟩, .inl rfl,
      .inl ⟨rfl, rfl⟩⟩
  | createPlayer ht =>
    obtain ⟨_, -, -, -, rfl⟩ := createPlayer_leads ht
    exact ⟨.inl rfl, .inl rfl, .inr ⟨_, ht⟩, .inl rfl, .inl ⟨rfl, rfl⟩, .inl rfl, .inl ⟨rfl, rfl⟩⟩
  | createMatch ht =>
    obtain ⟨-, -, rfl⟩ := createMatch_leads ht
    exact ⟨.inl rfl, .inl rfl, .inl rfl, .inr (.inl ⟨_, ht⟩), .inl ⟨rfl, rfl⟩, .inl rfl,
      .inl ⟨rfl, rfl⟩⟩
  | completeMatch ht =>
    obtain ⟨c⟩ := completion_of_leads ht
    rw [c.frame] at ht ⊢
    exact ⟨.inl rfl, .inl rfl, .inl rfl, .inr (.inr ⟨_, _, _, ht⟩), .inl ⟨rfl, rfl⟩, .inl rfl,
      .inl ⟨rfl, rfl⟩⟩
  | createRule ht =>
    obtain ⟨_, _, _, -, hrule, hconditions⟩ := createRule_leads ht
    obtain rfl := hrule.store
    obtain rfl := hconditions.store
    exact ⟨.inl rfl, .inl rfl, .inl rfl, .inl rfl, .inr (.inl ⟨_, ht⟩), .inl rfl, .inl ⟨rfl, rfl⟩⟩
  | setRuleActive ht =>
    obtain ⟨_, -, hu⟩ := setRuleActive_leads ht
    obtain ⟨-, -, rfl⟩ := update_eq_ok.mp hu
    exact ⟨.inl rfl, .inl rfl, .inl rfl, .inl rfl, .inr (.inr ⟨_, _, ht⟩), .inl rfl,
      .inl ⟨rfl, rfl⟩⟩
  | createVariable ht =>
    obtain ⟨_, -, -, -, -, rfl⟩ := createVariable_leads ht
    exact ⟨.inl rfl, .inl rfl, .inl rfl, .inl rfl, .inl ⟨rfl, rfl⟩, .inr (.inl ⟨_, ht⟩),
      .inl ⟨rfl, rfl⟩⟩
  | setVariableActive ht =>
    obtain ⟨_, -, hu⟩ := setVariableActive_leads ht
    obtain ⟨-, -, rfl⟩ := update_eq_ok.mp hu
    exact ⟨.inl rfl, .inl rfl, .inl rfl, .inl rfl, .inl ⟨rfl, rfl⟩, .inr (.inr (.inl ⟨_, _, ht⟩)),
      .inl ⟨rfl, rfl⟩⟩
  | deleteVariable ht =>
    obtain rfl := deleteVariable_leads ht
    exact ⟨.inl rfl, .inl rfl, .inl rfl, .inl rfl, .inl ⟨rfl, rfl⟩, .inr (.inr (.inr ⟨_, ht⟩)),
      .inl ⟨rfl, rfl⟩⟩
  | @createProfile form _ ht =>
    obtain ⟨_, _, _, -, hprofile, hrules⟩ := createProfile_leads ht
    obtain rfl := hprofile.store
    obtain rfl := hrules.store
    rw [s.beforeProfile_frame form] at ht ⊢
    exact ⟨.inl rfl, .inl rfl, .inl rfl, .inl rfl, .inl ⟨rfl, rfl⟩, .inl rfl, .inr ⟨_, rfl, ht⟩⟩

namespace Store

variable {s t : Store}

/-! ## Unique numbers -/

structure Numbered (s : Store) : Prop where
  clubs : (s.clubs.map ClubRecord.id).Nodup
  teams : (s.teams.map TeamRecord.id).Nodup
  players : (s.players.map PlayerRecord.id).Nodup
  games : (s.games.map MatchRecord.id).Nodup
  stats : (s.stats.map StatRecord.id).Nodup
  ownVariables : (s.ownVariables.map VariableRecord.id).Nodup
  rules : (s.rules.map RuleRecord.id).Nodup
  conditions : (s.conditions.map ConditionRecord.id).Nodup
  profiles : (s.profiles.map ProfileRecord.id).Nodup
  profileRules : (s.profileRules.map ProfileRuleRecord.id).Nodup
  entries : (s.entries.map EntryRecord.id).Nodup

class NumberedTable (R : Type) [Table R] extends LawfulTable R where
  nodup {s : Store} : s.Numbered → ((Table.rows s : List R).map Table.id).Nodup
  setRows {s : Store} {l : List R} :
    s.Numbered → (l.map Table.id).Nodup → (Table.setRows s l).Numbered

instance : NumberedTable ClubRecord := ⟨fun h => h.clubs, fun h hl => { h with clubs := hl }⟩

instance : NumberedTable TeamRecord := ⟨fun h => h.teams, fun h hl => { h with teams := hl }⟩

instance : NumberedTable PlayerRecord := ⟨fun h => h.players, fun h hl => { h with players := hl }⟩

instance : NumberedTable MatchRecord := ⟨fun h => h.games, fun h hl => { h with games := hl }⟩

instance : NumberedTable StatRecord := ⟨fun h => h.stats, fun h hl => { h with stats := hl }⟩

instance : NumberedTable VariableRecord :=
  ⟨fun h => h.ownVariables, fun h hl => { h with ownVariables := hl }⟩

instance : NumberedTable RuleRecord := ⟨fun h => h.rules, fun h hl => { h with rules := hl }⟩

instance : NumberedTable ConditionRecord :=
  ⟨fun h => h.conditions, fun h hl => { h with conditions := hl }⟩

instance : NumberedTable ProfileRecord :=
  ⟨fun h => h.profiles, fun h hl => { h with profiles := hl }⟩

instance : NumberedTable ProfileRuleRecord :=
  ⟨fun h => h.profileRules, fun h hl => { h with profileRules := hl }⟩

instance : NumberedTable EntryRecord := ⟨fun h => h.entries, fun h hl => { h with entries := hl }⟩

theorem map_id_clearDefault (s : Store) (clubId : Int) :
    (s.clearDefault clubId).profiles.map ProfileRecord.id = s.profiles.map ProfileRecord.id := by
  rw [Store.clearDefault, List.map_map]
  apply List.map_congr_left
  intro p _
  by_cases hclub : p.clubId = clubId <;> simp [hclub]

namespace Numbered

theorem empty : Numbered {} := by constructor <;> exact List.nodup_nil

section
variable {R : Type} [Table R] [NumberedTable R] (h : s.Numbered)
include h

theorem inserted {r : R} (hi : Inserted s r t) : t.Numbered := by
  obtain ⟨-, -, hfresh, -⟩ := fault?_eq_none.mp hi.sound
  rw [hi.store]
  exact NumberedTable.setRows h (nodup_placed (NumberedTable.nodup h) hfresh)

theorem insertedAll {rs numbered : List R} (hi : InsertedAll s rs numbered t) : t.Numbered := by
  rw [hi.store]
  exact NumberedTable.setRows h (hi.ids (NumberedTable.nodup h))

theorem filtered (p : R → Bool) :
    (Table.setRows s ((Table.rows s : List R).filter p)).Numbered :=
  NumberedTable.setRows h ((NumberedTable.nodup h).sublist (List.filter_sublist.map _))

theorem updated {r : R} (hu : s.update r = .ok t) : t.Numbered := by
  obtain ⟨-, -, rfl⟩ := update_eq_ok.mp hu
  refine NumberedTable.setRows h (nodup_placed
    ((NumberedTable.nodup h).sublist (List.filter_sublist.map _)) fun x hx => ?_)
  simpa using (List.mem_filter.mp hx).2

end

theorem clearDefault (h : s.Numbered) (clubId : Int) : (s.clearDefault clubId).Numbered := by
  refine { h with profiles := ?_ }
  rw [map_id_clearDefault]
  exact h.profiles

theorem beforeProfile (h : s.Numbered) (form : Form.ProfileForm) :
    (s.beforeProfile form).Numbered := by
  unfold Store.beforeProfile
  split
  · exact h.clearDefault _
  · exact h

theorem completed {id : Int} {form : Form.CompletionForm} {withAutomatic : Bool}
    (h : s.Numbered) (c : Completion s id form withAutomatic t) : t.Numbered := by
  obtain ⟨hfault, -, hcleared⟩ := clearedMatch_eq_ok.mp c.cleared_eq
  obtain ⟨-, -, hfresh, -⟩ := fault?_eq_none.mp hfault
  have hc : c.cleared.Numbered := by
    rw [hcleared]
    exact { h with
      games := nodup_placed (h.games.sublist (List.filter_sublist.map _)) hfresh
      stats := h.stats.sublist (List.filter_sublist.map _)
      entries := h.entries.sublist (List.filter_sublist.map _) }
  exact (hc.insertedAll c.stats_inserted).insertedAll c.entries_inserted

theorem turns {policy : Policy} {a : Action} (h : s.Numbered) (ht : a.Turns policy s t) :
    t.Numbered := by
  cases ht with
  | nothing => exact h
  | createClub ht =>
    obtain ⟨_, -, hi⟩ := createClub_leads ht
    exact h.inserted hi
  | createTeam ht =>
    obtain ⟨_, -, hi⟩ := createTeam_leads ht
    exact h.inserted hi
  | setTeamProfile ht =>
    obtain ⟨_, -, -, hu⟩ := setTeamProfile_leads ht
    exact h.updated hu
  | createPlayer ht =>
    obtain ⟨_, -, hi⟩ := createPlayer_leads ht
    exact h.inserted hi
  | createMatch ht =>
    exact h.inserted (createMatch_leads ht)
  | completeMatch ht =>
    obtain ⟨c⟩ := completion_of_leads ht
    exact h.completed c
  | createRule ht =>
    obtain ⟨_, _, _, -, hrule, hconditions⟩ := createRule_leads ht
    exact (h.inserted hrule).insertedAll hconditions
  | setRuleActive ht =>
    obtain ⟨_, -, hu⟩ := setRuleActive_leads ht
    exact h.updated hu
  | createVariable ht =>
    obtain ⟨_, -, -, hi⟩ := createVariable_leads ht
    exact h.inserted hi
  | setVariableActive ht =>
    obtain ⟨_, -, hu⟩ := setVariableActive_leads ht
    exact h.updated hu
  | deleteVariable ht =>
    rw [deleteVariable_leads ht]
    exact h.filtered _
  | createProfile ht =>
    obtain ⟨_, _, _, -, hprofile, hrules⟩ := createProfile_leads ht
    exact ((h.beforeProfile _).inserted hprofile).insertedAll hrules

end Numbered

theorem Reachable.numbered (h : s.Reachable) : s.Numbered :=
  h.induction .empty fun _ _ _ _ _ hs _ ht => hs.turns ht

/-! ## Rows that stay -/

def Kept {R κ : Type} (columns : R → κ) (xs ys : List R) : Prop :=
  ∀ x ∈ xs, ∃ y ∈ ys, columns y = columns x

namespace Kept

variable {R κ : Type} {columns : R → κ} {xs ys : List R}

theorem refl : Kept columns xs xs := fun x hx => ⟨x, hx, rfl⟩

theorem of_subset (h : ∀ x ∈ xs, x ∈ ys) : Kept columns xs ys := fun x hx => ⟨x, h x hx, rfl⟩

theorem placed [Table R] (r : R) : Kept columns xs (placed xs r) :=
  of_subset fun _ hx => mem_placed.mpr (.inr hx)

theorem replaced [Table R] {old r : R} (hn : (xs.map Table.id).Nodup) (hold : old ∈ xs)
    (hid : Table.id old = Table.id r) (hcolumns : columns (Table.kept r) = columns old) :
    Kept columns xs (Store.placed (xs.filter fun x => Table.id x != Table.id r) r) := by
  intro x hx
  by_cases hxr : Table.id x = Table.id r
  · have hxo : x = old := List.inj_on_of_nodup_map hn hx hold (hxr.trans hid.symm)
    exact ⟨Table.kept r, mem_placed.mpr (.inl rfl), by rw [hcolumns, hxo]⟩
  · exact ⟨x, mem_placed.mpr (.inr (List.mem_filter.mpr ⟨hx, by simpa using hxr⟩)), rfl⟩

end Kept

/-- What the scores of matches refer to stays where it is, and the scores stay as they are. -/
structure Grows (s t : Store) : Prop where
  teams : Kept (fun x => (x.id, x.clubId)) s.teams t.teams
  players : Kept (fun x => (x.id, x.teamId)) s.players t.players
  games : Kept (fun x => (x.id, x.teamId, x.status)) s.games t.games
  rules : Kept (fun x => (x.id, x.teamId)) s.rules t.rules
  profiles : Kept (fun x => (x.id, x.clubId)) s.profiles t.profiles
  stats : t.stats = s.stats
  entries : t.entries = s.entries

namespace Grows

theorem refl (s : Store) : s.Grows s :=
  ⟨.refl, .refl, .refl, .refl, .refl, rfl, rfl⟩

/-- Every operation but the completion of a match lets a store grow. -/
theorem of_turns {policy : Policy} {a : Action} (hn : s.Numbered) (ht : a.Turns policy s t)
    (ha : ∀ id form, a ≠ .completeMatch id form) : s.Grows t := by
  have h := refl s
  cases ht with
  | nothing => exact h
  | createClub ht =>
    obtain ⟨_, -, -, -, rfl⟩ := createClub_leads ht
    exact { h with }
  | createTeam ht =>
    obtain ⟨_, -, -, -, rfl⟩ := createTeam_leads ht
    exact { h with teams := .placed _ }
  | setTeamProfile ht =>
    obtain ⟨team, hteam, -, hu⟩ := setTeamProfile_leads ht
    obtain ⟨-, -, rfl⟩ := update_eq_ok.mp hu
    exact { h with teams := .replaced hn.teams (find?_eq_some hteam).1 rfl rfl }
  | createPlayer ht =>
    obtain ⟨_, -, -, -, rfl⟩ := createPlayer_leads ht
    exact { h with players := .placed _ }
  | createMatch ht =>
    obtain ⟨-, -, rfl⟩ := createMatch_leads ht
    exact { h with games := .placed _ }
  | completeMatch => exact absurd rfl (ha _ _)
  | createRule ht =>
    obtain ⟨_, _, _, -, ⟨-, -, rfl⟩, hconditions⟩ := createRule_leads ht
    rw [hconditions.store]
    exact { h with rules := .placed _ }
  | setRuleActive ht =>
    obtain ⟨rule, hrule, hu⟩ := setRuleActive_leads ht
    obtain ⟨-, -, rfl⟩ := update_eq_ok.mp hu
    exact { h with rules := .replaced hn.rules (find?_eq_some hrule).1 rfl rfl }
  | createVariable ht =>
    obtain ⟨_, -, -, -, -, rfl⟩ := createVariable_leads ht
    exact { h with }
  | setVariableActive ht =>
    obtain ⟨_, -, hu⟩ := setVariableActive_leads ht
    obtain ⟨-, -, rfl⟩ := update_eq_ok.mp hu
    exact { h with }
  | deleteVariable ht =>
    rw [deleteVariable_leads ht]
    exact { h with }
  | @createProfile form t ht =>
    obtain ⟨profile, _, u, -, hprofile, hrules⟩ := createProfile_leads ht
    have hu : s.Grows u := by
      rw [hprofile.store]
      -- the marks of the other profiles may go, they are none of the columns that stay
      unfold Store.beforeProfile
      split
      · refine { h with profiles := fun x hx => ?_ }
        refine ⟨_, mem_placed.mpr (.inr (List.mem_map_of_mem hx)), ?_⟩
        dsimp only
        split <;> rfl
      · exact { h with profiles := .placed _ }
    rw [hrules.store]
    exact { hu with }

theorem or_completed {policy : Policy} {a : Action} (hn : s.Numbered) (ht : a.Turns policy s t) :
    s.Grows t ∨ ∃ id form, a = .completeMatch id form ∧
      Nonempty (Completion s id form policy.keepsAutomatic t) := by
  by_cases hcompletes : ∃ id form, a = .completeMatch id form
  · obtain ⟨id, form, rfl⟩ := hcompletes
    cases ht with
    | nothing => exact .inl (refl s)
    | completeMatch ht => exact .inr ⟨id, form, rfl, completion_of_leads ht⟩
  · exact .inl (of_turns hn ht fun id form ha => hcompletes ⟨id, form, ha⟩)

end Grows

/-! ## Whole points and default profiles -/

/-- Rules and profiles give whole points, and the default profile of a team is one of its club. -/
structure Configured (s : Store) : Prop where
  defaults : ∀ team ∈ s.teams, ∀ id, team.defaultProfileId = some id →
    ∃ p ∈ s.profiles, p.id = id ∧ p.clubId = team.clubId
  points : ∀ rule ∈ s.rules, ∃ n, rule.points = .whole n
  customPoints : ∀ r ∈ s.profileRules, ∀ a, r.customPoints = some a → ∃ n, a = .whole n

namespace Configured

theorem empty : Configured {} :=
  ⟨fun _ h => absurd h List.not_mem_nil, fun _ h => absurd h List.not_mem_nil,
    fun _ h => absurd h List.not_mem_nil⟩

theorem keep_defaults {team : TeamRecord} {id : Int}
    (h : ∃ p ∈ s.profiles, p.id = id ∧ p.clubId = team.clubId)
    (hk : Kept (fun x => (x.id, x.clubId)) s.profiles t.profiles) :
    ∃ p ∈ t.profiles, p.id = id ∧ p.clubId = team.clubId := by
  obtain ⟨p, hp, hid, hclub⟩ := h
  obtain ⟨q, hq, hqp⟩ := hk p hp
  exact ⟨q, hq, (congrArg Prod.fst hqp).trans hid, (congrArg Prod.snd hqp).trans hclub⟩

theorem customPoints_created {form : Form.ProfileForm} (h : s.Configured)
    (ht : Leads (s.createProfile form) t) :
    ∀ r ∈ t.profileRules, ∀ a, r.customPoints = some a → ∃ n, a = .whole n := by
  obtain ⟨profile, rules, u, -, hprofile, hrules⟩ := createProfile_leads ht
  have hrows : t.profileRules = placedAll s.profileRules rules := by
    rw [hrules.store, hprofile.store, s.beforeProfile_frame form]
    rfl
  intro x hx a ha
  rw [hrows] at hx
  rcases mem_placedAll.mp hx with ⟨r, hr, rfl⟩ | hx
  · obtain ⟨_, hitem, n, rfl⟩ := exists_of_forall₂ hrules.numbers r hr
    obtain ⟨item, -, rfl⟩ := List.mem_map.mp hitem
    obtain ⟨m, -, rfl⟩ := Option.map_eq_some_iff.mp ha
    exact ⟨m, rfl⟩
  · exact h.customPoints x hx a ha

theorem turns {policy : Policy} {a : Action} (hn : s.Numbered) (h : s.Configured)
    (ht : a.Turns policy s t) : t.Configured := by
  constructor
  case defaults =>
    have hprofiles : Kept (fun x => (x.id, x.clubId)) s.profiles t.profiles := by
      rcases ht.touched.profiles with ⟨hsame, -⟩ | ⟨form, rfl, -⟩
      · rw [hsame]
        exact .refl
      · exact (Grows.of_turns hn ht nofun).profiles
    intro team hteam id hid
    apply keep_defaults _ hprofiles
    rcases ht.touched.teams with hsame | ⟨form, ht⟩ | ⟨_, form, ht⟩
    · exact h.defaults team (hsame ▸ hteam) id hid
    · obtain ⟨new, hnone, -, -, rfl⟩ := createTeam_leads ht
      rcases mem_placed.mp hteam with rfl | hteam
      · cases hnone.symm.trans hid
      · exact h.defaults team hteam id hid
    · obtain ⟨old, -, hprofile, hu⟩ := setTeamProfile_leads ht
      obtain ⟨-, -, rfl⟩ := update_eq_ok.mp hu
      rcases mem_placed.mp hteam with rfl | hteam
      · obtain ⟨p, hp, hclub⟩ := hprofile id hid
        exact ⟨p, (find?_eq_some hp).1, (find?_eq_some hp).2, hclub⟩
      · exact h.defaults team (List.mem_filter.mp hteam).1 id hid
  case points =>
    rcases ht.touched.rules with ⟨hsame, -⟩ | ⟨form, ht⟩ | ⟨_, form, ht⟩
    · rw [hsame]
      exact h.points
    · obtain ⟨rule, _, _, hrecord, ⟨-, -, rfl⟩, hconditions⟩ := createRule_leads ht
      rw [hconditions.store]
      intro x hx
      rcases mem_placed.mp hx with rfl | hx
      · exact ⟨_, by rw [hrecord]; rfl⟩
      · exact h.points x hx
    · obtain ⟨rule, hrule, hu⟩ := setRuleActive_leads ht
      obtain ⟨-, -, rfl⟩ := update_eq_ok.mp hu
      intro x hx
      rcases mem_placed.mp hx with rfl | hx
      · exact h.points rule (find?_eq_some hrule).1
      · exact h.points x (List.mem_filter.mp hx).1
  case customPoints =>
    rcases ht.touched.profiles with ⟨-, hsame⟩ | ⟨form, -, ht⟩
    · rw [hsame]
      exact h.customPoints
    · exact h.customPoints_created ht

end Configured

theorem Reachable.configured (h : s.Reachable) : s.Configured :=
  h.induction .empty fun _ _ _ _ hr hs _ ht => hs.turns hr.numbered ht

/-- Where points are whole, what is scored is what is earned. -/
theorem Configured.earned (h : s.Configured) (profileId : Option Int) (ruleId points : Int) :
    (s.rate profileId ruleId).earned points = .ok (.whole points) := by
  suffices hw : ∃ n, s.rate profileId ruleId = .whole n by
    obtain ⟨n, hn⟩ := hw
    rw [hn, Amount.earned_whole]
  unfold rate
  dsimp only
  cases hc : (profileId.bind fun id => (s.profileRulesOf id).find? fun r : ProfileRuleRecord =>
      r.ruleId == ruleId).bind ProfileRuleRecord.customPoints with
  | some a =>
    obtain ⟨r, hr, ha⟩ := Option.bind_eq_some_iff.mp hc
    obtain ⟨id, -, hfind⟩ := Option.bind_eq_some_iff.mp hr
    exact h.customPoints r (List.mem_filter.mp (List.mem_of_find?_eq_some hfind)).1 a ha
  | none =>
    cases hr : (s.find? ruleId : Option RuleRecord) with
    | none => exact ⟨0, rfl⟩
    | some rule => exact h.points rule (find?_eq_some hr).1

end Store

end ClubPoints
