import ClubPoints.Proofs.Configuration
import ClubPoints.Proofs.Ledger

/-!
# The scores of matches

No constraint of the tables says that statistics and entries are about players, rules and profiles of
the match's team. `Scored` is what the operations keep instead.
-/

namespace ClubPoints

open Form

def LedgerRow.IsFormed (row : LedgerRow) : Prop :=
  if row.isManual then
    1 ≤ row.count ∧ row.count ≤ 99 ∧ (∃ n, row.points = row.count * n) ∧
      row.assignmentKey = some s!"{row.playerId}:{row.ruleId}" ∧
      row.notes = s!"Manual assignment: {row.count} instances"
  else row.count = 1 ∧ row.assignmentKey = none

/-- An entry by hand says how often its rule was given and is worth a multiple of that; an automatic
entry counts one award. All points are whole. -/
def EntryRecord.IsFormed (e : EntryRecord) : Prop :=
  if e.isManual then
    ∃ count n : Int, 1 ≤ count ∧ count ≤ 99 ∧ e.count = some (.whole count) ∧
      e.points = .whole (count * n) ∧ e.assignmentKey = some s!"{e.playerId}:{e.ruleId}" ∧
      e.notes = some s!"Manual assignment: {count} instances"
  else e.count = some (.whole 1) ∧ (∃ n, e.points = .whole n) ∧ e.assignmentKey = none

theorem LedgerRow.IsFormed.entry {row : LedgerRow} (h : row.IsFormed) (matchId n : Int) :
    ({ Store.entryRecord matchId row (.whole row.points) with id := n } : EntryRecord).IsFormed := by
  unfold LedgerRow.IsFormed at h
  unfold EntryRecord.IsFormed
  change if row.isManual then _ else _
  split at h
  · rename_i hm
    obtain ⟨hleast, hmost, ⟨m, hpoints⟩, hkey, hnotes⟩ := h
    rw [if_pos hm]
    exact ⟨row.count, m, hleast, hmost, rfl, congrArg Amount.whole hpoints, hkey,
      congrArg some hnotes⟩
  · rename_i hm
    rw [if_neg hm]
    exact ⟨congrArg (fun n => some (Amount.whole n)) h.1, ⟨row.points, rfl⟩, h.2⟩

namespace Store

variable {s t : Store} {id : Int} {form : CompletionForm} {withAutomatic : Bool}

/-! ## Profiles and rules to score by -/

theorem scoringProfiles_club (hn : s.Numbered) (h : s.Configured) {team : TeamRecord}
    (hteam : team ∈ s.teams) {p : Profile} (hp : p ∈ s.scoringProfiles team) :
    ∃ r ∈ s.profiles, r.id = p.id ∧ r.clubId = team.clubId := by
  unfold scoringProfiles at hp
  rcases List.mem_append.mp hp with hp | hp
  · obtain ⟨r, hr, rfl⟩ := Option.map_eq_some_iff.mp (Option.mem_toList.mp hp)
    obtain ⟨hr, -⟩ := Option.filter_eq_some_iff.mp hr
    obtain ⟨n, hdefault, hr⟩ := Option.bind_eq_some_iff.mp hr
    obtain ⟨q, hq, hid, hclub⟩ := h.defaults team hteam n hdefault
    have hrn : r.id = n := by simpa using List.find?_some hr
    have hrq : r = q :=
      List.inj_on_of_nodup_map hn.profiles (List.mem_of_find?_eq_some hr) hq (hrn.trans hid.symm)
    exact ⟨q, hq, by rw [hrq]; rfl, hclub⟩
  · obtain ⟨r, hr, rfl⟩ := Option.map_eq_some_iff.mp (Option.mem_toList.mp hp)
    have hfound := List.find?_some hr
    simp only [Bool.and_eq_true, beq_iff_eq] at hfound
    exact ⟨r, List.mem_of_find?_eq_some hr, rfl, hfound.1.1⟩

theorem nodup_scoringProfiles (s : Store) (team : TeamRecord) :
    ((s.scoringProfiles team).map Profile.pointType).Nodup := by
  unfold scoringProfiles
  cases s.teamDefault? team <;> cases s.clubDefault? team.clubId <;>
    simp [Store.profile, Profile.ofOverrides]

theorem rule_id {r : RuleRecord} {rule : Rule} (h : s.rule r = .ok rule) : rule.id = r.id := by
  simp only [Store.rule, RuleRecord.rule, bind_eq_ok, pure_eq_ok] at h
  obtain ⟨_, -, _, -, rfl⟩ := h
  rfl

theorem rulesOf_eq_ok {teamId : Int} {rules : List Rule} (h : s.rulesOf teamId = .ok rules) :
    rules.map Rule.id = (s.ruleRecordsOf teamId).map RuleRecord.id := by
  replace h := mapM_eq_ok.mp h
  generalize s.ruleRecordsOf teamId = records at h
  induction h with
  | nil => rfl
  | cons hr _ ih => rw [List.map_cons, List.map_cons, ih, rule_id hr]

/-! ## The ledger of a completion -/

/-- The ledger that is made for a team of players and assignments that passed the checks. -/
structure Ledgered (s : Store) (team : TeamRecord) (form : CompletionForm) (withAutomatic : Bool)
    (rows : List LedgerRow) where
  players : List PlayerFacts
  rules : List Rule
  players_ok : s.playerFacts team form.facts = .ok players
  assigned : Assigned (s.rosterOf team.id) (s.ruleRecordsOf team.id) [] form.assignments
  rules_ok : s.rulesOf team.id = .ok rules
  rows_ok : Ledger.assemble rules (s.scoringProfiles team)
    (form.assignments.map AssignmentForm.assignment) (s.registryOf team.id) form.facts.facts players
    withAutomatic = .ok rows

theorem ledgered_of_ok {team : TeamRecord} {rows : List LedgerRow}
    (h : s.completionLedger team form withAutomatic = .ok rows) :
    Nonempty (Ledgered s team form withAutomatic rows) := by
  simp only [completionLedger, bind_eq_ok, judge_eq_ok, assignmentsOf_eq_ok] at h
  obtain ⟨players, hplayers, _, ⟨hassigned, rfl⟩, rules, hrules, hrows⟩ := h
  exact ⟨⟨players, rules, hplayers, hassigned, hrules, hrows⟩⟩

namespace Ledgered

variable {team : TeamRecord} {rows : List LedgerRow} {row : LedgerRow}
  (l : Ledgered s team form withAutomatic rows)
include l

theorem manual_or_due (hrow : row ∈ rows) :
    (∃ a ∈ form.assignments, 0 < a.count ∧ ∃ rule ∈ l.rules, rule.id = a.ruleId ∧
      ∃ p ∈ s.scoringProfiles team, a.assignment.row rule p = row) ∨
    ∃ stat ∈ form.facts.stats, ∃ rule ∈ l.rules, ∃ a : Award, a.playerId = stat.playerId ∧
      a.ruleId = rule.id ∧ ∃ p ∈ s.scoringProfiles team, a.row p = row := by
  rcases Ledger.mem_assemble l.rows_ok hrow with hrow | ⟨p, hp, rule, hrule, hrow⟩
  · obtain ⟨_, hx, hcount, rule, hrule, p, hp, -, rfl⟩ := Ledger.mem_manualRows.mp hrow
    obtain ⟨a, ha, rfl⟩ := List.mem_map.mp hx
    obtain ⟨hmem, hid⟩ := Ledger.rule?_eq_some hrule
    exact .inl ⟨a, ha, hcount, rule, hmem, hid, p, hp, rfl⟩
  · obtain ⟨-, a, ha, ⟨player, hplayer, hid⟩, -, rfl⟩ := Ledger.mem_dueRows hrow
    have hids := (factsOf_eq_ok l.players_ok).1
    obtain ⟨stat, hstat, hs⟩ := List.mem_map.mp (hids ▸ List.mem_map_of_mem hplayer)
    exact .inr ⟨stat, hstat, rule, hrule, a, (hs.trans hid).symm, ha, p, hp, rfl⟩

theorem profile (hrow : row ∈ rows) :
    ∃ p ∈ s.scoringProfiles team, p.id = row.profileId ∧ p.pointType = row.pointType := by
  rcases l.manual_or_due hrow with ⟨a, -, -, rule, -, -, p, hp, rfl⟩ | ⟨_, -, _, -, a, -, -, p, hp, rfl⟩
  · exact ⟨p, hp, rfl, rfl⟩
  · exact ⟨p, hp, rfl, rfl⟩

theorem player (hrow : row ∈ rows) :
    ∃ p ∈ s.players, p.id = row.playerId ∧ p.teamId = team.id := by
  have hroster : ∀ id, (∃ p ∈ s.rosterOf team.id, p.id = id) →
      ∃ p ∈ s.players, p.id = id ∧ p.teamId = team.id := by
    rintro id ⟨p, hp, hid⟩
    obtain ⟨hp, hteam⟩ := List.mem_filter.mp hp
    exact ⟨p, hp, hid, by simpa using hteam⟩
  apply hroster
  rcases l.manual_or_due hrow with ⟨a, ha, -, _, -, -, _, -, rfl⟩ | ⟨stat, hs, _, -, a, ha, -, _, -, rfl⟩
  · exact l.assigned.players a ha
  · rw [show (a.row _).playerId = stat.playerId from ha]
    exact (factsOf_eq_ok l.players_ok).2.1 stat hs

theorem rule (hrow : row ∈ rows) :
    ∃ r ∈ s.rules, r.id = row.ruleId ∧ r.teamId = team.id := by
  have hrule : ∀ rule ∈ l.rules, ∃ r ∈ s.rules, r.id = rule.id ∧ r.teamId = team.id := by
    intro rule hr
    obtain ⟨r, hr, hid⟩ := List.mem_map.mp (rulesOf_eq_ok l.rules_ok ▸ List.mem_map_of_mem hr)
    obtain ⟨hr, hteam⟩ := List.mem_filter.mp hr
    exact ⟨r, hr, hid, by simpa using hteam⟩
  rcases l.manual_or_due hrow with ⟨a, -, -, rule, hr, -, _, -, rfl⟩ | ⟨_, -, rule, hr, a, -, ha, _, -, rfl⟩
  · exact hrule rule hr
  · rw [show (a.row _).ruleId = rule.id from ha]
    exact hrule rule hr

theorem formed (hbounds : ∀ a ∈ form.assignments, a.InBounds) (hrow : row ∈ rows) :
    row.IsFormed := by
  rcases l.manual_or_due hrow with ⟨a, ha, hcount, rule, -, hid, p, -, rfl⟩ | ⟨_, -, _, -, a, -, -, _, -, rfl⟩
  · refine ⟨hcount, (hbounds a ha).most, ⟨p.pointsFor rule, rfl⟩, ?_, rfl⟩
    rw [show (a.assignment.row rule p).ruleId = a.ruleId from hid]
    rfl
  · exact ⟨rfl, rfl⟩

theorem assigned_once : ((form.assignments.map AssignmentForm.assignment).map
    fun a => (a.playerId, a.ruleId)).Nodup := by
  rw [List.map_map]
  exact l.assigned.once

theorem once (hn : s.Numbered) : (rows.map Ledger.slot).Nodup := by
  obtain ⟨hids, -, -, hplayers⟩ := factsOf_eq_ok l.players_ok
  have hrules : (l.rules.map Rule.id).Nodup := by
    rw [rulesOf_eq_ok l.rules_ok]
    exact hn.rules.sublist (List.filter_sublist.map _)
  exact Ledger.nodup_slot hrules (nodup_scoringProfiles s team) l.assigned_once (hids ▸ hplayers)
    l.rows_ok

end Ledgered

/-! ## The scores that a completion writes -/

namespace Completion

variable (c : Completion s id form withAutomatic t)
include c

theorem row_of_entry (hc : s.Configured) {e : EntryRecord} (he : e ∈ c.entries) :
    ∃ row ∈ c.rows, ∃ n, e = { entryRecord id row (.whole row.points) with id := n } := by
  obtain ⟨row, hrow, points, n, hpoints, rfl⟩ := exists_of_forall₂ c.entries_numbered e he
  rw [hc.earned] at hpoints
  cases hpoints
  exact ⟨row, hrow, n, rfl⟩

theorem mem_stats {r : StatRecord} :
    r ∈ t.stats ↔ r ∈ c.stats ∨ r ∈ s.stats ∧ r.matchId ≠ id := by
  rw [c.stats_eq, mem_placedAll, List.mem_filter]
  simp [Table.kept]

theorem kept_entry (hc : s.Configured) {e : EntryRecord} (he : e ∈ c.entries) :
    Table.kept e = e := by
  obtain ⟨row, -, n, rfl⟩ := c.row_of_entry hc he
  rfl

theorem kept_entries (hc : s.Configured) : c.entries.map Table.kept = c.entries := by
  have hsame : c.entries.map Table.kept = c.entries.map fun e => e :=
    List.map_congr_left fun e he => c.kept_entry hc he
  rw [hsame, List.map_id']

theorem mem_entries (hc : s.Configured) {e : EntryRecord} :
    e ∈ t.entries ↔ e ∈ c.entries ∨ e ∈ s.entries ∧ e.matchId ≠ id := by
  rw [c.entries_eq, (perm_placedAll _ _).mem_iff, c.kept_entries hc, List.mem_append,
    List.mem_filter]
  simp

end Completion

/-! ## What is stored of scores -/

def Played (s : Store) (game : MatchRecord) (playerId : Int) : Prop :=
  game ∈ s.games ∧ game.status = .completed ∧
    ∃ player ∈ s.players, player.id = playerId ∧ player.teamId = game.teamId

def Ruled (s : Store) (game : MatchRecord) (ruleId : Int) : Prop :=
  ∃ rule ∈ s.rules, rule.id = ruleId ∧ rule.teamId = game.teamId

def Profiled (s : Store) (game : MatchRecord) (profileId : Int) : Prop :=
  ∃ profile ∈ s.profiles, profile.id = profileId ∧
    ∃ team ∈ s.teams, team.id = game.teamId ∧ team.clubId = profile.clubId

structure Scored (s : Store) : Prop where
  stats : ∀ r ∈ s.stats, ∃ game, game.id = r.matchId ∧ s.Played game r.playerId
  entries : ∀ e ∈ s.entries, ∃ game, game.id = e.matchId ∧ s.Played game e.playerId ∧
    s.Ruled game e.ruleId ∧ s.Profiled game e.profileId
  formed : ∀ e ∈ s.entries, e.IsFormed
  statOnce : (s.stats.map fun r => (r.matchId, r.playerId)).Nodup
  entryOnce : (s.entries.map fun e => (e.matchId, e.pointType, e.playerId, e.ruleId)).Nodup
  oneProfile : ∀ a ∈ s.entries, ∀ b ∈ s.entries, a.matchId = b.matchId →
    a.pointType = b.pointType → a.profileId = b.profileId

namespace Scored

theorem empty : Scored {} where
  stats _ h := absurd h List.not_mem_nil
  entries _ h := absurd h List.not_mem_nil
  formed _ h := absurd h List.not_mem_nil
  statOnce := List.nodup_nil
  entryOnce := List.nodup_nil
  oneProfile _ h := absurd h List.not_mem_nil

/-! ### Other operations -/

theorem played_of_kept {game game' : MatchRecord} {playerId : Int}
    (hplayers : Kept (fun x => (x.id, x.teamId)) s.players t.players) (hmem : game' ∈ t.games)
    (hgame : (game'.id, game'.teamId, game'.status) = (game.id, game.teamId, game.status))
    (h : s.Played game playerId) : t.Played game' playerId := by
  obtain ⟨-, hstatus, player, hplayer, hid, hteam⟩ := h
  obtain ⟨player', hplayer', hkept⟩ := hplayers player hplayer
  simp only [Prod.mk.injEq] at hgame hkept
  exact ⟨hmem, hgame.2.2.trans hstatus, player', hplayer', hkept.1.trans hid,
    hkept.2.trans (hteam.trans hgame.2.1.symm)⟩

theorem ruled_of_kept {game game' : MatchRecord} {ruleId : Int}
    (hrules : Kept (fun x => (x.id, x.teamId)) s.rules t.rules)
    (hgame : game'.teamId = game.teamId) (h : s.Ruled game ruleId) : t.Ruled game' ruleId := by
  obtain ⟨rule, hrule, hid, hteam⟩ := h
  obtain ⟨rule', hrule', hkept⟩ := hrules rule hrule
  simp only [Prod.mk.injEq] at hkept
  exact ⟨rule', hrule', hkept.1.trans hid, hkept.2.trans (hteam.trans hgame.symm)⟩

theorem profiled_of_kept {game game' : MatchRecord} {profileId : Int}
    (hprofiles : Kept (fun x => (x.id, x.clubId)) s.profiles t.profiles)
    (hteams : Kept (fun x => (x.id, x.clubId)) s.teams t.teams)
    (hgame : game'.teamId = game.teamId) (h : s.Profiled game profileId) :
    t.Profiled game' profileId := by
  obtain ⟨profile, hprofile, hid, team, hteam, htid, hclub⟩ := h
  obtain ⟨profile', hprofile', hp⟩ := hprofiles profile hprofile
  obtain ⟨team', hteam', ht⟩ := hteams team hteam
  simp only [Prod.mk.injEq] at hp ht
  exact ⟨profile', hprofile', hp.1.trans hid, team', hteam', ht.1.trans (htid.trans hgame.symm),
    ht.2.trans (hclub.trans hp.2.symm)⟩

theorem grows (h : s.Scored) (hg : s.Grows t) : t.Scored := by
  have hgame : ∀ game ∈ s.games, ∃ game' ∈ t.games,
      (game'.id, game'.teamId, game'.status) = (game.id, game.teamId, game.status) := hg.games
  constructor
  case stats =>
    rw [hg.stats]
    intro r hr
    obtain ⟨game, hid, hplayed⟩ := h.stats r hr
    obtain ⟨game', hmem, heq⟩ := hgame game hplayed.1
    exact ⟨game', (congrArg Prod.fst heq).trans hid, played_of_kept hg.players hmem heq hplayed⟩
  case entries =>
    rw [hg.entries]
    intro e he
    obtain ⟨game, hid, hplayed, hruled, hprofiled⟩ := h.entries e he
    obtain ⟨game', hmem, heq⟩ := hgame game hplayed.1
    have hteam : game'.teamId = game.teamId := congrArg (fun x => x.2.1) heq
    exact ⟨game', (congrArg Prod.fst heq).trans hid, played_of_kept hg.players hmem heq hplayed,
      ruled_of_kept hg.rules hteam hruled, profiled_of_kept hg.profiles hg.teams hteam hprofiled⟩
  case formed => rw [hg.entries]; exact h.formed
  case statOnce => rw [hg.stats]; exact h.statOnce
  case entryOnce => rw [hg.entries]; exact h.entryOnce
  case oneProfile => rw [hg.entries]; exact h.oneProfile

/-! ### Completing a match -/

theorem nodup_replaced {R κ : Type} {matchId : R → Int} (key : R → κ) {old new : List R}
    (hnew : ∀ r ∈ new, matchId r = id) (hn : (new.map key).Nodup)
    (ho : (old.map fun r => (matchId r, key r)).Nodup) :
    ((new ++ old.filter fun r => !(matchId r == id)).map fun r => (matchId r, key r)).Nodup := by
  rw [List.map_append, List.nodup_append]
  refine ⟨?_, ho.sublist (List.filter_sublist.map _), ?_⟩
  · exact List.pairwise_map.mpr ((List.pairwise_map.mp hn).imp
      fun hab h => hab (congrArg Prod.snd h))
  · intro x hx y hy hxy
    obtain ⟨a, ha, rfl⟩ := List.mem_map.mp hx
    obtain ⟨b, hb, rfl⟩ := List.mem_map.mp hy
    have hother : matchId b ≠ id := by simpa using (List.mem_filter.mp hb).2
    exact hother ((congrArg Prod.fst hxy).symm.trans (hnew a ha))

section
variable (c : Completion s id form withAutomatic t)
include c

theorem played_other {game : MatchRecord} {playerId : Int} (hid : game.id ≠ id)
    (h : s.Played game playerId) : t.Played game playerId := by
  have hplayers : t.players = s.players := by rw [c.frame]
  refine played_of_kept (by rw [hplayers]; exact .refl) ?_ rfl h
  rw [c.games_eq]
  exact mem_placed.mpr (.inr (List.mem_filter.mpr ⟨h.1, by simpa using hid⟩))

theorem played_completed {playerId : Int}
    (h : ∃ p ∈ s.players, p.id = playerId ∧ p.teamId = c.team.id) :
    t.Played (c.game.completedBy form.facts) playerId := by
  have hteam : c.team.id = c.game.teamId := (find?_eq_some c.team_found).2
  have hplayers : t.players = s.players := by rw [c.frame]
  refine ⟨?_, rfl, ?_⟩
  · rw [c.games_eq]
    exact mem_placed.mpr (.inl rfl)
  · rw [hplayers, show (c.game.completedBy form.facts).teamId = c.team.id from hteam.symm]
    exact h

theorem statOnce_completed (l : Ledgered s c.team form withAutomatic c.rows)
    (h : (s.stats.map fun r => (r.matchId, r.playerId)).Nodup) :
    (t.stats.map fun r => (r.matchId, r.playerId)).Nodup := by
  have hplayers : c.stats.map StatRecord.playerId = form.facts.stats.map StatForm.playerId :=
    map_eq_of_forall₂ c.stats_numbered fun f r ⟨_, hr⟩ => by rw [hr]; rfl
  rw [c.stats_eq, ((perm_placedAll _ _).map _).nodup_iff]
  refine nodup_replaced StatRecord.playerId ?_ ?_ h
  · intro r hr
    obtain ⟨x, hx, rfl⟩ := List.mem_map.mp hr
    obtain ⟨f, -, n, rfl⟩ := exists_of_forall₂ c.stats_numbered x hx
    rfl
  · rw [List.map_map]
    exact hplayers ▸ (factsOf_eq_ok l.players_ok).2.2.2

theorem entryOnce_completed (hn : s.Numbered) (hc : s.Configured)
    (l : Ledgered s c.team form withAutomatic c.rows)
    (h : (s.entries.map fun e => (e.matchId, e.pointType, e.playerId, e.ruleId)).Nodup) :
    (t.entries.map fun e => (e.matchId, e.pointType, e.playerId, e.ruleId)).Nodup := by
  have hslots : c.entries.map (fun e => (e.pointType, e.playerId, e.ruleId)) =
      c.rows.map Ledger.slot :=
    map_eq_of_forall₂ c.entries_numbered fun row e ⟨_, _, _, he⟩ => by rw [he]; rfl
  rw [c.entries_eq, ((perm_placedAll _ _).map _).nodup_iff, c.kept_entries hc]
  refine nodup_replaced (fun e : EntryRecord => (e.pointType, e.playerId, e.ruleId)) ?_ ?_ h
  · intro e he
    obtain ⟨row, -, n, rfl⟩ := c.row_of_entry hc he
    rfl
  · rw [hslots]
    exact l.once hn

theorem oneProfile_completed (hc : s.Configured) (l : Ledgered s c.team form withAutomatic c.rows)
    (h : ∀ a ∈ s.entries, ∀ b ∈ s.entries, a.matchId = b.matchId → a.pointType = b.pointType →
      a.profileId = b.profileId) :
    ∀ a ∈ t.entries, ∀ b ∈ t.entries, a.matchId = b.matchId → a.pointType = b.pointType →
      a.profileId = b.profileId := by
  intro a ha b hb hmatch htype
  rcases (c.mem_entries hc).mp ha with ha | ⟨ha, hother⟩ <;>
    rcases (c.mem_entries hc).mp hb with hb | ⟨hb, hother'⟩
  · obtain ⟨row, hrow, n, rfl⟩ := c.row_of_entry hc ha
    obtain ⟨row', hrow', n', rfl⟩ := c.row_of_entry hc hb
    obtain ⟨p, hp, hid, hpt⟩ := l.profile hrow
    obtain ⟨q, hq, hid', hqt⟩ := l.profile hrow'
    have hpq : p = q := List.inj_on_of_nodup_map (nodup_scoringProfiles s c.team) hp hq
      (hpt.trans (Eq.trans htype hqt.symm))
    exact hid.symm.trans (hpq ▸ hid')
  · obtain ⟨row, -, n, rfl⟩ := c.row_of_entry hc ha
    exact absurd hmatch.symm hother'
  · obtain ⟨row, -, n, rfl⟩ := c.row_of_entry hc hb
    exact absurd hmatch hother
  · exact h a ha b hb hmatch htype

end

theorem completed (hn : s.Numbered) (hc : s.Configured) (h : s.Scored)
    (hbounds : ∀ a ∈ form.assignments, a.InBounds) (c : Completion s id form withAutomatic t) :
    t.Scored := by
  obtain ⟨l⟩ := ledgered_of_ok c.ledger
  have hteam : c.team.id = c.game.teamId := (find?_eq_some c.team_found).2
  have hrules : t.rules = s.rules := by rw [c.frame]
  have hprofiles : t.profiles = s.profiles := by rw [c.frame]
  have hteams : t.teams = s.teams := by rw [c.frame]
  -- a row was written by the completion, or is one of another match
  constructor
  case stats =>
    intro r hr
    rcases c.mem_stats.mp hr with hr | ⟨hr, hother⟩
    · obtain ⟨f, hf, n, rfl⟩ := exists_of_forall₂ c.stats_numbered r hr
      obtain ⟨p, hp, hpf⟩ := (factsOf_eq_ok l.players_ok).2.1 f hf
      obtain ⟨hp, hpteam⟩ := List.mem_filter.mp hp
      exact ⟨c.game.completedBy form.facts, c.game_id,
        played_completed c ⟨p, hp, hpf, by simpa using hpteam⟩⟩
    · obtain ⟨game, hid, hplayed⟩ := h.stats r hr
      exact ⟨game, hid, played_other c (hid ▸ hother) hplayed⟩
  case entries =>
    intro e he
    rcases (c.mem_entries hc).mp he with he | ⟨he, hother⟩
    · obtain ⟨row, hrow, n, rfl⟩ := c.row_of_entry hc he
      refine ⟨c.game.completedBy form.facts, c.game_id, played_completed c (l.player hrow), ?_, ?_⟩
      · obtain ⟨r, hr, hid, hrteam⟩ := l.rule hrow
        exact ⟨r, by rw [hrules]; exact hr, hid, hrteam.trans hteam⟩
      · obtain ⟨p, hp, hid, -⟩ := l.profile hrow
        have hmem : c.team ∈ s.teams := (find?_eq_some c.team_found).1
        obtain ⟨r, hr, hrp, hclub⟩ := scoringProfiles_club hn hc hmem hp
        exact ⟨r, by rw [hprofiles]; exact hr, hrp.trans hid, c.team,
          by rw [hteams]; exact hmem, hteam, hclub.symm⟩
    · obtain ⟨game, hid, hplayed, hruled, hprofiled⟩ := h.entries e he
      exact ⟨game, hid, played_other c (hid ▸ hother) hplayed,
        ruled_of_kept (by rw [hrules]; exact .refl) rfl hruled,
        profiled_of_kept (by rw [hprofiles]; exact .refl) (by rw [hteams]; exact .refl) rfl
          hprofiled⟩
  case formed =>
    intro e he
    rcases (c.mem_entries hc).mp he with he | ⟨he, -⟩
    · obtain ⟨row, hrow, n, rfl⟩ := c.row_of_entry hc he
      exact (l.formed hbounds hrow).entry id n
    · exact h.formed e he
  case statOnce => exact statOnce_completed c l h.statOnce
  case entryOnce => exact entryOnce_completed c hn hc l h.entryOnce
  case oneProfile => exact oneProfile_completed c hc l h.oneProfile

theorem turns {policy : Policy} {a : Action} (hn : s.Numbered) (hc : s.Configured) (h : s.Scored)
    (ha : a.IsSubmitted) (ht : a.Turns policy s t) : t.Scored := by
  rcases Grows.or_completed hn ht with hgrows | ⟨id, form, rfl, ⟨c⟩⟩
  · exact h.grows hgrows
  · obtain ⟨v, hv⟩ := ha
    exact completed hn hc h (CompletionForm.inBounds_of_read hv) c

end Scored

theorem Reachable.scored (h : s.Reachable) : s.Scored :=
  h.induction .empty fun _ _ _ _ hr hs ha ht => hs.turns hr.numbered hr.configured ha ht

/-! ## The scores of one match -/

/-- What holds of the statistics and the entries of one match. -/
structure ScoresOf (s : Store) (game : MatchRecord) : Prop where
  statOnce : ((s.statsOf game.id).map StatRecord.playerId).Nodup
  entryOnce : ((s.entriesOf game.id).map fun e => (e.pointType, e.playerId, e.ruleId)).Nodup
  statPlayer : ∀ r ∈ s.statsOf game.id, ∃ player : PlayerRecord,
    s.find? r.playerId = some player ∧ player.teamId = game.teamId
  player : ∀ e ∈ s.entriesOf game.id, ∃ player : PlayerRecord,
    s.find? e.playerId = some player ∧ player.teamId = game.teamId
  rule : ∀ e ∈ s.entriesOf game.id, ∃ rule : RuleRecord,
    s.find? e.ruleId = some rule ∧ rule.teamId = game.teamId
  profile : ∀ e ∈ s.entriesOf game.id, ∃ (profile : ProfileRecord) (team : TeamRecord),
    s.find? e.profileId = some profile ∧ s.find? game.teamId = some team ∧
      profile.clubId = team.clubId
  oneProfile : ∀ a ∈ s.entriesOf game.id, ∀ b ∈ s.entriesOf game.id,
    a.pointType = b.pointType → a.profileId = b.profileId
  byHand : ∀ e ∈ s.entriesOf game.id, e.isManual = true → ∃ count n : Int,
    1 ≤ count ∧ count ≤ 99 ∧ e.count = some (.whole count) ∧ e.points = .whole (count * n) ∧
      e.assignmentKey = some s!"{e.playerId}:{e.ruleId}" ∧
      e.notes = some s!"Manual assignment: {count} instances"
  automatic : ∀ e ∈ s.entriesOf game.id, e.isManual = false →
    e.count = some (.whole 1) ∧ e.assignmentKey = none
  notCompleted : game.status ≠ .completed → s.statsOf game.id = [] ∧ s.entriesOf game.id = []

theorem nodup_within {R κ : Type} {matchId : R → Int} {key : R → κ} {rows : List R} (id : Int)
    (h : (rows.map fun r => (matchId r, key r)).Nodup) :
    ((rows.filter fun r => matchId r == id).map key).Nodup := by
  refine List.pairwise_map.mpr (((List.pairwise_map.mp h).filter _).imp_of_mem ?_)
  intro a b ha hb hab hkey
  have ha : matchId a = id := by simpa using (List.mem_filter.mp ha).2
  have hb : matchId b = id := by simpa using (List.mem_filter.mp hb).2
  exact hab (Prod.ext (ha.trans hb.symm) hkey)

theorem Scored.scoresOf (hn : s.Numbered) (h : s.Scored) {game : MatchRecord}
    (hgame : game ∈ s.games) : s.ScoresOf game := by
  -- rows know their match by its number only
  have hsame : ∀ g ∈ s.games, g.id = game.id → g = game := fun g hg hid =>
    List.inj_on_of_nodup_map hn.games hg hgame hid
  have hstat : ∀ r ∈ s.statsOf game.id, s.Played game r.playerId := by
    intro r hr
    obtain ⟨hr, hid⟩ := List.mem_filter.mp hr
    obtain ⟨g, hg, hplayed⟩ := h.stats r hr
    obtain rfl := hsame g hplayed.1 (hg.trans (by simpa using hid))
    exact hplayed
  have hentry : ∀ e ∈ s.entriesOf game.id,
      s.Played game e.playerId ∧ s.Ruled game e.ruleId ∧ s.Profiled game e.profileId := by
    intro e he
    obtain ⟨he, hid⟩ := List.mem_filter.mp he
    obtain ⟨g, hg, hplayed, hrest⟩ := h.entries e he
    obtain rfl := hsame g hplayed.1 (hg.trans (by simpa using hid))
    exact ⟨hplayed, hrest⟩
  have hplayer : ∀ id, s.Played game id → ∃ player : PlayerRecord,
      s.find? id = some player ∧ player.teamId = game.teamId := by
    rintro _ ⟨-, -, player, hp, rfl, hteam⟩
    exact ⟨player, find?_of_mem hn.players hp, hteam⟩
  have hformed : ∀ e ∈ s.entriesOf game.id, e.IsFormed := fun e he =>
    h.formed e (List.mem_filter.mp he).1
  constructor
  case statOnce => exact nodup_within game.id h.statOnce
  case entryOnce => exact nodup_within game.id h.entryOnce
  case statPlayer => exact fun r hr => hplayer _ (hstat r hr)
  case player => exact fun e he => hplayer _ (hentry e he).1
  case rule =>
    intro e he
    obtain ⟨rule, hr, hid, hteam⟩ := (hentry e he).2.1
    exact ⟨rule, hid ▸ find?_of_mem hn.rules hr, hteam⟩
  case profile =>
    intro e he
    obtain ⟨profile, hp, hid, team, ht, htid, hclub⟩ := (hentry e he).2.2
    exact ⟨profile, team, hid ▸ find?_of_mem hn.profiles hp, htid ▸ find?_of_mem hn.teams ht,
      hclub.symm⟩
  case oneProfile =>
    intro a ha b hb htype
    obtain ⟨ha, hida⟩ := List.mem_filter.mp ha
    obtain ⟨hb, hidb⟩ := List.mem_filter.mp hb
    exact h.oneProfile a ha b hb (by rw [eq_of_beq hida, eq_of_beq hidb]) htype
  case byHand =>
    intro e he hm
    have := hformed e he
    rwa [EntryRecord.IsFormed, if_pos hm] at this
  case automatic =>
    intro e he hm
    have := hformed e he
    rw [EntryRecord.IsFormed, if_neg (by simp [hm])] at this
    exact ⟨this.1, this.2.2⟩
  case notCompleted =>
    intro hstatus
    exact ⟨List.eq_nil_iff_forall_not_mem.mpr fun r hr => hstatus (hstat r hr).2.1,
      List.eq_nil_iff_forall_not_mem.mpr fun e he => hstatus (hentry e he).1.2.1⟩

/-- In every store that requests lead to, rejected ones and ones whose commit fails included, all
scores belong to a match, and the scores of each match are consistent. -/
theorem scores_consistent (s : Store) (h : s.Reachable) :
    (∀ r ∈ s.stats, ∃ game ∈ s.games, game.id = r.matchId) ∧
    (∀ e ∈ s.entries, ∃ game ∈ s.games, game.id = e.matchId) ∧
    ∀ game ∈ s.games, s.ScoresOf game := by
  refine ⟨fun r hr => ?_, fun e he => ?_, fun game hgame => h.scored.scoresOf h.numbered hgame⟩
  · obtain ⟨game, hid, hplayed⟩ := h.scored.stats r hr
    exact ⟨game, hplayed.1, hid⟩
  · obtain ⟨game, hid, hplayed, -⟩ := h.scored.entries e he
    exact ⟨game, hplayed.1, hid⟩

/-- A team with one player, a rule by hand, a rule for goals, and two matches that were played. -/
def season : List Arrival := [
  .posting "/clubs/" (ClubForm.document { name := "Rovers" }),
  .posting "/teams/" (TeamForm.document { name := "First", clubId := 1 }),
  .posting "/players/" (PlayerForm.document { name := "Ann", position := .forward, teamId := 1 }),
  .posting "/rules/" (RuleForm.document {
    teamId := 1, name := "Captain", description := "Led the team", category := .manual
    points := 5 }),
  .posting "/rules/" (RuleForm.document {
    teamId := 1, name := "Goals", description := "Per goal", category := .performance, points := 2
    isMultiplier := true, multiplier := some "goalsScored"
    conditions := [{ key := some "goalsScored", operator := some .greater, value := some .zero }] }),
  .posting "/profiles/" (ProfileForm.document {
    clubId := 1, name := "Club", isClubDefault := true
    rules := [{ ruleId := 1 }, { ruleId := 2, customPoints := some 4 }] }),
  .posting "/matches/" (FixtureForm.document { teamId := 1, opponent := "United" }),
  .posting "/matches/" (FixtureForm.document { teamId := 1, opponent := "City" }),
  .posting "/matches/1/complete" (CompletionForm.document {
    facts := { goalsFor := 2, stats := [{ playerId := 1 }] }
    assignments := [{ ruleId := 1, playerId := 1, count := 2 }] }),
  .posting "/matches/2/complete" (CompletionForm.document {
    facts := {
      goalsFor := 3
      stats := [{ playerId := 1, tally := { Tally.zero with goalsScored := 3 } }] } })]

theorem scores_consistent_season :
    (after {} season).Reachable ∧
      ((after {} season).entries.map fun e => (e.matchId, e.isManual, e.points.whole?)) =
        [(1, true, some 10), (2, false, some 12)] ∧
      ∀ game ∈ (after {} season).games, (after {} season).ScoresOf game :=
  ⟨⟨season, rfl⟩, by decide +kernel, (scores_consistent _ ⟨season, rfl⟩).2.2⟩

end Store

end ClubPoints
