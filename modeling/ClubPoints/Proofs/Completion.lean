import ClubPoints.Proofs.Writes

/-!
# Completing a match

`Completion` is what is known once a match has been completed. Outside the match's own row, its
statistics and its entries the store stays as it was (`Completion.frame`).
-/

namespace ClubPoints

open Form

/-! ## The facts and the assignments of a completion -/

namespace Store

theorem factsOf_eq_ok {roster : List PlayerRecord} {seen : List Int} {stats : List StatForm}
    {players : List PlayerFacts} (h : factsOf roster seen stats = .ok players) :
    players.map PlayerFacts.playerId = stats.map StatForm.playerId ∧
      (∀ stat ∈ stats, ∃ p ∈ roster, p.id = stat.playerId) ∧
      (∀ stat ∈ stats, stat.playerId ∉ seen) ∧ (stats.map StatForm.playerId).Nodup := by
  induction stats generalizing seen players with
  | nil => cases h; simp
  | cons stat rest ih =>
    unfold factsOf at h
    cases hp : roster.find? (fun p => p.id == stat.playerId) with
    | none => rw [hp] at h; cases h
    | some player =>
      rw [hp] at h
      dsimp only at h
      split at h
      · cases h
      · rename_i hseen
        obtain ⟨more, hmore, h⟩ := bind_eq_ok.mp h
        cases h
        obtain ⟨hids, hroster, hfresh, hnodup⟩ := ih hmore
        have hplayer : ∃ p ∈ roster, p.id = stat.playerId :=
          ⟨player, List.mem_of_find?_eq_some hp, by simpa using List.find?_some hp⟩
        refine ⟨by rw [List.map_cons, List.map_cons, hids]; rfl, ?_, ?_, ?_⟩
        · intro x hx
          rcases List.mem_cons.mp hx with rfl | hx
          · exact hplayer
          · exact hroster x hx
        · intro x hx
          rcases List.mem_cons.mp hx with rfl | hx
          · simpa using hseen
          · exact fun hs => hfresh x hx (List.mem_cons_of_mem _ hs)
        · rw [List.map_cons, List.nodup_cons, List.mem_map]
          refine ⟨fun ⟨x, hx, hxs⟩ => hfresh x hx ?_, hnodup⟩
          rw [hxs]
          exact List.mem_cons_self

structure Assigned (roster : List PlayerRecord) (rules : List RuleRecord) (seen : List (Int × Int))
    (items : List AssignmentForm) : Prop where
  players : ∀ a ∈ items, ∃ p ∈ roster, p.id = a.playerId
  rules : ∀ a ∈ items, ∃ r ∈ rules, r.id = a.ruleId
  fresh : ∀ a ∈ items, (a.playerId, a.ruleId) ∉ seen
  once : (items.map fun a => (a.playerId, a.ruleId)).Nodup

theorem assignmentsOf_cons_eq_ok {roster : List PlayerRecord} {rules : List RuleRecord}
    {seen : List (Int × Int)} {item : AssignmentForm} {rest : List AssignmentForm}
    {assignments : List Assignment} :
    assignmentsOf roster rules seen (item :: rest) = .ok assignments ↔
      (∃ p ∈ roster, p.id = item.playerId) ∧ (∃ r ∈ rules, r.id = item.ruleId) ∧
        (item.playerId, item.ruleId) ∉ seen ∧ ∃ more,
          assignmentsOf roster rules ((item.playerId, item.ruleId) :: seen) rest = .ok more ∧
            item.assignment :: more = assignments := by
  rw [assignmentsOf]
  by_cases hp : (roster.any fun p => p.id == item.playerId) = true
  · by_cases hr : (rules.any fun r => r.id == item.ruleId) = true
    · by_cases hs : (item.playerId, item.ruleId) ∈ seen
      · simp [hp, hr, hs]
      · rw [hp, hr, List.contains_eq_mem, decide_eq_false hs]
        simp only [List.any_eq_true, beq_iff_eq] at hp hr
        simp only [Bool.not_true, Bool.false_eq_true, ↓reduceIte, bind_eq_ok, pure_eq_ok]
        exact ⟨fun h => ⟨hp, hr, hs, h⟩, fun h => h.2.2.2⟩
    · have hnone : ¬∃ r ∈ rules, r.id = item.ruleId := by simpa using hr
      simp [hp, hr, hnone]
  · have hnone : ¬∃ p ∈ roster, p.id = item.playerId := by simpa using hp
    simp [hp, hnone]

theorem assignmentsOf_eq_ok {roster : List PlayerRecord} {rules : List RuleRecord}
    {seen : List (Int × Int)} {items : List AssignmentForm} {assignments : List Assignment} :
    assignmentsOf roster rules seen items = .ok assignments ↔
      Assigned roster rules seen items ∧ assignments = items.map AssignmentForm.assignment := by
  induction items generalizing seen assignments with
  | nil =>
    simp only [assignmentsOf, Except.ok.injEq, List.map_nil, eq_comm (a := [])]
    exact ⟨fun h => ⟨⟨nofun, nofun, nofun, .nil⟩, h⟩, And.right⟩
  | cons item rest ih =>
    rw [assignmentsOf_cons_eq_ok]
    constructor
    · rintro ⟨hp, hr, hs, more, hmore, rfl⟩
      obtain ⟨h, rfl⟩ := ih.mp hmore
      refine ⟨⟨?_, ?_, ?_, ?_⟩, rfl⟩
      · exact List.forall_mem_cons.mpr ⟨hp, h.players⟩
      · exact List.forall_mem_cons.mpr ⟨hr, h.rules⟩
      · exact List.forall_mem_cons.mpr
          ⟨hs, fun a ha hseen => h.fresh a ha (List.mem_cons_of_mem _ hseen)⟩
      · rw [List.map_cons, List.nodup_cons, List.mem_map]
        refine ⟨fun ⟨a, ha, hpair⟩ => h.fresh a ha ?_, h.once⟩
        rw [hpair]
        exact List.mem_cons_self
    · rintro ⟨h, rfl⟩
      obtain ⟨hp, hps⟩ := List.forall_mem_cons.mp h.players
      obtain ⟨hr, hrs⟩ := List.forall_mem_cons.mp h.rules
      obtain ⟨hs, hss⟩ := List.forall_mem_cons.mp h.fresh
      have honce := h.once
      rw [List.map_cons, List.nodup_cons, List.mem_map] at honce
      refine ⟨hp, hr, hs, _, ih.mpr ⟨⟨hps, hrs, ?_, honce.2⟩, rfl⟩, rfl⟩
      intro a ha hseen
      rcases List.mem_cons.mp hseen with hpair | hseen
      · exact honce.1 ⟨a, ha, hpair⟩
      · exact hss a ha hseen

end Store

/-! ## The rows that are written -/

/-- The custom values that a match keeps: those it had, if the new ones repeat them. -/
def Measure.keptOver (stored : Value) (measures : List (String × Measure)) : Value :=
  if allRepeat measures stored then stored else measuresDocument measures

theorem Measure.keptOver_twice (v : Value) (measures : List (String × Measure)) :
    keptOver (keptOver v measures) measures = keptOver v measures := by
  unfold keptOver
  by_cases h : allRepeat measures v = true
  · rw [if_pos h, if_pos h]
  · rw [if_neg h, ite_self]

def MatchRecord.completedBy (game : MatchRecord) (form : FactsForm) : MatchRecord :=
  { game with
    goalsFor := form.goalsFor
    goalsAgainst := form.goalsAgainst
    customValues := Measure.keptOver game.customValues form.customValues
    status := .completed }

namespace Store

theorem clearedMatch_eq_ok {s cleared : Store} {game : MatchRecord} {form : FactsForm} :
    s.clearedMatch game form = .ok cleared ↔
      fault? (s.games.filter fun g => g.id != game.id) (game.completedBy form) = none ∧
        s.holds (.team game.teamId) = true ∧
        cleared = { s with
          games := placed (s.games.filter fun g => g.id != game.id) (game.completedBy form)
          stats := s.stats.filter fun r => !(r.matchId == game.id)
          entries := s.entries.filter fun r => !(r.matchId == game.id) } := by
  have hupdate : ∀ u, s.update (game.completedBy form) = .ok u ↔
      fault? (s.games.filter fun g => g.id != game.id) (game.completedBy form) = none ∧
        s.holds (.team game.teamId) = true ∧
        u = { s with
          games := placed (s.games.filter fun g => g.id != game.id) (game.completedBy form) } := by
    intro u
    refine update_eq_ok.trans (and_congr_right fun _ => and_congr_left fun _ => ?_)
    exact ⟨fun h => h _ List.mem_cons_self, fun h ref href => List.mem_singleton.mp href ▸ h⟩
  simp only [clearedMatch, bind_eq_ok, pure_eq_ok]
  constructor
  · rintro ⟨u, hu, rfl⟩
    obtain ⟨hfault, hteam, rfl⟩ := (hupdate u).mp hu
    exact ⟨hfault, hteam, rfl⟩
  · rintro ⟨hfault, hteam, rfl⟩
    exact ⟨_, (hupdate _).mpr ⟨hfault, hteam, rfl⟩, rfl⟩

/-- What is known once a match has been completed. -/
structure Completion (s : Store) (id : Int) (form : CompletionForm) (withAutomatic : Bool)
    (t : Store) where
  game : MatchRecord
  team : TeamRecord
  rows : List LedgerRow
  cleared : Store
  stats : List StatRecord
  counted : Store
  unnumbered : List EntryRecord
  entries : List EntryRecord
  game_ok : s.get MatchRecord id .game = .ok game
  team_ok : s.get TeamRecord game.teamId .team = .ok team
  ledger : s.completionLedger team form withAutomatic = .ok rows
  points : s.entriesOfLedger id rows = .ok unnumbered
  cleared_eq : s.clearedMatch game form.facts = .ok cleared
  stats_ok : cleared.insertAll (form.facts.stats.map (statRecord id)) = .ok (counted, stats)
  entries_ok : counted.insertAll unnumbered = .ok (t, entries)

theorem completion_of_leads {s t : Store} {id : Int} {form : CompletionForm} {withAutomatic : Bool}
    (h : Leads (s.completeMatch id form withAutomatic) t) :
    Nonempty (Completion s id form withAutomatic t) := by
  unfold completeMatch at h
  obtain ⟨game, hgame, h⟩ := leads_bind.mp h
  obtain ⟨team, hteam, h⟩ := leads_bind.mp h
  obtain ⟨rows, hrows, h⟩ := leads_bind.mp h
  obtain ⟨unnumbered, hpoints, h⟩ := leads_bind.mp h
  obtain ⟨cleared, hcleared, h⟩ := leads_bind.mp h
  obtain ⟨_, h⟩ := leads_ok.mp h
  have hid : game.id = id := (find?_eq_some (get_eq_ok.mp hgame).2).2
  simp only [writeScores, hid, bind_eq_ok, Prod.exists, pure_eq_ok, Prod.mk.injEq] at h
  obtain ⟨counted, stats, hstats, _, entries, hentries, rfl, -⟩ := h
  exact ⟨{
    game, team, rows, cleared, stats, counted, unnumbered, entries
    game_ok := hgame
    team_ok := hteam
    ledger := hrows
    points := by rw [← hid]; exact judge_eq_ok.mp hpoints
    cleared_eq := (renamed_eq_ok _ _ _).mp hcleared
    stats_ok := hstats
    entries_ok := hentries }⟩

namespace Completion

variable {s t : Store} {id : Int} {form : CompletionForm} {withAutomatic : Bool}
  (c : Completion s id form withAutomatic t)
include c

theorem game_found : s.find? id = some c.game := (get_eq_ok.mp c.game_ok).2

theorem team_found : s.find? c.game.teamId = some c.team := (get_eq_ok.mp c.team_ok).2

theorem game_id : c.game.id = id := (find?_eq_some c.game_found).2

theorem stats_inserted :
    InsertedAll c.cleared (form.facts.stats.map (statRecord id)) c.stats c.counted :=
  insertAll_eq_ok c.stats_ok

theorem entries_inserted : InsertedAll c.counted c.unnumbered c.entries t :=
  insertAll_eq_ok c.entries_ok

theorem leads : Leads (s.completeMatch id form withAutomatic) t := by
  have hpoints : s.entriesOfLedger c.game.id c.rows = .ok c.unnumbered := by
    rw [c.game_id]
    exact c.points
  unfold completeMatch
  refine leads_bind.mpr ⟨c.game, c.game_ok, ?_⟩
  refine leads_bind.mpr ⟨c.team, c.team_ok, ?_⟩
  refine leads_bind.mpr ⟨c.rows, c.ledger, ?_⟩
  refine leads_bind.mpr ⟨c.unnumbered, judge_eq_ok.mpr hpoints, ?_⟩
  refine leads_bind.mpr ⟨c.cleared, (renamed_eq_ok _ _ _).mpr c.cleared_eq, ?_⟩
  refine leads_ok.mpr ⟨(), ?_⟩
  simp only [writeScores, c.game_id, bind_eq_ok, Prod.exists, pure_eq_ok]
  exact ⟨c.counted, c.stats, c.stats_ok, t, c.entries, c.entries_ok, rfl⟩

/-- The match, its statistics and its entries are replaced, and nothing else is. -/
theorem store_eq :
    t = { s with
      games := placed (s.games.filter fun g => g.id != id) (c.game.completedBy form.facts)
      stats := placedAll (s.stats.filter fun r => !(r.matchId == id)) c.stats
      entries := placedAll (s.entries.filter fun r => !(r.matchId == id)) c.entries } := by
  obtain ⟨-, -, hcleared⟩ := clearedMatch_eq_ok.mp c.cleared_eq
  refine c.entries_inserted.store.trans ?_
  rw [c.stats_inserted.store, hcleared, c.game_id]
  rfl

theorem games_eq :
    t.games = placed (s.games.filter fun g => g.id != id) (c.game.completedBy form.facts) :=
  congrArg Store.games c.store_eq

theorem stats_eq : t.stats = placedAll (s.stats.filter fun r => !(r.matchId == id)) c.stats :=
  congrArg Store.stats c.store_eq

theorem entries_eq :
    t.entries = placedAll (s.entries.filter fun r => !(r.matchId == id)) c.entries :=
  congrArg Store.entries c.store_eq

theorem frame : t = { s with games := t.games, stats := t.stats, entries := t.entries } :=
  c.store_eq.trans (by rw [← c.games_eq, ← c.stats_eq, ← c.entries_eq])

theorem completed_found : t.find? id = some (c.game.completedBy form.facts) := by
  have h : (t.games).find? (fun g => g.id == (c.game.completedBy form.facts).id) =
      some (c.game.completedBy form.facts) := by
    rw [c.games_eq]
    refine find?_placed fun x hx => ?_
    have : x.id ≠ id := by simpa using (List.mem_filter.mp hx).2
    exact fun h => this (h.trans c.game_id)
  rw [show (c.game.completedBy form.facts).id = id from c.game_id] at h
  exact h

theorem stats_numbered :
    List.Forall₂ (fun f r => ∃ n, r = { statRecord id f with id := n }) form.facts.stats
      c.stats :=
  List.forall₂_map_left_iff.mp c.stats_inserted.numbers

theorem entries_numbered :
    List.Forall₂ (fun row e => ∃ points n,
      (s.rate (some row.profileId) row.ruleId).earned row.points = .ok points ∧
        e = { entryRecord id row points with id := n }) c.rows c.entries := by
  have hpoints := mapM_eq_ok.mp c.points
  have hnumbers := c.entries_inserted.numbers
  generalize c.unnumbered = xs at hpoints hnumbers
  generalize c.entries = es at hnumbers
  generalize c.rows = rows at hpoints
  induction hpoints generalizing es with
  | nil => cases hnumbers; exact .nil
  | cons hx _ ih =>
    cases hnumbers with
    | cons hn hrest =>
      obtain ⟨points, hpoints, rfl⟩ := map_eq_ok.mp hx
      obtain ⟨n, rfl⟩ := hn
      exact .cons ⟨points, n, hpoints, rfl⟩ (ih _ hrest)

end Completion

/-! ## Requests that complete a match -/

section

variable {s t : Store} {x : Arrival} {id : Int} {form : CompletionForm}
  (hx : x.request.action = .ok (.completeMatch id form))
include hx

theorem completion_of_served (h : (s.served x).1.hasStatus 200 = true) :
    x.isRefused = false ∧ ∃ (t : Store) (_ : Completion s id form x.policy.keepsAutomatic t)
      (v : Value), t.showCompletion id form.facts = some v ∧
        s.served x = (.shown 200 v.presentable, t) := by
  rw [served_of_action hx] at h ⊢
  obtain ⟨hrefused, t, v, hleads, hv, hserve⟩ := Action.serve_completeMatch.mp h
  obtain ⟨c⟩ := completion_of_leads hleads
  exact ⟨hrefused, t, c, v, hv, hserve⟩

theorem served_of_completion (hrefused : x.isRefused = false)
    (c : Completion s id form x.policy.keepsAutomatic t) {v : Value}
    (hv : t.showCompletion id form.facts = some v) :
    s.served x = (.shown 200 v.presentable, t) := by
  rw [served_of_action hx, hrefused]
  exact Action.serve_of_leads c.leads hv

end

end Store

end ClubPoints
