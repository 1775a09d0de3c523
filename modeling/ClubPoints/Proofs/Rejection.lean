import ClubPoints.Proofs.Accepted
import ClubPoints.Proofs.RoundTrip
import Mathlib.Algebra.Ring.Int.Defs

/-!
# Requests that are not carried out

Rows that were accepted can be shown (`Action.shown_of_run`), so a request that is not answered with
success has committed nothing, however far it got (`rejected_changes_nothing`).
-/

namespace ClubPoints

open Form View

/-! ## Documents that can be shown -/

theorem Form.Checked.all_total {α β : Type} {read : Nat → α → Checked β} {xs : List α}
    (h : ∀ n, ∀ x ∈ xs, ∃ y, read n x = .valid y) (n : Nat) :
    ∃ ys, Checked.all read n xs = .valid ys := by
  induction xs generalizing n with
  | nil => exact ⟨[], rfl⟩
  | cons x rest ih =>
    obtain ⟨y, hy⟩ := h n x (by simp)
    obtain ⟨ys, hys⟩ := ih (fun k z hz => h k z (List.mem_cons_of_mem _ hz)) (n + 1)
    exact ⟨y :: ys, by rw [Checked.all, hy, hys]; rfl⟩

theorem Form.measures_total (ms : List (String × Measure)) :
    ∃ shown, (measures (measuresDocument ms)).toOption = some shown := by
  suffices h : ∃ shown, measures (measuresDocument ms) = .valid shown by
    obtain ⟨shown, hshown⟩ := h
    exact ⟨shown, by rw [hshown]; rfl⟩
  refine Checked.all_total (fun n x hx => ?_) 0
  obtain ⟨⟨key, m⟩, -, rfl⟩ := List.mem_map.mp hx
  cases m <;> exact ⟨_, rfl⟩

theorem View.RuleView.readPositions_total (positions : List Position) :
    ∃ shown, (readPositions (.list (positions.map fun p => .text p.name))).toOption =
      some shown := by
  suffices h : ∃ shown, readPositions (.list (positions.map fun p => .text p.name)) =
      .valid shown by
    obtain ⟨shown, hshown⟩ := h
    exact ⟨shown, by rw [hshown]; rfl⟩
  refine Checked.all_total (fun n x hx => ?_) 0
  obtain ⟨p, -, rfl⟩ := List.mem_map.mp hx
  cases p <;> exact ⟨_, rfl⟩

theorem RuleRecord.exists_view {r : RuleRecord} {points : Int} {positions : List Position}
    (hpoints : r.points = .whole points)
    (hpositions : r.targetPositions = .list (positions.map fun p => .text p.name))
    (conditions : List ConditionRecord) : ∃ v, r.view? conditions = some v := by
  obtain ⟨shown, hshown⟩ := RuleView.readPositions_total positions
  rw [← hpositions] at hshown
  unfold RuleRecord.view?
  rw [hpoints, hshown]
  exact ⟨_, rfl⟩

namespace Store

variable {s t : Store} {id : Int} {form : CompletionForm} {withAutomatic : Bool}

theorem statRecord_shown (f : StatForm) (n : Int) :
    ∃ v, StatRecord.view? { statRecord id f with id := n } = some v := by
  obtain ⟨shown, hshown⟩ := measures_total f.customValues
  dsimp only [StatRecord.view?, statRecord]
  rw [hshown]
  exact ⟨_, rfl⟩

theorem exists_profileView (h : s.Configured) (profile : ProfileRecord) :
    ∃ v, s.profileView? profile = some v := by
  have hrules : ∀ r ∈ s.profileRulesOf profile.id, ∃ v, ProfileRuleRecord.view? r = some v := by
    intro r hr
    unfold ProfileRuleRecord.view?
    cases hpoints : r.customPoints with
    | none => exact ⟨_, rfl⟩
    | some a =>
      obtain ⟨n, rfl⟩ := h.customPoints r (List.mem_filter.mp hr).1 a hpoints
      exact ⟨_, rfl⟩
  obtain ⟨views, hviews, -⟩ := exists_mapM_some hrules
  unfold profileView? ProfileRecord.view?
  rw [hviews]
  exact ⟨_, rfl⟩

theorem total_whole {entries : List EntryRecord} (h : ∀ e ∈ entries, ∃ n, e.points = .whole n) :
    EntryRecord.total? entries = some (entries.map fun e => e.points.unit).sum := by
  have hwhole : entries.map EntryRecord.points =
      (entries.map fun e => e.points.unit).map Amount.whole := by
    rw [List.map_map]
    refine List.map_congr_left fun e he => ?_
    obtain ⟨n, hn⟩ := h e he
    rw [hn, Function.comp_apply, hn, Amount.unit_whole]
  unfold EntryRecord.total?
  rw [hwhole, Amount.sum_whole, ← List.sum_eq_foldl]
  rfl

def pointsOf (s : Store) (matchId : Int) (pointType : PointType) : Int :=
  ((s.ledgerOf matchId (some pointType)).map fun e => e.points.unit).sum

theorem viewWith?_eq_some {game : MatchRecord} {values : List (String × Measure)} {v : MatchView}
    (h : game.viewWith? values = some v) (values' : List (String × Measure)) :
    game.viewWith? values' = some { v with customValues := values' } := by
  unfold MatchRecord.viewWith? at h ⊢
  cases hfor : game.goalsFor.shown? with
  | none =>
    rw [hfor] at h
    cases h
  | some n =>
    cases hagainst : game.goalsAgainst.shown? with
    | none =>
      rw [hfor, hagainst] at h
      cases h
    | some m =>
      rw [hfor, hagainst] at h
      cases h
      rfl

theorem exists_scoredMatchView {game : MatchRecord} (hgame : ∃ v, game.view? = some v)
    (hstats : ∀ r ∈ s.statsOf game.id, ∃ v, r.view? = some v)
    (hentries : ∀ e ∈ s.entriesOf game.id, ∃ v, e.view? = some v ∧ e.points = .whole v.points) :
    ∃ view, s.scoredMatchView? game = some view ∧
      view.teamPoints = s.pointsOf game.id .team ∧ view.clubPoints = s.pointsOf game.id .club := by
  obtain ⟨v, hv⟩ := hgame
  obtain ⟨values, hvalues, hv⟩ := Option.bind_eq_some_iff.mp hv
  have hledger {type : Option PointType} {e : EntryRecord} (he : e ∈ s.ledgerOf game.id type) :
      ∃ v, e.view? = some v ∧ e.points = .whole v.points := by
    rw [ledgerOf, List.mem_mergeSort] at he
    exact hentries e (List.mem_filter.mp he).1
  have htotal (type : PointType) : s.pointsOf? game.id type = some (s.pointsOf game.id type) := by
    refine total_whole fun e he => ?_
    obtain ⟨v, -, hpoints⟩ := hledger he
    exact ⟨v.points, hpoints⟩
  have hstat : ∀ r ∈ (s.statsOf game.id).mergeSort fun a b => decide (a.playerId ≤ b.playerId),
      ∃ v, r.view? = some v := fun r hr => hstats r (List.mem_mergeSort.mp hr)
  have hentry : ∀ e ∈ s.ledgerOf game.id none, ∃ v, e.view? = some v :=
    fun e he => (hledger he).imp fun _ h => h.1
  obtain ⟨stats, hstats, -⟩ := exists_mapM_some hstat
  obtain ⟨ledger, hledger, -⟩ := exists_mapM_some hentry
  unfold scoredMatchView?
  simp only [hvalues, viewWith?_eq_some hv, hstats, hledger, htotal]
  cases game.customValues.isGiven <;> exact ⟨_, rfl, rfl, rfl⟩

/-! ## What is committed can be shown -/

namespace Completion

variable (c : Completion s id form withAutomatic t)
include c

theorem stats_shown : ∀ r ∈ t.statsOf id, ∃ v, r.view? = some v := by
  intro r hr
  obtain ⟨hr, hmatch⟩ := List.mem_filter.mp hr
  rcases c.mem_stats.mp hr with hr | ⟨-, hother⟩
  · obtain ⟨f, -, n, rfl⟩ := exists_of_forall₂ c.stats_numbered r hr
    exact statRecord_shown f n
  · exact absurd (eq_of_beq hmatch) hother

theorem entries_shown (hc : s.Configured) :
    ∀ e ∈ t.entriesOf id, ∃ v, e.view? = some v ∧ e.points = .whole v.points := by
  intro e he
  obtain ⟨row, -, n, rfl⟩ := c.row_of_entriesOf hc he
  exact ⟨_, rfl, rfl⟩

theorem shown (hc : s.Configured) : ∃ v, t.showCompletion id form.facts = some v := by
  have hgame : ∃ v, MatchRecord.view? { c.game.completedBy form.facts with
      customValues := measuresDocument form.facts.customValues } = some v := by
    obtain ⟨values, hvalues⟩ := measures_total form.facts.customValues
    unfold MatchRecord.view?
    rw [hvalues]
    exact ⟨_, rfl⟩
  have hid : c.game.id = id := c.game_id
  obtain ⟨v, hv, -⟩ := exists_scoredMatchView hgame
    (by
      change ∀ r ∈ t.statsOf c.game.id, _
      rw [hid]
      exact c.stats_shown)
    (by
      change ∀ e ∈ t.entriesOf c.game.id, _
      rw [hid]
      exact c.entries_shown hc)
  refine ⟨v.document, Option.bind_eq_some_iff.mpr ⟨_, c.completed_found, ?_⟩⟩
  exact Option.bind_eq_some_iff.mpr ⟨v, hv, rfl⟩

end Completion

theorem createMatch_shown {form : FixtureForm} {c : Change MatchRecord} {game : MatchRecord}
    (hc : s.createMatch form = .ok c) (hw : c.write = .ok (t, game)) :
    ∃ v, game.view?.map MatchView.document = some v := by
  unfold createMatch at hc
  dsimp only at hc
  by_cases hempty : Text.squeeze form.opponent = ""
  · rw [if_pos hempty] at hc
    cases hc
  · rw [if_neg hempty] at hc
    obtain ⟨team, -, hc⟩ := bind_eq_ok.mp hc
    cases hc
    obtain ⟨⟨u, r⟩, hinsert, hkept⟩ := map_eq_ok.mp hw
    obtain ⟨hr, -⟩ := insert_eq_ok.mp hinsert
    cases hkept
    rw [hr]
    exact ⟨_, rfl⟩

theorem createRule_shown {form : RuleForm} {c : Change (RuleRecord × List ConditionRecord)}
    {r : RuleRecord × List ConditionRecord} (hc : s.createRule form = .ok c)
    (hw : c.write = .ok (t, r)) : ∃ v, showNewRule r = some v := by
  obtain ⟨-, -, rfl⟩ := createRule_eq_ok.mp hc
  obtain ⟨rule, conditions⟩ := r
  obtain ⟨u, hrule, -⟩ := writeRule_eq_ok.mp hw
  obtain ⟨hrecord, -⟩ := insert_eq_ok.mp hrule
  have hpositions : rule.targetPositions = .list ((if form.targetScope = .byPosition then
      form.targetPositions else []).map fun p => .text p.name) := by
    rw [hrecord]
    exact congrArg Value.list (apply_ite (List.map fun p : Position => Value.text p.name)
      (_ = TargetScope.byPosition) _ []).symm
  obtain ⟨v, hv⟩ := RuleRecord.exists_view (by rw [hrecord]; rfl) hpositions conditions
  exact ⟨v.document, by rw [showNewRule, hv]; rfl⟩

theorem setRuleActive_shown (hs : s.Reachable) {form : ActivityForm} {c : Change RuleRecord}
    {r : RuleRecord} (hc : s.setRuleActive id form = .ok c) (hw : c.write = .ok (t, r)) :
    ∃ v, t.showRule r = some v := by
  unfold setRuleActive at hc
  obtain ⟨rule, hrule, hc⟩ := bind_eq_ok.mp hc
  cases hc
  obtain ⟨u, -, hkept⟩ := map_eq_ok.mp hw
  cases hkept
  obtain ⟨hmem, -⟩ := find?_eq_some (get_eq_ok.mp hrule).2
  obtain ⟨points, hpoints⟩ := hs.configured.points rule hmem
  obtain ⟨positions, hpositions⟩ := hs.accepted.positions rule hmem
  obtain ⟨v, hv⟩ := RuleRecord.exists_view (r := { rule with isActive := form.isActive }) hpoints
    hpositions (t.conditionsOf rule.id)
  exact ⟨v.document, congrArg (Option.map RuleView.document) hv⟩

theorem exists_showProfile (h : t.Configured) (profile : ProfileRecord) :
    ∃ v, t.showProfile profile = some v := by
  obtain ⟨v, hv⟩ := exists_profileView h profile
  exact ⟨v.document, congrArg (Option.map ProfileView.document) hv⟩

end Store

theorem Outcome.shown_of_change {α : Type} {isRefused : Bool} {change : Except Cause (Change α)}
    {shown : Store → α → Option Value} {o : Outcome}
    (hshown : ∀ c t a, change = .ok c → c.write = .ok (t, a) → ∃ v, shown t a = some v)
    (h : ofChange isRefused change shown = .ok o) : ∃ v, o.shown = some v := by
  obtain ⟨-, c, t, a, hc, hw, rfl⟩ := ofChange_eq_ok.mp h
  exact hshown c t a hc hw

theorem Action.shown_of_run {policy : Policy} {isRefused : Bool} {s : Store} {a : Action}
    {o : Outcome} (hs : s.Reachable) (h : a.run policy isRefused s = .ok o) :
    o.store = s ∨ ∃ v, o.shown = some v := by
  have hturns : a.Turns policy s o.store := turns_of_run h
  have hconfigured : o.store.Configured := hs.configured.turns hs.numbered hturns
  cases a <;> simp only [run] at h
  case completeMatch id form =>
    refine .inr (Outcome.shown_of_change (fun c t a hc hw => ?_) h)
    obtain ⟨d⟩ := Store.completion_of_leads ⟨c, a, hc, hw⟩
    exact d.shown hs.configured
  case createMatch => exact .inr (Outcome.shown_of_change (fun _ _ _ => Store.createMatch_shown) h)
  case createRule => exact .inr (Outcome.shown_of_change (fun _ _ _ => Store.createRule_shown) h)
  case setRuleActive =>
    exact .inr (Outcome.shown_of_change (fun _ _ _ => Store.setRuleActive_shown hs) h)
  case createProfile =>
    obtain ⟨-, c, t, profile, -, -, rfl⟩ := Outcome.ofChange_eq_ok.mp h
    exact .inr (Store.exists_showProfile hconfigured profile)
  case createClub | createTeam | setTeamProfile | createPlayer | createVariable |
      setVariableActive | deleteVariable =>
    exact .inr (Outcome.shown_of_change (fun _ _ _ _ _ => ⟨_, rfl⟩) h)
  case listMatches | showMatch | showLedger | listRules | showRule | listProfiles | showProfile =>
    obtain ⟨_, -, rfl⟩ := Outcome.ofQuery?_eq_ok.mp h
    exact .inl rfl
  all_goals
    obtain ⟨_, -, rfl⟩ := Outcome.ofQuery_eq_ok.mp h
    exact .inl rfl

/-! ## Answers that are no success -/

theorem Action.successStatus_lt (a : Action) : a.successStatus < 300 := by
  unfold successStatus
  split <;> decide

namespace Store

variable {s cleared : Store}

theorem served_of_failure (hs : s.Reachable) {x : Arrival}
    (h : (s.served x).1.isSuccess = false) : (s.served x).2 = s := by
  unfold served Request.serve at h ⊢
  cases ha : x.request.action with
  | error answer => rfl
  | ok a =>
    simp only [ha, Action.serve] at h ⊢
    cases hrun : a.run x.policy x.isRefused s with
    | error cause => rfl
    | ok o =>
      simp only [hrun] at h ⊢
      cases hshown : o.shown with
      | none =>
        rcases Action.shown_of_run hs hrun with hstore | ⟨v, hv⟩
        · exact hstore
        · rw [hv] at hshown
          cases hshown
      | some v =>
        simp only [hshown, Answer.isSuccess, decide_eq_false_iff_not] at h
        exact absurd a.successStatus_lt h

theorem nothing_of_cleared {game : MatchRecord} {form : FactsForm}
    (h : s.clearedMatch game form = .ok cleared) :
    cleared.statsOf game.id = [] ∧ cleared.entriesOf game.id = [] := by
  obtain ⟨-, -, rfl⟩ := clearedMatch_eq_ok.mp h
  constructor
  · rw [statsOf, List.filter_filter]
    simp
  · rw [entriesOf, List.filter_filter]
    simp

theorem clubDefault?_beforeProfile {form : ProfileForm} (h : form.isClubDefault = true) :
    (s.beforeProfile form).clubDefault? form.clubId = none := by
  rw [beforeProfile, if_pos h]
  refine List.find?_eq_none.mpr fun p hp => ?_
  obtain ⟨q, -, rfl⟩ := List.mem_map.mp hp
  by_cases hclub : q.clubId = form.clubId <;> simp [hclub]

/-- A request that is answered with anything but success leaves the store as it was. So a match
keeps its statistics and its ledger when a completion fails that has already removed them, and a club
keeps its default profile when a new one fails that has already taken its place. -/
theorem rejected_changes_nothing (s : Store) (hs : s.Reachable) (x : Arrival)
    (h : (s.served x).1.isSuccess = false) :
    (s.served x).2 = s ∧
    (∀ (id : Int) (form : CompletionForm) (game : MatchRecord) (cleared : Store),
      x.request.action = .ok (.completeMatch id form) → s.find? id = some game →
      s.clearedMatch game form.facts = .ok cleared →
        cleared.statsOf id = [] ∧ cleared.entriesOf id = [] ∧
        (s.served x).2.statsOf id = s.statsOf id ∧
        (s.served x).2.entriesOf id = s.entriesOf id) ∧
    ∀ form : ProfileForm,
      x.request.action = .ok (.createProfile form) → form.isClubDefault = true →
        (s.beforeProfile form).clubDefault? form.clubId = none ∧
        (s.served x).2.clubDefault? form.clubId = s.clubDefault? form.clubId := by
  have hstore : (s.served x).2 = s := served_of_failure hs h
  refine ⟨hstore, ?_, ?_⟩
  · intro id form game cleared _ hgame hcleared
    have hid : game.id = id := (find?_eq_some hgame).2
    obtain ⟨hstats, hentries⟩ := nothing_of_cleared hcleared
    rw [hid] at hstats hentries
    exact ⟨hstats, hentries, by rw [hstore], by rw [hstore]⟩
  · intro form _ hdefault
    exact ⟨clubDefault?_beforeProfile hdefault, by rw [hstore]⟩

def withoutCaptain : CompletionForm where
  facts := { goalsFor := 2, stats := [{ playerId := 1 }] }

def otherDefault : ProfileForm where
  clubId := 1
  name := "Other"
  isClubDefault := true
  rules := [{ ruleId := 2 }]

theorem rejected_changes_nothing_season :
    ((after {} season).served
        { Arrival.posting "/matches/1/complete" withoutCaptain.document with
          isRefused := true }).2 = after {} season ∧
    ((after {} season).entriesOf 1).map (fun e => e.points.whole?) = [some 10] ∧
    (((after {} season).served
        { Arrival.posting "/profiles/" otherDefault.document with
          isRefused := true }).2.clubDefault? 1).map ProfileRecord.name = some "Club" := by
  refine ⟨?_, by decide +kernel, ?_⟩
  · exact (rejected_changes_nothing (after {} season) ⟨season, rfl⟩ _ (by decide +kernel)).1
  · have hkept := ((rejected_changes_nothing (after {} season) ⟨season, rfl⟩
      { Arrival.posting "/profiles/" otherDefault.document with isRefused := true }
      (by decide +kernel)).2.2 otherDefault rfl rfl).2
    refine (congrArg (Option.map ProfileRecord.name) hkept).trans ?_
    decide +kernel

end Store

end ClubPoints
