import ClubPoints.Proofs.InTurn
import ClubPoints.Proofs.Rejection

/-!
# Matches are shown

All that is stored of matches can be shown (`Showable`): goals and counts are whole, and custom
values are measures. So every match and its ledger are shown when they are asked for, and both tell
the same points (`Reachable.showsPoints`).
-/

namespace ClubPoints

open Form View

/-! ## Entries -/

theorem EntryRecord.IsFormed.exists_view {e : EntryRecord} (h : e.IsFormed) :
    ∃ v, e.view? = some v ∧ e.points = .whole v.points := by
  have hwhole : ∃ count points : Int, e.count = some (.whole count) ∧ e.points = .whole points := by
    unfold IsFormed at h
    split at h
    · obtain ⟨count, n, -, -, hcount, hpoints, -⟩ := h
      exact ⟨count, count * n, hcount, hpoints⟩
    · obtain ⟨hcount, ⟨n, hpoints⟩, -⟩ := h
      exact ⟨1, n, hcount, hpoints⟩
  obtain ⟨count, points, hcount, hpoints⟩ := hwhole
  unfold view?
  rw [hcount, hpoints]
  exact ⟨_, rfl, rfl⟩

theorem EntryRecord.exists_views {entries : List EntryRecord} (h : ∀ e ∈ entries, e.IsFormed) :
    ∃ views, entries.mapM view? = some views ∧
      views.map EntryView.points = entries.map fun e => e.points.unit := by
  induction entries with
  | nil => exact ⟨[], rfl, rfl⟩
  | cons e rest ih =>
    obtain ⟨he, hrest⟩ := List.forall_mem_cons.mp h
    obtain ⟨v, hv, hpoints⟩ := he.exists_view
    obtain ⟨views, hviews, hsame⟩ := ih hrest
    refine ⟨v :: views, by rw [List.mapM_cons, hv, hviews]; rfl, ?_⟩
    rw [List.map_cons, List.map_cons, hsame, hpoints, Amount.unit_whole]

/-! ## What is stored can be shown -/

theorem MatchRecord.completedBy_shown {game : MatchRecord} (h : ∃ v, game.view? = some v)
    (form : FactsForm) : ∃ v, (game.completedBy form).view? = some v := by
  obtain ⟨v, hv⟩ := h
  obtain ⟨values, hvalues, -⟩ := Option.bind_eq_some_iff.mp hv
  -- the custom values are those that were stored, or those that were given
  have hkept : ∃ values, (measures (game.completedBy form).customValues).toOption = some values := by
    change ∃ values, (measures (Measure.keptOver game.customValues form.customValues)).toOption =
      some values
    unfold Measure.keptOver
    split
    · exact ⟨values, hvalues⟩
    · exact measures_total form.customValues
  obtain ⟨kept, hkept⟩ := hkept
  unfold view?
  rw [hkept]
  exact ⟨_, rfl⟩

namespace Store

variable {s t : Store}

structure Showable (s : Store) : Prop where
  stats : ∀ r ∈ s.stats, ∃ v, r.view? = some v
  games : ∀ g ∈ s.games, ∃ v, g.view? = some v

namespace Showable

theorem empty : Showable {} :=
  ⟨fun _ h => absurd h List.not_mem_nil, fun _ h => absurd h List.not_mem_nil⟩

theorem turns {policy : Policy} {a : Action} (hn : s.Numbered) (h : s.Showable)
    (ht : a.Turns policy s t) : t.Showable := by
  constructor
  · rcases Grows.or_completed hn ht with hgrows | ⟨id, form, -, ⟨c⟩⟩
    · rw [hgrows.stats]
      exact h.stats
    · intro r hr
      rcases c.mem_stats.mp hr with hr | ⟨hr, -⟩
      · obtain ⟨f, -, n, rfl⟩ := exists_of_forall₂ c.stats_numbered r hr
        exact statRecord_shown f n
      · exact h.stats r hr
  · rcases ht.touched.games with hsame | ⟨form, ht⟩ | ⟨id, form, _, ht⟩
    · rw [hsame]
      exact h.games
    · obtain ⟨-, -, rfl⟩ := createMatch_leads ht
      intro g hg
      rcases mem_placed.mp hg with rfl | hg
      · exact ⟨_, rfl⟩
      · exact h.games g hg
    · obtain ⟨c⟩ := completion_of_leads ht
      rw [c.games_eq]
      intro g hg
      rcases mem_placed.mp hg with rfl | hg
      · exact (c.game).completedBy_shown (h.games _ (find?_eq_some c.game_found).1) form.facts
      · exact h.games g (List.mem_filter.mp hg).1

end Showable

theorem Reachable.showable (h : s.Reachable) : s.Showable :=
  h.induction .empty fun _ _ _ _ hr hs _ ht => hs.turns hr.numbered ht

end Store

/-! ## Points that are shown -/

def View.ScoredMatchView.pointsOf (v : ScoredMatchView) : PointType → Int
  | .team => v.teamPoints
  | .club => v.clubPoints

namespace Store

variable {s : Store}

/-- A match is shown on request with so many points of one type, and so is its ledger of this type,
where they are the sum of the entries. -/
structure ShowsPoints (s : Store) (matchId : Int) (pointType : PointType) (points : Int) :
    Prop where
  game : ∀ x : Arrival, x.request.action = .ok (.showMatch matchId) → ∃ view : ScoredMatchView,
    s.served x = (.shown 200 view.document.presentable, s) ∧ view.pointsOf pointType = points
  ledger : ∀ x : Arrival, x.request.action = .ok (.showLedger matchId (some pointType)) →
    ∃ entries : List EntryView,
      s.served x = (.shown 200 (Value.listed EntryView.document entries).presentable, s) ∧
        (entries.map EntryView.points).sum = points

theorem Reachable.showsPoints (h : s.Reachable) {game : MatchRecord} (hgame : game ∈ s.games)
    (pointType : PointType) : s.ShowsPoints game.id pointType (s.pointsOf game.id pointType) := by
  have hget : s.get MatchRecord game.id .game = .ok game :=
    h.inTurn.games.get_eq .game (find?_of_mem h.numbered.games hgame)
  have hformed : ∀ e ∈ s.entriesOf game.id, e.IsFormed := fun e he =>
    h.scored.formed e (List.mem_filter.mp he).1
  constructor
  · intro x hx
    obtain ⟨view, hview, hteam, hclub⟩ := exists_scoredMatchView (h.showable.games game hgame)
      (fun r hr => h.showable.stats r (List.mem_filter.mp hr).1)
      (fun e he => (hformed e he).exists_view)
    have hshown : s.showMatch game.id = .ok (some view.document) := by
      refine bind_eq_ok.mpr ⟨game, hget, ?_⟩
      rw [hview]
      rfl
    refine ⟨view, ?_, ?_⟩
    · rw [served_of_action hx, Action.serve, Action.run, hshown]
      rfl
    · cases pointType with
      | team => exact hteam
      | club => exact hclub
  · intro x hx
    have hledger : ∀ e ∈ s.ledgerOf game.id (some pointType), e.IsFormed := by
      intro e he
      rw [ledgerOf, List.mem_mergeSort] at he
      exact hformed e (List.mem_filter.mp he).1
    obtain ⟨views, hviews, hsame⟩ := EntryRecord.exists_views hledger
    have hshown : s.showLedger game.id (some pointType) =
        .ok (some (Value.listed EntryView.document views)) := by
      refine bind_eq_ok.mpr ⟨game, hget, ?_⟩
      rw [hviews]
      rfl
    refine ⟨views, ?_, ?_⟩
    · rw [served_of_action hx, Action.serve, Action.run, hshown]
      rfl
    · rw [hsame]
      rfl

end Store

end ClubPoints
