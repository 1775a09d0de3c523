import ClubPoints.Proofs.Scores

/-!
# Completing a match again

A completion replaces everything that an earlier one brought, but custom values which repeat the
stored ones leave those as they are. Two stores that differ only in one match are therefore made the
same by completing it, up to its custom values (`Completion.carried`).
-/

namespace ClubPoints

open Form

def MatchRecord.revalued (id : Int) (v : Value) (g : MatchRecord) : MatchRecord :=
  if g.id = id then { g with customValues := v } else g

namespace MatchRecord

@[simp] theorem revalued_id (id : Int) (v : Value) (g : MatchRecord) :
    (g.revalued id v).id = g.id := by
  unfold revalued
  split <;> rfl

theorem revalued_of_eq {id : Int} {v : Value} {g : MatchRecord} (h : g.id = id) :
    g.revalued id v = { g with customValues := v } := if_pos h

theorem revalued_of_ne {id : Int} {v : Value} {g : MatchRecord} (h : g.id ≠ id) :
    g.revalued id v = g := if_neg h

theorem map_revalued_of_ne {id : Int} {games : List MatchRecord} (h : ∀ g ∈ games, g.id ≠ id)
    (v : Value) : games.map (revalued id v) = games := by
  have hsame : games.map (revalued id v) = games.map fun g => g :=
    List.map_congr_left fun g hg => revalued_of_ne (h g hg)
  rw [hsame, List.map_id']

end MatchRecord

namespace Store

variable {s t u : Store} {id : Int} {form : CompletionForm} {withAutomatic : Bool}

/-! ## Other custom values -/

def withCustomValues (s : Store) (id : Int) (v : Value) : Store :=
  { s with games := s.games.map (MatchRecord.revalued id v) }

theorem holds_withCustomValues (s : Store) (id : Int) (v : Value) (ref : Reference) :
    (s.withCustomValues id v).holds ref = s.holds ref := by
  cases ref with
  | game n => simp [withCustomValues, holds, List.any_map, Function.comp_def]
  | _ => rfl

theorem find?_withCustomValues {game : MatchRecord} (h : s.find? id = some game) (v : Value) :
    (s.withCustomValues id v).find? id = some { game with customValues := v } := by
  have hid : game.id = id := (find?_eq_some h).2
  have hfind : s.games.find? (fun g => g.id == id) = some game := h
  change (s.games.map (MatchRecord.revalued id v)).find? (fun g => g.id == id) = _
  rw [List.find?_map]
  simp only [Function.comp_def, MatchRecord.revalued_id]
  rw [hfind, Option.map_some, MatchRecord.revalued_of_eq hid]

theorem withCustomValues_inj {game : MatchRecord} (h : s.find? id = some game) {v w : Value} :
    s.withCustomValues id v = s.withCustomValues id w ↔ v = w := by
  refine ⟨fun heq => ?_, fun heq => by rw [heq]⟩
  have hv := find?_withCustomValues h v
  rw [heq, find?_withCustomValues h w, Option.some.injEq] at hv
  exact (congrArg MatchRecord.customValues hv).symm

theorem withCustomValues_self (hn : s.Numbered) {game : MatchRecord} (h : s.find? id = some game) :
    s.withCustomValues id game.customValues = s := by
  obtain ⟨hgame, hid⟩ := find?_eq_some h
  have hgames : s.games.map (MatchRecord.revalued id game.customValues) = s.games := by
    refine (List.map_congr_left fun g hg => ?_).trans (List.map_id _)
    by_cases hgid : g.id = id
    · have hgg : g = game := List.inj_on_of_nodup_map hn.games hg hgame (hgid.trans hid.symm)
      rw [MatchRecord.revalued_of_eq hgid, hgg]
      rfl
    · rw [MatchRecord.revalued_of_ne hgid]
      rfl
  rw [withCustomValues, hgames]

/-! ## Stores that differ in one match -/

/-- Two stores differ at most in the status, goals, custom values and scores of one match. -/
structure AgreeBut (id : Int) (s u : Store) : Prop where
  frame : u = { s with games := u.games, stats := u.stats, entries := u.entries }
  games : u.games.filter (fun g => g.id != id) = s.games.filter fun g => g.id != id
  stats : u.stats.filter (fun r => !(r.matchId == id)) = s.stats.filter fun r => !(r.matchId == id)
  entries : u.entries.filter (fun r => !(r.matchId == id)) =
    s.entries.filter fun r => !(r.matchId == id)
  game : ∃ g h : MatchRecord, s.find? id = some g ∧ u.find? id = some h ∧ h.id = g.id ∧
    h.teamId = g.teamId ∧ h.opponent = g.opponent

namespace AgreeBut

theorem symm (h : AgreeBut id s u) : AgreeBut id u s := by
  obtain ⟨g, k, hg, hk, hid, hteam, hopponent⟩ := h.game
  refine ⟨?_, h.games.symm, h.stats.symm, h.entries.symm, k, g, hk, hg, hid.symm, hteam.symm,
    hopponent.symm⟩
  rw [h.frame]

theorem trans (h : AgreeBut id s t) (h' : AgreeBut id t u) : AgreeBut id s u := by
  obtain ⟨g, k, hg, hk, hid, hteam, hopponent⟩ := h.game
  obtain ⟨k', l, hk', hl, hid', hteam', hopponent'⟩ := h'.game
  cases hk.symm.trans hk'
  refine ⟨?_, h'.games.trans h.games, h'.stats.trans h.stats, h'.entries.trans h.entries, g, l, hg,
    hl, hid'.trans hid, hteam'.trans hteam, hopponent'.trans hopponent⟩
  rw [h'.frame, h.frame]

end AgreeBut

theorem agree_withCustomValues {game : MatchRecord} (h : s.find? id = some game) (v : Value) :
    AgreeBut id s (s.withCustomValues id v) := by
  refine ⟨rfl, ?_, rfl, rfl, game, _, h, find?_withCustomValues h v, rfl, rfl, rfl⟩
  have hkeep : ∀ g : MatchRecord, ((g.revalued id v).id != id) = (g.id != id) := fun g => by
    rw [MatchRecord.revalued_id]
  rw [withCustomValues, List.filter_map, Function.comp_def]
  simp only [hkeep]
  apply MatchRecord.map_revalued_of_ne
  intro g hg
  simpa using (List.mem_filter.mp hg).2

/-! ## Carrying a completion over -/

theorem map_placed_revalued {others : List MatchRecord} {r : MatchRecord} {v : Value}
    (hothers : ∀ x ∈ others, x.id ≠ id) :
    (placed others r).map (MatchRecord.revalued id v) = placed others (r.revalued id v) := by
  have hsame : ∀ l : List MatchRecord, (∀ x ∈ l, x ∈ others) →
      l.map (MatchRecord.revalued id v) = l := fun l hl =>
    MatchRecord.map_revalued_of_ne (fun x hx => hothers x (hl x hx)) v
  simp only [placed, List.span_eq_takeWhile_dropWhile, Table.id, Table.kept, List.map_append,
    List.map_cons, MatchRecord.revalued_id]
  rw [hsame _ fun x hx => (List.takeWhile_prefix _).subset hx,
    hsame _ fun x hx => (List.dropWhile_suffix _).subset hx]

theorem insertAll_withCustomValues {R : Type} [Table R] {v : Value} {rs numbered : List R}
    (hrows : ∀ s : Store, Table.rows (s.withCustomValues id v) = (Table.rows s : List R))
    (hset : ∀ (s : Store) (l : List R),
      Table.setRows (s.withCustomValues id v) l = (Table.setRows s l).withCustomValues id v)
    (h : (s.withCustomValues id v).insertAll rs = .ok (t, numbered)) :
    ∃ t', s.insertAll rs = .ok (t', numbered) ∧ t = t'.withCustomValues id v := by
  rw [insertAll_map (withCustomValues · id v) hrows hset
    fun s ref => holds_withCustomValues s id v ref] at h
  obtain ⟨⟨t', numbered'⟩, hok, heq⟩ := map_eq_ok.mp h
  cases heq
  exact ⟨t', hok, rfl⟩

theorem fault?_revalued (others : List MatchRecord) (r : MatchRecord) (v : Value) :
    fault? others (r.revalued id v) = fault? others r := by
  unfold MatchRecord.revalued
  split <;> rfl

namespace AgreeBut

variable (h : AgreeBut id s u)
include h

theorem team_eq (teamId : Int) :
    (u.find? teamId : Option TeamRecord) = s.find? teamId := by
  rw [h.frame]
  rfl

theorem ledger_eq (team : TeamRecord) (form : CompletionForm) (withAutomatic : Bool) :
    u.completionLedger team form withAutomatic = s.completionLedger team form withAutomatic := by
  rw [h.frame]
  rfl

theorem points_eq (rows : List LedgerRow) :
    u.entriesOfLedger id rows = s.entriesOfLedger id rows := by
  rw [h.frame]
  rfl

theorem cleared {game old : MatchRecord} {form : FactsForm} {cleared : Store}
    (hgame : u.find? id = some game) (hold : s.find? id = some old)
    (hc : u.clearedMatch game form = .ok cleared) :
    ∃ cleared', s.clearedMatch old form = .ok cleared' ∧ cleared = cleared'.withCustomValues id
      (Measure.keptOver game.customValues form.customValues) := by
  obtain ⟨g, k, hg, hk, hid, hteam, hopponent⟩ := h.game
  cases hg.symm.trans hold
  cases hk.symm.trans hgame
  have hoid : old.id = id := (find?_eq_some hold).2
  generalize hv : Measure.keptOver game.customValues form.customValues = v
  have hrow : game.completedBy form = (old.completedBy form).revalued id v := by
    rw [MatchRecord.revalued_of_eq (g := old.completedBy form) hoid, MatchRecord.completedBy,
      MatchRecord.completedBy, hid, hteam, hopponent, hv]
  obtain ⟨hfault, hholds, rfl⟩ := clearedMatch_eq_ok.mp hc
  rw [hid, hoid, h.games, hrow, fault?_revalued] at hfault
  rw [hteam, h.frame] at hholds
  refine ⟨_, clearedMatch_eq_ok.mpr ⟨by rw [hoid]; exact hfault, hholds, rfl⟩, ?_⟩
  have hothers : ∀ x ∈ s.games.filter (fun g => g.id != id), x.id ≠ id := fun x hx => by
    simpa using (List.mem_filter.mp hx).2
  rw [hid, hoid, h.games, h.stats, h.entries, hrow, ← map_placed_revalued hothers, h.frame]
  rfl

end AgreeBut

theorem Completion.agree (c : Completion s id form withAutomatic t) : AgreeBut id s t := by
  refine ⟨c.frame, ?_, ?_, ?_, c.game, c.game.completedBy form.facts, c.game_found,
    c.completed_found, rfl, rfl, rfl⟩
  · have hid : (c.game.completedBy form.facts).id = id := c.game_id
    rw [c.games_eq, filter_placed (by simp [Table.kept, hid]), List.filter_filter]
    simp
  · rw [c.stats_eq, filter_placedAll, List.filter_filter]
    · simp
    · intro r hr
      obtain ⟨f, -, n, rfl⟩ := exists_of_forall₂ c.stats_numbered r hr
      simp [Table.kept, statRecord]
  · rw [c.entries_eq, filter_placedAll, List.filter_filter]
    · simp
    · intro e he
      obtain ⟨row, -, points, n, -, rfl⟩ := exists_of_forall₂ c.entries_numbered e he
      simp [Table.kept, entryRecord]

/-- What completes a match in one store completes it in any other that agrees with it otherwise, and
up to custom values makes them the same. -/
theorem Completion.carried (c : Completion u id form withAutomatic t) (h : AgreeBut id s u) :
    ∃ (t' : Store) (_ : Completion s id form withAutomatic t'), t = t'.withCustomValues id
      (Measure.keptOver c.game.customValues form.facts.customValues) := by
  obtain ⟨old, game, hold, hgame, -, hteam, -⟩ := h.game
  cases hgame.symm.trans c.game_found
  obtain ⟨cleared, hcleared, hccleared⟩ := h.cleared c.game_found hold c.cleared_eq
  obtain ⟨hfits, -⟩ := get_eq_ok.mp c.game_ok
  obtain ⟨htfits, htfound⟩ := get_eq_ok.mp c.team_ok
  have hstats := c.stats_ok
  rw [hccleared] at hstats
  obtain ⟨counted, hcounted, hccounted⟩ :=
    insertAll_withCustomValues (fun _ => rfl) (fun _ _ => rfl) hstats
  have hentries := c.entries_ok
  rw [hccounted] at hentries
  obtain ⟨t', ht', ht⟩ := insertAll_withCustomValues (fun _ => rfl) (fun _ _ => rfl) hentries
  -- the team, the ledger and the points are read from tables on which the stores agree
  refine ⟨t', ⟨old, c.team, c.rows, cleared, c.stats, counted, c.unnumbered, c.entries,
    get_eq_ok.mpr ⟨hfits, hold⟩, get_eq_ok.mpr ⟨hteam ▸ htfits, ?_⟩, ?_, ?_, hcleared, hcounted,
    ht'⟩, ht⟩
  · rw [← hteam, ← h.team_eq]
    exact htfound
  · rw [← h.ledger_eq]
    exact c.ledger
  · rw [← h.points_eq]
    exact c.points

end Store

end ClubPoints
