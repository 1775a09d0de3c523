import ClubPoints.Proofs.Recompletion

/-!
# The last completion of a match

However often a match is completed, the last completion counts, up to the custom values of the
match: a match keeps values that the new ones only repeat (`valuesAfter`).
-/

namespace ClubPoints

open Form

/-! ## The custom values that are left -/

def valuesAfter (stored : Value) (forms : List CompletionForm) : Value :=
  forms.foldl (fun v form => Measure.keptOver v form.facts.customValues) stored

theorem valuesAfter_append (stored : Value) (forms : List CompletionForm) (form : CompletionForm) :
    valuesAfter stored (forms ++ [form]) =
      Measure.keptOver (valuesAfter stored forms) form.facts.customValues := by
  rw [valuesAfter, List.foldl_append]
  rfl

theorem valuesAfter_same {measures : List (String × Measure)} {forms : List CompletionForm}
    (h : ∀ f ∈ forms, f.facts.customValues = measures) (stored : Value) :
    Measure.keptOver (valuesAfter stored forms) measures = Measure.keptOver stored measures := by
  induction forms generalizing stored with
  | nil => rfl
  | cons f rest ih =>
    have hf : f.facts.customValues = measures := h f List.mem_cons_self
    change Measure.keptOver (valuesAfter (Measure.keptOver stored f.facts.customValues) rest)
      measures = _
    rw [ih (fun g hg => h g (List.mem_cons_of_mem _ hg)), hf, Measure.keptOver_twice]

namespace Store

variable {s t u : Store} {id : Int} {form : CompletionForm} {withAutomatic : Bool}

/-! ## One completion -/

/-- What a completion leaves of a match: its own facts, statistics and ledger, each of them once,
and nothing else; all other rows are as they were. -/
structure Replaced (s : Store) (id : Int) (form : CompletionForm) (withAutomatic : Bool)
    (t : Store) : Prop where
  others : AgreeBut id s t
  game : ∃ old new : MatchRecord, s.find? id = some old ∧ t.find? id = some new ∧
    new = { old with
      goalsFor := form.facts.goalsFor
      goalsAgainst := form.facts.goalsAgainst
      status := .completed
      customValues := new.customValues }
  stats : ((t.statsOf id).map fun r => { r with id := 0 }).Perm
    (form.facts.stats.map (statRecord id))
  entries : ∃ (old : MatchRecord) (team : TeamRecord) (rows : List LedgerRow),
    s.find? id = some old ∧ s.find? old.teamId = some team ∧
      s.completionLedger team form withAutomatic = .ok rows ∧
      ((t.entriesOf id).map fun e => { e with id := 0 }).Perm
        (rows.map fun row => entryRecord id row (.whole row.points))

namespace Completion

variable (c : Completion s id form withAutomatic t)
include c

theorem statsOf_perm :
    ((t.statsOf id).map fun r => { r with id := 0 }).Perm
      (form.facts.stats.map (statRecord id)) := by
  have hmatch : ∀ r ∈ c.stats, (r.matchId == id) = true := by
    intro r hr
    obtain ⟨f, -, n, rfl⟩ := exists_of_forall₂ c.stats_numbered r hr
    exact beq_self_eq_true id
  have hunnumbered : c.stats.map (fun r => { r with id := 0 }) =
      form.facts.stats.map (statRecord id) :=
    map_eq_of_forall₂ c.stats_numbered fun f r ⟨_, hr⟩ => by rw [hr]; rfl
  have hperm : (t.statsOf id).Perm (c.stats.map Table.kept) := by
    rw [statsOf, c.stats_eq]
    exact perm_filter_placedAll hmatch
  rw [← hunnumbered]
  exact (hperm.trans (.of_eq (List.map_id _))).map _

theorem entriesOf_perm (hc : s.Configured) :
    ((t.entriesOf id).map fun e => { e with id := 0 }).Perm
      (c.rows.map fun row => entryRecord id row (.whole row.points)) := by
  have hmatch : ∀ e ∈ c.entries, ((Table.kept e).matchId == id) = true := by
    intro e he
    rw [c.kept_entry hc he]
    obtain ⟨row, -, n, rfl⟩ := c.row_of_entry hc he
    exact beq_self_eq_true id
  have hunnumbered : c.entries.map (fun e => { e with id := 0 }) =
      c.rows.map fun row => entryRecord id row (.whole row.points) := by
    refine map_eq_of_forall₂ c.entries_numbered fun row e ⟨points, n, hpoints, he⟩ => ?_
    rw [hc.earned] at hpoints
    cases hpoints
    rw [he]
    rfl
  have hperm : (t.entriesOf id).Perm (c.entries.map Table.kept) := by
    rw [entriesOf, c.entries_eq]
    exact perm_filter_placedAll hmatch
  rw [← hunnumbered]
  exact (hperm.trans (.of_eq (c.kept_entries hc))).map _

theorem replaced (hc : s.Configured) : s.Replaced id form withAutomatic t where
  others := c.agree
  game := ⟨c.game, _, c.game_found, c.completed_found, rfl⟩
  stats := c.statsOf_perm
  entries := ⟨c.game, c.team, c.rows, c.game_found, c.team_found, c.ledger, c.entriesOf_perm hc⟩

end Completion

theorem showCompletion_withCustomValues {game : MatchRecord} (h : s.find? id = some game)
    (v : Value) (facts : FactsForm) :
    (s.withCustomValues id v).showCompletion id facts = s.showCompletion id facts := by
  rw [showCompletion, showCompletion, h, find?_withCustomValues h v]
  rfl

theorem Replaced.withCustomValues (h : s.Replaced id form withAutomatic t) (v : Value) :
    s.Replaced id form withAutomatic (t.withCustomValues id v) := by
  obtain ⟨old, new, hold, hnew, hreplaced⟩ := h.game
  refine ⟨h.others.trans (agree_withCustomValues hnew v), ?_, h.stats, h.entries⟩
  refine ⟨old, _, hold, find?_withCustomValues hnew v, ?_⟩
  rw [hreplaced]

/-! ## Many completions -/

theorem AgreeBut.refl {game : MatchRecord} (h : s.find? id = some game) : AgreeBut id s s :=
  ⟨rfl, rfl, rfl, rfl, game, game, h, h, rfl, rfl, rfl⟩

theorem agree_after {arrivals : List Arrival} {forms : List CompletionForm}
    (hforms : List.Forall₂ (fun x form => x.request.action = .ok (.completeMatch id form))
      arrivals forms) {game : MatchRecord} (hgame : s.find? id = some game)
    (hall : s.allAnswered 200 arrivals = true) :
    AgreeBut id s (s.after arrivals) ∧ ∃ game' : MatchRecord,
      (s.after arrivals).find? id = some game' ∧ game'.customValues = valuesAfter game.customValues forms := by
  induction hforms generalizing s game with
  | nil => exact ⟨.refl hgame, game, hgame, rfl⟩
  | @cons x form arrivals forms hx _ ih =>
    obtain ⟨hfirst, hrest⟩ := Bool.and_eq_true_iff.mp hall
    obtain ⟨-, t, c, v, -, hserved⟩ := completion_of_served hx hfirst
    have ht : (s.served x).2 = t := congrArg Prod.snd hserved
    rw [ht] at hrest
    obtain ⟨hagree, game', hgame', hvalues⟩ := ih c.completed_found hrest
    have hafter : s.after (x :: arrivals) = t.after arrivals := congrArg (after · arrivals) ht
    rw [hafter]
    cases hgame.symm.trans c.game_found
    exact ⟨c.agree.trans hagree, game', hgame', hvalues⟩

theorem found_of_answered {x : Arrival} (hx : x.request.action = .ok (.completeMatch id form))
    (h : (s.served x).1.hasStatus 200 = true) : ∃ game : MatchRecord, s.find? id = some game := by
  obtain ⟨-, t, c, -⟩ := completion_of_served hx h
  exact ⟨c.game, c.game_found⟩

theorem served_of_agree {x : Arrival} (hx : x.request.action = .ok (.completeMatch id form))
    (hagree : AgreeBut id s u) (h : (u.served x).1.hasStatus 200 = true) :
    ∃ (v : Value) (t t' : Store) (c : Completion u id form x.policy.keepsAutomatic t)
      (_ : Completion s id form x.policy.keepsAutomatic t'),
      u.served x = (.shown 200 v.presentable, t) ∧ s.served x = (.shown 200 v.presentable, t') ∧
      t = t'.withCustomValues id
        (Measure.keptOver c.game.customValues form.facts.customValues) := by
  obtain ⟨hrefused, t, c, v, hv, hserved⟩ := completion_of_served hx h
  obtain ⟨t', c', ht⟩ := c.carried hagree
  have hshown : t'.showCompletion id form.facts = some v := by
    rw [← hv, ht, showCompletion_withCustomValues c'.completed_found]
  exact ⟨v, t, t', c, c', hserved, served_of_completion hx hrefused c' hshown, ht⟩

/-- After completions of a match that are all answered well, the store is the one that the last of
them leads to by itself, and its answer is the same. Only the custom values of the match may differ:
they are those of all completions, folded. -/
theorem last_completion_wins (s : Store) (hs : s.Reachable) (id : Int) (earlier : List Arrival)
    (forms : List CompletionForm) (last : Arrival) (form : CompletionForm)
    (hforms : List.Forall₂ (fun x form => x.request.action = .ok (.completeMatch id form))
      earlier forms)
    (hlast : last.request.action = .ok (.completeMatch id form))
    (hall : s.allAnswered 200 (earlier ++ [last]) = true) :
    ∃ game : MatchRecord, s.find? id = some game ∧
      (s.served last).1 = ((s.after earlier).served last).1 ∧
      s.after (earlier ++ [last]) = (s.after [last]).withCustomValues id
        (valuesAfter game.customValues (forms ++ [form])) ∧
      (s.after (earlier ++ [last]) = s.after [last] ↔
        valuesAfter game.customValues (forms ++ [form]) =
          valuesAfter game.customValues [form]) ∧
      ((∀ f ∈ forms, f.facts.customValues = form.facts.customValues) →
        s.after (earlier ++ [last]) = s.after [last]) ∧
      s.Replaced id form last.policy.keepsAutomatic (s.after (earlier ++ [last])) := by
  have hfound : ∃ game : MatchRecord, s.find? id = some game := by
    cases hforms with
    | nil => exact found_of_answered hlast (Bool.and_eq_true_iff.mp hall).1
    | cons hx _ => exact found_of_answered hx (Bool.and_eq_true_iff.mp hall).1
  obtain ⟨game, hgame⟩ := hfound
  obtain ⟨hearlier, hanswered⟩ := allAnswered_append.mp hall
  obtain ⟨hagree, game', hgame', hvalues⟩ := agree_after hforms hgame hearlier
  have hstatus : ((s.after earlier).served last).1.hasStatus 200 = true :=
    (Bool.and_eq_true_iff.mp hanswered).1
  obtain ⟨v, t, t', c, c', hserved, hserved', ht⟩ := served_of_agree hlast hagree hstatus
  have halone : s.after [last] = t' := congrArg Prod.snd hserved'
  have hboth : s.after (earlier ++ [last]) = t :=
    (after_append ..).trans (congrArg Prod.snd hserved)
  have hfolded : Measure.keptOver c.game.customValues form.facts.customValues =
      valuesAfter game.customValues (forms ++ [form]) := by
    cases hgame'.symm.trans c.game_found
    rw [valuesAfter_append, hvalues]
  have hsame : s.after (earlier ++ [last]) = s.after [last] ↔
      valuesAfter game.customValues (forms ++ [form]) = valuesAfter game.customValues [form] := by
    -- the last completion alone folds its own values over the stored ones
    have hself : t'.withCustomValues id (valuesAfter game.customValues [form]) = t' := by
      cases hgame.symm.trans c'.game_found
      exact withCustomValues_self (halone ▸ hs.after [last]).numbered c'.completed_found
    rw [hboth, halone, ht, hfolded]
    conv_lhs => rhs; rw [← hself]
    exact withCustomValues_inj c'.completed_found
  refine ⟨game, hgame, ?_, ?_, hsame, fun h => hsame.mpr ?_, ?_⟩
  · rw [hserved, hserved']
  · rw [hboth, halone, ht, hfolded]
  · rw [valuesAfter_append]
    exact valuesAfter_same h _
  · rw [hboth, ht]
    exact (c'.replaced hs.configured).withCustomValues _

def captained (goals count : Int) : CompletionForm where
  facts := { goalsFor := goals, stats := [{ playerId := 1 }] }
  assignments := [{ ruleId := 1, playerId := 1, count }]

def again (form : CompletionForm) : Arrival :=
  .posting "/matches/1/complete" form.document

theorem last_completion_wins_season :
    (after {} season).after [again (captained 4 3), again (captained 1 2)] =
      (after {} season).after [again (captained 1 2)] ∧
    ((after {} season).after [again (captained 1 2)]).entries.map
      (fun e => (e.matchId, e.points.whole?)) = [(2, some 12), (1, some 10)] := by
  have hall : (after {} season).allAnswered 200
      ([again (captained 4 3)] ++ [again (captained 1 2)]) = true := by decide +kernel
  obtain ⟨-, -, -, -, -, hsame, -⟩ := last_completion_wins (after {} season) ⟨season, rfl⟩ 1
    [again (captained 4 3)] [captained 4 3] (again (captained 1 2)) (captained 1 2)
    (.cons rfl .nil) rfl hall
  exact ⟨hsame (by decide), by decide +kernel⟩

def fixture : List Arrival := [
  .posting "/clubs/" (ClubForm.document { name := "Rovers" }),
  .posting "/teams/" (TeamForm.document { name := "First", clubId := 1 }),
  .posting "/matches/" (FixtureForm.document { teamId := 1, opponent := "United" })]

def valued (m : Measure) : Arrival :=
  again { facts := { customValues := [("a", m)] } }

/-- A match that was completed with the number one keeps it when it is completed with true, which
is equal to it. -/
theorem last_completion_wins_not_equal_values :
    (after {} fixture).allAnswered 200 [valued (.whole 1), valued (.truth true)] = true ∧
      (after {} fixture).after [valued (.whole 1), valued (.truth true)] ≠
        (after {} fixture).after [valued (.truth true)] := by
  refine ⟨by decide +kernel, fun h => ?_⟩
  have hvalues := congrArg (fun t => t.games.map fun g => (g.customValues.field "a").isTruth) h
  revert hvalues
  decide +kernel

end Store

end ClubPoints
