import ClubPoints.Proofs.InTurn
import ClubPoints.Proofs.Rejection
import ClubPoints.Proofs.Room
import ClubPoints.Proofs.StoredRules

/-!
# Completions that can be written

Once the ledger of a completion is made, what it writes refers to rows that are there and clashes
with none. Where its rows are sound by themselves (`Writable`) and numbers are left for them, they
can be stored (`exists_completion`).
-/

namespace ClubPoints

open Form

namespace Store

variable {s t : Store} {id : Int} {form : CompletionForm} {withAutomatic : Bool}
  {game : MatchRecord} {team : TeamRecord} {rows : List LedgerRow}

theorem entriesOfLedger_eq (hc : s.Configured) (rows : List LedgerRow) :
    s.entriesOfLedger id rows = .ok (rows.map fun row => entryRecord id row (.whole row.points)) := by
  refine mapM_eq_ok.mpr (List.forall₂_map_right_iff.mpr (List.forall₂_same.mpr fun row _ => ?_))
  rw [hc.earned]
  rfl

theorem Completion.unnumbered_eq (c : Completion s id form withAutomatic t) (hc : s.Configured) :
    c.unnumbered = c.rows.map fun row => entryRecord id row (.whole row.points) :=
  Except.ok.inj (c.points.symm.trans (entriesOfLedger_eq hc c.rows))

/-! ## What a completion writes -/

structure Writable (id : Int) (game : MatchRecord) (form : CompletionForm)
    (rows : List LedgerRow) : Prop where
  game : IsSound (game.completedBy form.facts)
  stats : ∀ stat ∈ form.facts.stats, IsSound (statRecord id stat)
  entries : ∀ row ∈ rows, IsSound (entryRecord id row (.whole row.points))

theorem Completion.writable (c : Completion s id form withAutomatic t) (hc : s.Configured) :
    Writable id c.game form c.rows := by
  obtain ⟨hfault, -, -⟩ := clearedMatch_eq_ok.mp c.cleared_eq
  obtain ⟨hwords, hsound, -, -⟩ := fault?_eq_none.mp hfault
  have hentries := c.entries_inserted.own
  rw [c.unnumbered_eq hc] at hentries
  exact {
    game := ⟨fun n hn => hwords n (List.mem_cons_of_mem _ hn), hsound⟩
    stats := List.forall_mem_map.mp c.stats_inserted.own
    entries := List.forall_mem_map.mp hentries }

theorem holds_cleared {facts : FactsForm} (hc : s.clearedMatch game facts = .ok t)
    (ref : Reference) (h : s.holds ref = true) : t.holds ref = true := by
  obtain ⟨-, -, rfl⟩ := clearedMatch_eq_ok.mp hc
  cases ref with
  | game n =>
    obtain ⟨g, hg, hid⟩ := List.any_eq_true.mp h
    by_cases hgame : g.id = game.id
    · exact List.any_eq_true.mpr ⟨game.completedBy facts, mem_placed.mpr (.inl rfl), hgame ▸ hid⟩
    · have hother : g ∈ s.games.filter fun x => x.id != game.id :=
        List.mem_filter.mpr ⟨hg, bne_iff_ne.mpr hgame⟩
      exact List.any_eq_true.mpr ⟨g, mem_placed.mpr (.inr hother), hid⟩
  | _ => exact h

/-! ## Whether a completion is carried out -/

section
variable (ht : t.Reachable) (hgame : t.find? id = some game)
  (hteam : t.find? game.teamId = some team)
  (hledger : t.completionLedger team form withAutomatic = .ok rows)
  (hw : Writable id game form rows)
include hgame hw

section
include ht hteam

theorem exists_cleared : ∃ u, t.clearedMatch game form.facts = .ok u := by
  obtain ⟨hmem, -⟩ := find?_eq_some hgame
  have hid : fitsWord game.id = true := ht.inTurn.games.fits_id game hmem
  refine ⟨_, clearedMatch_eq_ok.mpr ⟨fault?_eq_none.mpr ⟨?_, hw.game.sound, ?_, ?_⟩,
    any_of_find? hteam, rfl⟩⟩
  · exact List.forall_mem_cons.mpr ⟨hid, hw.game.words⟩
  · exact fun x hx => bne_iff_ne.mp (List.mem_filter.mp hx).2
  · exact fun _ _ => rfl

end

include hledger

/-! What the rows refer to is there because the players, rules and profiles are the team's. -/

theorem storable_stats : ∀ r ∈ form.facts.stats.map (statRecord id), t.Storable r := by
  obtain ⟨l⟩ := ledgered_of_ok hledger
  refine List.forall_mem_map.mpr fun stat hstat => ?_
  obtain ⟨hwords, hsound⟩ := hw.stats stat hstat
  refine ⟨hwords, hsound, fun ref href => ?_⟩
  simp only [Table.references, statRecord, List.mem_cons, List.not_mem_nil, or_false] at href
  rcases href with rfl | rfl
  · exact any_of_find? hgame
  · obtain ⟨p, hp, hid⟩ := (factsOf_eq_ok l.players_ok).2.1 stat hstat
    exact List.any_eq_true.mpr ⟨p, (List.mem_filter.mp hp).1, beq_iff_eq.mpr hid⟩

include ht

/-- Where numbers are left, the statistics can be stored: the others are of other matches, and
the new ones of different players. -/
theorem exists_stats {u : Store} (hu : t.clearedMatch game form.facts = .ok u)
    (hstats : HasRoom StatRecord t form.facts.stats.length) :
    ∃ v stats, u.insertAll (form.facts.stats.map (statRecord id)) = .ok (v, stats) := by
  obtain ⟨l⟩ := ledgered_of_ok hledger
  obtain ⟨-, -, hstore⟩ := clearedMatch_eq_ok.mp hu
  rw [show game.id = id from (find?_eq_some hgame).2] at hstore
  refine (ht.scoresInOrder.cleared hu).stats.exists_insertAll (hstats.of_le ?_)
    (fun r hr => (storable_stats hgame hledger hw r hr).mono (holds_cleared hu)) ?_ ?_
  · rw [List.length_map, hstore]
    exact Nat.add_le_add_right (List.length_filter_le ..) _
  · intro r hr x hx
    obtain ⟨stat, -, rfl⟩ := List.mem_map.mp hr
    rw [hstore] at hx
    have hother : (x.matchId == id) = false := by simpa using (List.mem_filter.mp hx).2
    exact Bool.and_eq_false_imp.mpr fun hid => absurd (hid.symm.trans hother) nofun
  · have honce := (factsOf_eq_ok l.players_ok).2.2.2
    refine List.pairwise_map.mpr ((List.pairwise_map.mp honce).imp fun hne => ?_)
    exact Bool.and_eq_false_imp.mpr fun _ => beq_false_of_ne hne

include hteam

theorem storable_entries :
    ∀ e ∈ rows.map (fun row => entryRecord id row (.whole row.points)), t.Storable e := by
  obtain ⟨l⟩ := ledgered_of_ok hledger
  refine List.forall_mem_map.mpr fun row hrow => ?_
  obtain ⟨hwords, hsound⟩ := hw.entries row hrow
  refine ⟨hwords, hsound, fun ref href => ?_⟩
  simp only [Table.references, entryRecord, List.mem_cons, List.not_mem_nil, or_false] at href
  rcases href with rfl | rfl | rfl | rfl
  · exact any_of_find? hgame
  · obtain ⟨p, hp, hid, -⟩ := l.player hrow
    exact List.any_eq_true.mpr ⟨p, hp, beq_iff_eq.mpr hid⟩
  · obtain ⟨r, hr, hid, -⟩ := l.rule hrow
    exact List.any_eq_true.mpr ⟨r, hr, beq_iff_eq.mpr hid⟩
  · obtain ⟨p, hp, hid, -⟩ := l.profile hrow
    obtain ⟨r, hr, hrid, -⟩ := scoringProfiles_club ht.numbered ht.configured
      (find?_eq_some hteam).1 hp
    exact List.any_eq_true.mpr ⟨r, hr, beq_iff_eq.mpr (hrid.trans hid)⟩

theorem exists_entries {u v : Store} {rs stats : List StatRecord}
    (hu : t.clearedMatch game form.facts = .ok u) (hv : u.insertAll rs = .ok (v, stats))
    (hentries : HasRoom EntryRecord t rows.length) :
    ∃ t' entries, v.insertAll (rows.map fun row => entryRecord id row (.whole row.points)) =
      .ok (t', entries) := by
  obtain ⟨-, -, hstore⟩ := clearedMatch_eq_ok.mp hu
  have hvstore := (insertAll_eq_ok hv).store
  have horder := (ht.scoresInOrder.cleared hu).statsStored hv
  refine horder.entries.exists_insertAll (hentries.of_le ?_)
    (fun e he => (storable_entries ht hgame hteam hledger hw e he).mono fun ref href => ?_)
    (fun _ _ _ _ => rfl) (List.pairwise_of_forall fun _ _ => rfl)
  · rw [List.length_map, hvstore, hstore]
    exact Nat.add_le_add_right (List.length_filter_le ..) _
  · have hcleared := holds_cleared hu ref href
    rw [hvstore]
    cases ref <;> exact hcleared

/-- Where numbers are left, a match whose ledger is made is completed if its rows are sound. -/
theorem exists_completion (hstats : HasRoom StatRecord t form.facts.stats.length)
    (hentries : HasRoom EntryRecord t rows.length) :
    ∃ t', Nonempty (Completion t id form withAutomatic t') := by
  obtain ⟨u, hu⟩ := exists_cleared ht hgame hteam hw
  obtain ⟨v, stats, hv⟩ := exists_stats ht hgame hledger hw hu hstats
  obtain ⟨t', entries, ht'⟩ := exists_entries ht hgame hteam hledger hw hu hv hentries
  exact ⟨t', ⟨{
    game, team, rows, cleared := u, stats, counted := v, entries
    unnumbered := rows.map fun row => entryRecord id row (.whole row.points)
    game_ok := ht.inTurn.games.get_eq .game hgame
    team_ok := ht.inTurn.teams.get_eq .team hteam
    ledger := hledger
    points := entriesOfLedger_eq ht.configured rows
    cleared_eq := hu
    stats_ok := hv
    entries_ok := ht' }⟩⟩

end

theorem completion_cases {y : Arrival} (hs : s.Reachable)
    (hy : y.request.action = .ok (.completeMatch id form)) :
    (s.served y).1.isSuccess = false ∧ (s.served y).2 = s ∨
      (s.served y).1.isSuccess = true ∧ y.isRefused = false ∧
        Nonempty (Completion s id form y.policy.keepsAutomatic (s.served y).2) := by
  cases hsuccess : (s.served y).1.isSuccess with
  | false => exact .inl ⟨rfl, served_of_failure hs hsuccess⟩
  | true =>
    rw [served_of_action hy, Action.serve] at hsuccess ⊢
    cases hrun : (Action.completeMatch id form).run y.policy y.isRefused s with
    | error cause =>
      rw [hrun] at hsuccess
      have hfailed : (Answer.ofCause 400 cause).isSuccess = false :=
        Answer.isSuccess_ofCause (by decide) cause
      exact absurd (hfailed.symm.trans hsuccess) Bool.false_ne_true
    | ok o =>
      obtain ⟨hrefused, c, u, a, hc, hw, rfl⟩ := Action.run_completeMatch_eq_ok.mp hrun
      refine .inr ⟨rfl, hrefused, ?_⟩
      dsimp only
      cases u.showCompletion id form.facts <;> exact completion_of_leads ⟨c, a, hc, hw⟩

end Store

end ClubPoints
