import ClubPoints.Proofs.Completable
import ClubPoints.Proofs.LastCompletion
import ClubPoints.Proofs.Siblings

/-!
# Points beyond the words

The points of a row are a product of whole numbers of any size, so no word need hold them
(`Store.completed_iff_points_fit`).
-/

namespace ClubPoints

open Form

/-! ## Points are products -/

namespace Ledger

variable {rules : List Rule} {profiles : List Profile} {assignments : List Assignment}
  {r : Registry} {game : MatchFacts} {players : List PlayerFacts} {p : Profile} {rule : Rule}
  {withAutomatic : Bool} {rows : List LedgerRow} {row : LedgerRow}

/-- The points of a row are the points that its profile has for its rule, times its count if it is
by hand, and else as many times as the rule is worth them for the player of the row. -/
def IsProduct (rules : List Rule) (profiles : List Profile) (r : Registry) (game : MatchFacts)
    (players : List PlayerFacts) (row : LedgerRow) : Prop :=
  ∃ p ∈ profiles, p.id = row.profileId ∧ ∃ rule ∈ rules, rule.id = row.ruleId ∧
    if row.isManual then row.points = row.count * p.pointsFor rule
    else ∃ x ∈ players, x.playerId = row.playerId ∧
      row.points = p.pointsFor rule * rule.times r game x

theorem exists_share_of_due (h : row ∈ dueRows assignments r game players p rule) :
    ∃ x ∈ players, (rule.share r game x).row rule p = row := by
  unfold dueRows at h
  split at h
  · obtain ⟨a, ha, rfl⟩ := List.mem_map.mp h
    have ha := (List.mem_filter.mp ha).1
    cases hawards : (p.reprice rule).awards r game players with
    | error fault =>
      rw [hawards] at ha
      cases ha
    | ok awards =>
      rw [hawards, found_ok, Rule.awards_eq_deserved hawards] at ha
      obtain ⟨x, hx, rfl⟩ := List.mem_map.mp ha
      exact ⟨x, (List.mem_filter.mp hx).1, (rule.share_row p x).symm⟩
  · cases h

theorem isProduct_of_mem
    (h : assemble rules profiles assignments r game players withAutomatic = .ok rows)
    (hrow : row ∈ rows) : IsProduct rules profiles r game players row := by
  rcases mem_assemble h hrow with hrow | ⟨p, hp, rule, hrule, hrow⟩
  · obtain ⟨a, -, -, rule, hfound, p, hp, -, rfl⟩ := mem_manualRows.mp hrow
    exact ⟨p, hp, rfl, rule, (rule?_eq_some hfound).1, rfl, rfl⟩
  · obtain ⟨x, hx, rfl⟩ := exists_share_of_due hrow
    exact ⟨p, hp, rfl, rule, hrule, rfl, x, hx, rfl, Int.mul_comm ..⟩

end Ledger

/-! ## Numbers of forms -/

structure Form.FactsForm.Fits (f : FactsForm) : Prop where
  goalsFor : fitsWord f.goalsFor = true
  goalsAgainst : fitsWord f.goalsAgainst = true
  counts : ∀ stat ∈ f.stats, ∀ n ∈ stat.tally.facts.map Prod.snd, fitsWord n = true

theorem Form.FactsForm.goals_of_fields {shape : Shape} {fields : Fields} {f : FactsForm}
    (h : FactsForm.ofFields shape fields = .valid f) : 0 ≤ f.goalsFor ∧ 0 ≤ f.goalsAgainst := by
  have hcount {name : String} {n : Int}
      (h : Fields.defaulted fields name 0 count = .valid n) : 0 ≤ n := by
    rcases defaulted_eq_valid h with rfl | ⟨v, hv⟩
    · exact Int.le_refl 0
    · exact whole_keeps hv (.atLeast 0) (by simp)
  simp only [FactsForm.ofFields, Checked.app_eq_valid, Checked.fmap_eq_valid] at h
  obtain ⟨_, _, ⟨_, _, ⟨_, _, ⟨_, hfor, rfl⟩, hagainst, rfl⟩, -, rfl⟩, -, rfl⟩ := h
  exact ⟨hcount hfor, hcount hagainst⟩

theorem Form.CompletionForm.goals_of_read {shape : Shape} {v : Value} {f : CompletionForm}
    (h : CompletionForm.read shape v = .valid f) :
    0 ≤ f.facts.goalsFor ∧ 0 ≤ f.facts.goalsAgainst := by
  obtain ⟨fields, h⟩ := object_eq_valid h
  simp only [Checked.app_eq_valid, Checked.fmap_eq_valid] at h
  obtain ⟨_, _, ⟨_, _, ⟨facts, hfacts, rfl⟩, -, rfl⟩, -, rfl⟩ := h
  exact FactsForm.goals_of_fields hfacts

theorem LedgerRow.IsFormed.count_bounds {row : LedgerRow} (h : row.IsFormed) :
    1 ≤ row.count ∧ row.count ≤ 99 := by
  unfold LedgerRow.IsFormed at h
  split at h
  · exact ⟨h.1, h.2.1⟩
  · omega

namespace Store

variable {s : Store} {id : Int} {form : CompletionForm} {withAutomatic : Bool}
  {game : MatchRecord} {team : TeamRecord} {rows : List LedgerRow}

theorem words_completedBy (facts : FactsForm) :
    Table.words (game.completedBy facts) = [game.teamId, facts.goalsFor, facts.goalsAgainst] := rfl

theorem words_statRecord (stat : StatForm) :
    Table.words (statRecord id stat) =
      id :: stat.playerId :: stat.tally.facts.map Prod.snd := rfl

theorem words_entryRecord (row : LedgerRow) :
    Table.words (entryRecord id row (.whole row.points)) =
      [id, row.playerId, row.ruleId, row.profileId, row.points, row.count] := rfl

theorem isBelow_whole {m n : Int} (h : m ≤ n) : (Amount.whole n).isBelow m = false := by
  rw [Amount.isBelow, before_whole h]
  rfl

/-! ## Rows that can be written -/

section
variable (hs : s.Reachable) (hteam : s.find? game.teamId = some team)
  (hledger : s.completionLedger team form withAutomatic = .ok rows)
include hs hteam hledger

theorem fits_references {row : LedgerRow} (hrow : row ∈ rows) :
    fitsWord row.playerId = true ∧ fitsWord row.ruleId = true ∧ fitsWord row.profileId = true := by
  obtain ⟨l⟩ := ledgered_of_ok hledger
  obtain ⟨player, hplayer, hplayerId, -⟩ := l.player hrow
  obtain ⟨rule, hrule, hruleId, -⟩ := l.rule hrow
  obtain ⟨p, hp, hpid, -⟩ := l.profile hrow
  obtain ⟨profile, hprofile, hprofileId, -⟩ := scoringProfiles_club hs.numbered hs.configured
    (find?_eq_some hteam).1 hp
  rw [← hplayerId, ← hruleId, ← hpid, ← hprofileId]
  exact ⟨hs.inTurn.players.fits_id player hplayer, hs.rulesInTurn.rules.fits_id rule hrule,
    (hs.accepted.profileIds profile hprofile).2⟩

variable (hgame : s.find? id = some game) (hform : Submitted CompletionForm.read form)
include hgame hform

theorem writable_iff :
    Writable id game form rows ↔
      form.facts.Fits ∧ ∀ row ∈ rows, fitsWord row.points = true := by
  obtain ⟨v, hv⟩ := hform
  obtain ⟨l⟩ := ledgered_of_ok hledger
  constructor
  · intro hw
    have hgoals := hw.game.words
    simp only [words_completedBy, List.forall_mem_cons] at hgoals
    refine ⟨⟨hgoals.2.1, hgoals.2.2.1, fun stat hstat n hn => ?_⟩, fun row hrow => ?_⟩
    · exact (hw.stats stat hstat).words n (List.mem_cons_of_mem _ (List.mem_cons_of_mem _ hn))
    · exact (hw.entries row hrow).words _ (by simp [words_entryRecord])
  · rintro ⟨hfits, hpoints⟩
    obtain ⟨hgameMem, rfl⟩ := find?_eq_some hgame
    obtain ⟨hteamMem, hteamId⟩ := find?_eq_some hteam
    have hgameFits : fitsWord (Table.id game) = true := hs.inTurn.games.fits_id game hgameMem
    -- no form gives a rule more than 99 times, so the counts fit anyway
    have hcount : ∀ row ∈ rows, 1 ≤ row.count ∧ row.count ≤ 99 := fun _ hrow =>
      (l.formed (CompletionForm.inBounds_of_read hv) hrow).count_bounds
    refine ⟨⟨?_, ?_⟩, fun stat hstat => ⟨?_, rfl⟩, fun row hrow => ⟨?_, ?_⟩⟩
    · rw [words_completedBy, ← hteamId]
      simp [hs.inTurn.teams.fits_id team hteamMem, hfits.goalsFor, hfits.goalsAgainst]
    · obtain ⟨hfor, hagainst⟩ := CompletionForm.goals_of_read hv
      change MatchRecord.fault? _ = none
      simp [MatchRecord.fault?, MatchRecord.completedBy, isBelow_whole hfor, isBelow_whole hagainst]
    · obtain ⟨p, hp, hid⟩ := (factsOf_eq_ok l.players_ok).2.1 stat hstat
      have hplayer : fitsWord stat.playerId = true :=
        hid ▸ hs.inTurn.players.fits_id p (List.mem_filter.mp hp).1
      rw [words_statRecord]
      exact List.forall_mem_cons.mpr
        ⟨hgameFits, List.forall_mem_cons.mpr ⟨hplayer, hfits.counts stat hstat⟩⟩
    · obtain ⟨hplayer, hrule, hprofile⟩ := fits_references hs hteam hledger hrow
      obtain ⟨hleast, hmost⟩ := hcount row hrow
      have hcount : fitsWord row.count = true :=
        fitsWord_iff.mpr ⟨by unfold wordLimit; omega, by unfold wordLimit; omega⟩
      simp [words_entryRecord, hgameFits, hplayer, hrule, hprofile, hpoints row hrow, hcount]
    · change EntryRecord.fault? _ = none
      simp [EntryRecord.fault?, entryRecord, isBelow_whole (hcount row hrow).1]

end

/-! ## Completing a match -/

section
variable {x : Arrival} (hs : s.Reachable) (hx : x.request.action = .ok (.completeMatch id form))
  (hgame : s.find? id = some game) (hteam : s.find? game.teamId = some team)
  (hledger : s.completionLedger team form x.policy.keepsAutomatic = .ok rows)
include hs hx hgame hteam hledger

theorem written_of_served (h : (s.served x).1.hasStatus 200 = true) :
    Writable id game form rows ∧
      (((s.served x).2.entriesOf id).map fun e => { e with id := 0 }).Perm
        (rows.map fun row => entryRecord id row (.whole row.points)) := by
  obtain ⟨-, t, c, v, -, hserved⟩ := completion_of_served hx h
  obtain rfl : game = c.game := Option.some.inj (hgame.symm.trans c.game_found)
  obtain rfl : team = c.team := Option.some.inj (hteam.symm.trans c.team_found)
  obtain rfl : rows = c.rows := Except.ok.inj (hledger.symm.trans c.ledger)
  rw [hserved]
  exact ⟨c.writable hs.configured, c.entriesOf_perm hs.configured⟩

theorem served_of_writable (hcommit : x.isRefused = false) (hw : Writable id game form rows)
    (hstats : HasRoom StatRecord s form.facts.stats.length)
    (hentries : HasRoom EntryRecord s rows.length) : (s.served x).1.hasStatus 200 = true := by
  obtain ⟨t, ⟨c⟩⟩ := exists_completion hs hgame hteam hledger hw hstats hentries
  obtain ⟨v, hv⟩ := c.shown hs.configured
  rw [served_of_completion hx hcommit c hv]
  rfl

end

/-- The points of every row are a product of whole numbers. A match is completed with exactly these
points if words hold them and the goals and counts of the form, as long as numbers are left for the
rows. If they do not, it is not completed; and if it is not completed, nothing is stored. -/
theorem completed_iff_points_fit (s : Store) (hs : s.Reachable) (x : Arrival) (id : Int)
    (form : CompletionForm) (hx : x.request.action = .ok (.completeMatch id form))
    (game : MatchRecord) (team : TeamRecord) (rows : List LedgerRow)
    (hgame : s.find? id = some game) (hteam : s.find? game.teamId = some team)
    (hledger : s.completionLedger team form x.policy.keepsAutomatic = .ok rows) :
    (∃ rules players, s.rulesOf team.id = .ok rules ∧
      s.playerFacts team form.facts = .ok players ∧
      ∀ row ∈ rows, Ledger.IsProduct rules (s.scoringProfiles team) (s.registryOf team.id)
        form.facts.facts players row) ∧
    ((s.served x).1.hasStatus 200 = true →
      form.facts.Fits ∧ (∀ row ∈ rows, fitsWord row.points = true) ∧
        (((s.served x).2.entriesOf id).map fun e => { e with id := 0 }).Perm
          (rows.map fun row => entryRecord id row (.whole row.points))) ∧
    (form.facts.Fits → (∀ row ∈ rows, fitsWord row.points = true) → x.isRefused = false →
      HasRoom StatRecord s form.facts.stats.length → HasRoom EntryRecord s rows.length →
        (s.served x).1.hasStatus 200 = true) ∧
    ((s.served x).1.hasStatus 200 = false → (s.served x).2 = s) := by
  have hform : Submitted CompletionForm.read form := Request.isSubmitted_of_action hx
  have hwritable := writable_iff hs hteam hledger hgame hform
  refine ⟨?_, fun h => ?_, fun hfits hpoints hcommit hstats hentries => ?_,
    fun h => ?_⟩
  · obtain ⟨l⟩ := ledgered_of_ok hledger
    exact ⟨l.rules, l.players, l.rules_ok, l.players_ok,
      fun _ hrow => Ledger.isProduct_of_mem l.rows_ok hrow⟩
  · obtain ⟨hw, hstored⟩ := written_of_served hs hx hgame hteam hledger h
    obtain ⟨hfits, hpoints⟩ := hwritable.mp hw
    exact ⟨hfits, hpoints, hstored⟩
  · exact served_of_writable hs hx hgame hteam hledger hcommit
      (hwritable.mpr ⟨hfits, hpoints⟩) hstats hentries
  · rcases completion_cases hs hx with ⟨-, hsame⟩ | ⟨-, hrefused, ⟨c⟩⟩
    · exact hsame
    · obtain ⟨v, hv⟩ := c.shown hs.configured
      rw [served_of_completion hx hrefused c hv] at h
      cases h

theorem exists_ledger {points : List Int}
    (h : (s.find? id : Option MatchRecord).bind (fun game =>
      (s.find? game.teamId : Option TeamRecord).bind fun team =>
        (s.completionLedger team form withAutomatic).toOption.map fun rows =>
          rows.map LedgerRow.points) = some points) :
    ∃ (game : MatchRecord) (team : TeamRecord) (rows : List LedgerRow), s.find? id = some game ∧
      s.find? game.teamId = some team ∧ s.completionLedger team form withAutomatic = .ok rows ∧
      rows.map LedgerRow.points = points := by
  obtain ⟨game, hgame, h⟩ := Option.bind_eq_some_iff.mp h
  obtain ⟨team, hteam, h⟩ := Option.bind_eq_some_iff.mp h
  obtain ⟨rows, hrows, hpoints⟩ := Option.map_eq_some_iff.mp h
  exact ⟨game, team, rows, hgame, hteam, toOption_eq_some.mp hrows, hpoints⟩

theorem completed_iff_points_fit_season :
    ∃ (game : MatchRecord) (team : TeamRecord) (rows : List LedgerRow),
      (after {} season).find? 1 = some game ∧
      (after {} season).find? game.teamId = some team ∧
      (after {} season).completionLedger team (captained 4 3) true = .ok rows ∧
      rows.map LedgerRow.points = [15] ∧
      ((after {} season).served (again (captained 4 3))).1.hasStatus 200 = true := by
  obtain ⟨game, team, rows, hgame, hteam, hledger, hpoints⟩ : ∃ (game : MatchRecord)
      (team : TeamRecord) (rows : List LedgerRow), (after {} season).find? 1 = some game ∧
        (after {} season).find? game.teamId = some team ∧
        (after {} season).completionLedger team (captained 4 3) true = .ok rows ∧
        rows.map LedgerRow.points = [15] := exists_ledger (by decide +kernel)
  obtain ⟨-, -, hcompleted, -⟩ := completed_iff_points_fit (after {} season) ⟨season, rfl⟩
    (again (captained 4 3)) 1 (captained 4 3) rfl game team rows hgame hteam hledger
  have hfits : ∀ n ∈ rows.map LedgerRow.points, fitsWord n = true := by
    rw [hpoints]
    decide
  have hlength : rows.length = 1 := by
    rw [← List.length_map LedgerRow.points, hpoints]
    rfl
  have hstats : HasRoom StatRecord (after {} season) (captained 4 3).facts.stats.length := by
    unfold HasRoom
    decide +kernel
  have hentries : HasRoom EntryRecord (after {} season) rows.length := by
    rw [hlength]
    unfold HasRoom
    decide +kernel
  exact ⟨game, team, rows, hgame, hteam, hledger, hpoints,
    hcompleted ⟨by decide, by decide, by decide⟩ (List.forall_mem_map.mp hfits) rfl hstats
      hentries⟩

def stars : List Arrival := [
  .posting "/clubs/" (ClubForm.document { name := "Rovers" }),
  .posting "/teams/" (TeamForm.document { name := "First", clubId := 1 }),
  .posting "/players/" (PlayerForm.document { name := "Ann", position := .forward, teamId := 1 }),
  .posting "/rules/" (RuleForm.document {
    teamId := 1, name := "Star", description := "Star player", category := .manual
    points := wordLimit - 1 }),
  .posting "/profiles/" (ProfileForm.document {
    clubId := 1, name := "League", isClubDefault := true, rules := [{ ruleId := 1 }] }),
  .posting "/matches/" (FixtureForm.document { teamId := 1, opponent := "United" })]

def twoStars : CompletionForm where
  facts := {}
  assignments := [{ ruleId := 1, playerId := 1, count := 2 }]

/-- Points need not fit a word, and then their match cannot be completed. -/
theorem completed_iff_points_fit_not_always :
    (¬∀ (s : Store) (x : Arrival) (id : Int) (form : CompletionForm) (game : MatchRecord)
      (team : TeamRecord) (rows : List LedgerRow), s.Reachable →
      x.request.action = .ok (.completeMatch id form) → s.find? id = some game →
      s.find? game.teamId = some team →
      s.completionLedger team form x.policy.keepsAutomatic = .ok rows →
        ∀ row ∈ rows, fitsWord row.points = true) ∧
    ¬∀ (s : Store) (x : Arrival) (id : Int) (form : CompletionForm) (game : MatchRecord)
      (team : TeamRecord) (rows : List LedgerRow), s.Reachable →
      x.request.action = .ok (.completeMatch id form) → s.find? id = some game →
      s.find? game.teamId = some team →
      s.completionLedger team form x.policy.keepsAutomatic = .ok rows → x.isRefused = false →
        (s.served x).1.hasStatus 200 = true := by
  obtain ⟨game, team, rows, hgame, hteam, hledger, hpoints⟩ : ∃ (game : MatchRecord)
      (team : TeamRecord) (rows : List LedgerRow), (after {} stars).find? 1 = some game ∧
        (after {} stars).find? game.teamId = some team ∧
        (after {} stars).completionLedger team twoStars true = .ok rows ∧
        rows.map LedgerRow.points = [2 * (wordLimit - 1)] := exists_ledger (by decide +kernel)
  constructor
  · intro h
    have hfits : ∀ n ∈ rows.map LedgerRow.points, fitsWord n = true :=
      List.forall_mem_map.mpr (h (after {} stars) (again twoStars) 1 twoStars game team rows
        ⟨stars, rfl⟩ rfl hgame hteam hledger)
    rw [hpoints] at hfits
    exact absurd (hfits _ List.mem_cons_self) (by decide)
  · intro h
    have hcompleted := h (after {} stars) (again twoStars) 1 twoStars game team rows ⟨stars, rfl⟩
      rfl hgame hteam hledger rfl
    have hfailed : ((after {} stars).served (again twoStars)).1.hasStatus 200 = false := by
      decide +kernel
    rw [hfailed] at hcompleted
    cases hcompleted

end Store

end ClubPoints
