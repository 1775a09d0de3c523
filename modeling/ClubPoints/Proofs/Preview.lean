import ClubPoints.Proofs.Accepted
import ClubPoints.Proofs.LastCompletion
import ClubPoints.Proofs.Readings

/-!
# Trying out what a completion will bring

A profile is tried out with all rules of the team, a ledger is made of the automatic ones only, and
the two are put in order separately. Still they agree on the awards (`preview_agrees`).
-/

namespace ClubPoints

open Form View

variable {rules : List Rule} {profiles : List Profile} {assignments : List Assignment}
  {r : Registry} {game : MatchFacts} {players : List PlayerFacts} {p : Profile}

/-! ## All rules and the automatic ones -/

theorem Rule.awards_of_not_automatic {rule : Rule} (hkind : rule.kind ≠ .unclassified)
    (h : rule.kind.isAutomatic = false) : rule.awards r game players = .ok [] := by
  unfold Rule.awards
  cases hk : rule.kind with
  | result => rw [hk] at h; cases h
  | performance pricing => rw [hk] at h; cases h
  | manual => rfl
  | unclassified => exact absurd hk hkind

theorem Award.all_eq_map (rules : List Rule) :
    Award.all rules r game players =
      (((rules.filter Rule.isActive).mapM fun rule : Rule => rule.awards r game players).map
        List.flatten).map Award.sort := by
  unfold Award.all
  cases (rules.filter Rule.isActive).mapM fun rule : Rule => rule.awards r game players <;> rfl

theorem Award.all_automatic (h : ∀ rule ∈ rules, rule.kind ≠ .unclassified) :
    Award.all (rules.filter fun rule => rule.kind.isAutomatic) r game players =
      Award.all rules r game players := by
  rw [all_eq_map, all_eq_map, List.filter_comm, flatten_mapM_filter]
  intro rule hrule hmanual
  exact rule.awards_of_not_automatic (h rule (List.mem_filter.mp hrule).1) hmanual

theorem Profile.rules_filter (p : Profile) {keep : Rule → Bool}
    (h : ∀ rule, keep (p.reprice rule) = keep rule) :
    p.rules (rules.filter keep) = (p.rules rules).filter keep := by
  have hkeep : keep ∘ p.reprice = keep := funext h
  unfold Profile.rules
  rw [List.filter_map, List.filter_comm, hkeep]

theorem Profile.all_automatic (p : Profile) (h : ∀ rule ∈ rules, rule.kind ≠ .unclassified) :
    Award.all (p.rules (rules.filter fun rule => rule.kind.isAutomatic)) r game players =
      Award.all (p.rules rules) r game players := by
  rw [p.rules_filter fun _ => rfl]
  refine Award.all_automatic fun rule hrule => ?_
  obtain ⟨x, hx, rfl⟩ := List.mem_map.mp hrule
  exact h x (List.mem_filter.mp hx).1

/-! ## The automatic rows of one profile -/

namespace Ledger

theorem pointType_of_profileRows {rows : List LedgerRow}
    (h : profileRows rules assignments r game players p = .ok rows) :
    ∀ row ∈ rows, row.pointType = p.pointType ∧ row.isManual = false := by
  obtain ⟨awards, -, rfl⟩ := profileRows_eq_ok_iff.mp h
  intro row hrow
  obtain ⟨a, -, rfl⟩ := List.mem_map.mp hrow
  exact ⟨rfl, rfl⟩

theorem filter_pointType {lists : List (List LedgerRow)}
    (hlists : List.Forall₂ (fun q rows => profileRows rules assignments r game players q = .ok rows)
      profiles lists)
    (hn : (profiles.map Profile.pointType).Nodup) (hp : p ∈ profiles) :
    profileRows rules assignments r game players p =
      .ok (lists.flatten.filter fun row => decide (row.pointType = p.pointType)) := by
  induction hlists with
  | nil => cases hp
  | @cons q rows profiles lists hq hrest ih =>
    rw [List.map_cons, List.nodup_cons] at hn
    have hother : ∀ row ∈ lists.flatten, row.pointType ∈ profiles.map Profile.pointType := by
      intro row hrow
      obtain ⟨l, hl, hrow⟩ := List.mem_flatten.mp hrow
      obtain ⟨q', hq', hl⟩ := exists_of_forall₂ hrest l hl
      rw [(pointType_of_profileRows hl row hrow).1]
      exact List.mem_map_of_mem hq'
    rw [List.flatten_cons, List.filter_append]
    rcases List.mem_cons.mp hp with rfl | hp
    · have hown : rows.filter (fun row => decide (row.pointType = p.pointType)) = rows :=
        List.filter_eq_self.mpr fun row hrow =>
          decide_eq_true (pointType_of_profileRows hq row hrow).1
      -- the other profiles score points of other types
      have hnone : lists.flatten.filter (fun row => decide (row.pointType = p.pointType)) = [] := by
        refine List.filter_eq_nil_iff.mpr fun row hrow htype => hn.1 ?_
        rw [← of_decide_eq_true htype]
        exact hother row hrow
      rw [hown, hnone, List.append_nil]
      exact hq
    · have hnone : rows.filter (fun row => decide (row.pointType = p.pointType)) = [] := by
        refine List.filter_eq_nil_iff.mpr fun row hrow htype => hn.1 ?_
        rw [← (pointType_of_profileRows hq row hrow).1, of_decide_eq_true htype]
        exact List.mem_map_of_mem hp
      rw [hnone, List.nil_append]
      exact ih hn.2 hp

def isAutomatic (type : PointType) (row : LedgerRow) : Bool :=
  !row.isManual && decide (row.pointType = type)

theorem automatic_of_assemble {rows : List LedgerRow}
    (hkinds : ∀ rule ∈ rules, rule.kind ≠ .unclassified)
    (hn : (profiles.map Profile.pointType).Nodup) (hp : p ∈ profiles)
    (h : assemble rules profiles assignments r game players true = .ok rows) :
    ∃ awards, Award.all (p.rules rules) r game players = .ok awards ∧
      (rows.filter (isAutomatic p.pointType)).Perm
        ((awards.filter fun a => !isAssigned assignments a).map fun a => a.row p) := by
  obtain ⟨automatic, hautomatic, rfl⟩ := assemble_eq_ok.mp h
  simp only [↓reduceIte, automaticRows, bind_eq_ok, pure_eq_ok] at hautomatic
  obtain ⟨lists, hlists, rfl⟩ := hautomatic
  replace hlists := mapM_eq_ok.mp hlists
  obtain ⟨awards, hawards, hrows⟩ := profileRows_eq_ok_iff.mp (filter_pointType hlists hn hp)
  rw [p.all_automatic hkinds] at hawards
  refine ⟨awards, hawards, ?_⟩
  have hmanual : (manualRows rules profiles assignments).filter (isAutomatic p.pointType) = [] := by
    refine List.filter_eq_nil_iff.mpr fun row hrow => ?_
    obtain ⟨a, -, -, rule, -, q, -, -, rfl⟩ := mem_manualRows.mp hrow
    simp [isAutomatic, Assignment.row]
  have hkept : lists.flatten.filter (isAutomatic p.pointType) =
      lists.flatten.filter fun row => decide (row.pointType = p.pointType) := by
    refine List.filter_congr fun row hrow => ?_
    obtain ⟨l, hl, hrow⟩ := List.mem_flatten.mp hrow
    obtain ⟨q, -, hl⟩ := exists_of_forall₂ hlists l hl
    rw [isAutomatic, (pointType_of_profileRows hl row hrow).2, Bool.not_false, Bool.true_and]
  refine ((List.mergeSort_perm _ _).filter _).trans (.of_eq ?_)
  rw [List.filter_append, hmanual, List.nil_append, hkept, hrows]

end Ledger

/-! ## Both in order -/

/-- What is compared of an award and of an entry. -/
def Award.scored (a : Award) : Int × Int × Amount × Option String :=
  (a.playerId, a.ruleId, .whole a.points, some a.reason)

def EntryRecord.scored (e : EntryRecord) : Int × Int × Amount × Option String :=
  (e.playerId, e.ruleId, e.points, e.notes)

def LedgerRow.scored (row : LedgerRow) : Int × Int × Amount × Option String :=
  (row.playerId, row.ruleId, .whole row.points, some row.notes)

def scoredKey (x : Int × Int × Amount × Option String) : Int ×ₗ Int := toLex (x.1, x.2.1)

theorem Award.sorted_of_all {awards : List Award}
    (h : Award.all rules r game players = .ok awards) :
    (awards.map Award.scored).Pairwise fun x y => scoredKey x ≤ scoredKey y := by
  refine List.pairwise_map.mpr ((Award.sorted_all h).imp fun {a b} hab => ?_)
  simp only [Award.place, Prod.Lex.toLex_le_toLex] at hab
  simp only [scoredKey, Award.scored, Prod.Lex.toLex_le_toLex]
  exact hab.imp_right fun ⟨hplayer, hrest⟩ => ⟨hplayer, hrest.elim le_of_lt fun h => h.1.le⟩

namespace Store

variable {s t : Store} {id : Int} {form : CompletionForm}

theorem sorted_ledgerOf (s : Store) (id : Int) (type : PointType) :
    ((s.ledgerOf id (some type)).map EntryRecord.scored).Pairwise fun x y =>
      scoredKey x ≤ scoredKey y := by
  have hsorts : SortsBy EntryRecord.before fun e =>
      toLex (e.pointType.name, toLex (e.playerId, toLex (e.ruleId, e.id))) :=
    (((isLE_compareOn EntryRecord.id).lex (f := EntryRecord.ruleId)).lex).lex
  have htype : ∀ e ∈ s.ledgerOf id (some type), e.pointType = type := by
    intro e he
    rw [ledgerOf, List.mem_mergeSort] at he
    simpa using (List.mem_filter.mp he).2
  have hsorted := hsorts.pairwise_mergeSort ((s.entriesOf id).filter fun e =>
    (some type).all fun t => decide (e.pointType = t))
  refine List.pairwise_map.mpr (hsorted.imp_of_mem fun {a b} ha hb hab => ?_)
  -- entries of one type are told apart by player, rule and number
  simp only [htype a ha, htype b hb, Prod.Lex.toLex_le_toLex, lt_self_iff_false, true_and,
    false_or] at hab
  simp only [scoredKey, EntryRecord.scored, Prod.Lex.toLex_le_toLex]
  exact hab.imp_right fun ⟨hplayer, hrest⟩ => ⟨hplayer, hrest.elim le_of_lt fun h => h.1.le⟩

def automaticOf (s : Store) (id : Int) (type : PointType) : List EntryRecord :=
  (s.ledgerOf id (some type)).filter fun e => !e.isManual

def defaultFor? (s : Store) (team : TeamRecord) : PointType → Option ProfileRecord
  | .team => s.teamDefault? team
  | .club => s.clubDefault? team.clubId

theorem defaultFor?_scores {team : TeamRecord} {type : PointType} {profile : ProfileRecord}
    (h : s.defaultFor? team type = some profile) :
    s.profile profile type ∈ s.scoringProfiles team := by
  unfold scoringProfiles
  cases type with
  | team =>
    rw [defaultFor?] at h
    simp [h]
  | club =>
    rw [defaultFor?] at h
    simp [h]

theorem defaultFor?_found (hs : s.Reachable) {team : TeamRecord} (hteam : team ∈ s.teams)
    {type : PointType} {profile : ProfileRecord} (h : s.defaultFor? team type = some profile) :
    1 ≤ profile.id ∧ s.get ProfileRecord profile.id .profile = .ok profile ∧
      profile.clubId = team.clubId := by
  have hfound : profile ∈ s.profiles := by
    cases type with
    | team =>
      obtain ⟨h, -⟩ := Option.filter_eq_some_iff.mp h
      obtain ⟨_, -, h⟩ := Option.bind_eq_some_iff.mp h
      exact List.mem_of_find?_eq_some h
    | club => exact List.mem_of_find?_eq_some h
  obtain ⟨hpos, hfits⟩ := hs.accepted.profileIds profile hfound
  refine ⟨hpos, get_eq_ok.mpr ⟨hfits, find?_of_mem hs.numbered.profiles hfound⟩, ?_⟩
  obtain ⟨q, hq, hid, hclub⟩ :=
    scoringProfiles_club hs.numbered hs.configured hteam (defaultFor?_scores h)
  rw [List.inj_on_of_nodup_map hs.numbered.profiles hfound hq hid.symm, hclub]

theorem mapM_paid (hc : s.Configured) (profileId : Option Int) (awards : List Award) :
    awards.mapM (s.paid profileId) = .ok awards := by
  refine mapM_eq_ok.mpr (List.forall₂_same.mpr fun a _ => ?_)
  unfold paid
  rw [hc.earned]
  rfl

theorem previewMatch_eq_ok (hs : s.Reachable) {game : MatchRecord} {team : TeamRecord}
    {type : PointType} {profile : ProfileRecord} {facts : FactsForm} {awards : List Award}
    (hgame : s.get MatchRecord id .game = .ok game)
    (hteam : s.get TeamRecord game.teamId .team = .ok team)
    (hprofile : s.defaultFor? team type = some profile)
    (hrules : s.rulesOf team.id = .ok rules) (hplayers : s.playerFacts team facts = .ok players)
    (hawards : Award.all ((s.profile profile type).rules rules) (s.registryOf team.id) facts.facts
      players = .ok awards) :
    s.previewMatch id facts (some profile.id) = .ok awards := by
  have hmem : team ∈ s.teams := (find?_eq_some (get_eq_ok.mp hteam).2).1
  obtain ⟨-, hfound, hclub⟩ := defaultFor?_found hs hmem hprofile
  have hunder : s.rulesUnder team rules (some profile.id) =
      .ok ((s.profile profile .team).rules rules) := by
    refine bind_eq_ok.mpr ⟨profile, hfound, ?_⟩
    rw [if_neg (not_not.mpr hclub)]
    rfl
  simp only [previewMatch, bind_eq_ok, judge_eq_ok]
  refine ⟨game, hgame, team, hteam, rules, hrules, _, hunder, players, hplayers, awards, ?_,
    mapM_paid hs.configured _ _⟩
  -- the type of points does not matter for what rules give
  exact hawards

theorem preview_keeps {y : Arrival}
    (h : (∃ id profileId facts, y.request.action = .ok (.previewMatch id profileId facts)) ∨
      ∃ id facts, y.request.action = .ok (.previewRule id facts)) : (s.served y).2 = s := by
  have hquery {a : Action} {shown : Except Cause Value} (ha : y.request.action = .ok a)
      (hrun : a.run y.policy y.isRefused s = Outcome.ofQuery s shown) : (s.served y).2 = s := by
    rw [served_of_action ha, Action.serve, hrun]
    cases shown <;> rfl
  rcases h with ⟨id, profileId, facts, ha⟩ | ⟨id, facts, ha⟩
  · exact hquery ha rfl
  · exact hquery ha rfl

def Gives (form : CompletionForm) (a : Award) : Prop :=
  ∃ x ∈ form.assignments, 0 < x.count ∧ x.playerId = a.playerId ∧ x.ruleId = a.ruleId

instance (form : CompletionForm) (a : Award) : Decidable (Gives form a) :=
  inferInstanceAs (Decidable (∃ x ∈ form.assignments, _))

theorem isAssigned_eq (form : CompletionForm) (a : Award) :
    Ledger.isAssigned (form.assignments.map AssignmentForm.assignment) a =
      decide (Gives form a) := by
  rw [Bool.eq_iff_iff, decide_eq_true_eq, Ledger.isAssigned_iff]
  simp only [List.mem_map, exists_exists_and_eq_and]
  exact Iff.rfl

namespace Completion

variable {type : PointType} (c : Completion s id form true t)
include c

theorem automaticOf_perm (hc : s.Configured) :
    ((t.automaticOf id type).map EntryRecord.scored).Perm
      ((c.rows.filter (Ledger.isAutomatic type)).map LedgerRow.scored) := by
  have hledger : (t.automaticOf id type).Perm ((t.entriesOf id).filter fun e =>
      !e.isManual && decide (e.pointType = type)) := by
    rw [← List.filter_filter]
    exact (List.mergeSort_perm _ _).filter _
  -- numbers do not matter for what is picked and compared
  have hnumbers := ((c.entriesOf_perm hc).filter fun e : EntryRecord =>
    !e.isManual && decide (e.pointType = type)).map EntryRecord.scored
  rw [List.filter_map, List.filter_map, List.map_map, List.map_map] at hnumbers
  exact (hledger.map _).trans hnumbers

theorem automaticOf_eq (hs : s.Reachable) {profile : ProfileRecord}
    (hprofile : s.defaultFor? c.team type = some profile) :
    ∃ awards, s.previewMatch id form.facts (some profile.id) = .ok awards ∧
      (t.automaticOf id type).map EntryRecord.scored =
        (awards.filter fun a => decide ¬Gives form a).map Award.scored := by
  obtain ⟨l⟩ := ledgered_of_ok c.ledger
  have hkinds : ∀ rule ∈ l.rules, rule.kind ≠ .unclassified := by
    intro rule hrule
    obtain ⟨row, -, hrow⟩ := exists_of_forall₂ (mapM_eq_ok.mp l.rules_ok) rule hrule
    exact (RuleRecord.rule_eq_ok hrow).1
  obtain ⟨awards, hawards, hperm⟩ := Ledger.automatic_of_assemble hkinds
    (nodup_scoringProfiles s c.team) (defaultFor?_scores hprofile) l.rows_ok
  refine ⟨awards, previewMatch_eq_ok hs c.game_ok c.team_ok hprofile l.rules_ok l.players_ok
    hawards, ?_⟩
  have hgiven : (awards.filter fun a => decide ¬Gives form a) = awards.filter fun a =>
      !Ledger.isAssigned (form.assignments.map AssignmentForm.assignment) a :=
    List.filter_congr fun a _ => by rw [isAssigned_eq, decide_not]
  have hscored : ((c.rows.filter (Ledger.isAutomatic type)).map LedgerRow.scored).Perm
      ((awards.filter fun a => decide ¬Gives form a).map Award.scored) := by
    rw [hgiven]
    refine (hperm.map LedgerRow.scored).trans (.of_eq ?_)
    rw [List.map_map]
    rfl
  -- no two rows have one key, so both lists are sorted to the same one
  have honce : (((c.rows.filter (Ledger.isAutomatic type)).map LedgerRow.scored).map
      scoredKey).Nodup := by
    have hslots := List.pairwise_map.mp (l.once hs.numbered)
    rw [List.map_map]
    refine List.pairwise_map.mpr ((hslots.filter _).imp_of_mem fun {a b} ha hb hab hkey => hab ?_)
    have htype {row : LedgerRow} (hrow : row ∈ c.rows.filter (Ledger.isAutomatic type)) :
        row.pointType = type := by
      simpa using (Bool.and_eq_true_iff.mp (List.mem_filter.mp hrow).2).2
    exact Prod.ext ((htype ha).trans (htype hb).symm) (toLex.injective hkey)
  exact eq_of_perm ((c.automaticOf_perm hs.configured).trans hscored)
    ((hscored.map scoredKey).nodup_iff.mp honce)
    ((sorted_ledgerOf t id type).sublist (List.filter_sublist.map _))
    ((Award.sorted_of_all hawards).sublist (List.filter_sublist.map _))

end Completion

/-- Trying out changes nothing. Whenever a completion is answered well, the profile of the team and
the profile of the club can be asked for and tried out with the same facts, and the automatic entries
that are written for each are the awards that are shown, without those of rules given by hand. -/
theorem preview_agrees (s : Store) (hs : s.Reachable) :
    (∀ y : Arrival,
      (∃ id profileId facts, y.request.action = .ok (.previewMatch id profileId facts)) ∨
        (∃ id facts, y.request.action = .ok (.previewRule id facts)) → (s.served y).2 = s) ∧
    ∀ (x : Arrival) (id : Int) (form : CompletionForm),
      x.request.action = .ok (.completeMatch id form) → x.policy.keepsAutomatic = true →
      (s.served x).1.hasStatus 200 = true →
      ∃ (game : MatchRecord) (team : TeamRecord),
        s.find? id = some game ∧ s.find? game.teamId = some team ∧
        ∀ (type : PointType) (profile : ProfileRecord), s.defaultFor? team type = some profile →
          Request.selector (.whole profile.id) = .valid profile.id ∧
          ∃ awards : List Award,
            (∀ y : Arrival,
              y.request.action = .ok (.previewMatch id (some profile.id) form.facts) →
              s.served y = (.shown 200 (Value.listed awardDocument awards).presentable, s)) ∧
            ((s.served x).2.automaticOf id type).map EntryRecord.scored =
              (awards.filter fun a => decide ¬Gives form a).map Award.scored := by
  refine ⟨fun y hy => preview_keeps hy, ?_⟩
  intro x id form hx hkeeps h
  obtain ⟨-, t, c, v, -, hserved⟩ := completion_of_served hx h
  rw [hkeeps] at c
  refine ⟨c.game, c.team, c.game_found, c.team_found, fun type profile hprofile => ?_⟩
  obtain ⟨awards, hpreview, hsame⟩ := c.automaticOf_eq hs hprofile
  have hpos : 1 ≤ profile.id :=
    (defaultFor?_found hs (find?_eq_some c.team_found).1 hprofile).1
  refine ⟨if_pos hpos, awards, fun y hy => ?_, by rw [hserved]; exact hsame⟩
  have hrun : (Action.previewMatch id (some profile.id) form.facts).run y.policy y.isRefused s =
      .ok { store := s, shown := some (Value.listed awardDocument awards) } :=
    Outcome.ofQuery_eq_ok.mpr ⟨_, map_eq_ok.mpr ⟨awards, hpreview, rfl⟩, rfl⟩
  simp only [Store.served, Request.serve, hy, Action.serve, hrun]
  rfl

def goalsAgain : CompletionForm where
  facts := { goalsFor := 3, stats := [{ playerId := 1, tally := { Tally.zero with goalsScored := 3 } }] }
  assignments := [{ ruleId := 2, playerId := 1, count := 0 }]

def tryingGoals : Arrival where
  request := {
    method := .post
    path := "/matches/2/preview"
    query := [("profile_id", "1")]
    body := .document goalsAgain.facts.document }

theorem preview_agrees_season :
    ∃ awards : List Award,
      (after {} season).served tryingGoals =
        (.shown 200 (Value.listed awardDocument awards).presentable, after {} season) ∧
      (awards.filter fun a => decide ¬Gives goalsAgain a).map Award.scored =
        [(1, 2, .whole 12, some "Goals: goalsScored > 0 (actual: 3)")] := by
  have hanswered : ((after {} season).served
      (.posting "/matches/2/complete" goalsAgain.document)).1.hasStatus 200 = true := by
    decide +kernel
  have hid : ((after {} season).find? 2 : Option MatchRecord).map MatchRecord.teamId = some 1 := by
    decide +kernel
  have hdefault : (((after {} season).find? 1 : Option TeamRecord).bind fun team =>
      (after {} season).defaultFor? team .club).map ProfileRecord.id = some 1 := by
    decide +kernel
  obtain ⟨game, team, hgame, hteam, hall⟩ := (preview_agrees (after {} season) ⟨season, rfl⟩).2
    (.posting "/matches/2/complete" goalsAgain.document) 2 goalsAgain rfl rfl hanswered
  rw [hgame, Option.map_some, Option.some.injEq] at hid
  rw [hid] at hteam
  rw [hteam, Option.bind_some] at hdefault
  obtain ⟨profile, hprofile, hprofileId⟩ := Option.map_eq_some_iff.mp hdefault
  obtain ⟨-, awards, hshown, hsame⟩ := hall .club profile hprofile
  refine ⟨awards, hshown tryingGoals ?_, hsame.symm.trans (by decide +kernel)⟩
  rw [hprofileId]
  rfl

end Store

end ClubPoints
