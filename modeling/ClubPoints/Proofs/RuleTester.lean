import ClubPoints.Proofs.OtherTeams
import ClubPoints.Proofs.Pointwise
import ClubPoints.Proofs.Rejection
import ClubPoints.Proofs.WellFormed

/-!
# Trying out one rule

A match is tried out with all active rules of its team, whose awards are sorted together; a rule is
tried out alone, whether or not it is active (`Store.rule_tester_agrees`).
-/

namespace ClubPoints

open Form View

/-! ## Picking before and after -/

section
variable {ε α β : Type} {f : α → Except ε β} {p : α → Bool} {q : β → Bool}

theorem mapM_filter {xs : List α} {ys : List β} (h : xs.mapM f = .ok ys)
    (hpq : ∀ x ∈ xs, ∀ y, f x = .ok y → q y = p x) :
    (xs.filter p).mapM f = .ok (ys.filter q) := by
  rw [mapM_eq_ok] at h ⊢
  induction h with
  | nil => exact .nil
  | @cons x y xs ys hxy _ ih =>
    obtain ⟨hx, hrest⟩ := List.forall_mem_cons.mp hpq
    rw [List.filter_cons, List.filter_cons, hx y hxy]
    cases p x with
    | true => exact .cons hxy (ih hrest)
    | false => exact ih hrest

end

/-! ## Awards of one rule -/

variable {rules rules' : List Rule} {r : Registry} {game : MatchFacts} {players : List PlayerFacts}
  {rule : Rule} {ruleId : Int} {all own : List Award}

namespace Award

def ofRule (ruleId : Int) (awards : List Award) : List Award :=
  awards.filter fun a => a.ruleId == ruleId

def besides (ruleId : Int) (awards : List Award) : List Award :=
  awards.filter fun a => a.ruleId != ruleId

theorem all_of_rules (h : Award.all rules r game players = .ok all) (keep : Int → Bool) :
    Award.all (rules.filter fun rule => keep rule.id) r game players =
      .ok (all.filter fun a => keep a.ruleId) := by
  obtain ⟨hjudged, rfl⟩ := all_eq_sort.mp h
  apply all_eq_sort.mpr
  constructor
  · intro rule hrule hactive
    exact hjudged rule (List.mem_filter.mp hrule).1 hactive
  · rw [sort, sort, sortsBy_before.filter_mergeSort,
      filter_flatMap_mark (fun rule _ a ha => rule.ruleId_of_deserved ha) keep, List.filter_comm]

end Award

namespace Rule

theorem preview_of_active (h : rule.isActive = true) :
    rule.preview r game players = Award.all [rule] r game players := by
  unfold preview Award.all
  rw [List.filter_cons_of_pos h, List.filter_nil, List.mapM_cons, List.mapM_nil]
  cases rule.awards r game players with
  | error fault => rfl
  | ok awards => exact congrArg (fun list => Except.ok (Award.sort list)) (by simp)

/-- Nobody earns the points of a rule with a name that does not resolve. -/
theorem deserved_of_unresolved {c : Condition} (hc : c ∈ rule.conditions)
    (hnone : c.resolves r = false) : rule.deserved r game players = [] := by
  have hmet (fact : String → Value) : c.isMet r fact = false := by
    rw [Condition.isMet, hnone, Bool.false_and]
  have hearned (p : PlayerFacts) : rule.isEarned r game p = false := by
    unfold isEarned
    cases rule.kind with
    | result => exact List.all_eq_false.mpr ⟨c, hc, by simp [hmet]⟩
    | performance pricing => exact List.all_eq_false.mpr ⟨c, hc, by simp [hmet]⟩
    | manual => rfl
    | unclassified => rfl
  simp [deserved, hearned]

theorem preview_of_unresolved (h : rule.preview r game players = .ok own)
    (hunresolved : ∃ c ∈ rule.conditions, c.resolves r = false) : own = [] := by
  obtain ⟨awards, hawards, rfl⟩ := map_eq_ok.mp h
  obtain ⟨c, hc, hnone⟩ := hunresolved
  rw [awards_eq_deserved hawards, deserved_of_unresolved hc hnone]
  exact List.mergeSort_nil

end Rule

namespace Award

section
variable (h : Award.all rules r game players = .ok all)
  (hown : (rules.filter fun rule => rule.id == ruleId) = [rule])
include h hown

theorem ofRule_of_active (hactive : rule.isActive = true)
    (hpreview : rule.preview r game players = .ok own) : ofRule ruleId all = own := by
  have halone := all_of_rules h (· == ruleId)
  rw [hown, ← Rule.preview_of_active hactive, hpreview] at halone
  exact (Except.ok.inj halone).symm

theorem ofRule_of_inactive (hactive : rule.isActive = false) : ofRule ruleId all = [] := by
  have halone := all_of_rules h (· == ruleId)
  rw [hown, all_eq_map, List.filter_cons_of_neg (by simp [hactive])] at halone
  exact (Except.ok.inj halone).symm.trans List.mergeSort_nil

end

/-- If an active rule can be judged alone, it can take the place of its number among rules that can be
judged, and nothing changes but what is given under this number. -/
theorem exists_all_of_switched (h : Award.all rules r game players = .ok all)
    (hsame : (rules'.filter fun rule => rule.id != ruleId) =
      rules.filter fun rule => rule.id != ruleId)
    (hown : (rules'.filter fun rule => rule.id == ruleId) = [rule])
    (hactive : rule.isActive = true) (hpreview : rule.preview r game players = .ok own) :
    ∃ all', Award.all rules' r game players = .ok all' ∧ ofRule ruleId all' = own ∧
      besides ruleId all' = besides ruleId all := by
  have hjudged : ∀ x ∈ rules', x.isActive = true →
      ∃ awards, x.awards r game players = .ok awards := by
    intro x hx hxactive
    by_cases hid : x.id = ruleId
    · have hx' : x ∈ rules'.filter fun rule => rule.id == ruleId :=
        List.mem_filter.mpr ⟨hx, beq_iff_eq.mpr hid⟩
      rw [hown, List.mem_singleton] at hx'
      obtain ⟨awards, hawards, -⟩ := map_eq_ok.mp hpreview
      exact ⟨awards, hx' ▸ hawards⟩
    · have hx' : x ∈ rules.filter fun rule => rule.id != ruleId := by
        rw [← hsame]
        exact List.mem_filter.mpr ⟨hx, bne_iff_ne.mpr hid⟩
      exact (all_eq_sort.mp h).1 x (List.mem_filter.mp hx').1 hxactive
  obtain ⟨all', hall'⟩ := exists_all_iff.mpr hjudged
  refine ⟨all', hall', ofRule_of_active hall' hown hactive hpreview, ?_⟩
  have hothers := all_of_rules hall' (· != ruleId)
  rw [hsame, all_of_rules h (· != ruleId)] at hothers
  exact (Except.ok.inj hothers).symm

end Award

namespace Store

variable {s t : Store} {row : RuleRecord} {matchId : Int} {facts : FactsForm} {x : Arrival}

/-! ## What is tried out -/

structure MatchTrial (s : Store) (matchId : Int) (facts : FactsForm) (awards : List Award) where
  game : MatchRecord
  team : TeamRecord
  rules : List Rule
  players : List PlayerFacts
  game_ok : s.get MatchRecord matchId .game = .ok game
  team_ok : s.get TeamRecord game.teamId .team = .ok team
  rules_ok : s.rulesOf team.id = .ok rules
  players_ok : s.playerFacts team facts = .ok players
  awards_ok : Award.all rules (s.registryOf team.id) facts.facts players = .ok awards

theorem previewMatch_eq_ok_iff (hc : s.Configured) :
    s.previewMatch matchId facts none = .ok all ↔ Nonempty (MatchTrial s matchId facts all) := by
  simp only [previewMatch, bind_eq_ok, judge_eq_ok, mapM_paid hc]
  constructor
  · intro h
    obtain ⟨game, hgame, team, hteam, rules, hrules, _, hunder, players, hplayers, awards, hawards,
      hpaid⟩ := h
    cases hunder
    cases hpaid
    exact ⟨⟨game, team, rules, players, hgame, hteam, hrules, hplayers, hawards⟩⟩
  · intro h
    obtain ⟨m⟩ := h
    exact ⟨m.game, m.game_ok, m.team, m.team_ok, m.rules, m.rules_ok, m.rules, rfl, m.players,
      m.players_ok, all, m.awards_ok, rfl⟩

def Shows (s : Store) (x : Arrival) (awards : List Award) : Prop :=
  s.served x = (.shown 200 (Value.listed awardDocument awards).presentable, s)

section
variable {a : Action} {awards? : Except Cause (List Award)} (hx : x.request.action = .ok a)
  (hrun : a.run x.policy x.isRefused s =
    Outcome.ofQuery s (awards?.map (Value.listed awardDocument)))
include hx hrun

theorem shows_of_ok (hsuccess : a.successStatus = 200) (h : awards? = .ok all) : s.Shows x all := by
  unfold Shows
  rw [served_of_action hx, Action.serve, hrun, h, ← hsuccess]
  rfl

theorem exists_of_hasStatus (hrefusal : a.refusalStatus = 400)
    (h : (s.served x).1.hasStatus 200 = true) : ∃ awards, awards? = .ok awards := by
  rw [served_of_action hx, Action.serve, hrun] at h
  cases awards? with
  | error cause =>
    have hnot : (Answer.ofCause a.refusalStatus cause).hasStatus 200 = false := by
      rw [hrefusal]
      exact Action.not_hasStatus_ofCause (by decide)
    exact absurd (hnot.symm.trans h) Bool.false_ne_true
  | ok awards => exact ⟨awards, rfl⟩

end

theorem MatchTrial.shows (m : MatchTrial s matchId facts all) (hc : s.Configured)
    (hx : x.request.action = .ok (.previewMatch matchId none facts)) : s.Shows x all :=
  shows_of_ok hx rfl rfl ((previewMatch_eq_ok_iff hc).mpr ⟨m⟩)

/-! ## Other rules in the place of one -/

theorem rule_isActive {rule : Rule} (h : s.rule row = .ok rule) : rule.isActive = row.isActive := by
  simp only [Store.rule, RuleRecord.rule, bind_eq_ok, pure_eq_ok] at h
  obtain ⟨_, -, _, -, rfl⟩ := h
  rfl

theorem rule_of_switched {rule : Rule} (h : s.rule row = .ok rule) (isActive : Bool) :
    s.rule { row with isActive } = .ok { rule with isActive } := by
  simp only [Store.rule, RuleRecord.rule, bind_eq_ok, pure_eq_ok] at h ⊢
  obtain ⟨named, hnamed, positions, hpositions, rfl⟩ := h
  exact ⟨named, hnamed, positions, hpositions, rfl⟩

theorem rulesOf_filter {teamId : Int} (h : s.rulesOf teamId = .ok rules) (keep : Int → Bool) :
    ((s.ruleRecordsOf teamId).filter fun r => keep r.id).mapM s.rule =
      .ok (rules.filter fun rule => keep rule.id) :=
  mapM_filter h fun _ _ _ hr => congrArg keep (rule_id hr)

theorem filter_rulesOf (hn : s.Numbered) (hrow : row ∈ s.rules) {rule : Rule}
    (hrule : s.rule row = .ok rule) (h : s.rulesOf row.teamId = .ok rules) :
    (rules.filter fun rule => rule.id == row.id) = [rule] := by
  have hnumbers : ((s.ruleRecordsOf row.teamId).map RuleRecord.id).Nodup :=
    hn.rules.sublist (List.filter_sublist.map _)
  have hown : row ∈ s.ruleRecordsOf row.teamId := List.mem_filter.mpr ⟨hrow, beq_self_eq_true _⟩
  have hfilter := rulesOf_filter h (· == row.id)
  have halone : ((s.ruleRecordsOf row.teamId).filter fun r => r.id == row.id) = [row] :=
    filter_key hnumbers hown
  rw [halone, List.mapM_cons, hrule, List.mapM_nil] at hfilter
  exact (Except.ok.inj hfilter).symm

namespace MatchTrial

def withRules (m : MatchTrial s matchId facts all) {rows : List RuleRecord}
    (hrules : { s with rules := rows }.rulesOf m.team.id = .ok rules) {awards : List Award}
    (hawards : Award.all rules (s.registryOf m.team.id) facts.facts m.players = .ok awards) :
    MatchTrial { s with rules := rows } matchId facts awards where
  game := m.game
  team := m.team
  rules := rules
  players := m.players
  game_ok := m.game_ok
  team_ok := m.team_ok
  rules_ok := hrules
  players_ok := m.players_ok
  awards_ok := hawards

end MatchTrial

/-! ## A rule is switched -/

theorem Rooted.storable_rule (h : s.Rooted t) (hrow : s.Storable row) : t.Storable row := by
  -- a rule refers to its team and its target player, and both stay
  refine ⟨hrow.words, hrow.sound, fun ref href => ?_⟩
  have hheld := hrow.refers ref href
  simp only [Table.references, List.mem_cons, List.mem_map] at href
  rcases href with rfl | ⟨id, -, rfl⟩
  · obtain ⟨team, hteam, hid⟩ := List.any_eq_true.mp hheld
    obtain ⟨team', hteam', hsame⟩ := h.teams team hteam
    have hid' : team'.id = team.id := congrArg Prod.fst hsame
    exact List.any_eq_true.mpr ⟨team', hteam', by rw [hid']; exact hid⟩
  · obtain ⟨player, hplayer, hid⟩ := List.any_eq_true.mp hheld
    obtain ⟨player', hplayer', hsame⟩ := h.players player hplayer
    have hid' : player'.id = player.id := congrArg Prod.fst hsame
    exact List.any_eq_true.mpr ⟨player', hplayer', by rw [hid']; exact hid⟩

theorem Reachable.rules_storable (h : s.Reachable) : ∀ row ∈ s.rules, s.Storable row := by
  apply h.induction
  · exact fun _ h => absurd h List.not_mem_nil
  · intro _ s a t hs hrules _ ht
    have hrooted : s.Rooted t := .of_turns hs.numbered ht
    rcases ht.touched.rules with ⟨hsame, -⟩ | ⟨form, ht⟩ | ⟨id, form, ht⟩
    · rw [hsame]
      exact fun row hrow => hrooted.storable_rule (hrules row hrow)
    · obtain ⟨rule, conditions, u, -, hinserted, hconditions⟩ := createRule_leads ht
      obtain ⟨hwords, hsound, -⟩ := fault?_eq_none.mp hinserted.sound
      have hnew : s.Storable rule :=
        ⟨fun n hn => hwords n (List.mem_cons_of_mem _ hn), hsound, hinserted.refers⟩
      intro row hrow
      have hmem : row ∈ placed s.rules rule := by
        rw [hconditions.store, hinserted.store] at hrow
        exact hrow
      rcases mem_placed.mp hmem with rfl | hold
      · exact hrooted.storable_rule hnew
      · exact hrooted.storable_rule (hrules row hold)
    · obtain ⟨rule, hrule, hu⟩ := setRuleActive_leads ht
      have hold := hrules rule (find?_eq_some hrule).1
      obtain ⟨-, -, hstore⟩ := update_eq_ok.mp hu
      intro row hrow
      rw [hstore] at hrow
      rcases mem_placed.mp hrow with rfl | hrow
      · exact hrooted.storable_rule ⟨hold.words, hold.sound, hold.refers⟩
      · exact hrooted.storable_rule (hrules row (List.mem_filter.mp hrow).1)

def switched (s : Store) (row : RuleRecord) : Store :=
  { s with rules := placed (s.rules.filter fun r => r.id != row.id) row }

theorem served_setRuleActive (hs : s.Reachable) (hrow : row ∈ s.rules) {form : ActivityForm}
    (hx : x.request.action = .ok (.setRuleActive row.id form)) (hkept : x.isRefused = false) :
    (s.served x).1.hasStatus 200 = true ∧
      (s.served x).2 = s.switched { row with isActive := form.isActive } := by
  have hfound : s.get RuleRecord row.id .rule = .ok row :=
    hs.rulesInTurn.rules.get_eq _ (find?_of_mem hs.numbered.rules hrow)
  have hstorable := hs.rules_storable row hrow
  have hupdate : s.update { row with isActive := form.isActive } =
      .ok (s.switched { row with isActive := form.isActive }) := by
    refine update_eq_ok.mpr ⟨fault?_eq_none.mpr ⟨?_, rfl, ?_, fun _ _ => rfl⟩,
      hstorable.refers, rfl⟩
    · exact List.forall_mem_cons.mpr ⟨hs.rulesInTurn.rules.fits_id row hrow, hstorable.words⟩
    · exact fun r hr => bne_iff_ne.mp (List.mem_filter.mp hr).2
  have hready : s.setRuleActive row.id form =
      .ok (s.revision { row with isActive := form.isActive }) := bind_eq_ok.mpr ⟨row, hfound, rfl⟩
  have hwrite : (s.revision { row with isActive := form.isActive }).write =
      .ok (s.switched { row with isActive := form.isActive },
        { row with isActive := form.isActive }) := map_eq_ok.mpr ⟨_, hupdate, rfl⟩
  obtain ⟨v, hv⟩ := setRuleActive_shown hs hready hwrite
  have hrun : (Action.setRuleActive row.id form).run x.policy x.isRefused s =
      .ok { store := s.switched { row with isActive := form.isActive }, shown := some v } := by
    refine Outcome.ofChange_eq_ok.mpr ⟨hkept, _, _, _, hready, hwrite, ?_⟩
    rw [hv]
  rw [served_of_action hx, Action.serve, hrun]
  exact ⟨rfl, rfl⟩

/-! ## Both tried out -/

variable {z : Arrival}

theorem Configured.remove (h : s.Configured) (picks : RuleRecord → Bool) :
    (s.remove picks).Configured :=
  { h with points := fun rule hrule => h.points rule (List.mem_filter.mp hrule).1 }

theorem ruleRecordsOf_switched (hn : s.Numbered) (hrow : row ∈ s.rules) (isActive : Bool)
    (teamId : Int) :
    (((s.switched { row with isActive }).ruleRecordsOf teamId).filter fun r => r.id != row.id) =
      (s.ruleRecordsOf teamId).filter fun r => r.id != row.id := by
  unfold ruleRecordsOf switched
  rw [List.filter_comm, List.filter_comm (l := s.rules)]
  congr 1
  exact filter_replaced hn.rules hrow rfl (by simp) (by simp [Table.kept])

namespace MatchTrial

variable (m : MatchTrial s matchId facts all)

theorem rulesOf_remove (ruleId : Int) :
    (s.remove fun r : RuleRecord => r.id == ruleId).rulesOf m.team.id =
      .ok (m.rules.filter fun rule => rule.id != ruleId) := by
  have hrules := rulesOf_filter m.rules_ok (· != ruleId)
  unfold ruleRecordsOf at hrules
  rw [List.filter_comm] at hrules
  exact hrules

def without (ruleId : Int) :
    MatchTrial (s.remove fun r : RuleRecord => r.id == ruleId) matchId facts
      (Award.besides ruleId all) :=
  m.withRules (m.rulesOf_remove ruleId) (Award.all_of_rules m.awards_ok (· != ruleId))

theorem team_id : m.team.id = m.game.teamId := (find?_eq_some (get_eq_ok.mp m.team_ok).2).2

theorem rule_of_previewRule (hs : s.Reachable) (hrow : row ∈ s.rules)
    (hteam : row.teamId = m.game.teamId) (h : s.previewRule row.id facts = .ok own) :
    ∃ rule, s.rule row = .ok rule ∧
      rule.preview (s.registryOf row.teamId) facts.facts m.players = .ok own := by
  simp only [previewRule, bind_eq_ok, judge_eq_ok, mapM_paid hs.configured] at h
  obtain ⟨row', hrow', team, hteam', rule, hrule, players, hplayers, awards, hawards, hpaid⟩ := h
  cases hpaid
  have hfound : s.find? row.id = some row := find?_of_mem hs.numbered.rules hrow
  obtain rfl : row' = row := Option.some.inj ((get_eq_ok.mp hrow').2.symm.trans hfound)
  rw [hteam] at hteam' ⊢
  obtain rfl : team = m.team := Except.ok.inj (hteam'.symm.trans m.team_ok)
  obtain rfl : players = m.players := Except.ok.inj (hplayers.symm.trans m.players_ok)
  rw [m.team_id] at hawards
  exact ⟨rule, hrule, hawards⟩

variable {rule : Rule} (hteam : row.teamId = m.team.id) (hrule : s.rule row = .ok rule)
include hteam hrule

theorem rulesOf_switched (hn : s.Numbered) (hrow : row ∈ s.rules) (isActive : Bool)
    (ht : (s.switched { row with isActive }).Numbered) :
    ∃ rules, (s.switched { row with isActive }).rulesOf m.team.id = .ok rules ∧
      (rules.filter fun rule => rule.id == row.id) = [{ rule with isActive }] ∧
      (rules.filter fun rule => rule.id != row.id) =
        m.rules.filter fun rule => rule.id != row.id := by
  have hswitched := rule_of_switched hrule isActive
  have hjudged : ∀ r ∈ (s.switched { row with isActive }).ruleRecordsOf m.team.id,
      ∃ rule, s.rule r = .ok rule := by
    intro r hr
    obtain ⟨hr, hown⟩ := List.mem_filter.mp hr
    rcases mem_placed.mp hr with rfl | hr
    · exact ⟨_, hswitched⟩
    · exact exists_mapM_iff.mp ⟨_, m.rules_ok⟩ r
        (List.mem_filter.mpr ⟨(List.mem_filter.mp hr).1, hown⟩)
  obtain ⟨rules, hrules⟩ := mapM_total hjudged
  refine ⟨rules, hrules, ?_, ?_⟩
  · have hplaced : { row with isActive } ∈ (s.switched { row with isActive }).rules :=
      mem_placed.mpr (.inl rfl)
    rw [← hteam] at hrules
    exact filter_rulesOf ht hplaced hswitched hrules
  · have hothers := rulesOf_filter (s := s.switched { row with isActive }) hrules (· != row.id)
    rw [ruleRecordsOf_switched hn hrow] at hothers
    exact Except.ok.inj (hothers.symm.trans (rulesOf_filter m.rules_ok (· != row.id)))

theorem exists_switched (hn : s.Numbered) (hrow : row ∈ s.rules)
    (ht : (s.switched { row with isActive := true }).Numbered)
    (hpreview : rule.preview (s.registryOf m.team.id) facts.facts m.players = .ok own) :
    ∃ all', Nonempty (MatchTrial (s.switched { row with isActive := true }) matchId facts all') ∧
      Award.ofRule row.id all' = own ∧ Award.besides row.id all' = Award.besides row.id all := by
  obtain ⟨rules, hrules, hown, hsame⟩ := m.rulesOf_switched hteam hrule hn hrow true ht
  obtain ⟨all', hall', hof, hbesides⟩ :=
    Award.exists_all_of_switched m.awards_ok hsame hown rfl hpreview
  exact ⟨all', ⟨m.withRules hrules hall'⟩, hof, hbesides⟩

end MatchTrial

theorem previewRule_remove (hs : s.Reachable) {other : RuleRecord} (hother : other ∈ s.rules)
    (hne : other.id ≠ ruleId) (facts : FactsForm) :
    (s.remove fun r : RuleRecord => r.id == ruleId).previewRule other.id facts =
      s.previewRule other.id facts := by
  have hkept : other ∈ s.rules.filter fun r => !(r.id == ruleId) :=
    List.mem_filter.mpr ⟨hother, by simpa using hne⟩
  have hnumbers := hs.numbered.filtered fun r : RuleRecord => !(r.id == ruleId)
  unfold previewRule
  apply get_bind_congr (find?_of_mem hnumbers.rules hkept) (find?_of_mem hs.numbered.rules hother)
  simp only [mapM_paid hs.configured, mapM_paid (hs.configured.remove _)]
  rfl

/-- Wherever a match and a rule of its team can be tried out with the same facts, they agree. If the
rule is active, the match brings for it what it brings alone; if it is not, the match brings nothing
for it until it is made active, and then its own awards come to those of the others. A rule with a
name that does not resolve brings nothing, and with any rule or without it the others bring the
same. -/
theorem rule_tester_agrees (s : Store) (hs : s.Reachable) (row : RuleRecord) (game : MatchRecord)
    (hrow : row ∈ s.rules) (hgame : game ∈ s.games) (hteam : row.teamId = game.teamId)
    (facts : FactsForm) (x y : Arrival)
    (hx : x.request.action = .ok (.previewMatch game.id none facts))
    (hy : y.request.action = .ok (.previewRule row.id facts))
    (hmatch : (s.served x).1.hasStatus 200 = true) (hrule : (s.served y).1.hasStatus 200 = true) :
    ∃ (rule : Rule) (all own : List Award),
      s.rule row = .ok rule ∧ s.Shows x all ∧ s.Shows y own ∧
      (row.isActive = true → Award.ofRule row.id all = own) ∧
      (row.isActive = false → Award.ofRule row.id all = [] ∧
        ∀ z : Arrival, z.request.action = .ok (.setRuleActive row.id { isActive := true }) →
          z.isRefused = false →
          (s.served z).1.hasStatus 200 = true ∧
          ∃ all', (s.served z).2.Shows x all' ∧ Award.ofRule row.id all' = own ∧
            Award.besides row.id all' = Award.besides row.id all) ∧
      ((∃ c ∈ rule.conditions, c.resolves (s.registryOf row.teamId) = false) → own = []) ∧
      (s.remove fun r : RuleRecord => r.id == row.id).Shows x (Award.besides row.id all) ∧
      ∀ other ∈ s.rules, other.id ≠ row.id → ∀ facts',
        (s.remove fun r : RuleRecord => r.id == row.id).previewRule other.id facts' =
          s.previewRule other.id facts' := by
  obtain ⟨all, hall⟩ := exists_of_hasStatus hx rfl rfl hmatch
  obtain ⟨m⟩ := (previewMatch_eq_ok_iff hs.configured).mp hall
  obtain ⟨own, hown⟩ := exists_of_hasStatus hy rfl rfl hrule
  have hgame' : m.game = game := Option.some.inj <|
    (get_eq_ok.mp m.game_ok).2.symm.trans (find?_of_mem hs.numbered.games hgame)
  rw [← hgame'] at hteam
  obtain ⟨rule, hloaded, hpreview⟩ := m.rule_of_previewRule hs hrow hteam hown
  rw [← m.team_id] at hteam
  rw [hteam] at hpreview ⊢
  -- among the rules of the match only this one has the number
  have halone := filter_rulesOf hs.numbered hrow hloaded (hteam ▸ m.rules_ok)
  have hactive := rule_isActive hloaded
  refine ⟨rule, all, own, hloaded, m.shows hs.configured hx, shows_of_ok hy rfl rfl hown, ?_, ?_,
    Rule.preview_of_unresolved hpreview, (m.without row.id).shows (hs.configured.remove _) hx,
    fun other hother hne facts' => previewRule_remove hs hother hne facts'⟩
  · intro hrowActive
    exact Award.ofRule_of_active m.awards_ok halone (hactive.trans hrowActive) hpreview
  · intro hrowInactive
    refine ⟨Award.ofRule_of_inactive m.awards_ok halone (hactive.trans hrowInactive), ?_⟩
    intro z hz hkept
    obtain ⟨hanswered, hstore⟩ := served_setRuleActive hs hrow hz hkept
    have ht : (s.switched { row with isActive := true }).Reachable := hstore ▸ hs.served z
    obtain ⟨all', ⟨m'⟩, hof, hbesides⟩ :=
      m.exists_switched hteam hloaded hs.numbered hrow ht.numbered hpreview
    rw [hstore]
    exact ⟨hanswered, all', m'.shows ht.configured hx, hof, hbesides⟩

def switching (ruleId : String) (isActive : Bool) : Arrival where
  request := {
    method := .patch
    path := "/rules/" ++ ruleId ++ "/active"
    body := .document (ActivityForm.document { isActive }) }

def benched : List Arrival := measured ++ [switching "2" false]

def goalsAndInterceptions : FactsForm where
  goalsFor := 3
  stats := [{
    playerId := 1
    tally := { Tally.zero with goalsScored := 3 }
    customValues := [("interceptions", .whole 2)] }]

theorem rule_tester_agrees_benched :
    ∃ all : List Award,
      ((after {} benched).served (switching "2" true)).2.Shows
        (.posting "/matches/2/preview" goalsAndInterceptions.document) all ∧
      (Value.listed awardDocument (Award.ofRule 2 all)).presentable =
        (Value.listed awardDocument
          [⟨1, 2, "Goals", 6, "Goals: goalsScored > 0 (actual: 3)"⟩]).presentable := by
  obtain ⟨row, hrow, hid, hinactive, hteam⟩ : ∃ row ∈ (after {} benched).rules,
      row.id = 2 ∧ row.isActive = false ∧ row.teamId = 1 := by decide +kernel
  obtain ⟨game, hgame, hgameId, hgameTeam⟩ : ∃ game ∈ (after {} benched).games,
      game.id = 2 ∧ game.teamId = 1 := by decide +kernel
  obtain ⟨rule, all, own, -, -, hown, -, hswitched, -⟩ := rule_tester_agrees (after {} benched)
    ⟨benched, rfl⟩ row game hrow hgame (hteam.trans hgameTeam.symm) goalsAndInterceptions
    (.posting "/matches/2/preview" goalsAndInterceptions.document)
    (.posting "/rules/2/preview" goalsAndInterceptions.document)
    (by rw [hgameId]; rfl) (by rw [hid]; rfl) (by decide +kernel) (by decide +kernel)
  obtain ⟨-, all', hshown, hsame, -⟩ := (hswitched hinactive).2 (switching "2" true)
    (by rw [hid]; rfl) rfl
  rw [hid] at hsame
  refine ⟨all', hshown, ?_⟩
  rw [hsame]
  have hgoals : (after {} benched).previewRule 2 goalsAndInterceptions =
      .ok [⟨1, 2, "Goals", 6, "Goals: goalsScored > 0 (actual: 3)"⟩] :=
    toOption_eq_some.mp (by decide +kernel)
  have hshownGoals := shows_of_ok (s := after {} benched)
    (x := .posting "/rules/2/preview" goalsAndInterceptions.document) rfl rfl rfl hgoals
  exact (Answer.shown.inj (congrArg Prod.fst (hown.symm.trans hshownGoals))).2

end Store

end ClubPoints
